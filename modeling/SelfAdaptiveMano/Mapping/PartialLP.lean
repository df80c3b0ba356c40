import SelfAdaptiveMano.Mapping.FrrPathIDAllocator
import SelfAdaptiveMano.Mapping.InfoBase
import Mathlib.Data.List.SplitBy

/-!
# The partial paths of a request

`PartialLP` lists the switches at which a primary path visits its VNFs, the ingress
and the egress, and groups those in between: VNFs in a row at one switch are placed
together, on one partial path from the switch before to the switch behind. What is
at the ingress or the egress itself has no partial path.
-/

namespace SelfAdaptiveMano.Mapping

open Library

/-- What `_getPartialPathOfRequest` stores for a partial path. -/
structure PartialPath where
  rIndex : Nat
  bpID : Nat
  Xp : List Nat
  sp : Nat
  tp : Nat
  lp : ℚ
  deriving DecidableEq

namespace PartialLP

/-- The second node of each segment, and the switch in front of the egress when the
last segment has not three nodes. -/
def getSFFIDList (primaryPath : ForwardingPath) : Except PyError (List LayerNode) := do
  let sffIDList ← primaryPath.mapM fun segPath => itemAt segPath 1
  let lastSegPath ← itemFromEnd primaryPath 1
  if lastSegPath.length ≠ 3 then
    let egSFF ← itemFromEnd lastSegPath 2
    return sffIDList ++ [egSFF]
  else
    return sffIDList

/-- The inner loop of `_getAggSFFIDList`: what is collected at the switch, the last
`movingPointer`, and whether a different switch was found there. -/
def collectRun (sffIDList : List LayerNode) (currentSFF : LayerNode) :
    List Nat → List LayerNode → Nat → Except PyError (List LayerNode × Nat × Bool)
  | [], tmpList, movingPointer => .ok (tmpList, movingPointer, false)
  | movingPointer :: pointers, tmpList, _ => do
      let movingPointerSFF ← itemAt sffIDList movingPointer
      if movingPointerSFF.2 = currentSFF.2 then
        collectRun sffIDList currentSFF pointers (tmpList ++ [movingPointerSFF])
          movingPointer
      else
        return (tmpList, movingPointer, true)

/-- The outer loop of `_getAggSFFIDList`; `fuel` bounds its turns. -/
def aggregate (sffIDList : List LayerNode) :
    Nat → Nat → List (List LayerNode) → Except PyError (List (List LayerNode))
  | 0, _, _ => throw (.exception "out of fuel")
  | fuel + 1, currentPointer, aggSFFIDList =>
      if currentPointer < sffIDList.length - 1 then do
        let currentSFF ← itemAt sffIDList currentPointer
        let (tmpList, movingPointer, findDifferentSFFFlag) ←
          collectRun sffIDList currentSFF
            (pyRange (currentPointer + 1) (sffIDList.length - 1) 1) [currentSFF]
            (currentPointer + 1)
        if (movingPointer = sffIDList.length - 2 ∧ findDifferentSFFFlag = false) ∨
            sffIDList.length - 2 < movingPointer then
          return aggSFFIDList ++ [tmpList]
        else
          aggregate sffIDList fuel movingPointer (aggSFFIDList ++ [tmpList])
      else
        return aggSFFIDList

def getAggSFFIDList (fuel : Nat) (sffIDList : List LayerNode) :
    Except PyError (List (List LayerNode)) := do
  let aggSFFIDList ← aggregate sffIDList fuel 1 [[← itemAt sffIDList 0]]
  return aggSFFIDList ++ [[← itemFromEnd sffIDList 1]]

def hasPartialPath (index lenaggSFFIDList : Nat)
    (preAggSFF currentAggSFF nextAggSFF : List LayerNode) : Except PyError Bool := do
  let preAggSFFID := (← itemAt preAggSFF 0).2
  let currentAggSFFID := (← itemAt currentAggSFF 0).2
  let nextAggSFFID := (← itemAt nextAggSFF 0).2
  if index = 1 ∧ preAggSFFID = currentAggSFFID then
    return false
  else if index = lenaggSFFIDList - 2 ∧ currentAggSFFID = nextAggSFFID then
    return false
  else
    return true

/-- One turn of the loop of `_getPartialPathOfRequest`. The keys of `partialPath`
are the positions of its values. -/
def addPartialPath (rIndex : Nat) (sfc : SFC) (aggSFFIDList : List (List LayerNode))
    (partialPath : List PartialPath) (index : Nat) :
    Except PyError (List PartialPath) := do
  let preAggSFF ← itemAt aggSFFIDList (index - 1)
  let currentAggSFF ← itemAt aggSFFIDList index
  let nextAggSFF ← itemAt aggSFFIDList (index + 1)
  if !(← hasPartialPath index aggSFFIDList.length preAggSFF currentAggSFF
      nextAggSFF) then
    return partialPath
  else
    let bpID := (← itemAt currentAggSFF 0).2
    let Xp ← currentAggSFF.mapM fun sff => itemAt sfc.vNFTypeSequence (sff.1 - 1)
    let sp := (← itemAt preAggSFF 0).2
    let tp := (← itemAt nextAggSFF 0).2
    return partialPath ++ [⟨rIndex, bpID, Xp, sp, tp, sfc.getSFCTrafficDemand⟩]

def getPartialPathOfRequest (fuel rIndex : Nat) (sfc : SFC)
    (primaryPath : ForwardingPath) (partialPath : List PartialPath) :
    Except PyError (List PartialPath) := do
  let sffIDList ← getSFFIDList primaryPath
  let aggSFFIDList ← getAggSFFIDList fuel sffIDList
  (pyRange 1 (aggSFFIDList.length - 1) 1).foldlM
    (addPartialPath rIndex sfc aggSFFIDList) partialPath

/-! ## Grouping -/

def sameSwitch (a b : LayerNode) : Bool := a.2 == b.2

section Grouping

variable {run : List LayerNode} {a b : LayerNode} {n fuel : Nat}

theorem pyRange_one (start stop : Nat) :
    pyRange start stop 1 = List.range' start (stop - start) := by
  rw [pyRange, Nat.sub_self, Nat.add_zero, Nat.div_one]

theorem itemAt_append (before : List LayerNode) (b : LayerNode)
    (rest : List LayerNode) : itemAt (before ++ b :: rest) before.length = .ok b := by
  rw [itemAt_eq_ok_iff, List.getElem?_append_right (Nat.le_refl _), Nat.sub_self]
  rfl

theorem collectRun_cons (before rest : List LayerNode) (hsame : b.2 = a.2) (n : Nat)
    (tmpList : List LayerNode) (movingPointer : Nat) :
    collectRun (before ++ b :: rest) a (List.range' before.length (n + 1)) tmpList
        movingPointer =
      collectRun (before ++ [b] ++ rest) a
        (List.range' (before ++ [b]).length n) (tmpList ++ [b]) before.length := by
  rw [List.range'_succ, collectRun, itemAt_append, List.length_append,
    List.append_assoc]
  exact if_pos hsame

theorem collectRun_all (before rest : List LayerNode)
    (hrun : ∀ b ∈ run, b.2 = a.2) (tmpList : List LayerNode) (movingPointer : Nat) :
    collectRun (before ++ run ++ rest) a (List.range' before.length run.length)
        tmpList movingPointer =
      .ok (tmpList ++ run, if run = [] then movingPointer
        else before.length + run.length - 1, false) := by
  induction run generalizing before tmpList movingPointer with
  | nil =>
      rw [List.append_nil, List.append_nil]
      rfl
  | cons b run ih =>
      have hrest : ∀ b' ∈ run, b'.2 = a.2 := fun b' hb' =>
        hrun b' (List.mem_cons_of_mem b hb')
      rw [List.append_assoc, List.cons_append, List.length_cons,
        collectRun_cons before _ (hrun b List.mem_cons_self), ← List.append_assoc,
        ih _ hrest, List.append_assoc]
      congr 3
      rw [if_neg (List.cons_ne_nil b run), List.length_append, List.length_singleton]
      cases run with
      | nil => rfl
      | cons b' run =>
          rw [if_neg (List.cons_ne_nil b' run), List.length_cons]
          omega

theorem collectRun_until (before rest : List LayerNode)
    (hrun : ∀ b ∈ run, b.2 = a.2) (hdiff : b.2 ≠ a.2) (hn : run.length < n)
    (tmpList : List LayerNode) (movingPointer : Nat) :
    collectRun (before ++ run ++ b :: rest) a (List.range' before.length n) tmpList
        movingPointer =
      .ok (tmpList ++ run, before.length + run.length, true) := by
  induction run generalizing before tmpList movingPointer n with
  | nil =>
      obtain ⟨n, rfl⟩ := Nat.exists_eq_succ_of_ne_zero (Nat.ne_of_gt hn)
      rw [List.append_nil, List.range'_succ, collectRun, itemAt_append,
        List.append_nil]
      exact if_neg hdiff
  | cons b' run ih =>
      obtain ⟨n, rfl⟩ := Nat.exists_eq_succ_of_ne_zero (Nat.ne_of_gt
        (Nat.lt_of_le_of_lt (Nat.zero_le _) hn))
      rw [List.append_assoc, List.cons_append,
        collectRun_cons before _ (hrun b' List.mem_cons_self), ← List.append_assoc,
        ih _ (fun b hb => hrun b (List.mem_cons_of_mem b' hb))
          (Nat.lt_of_succ_lt_succ hn), List.append_assoc]
      congr 3
      rw [List.length_append, List.length_singleton, List.length_cons]
      omega

theorem splitBy_of_same (hrun : ∀ b ∈ run, b.2 = a.2) :
    (a :: run).splitBy sameSwitch = [a :: run] := by
  refine List.splitBy_of_isChain (List.cons_ne_nil a run) ?_
  have hall : ∀ b ∈ a :: run, b.2 = a.2 := by
    intro b hb
    rcases List.mem_cons.mp hb with rfl | hb
    · rfl
    · exact hrun b hb
  rw [List.isChain_iff_getElem]
  intro i hi
  have hleft := hall _ (List.getElem_mem (Nat.lt_of_succ_lt hi))
  have hright := hall _ (List.getElem_mem hi)
  rw [sameSwitch, beq_iff_eq, hleft, hright]

theorem splitBy_of_different (rest : List LayerNode)
    (hrun : ∀ b ∈ run, b.2 = a.2) (hdiff : b.2 ≠ a.2) :
    (a :: (run ++ b :: rest)).splitBy sameSwitch =
      (a :: run) :: (b :: rest).splitBy sameSwitch := by
  rw [← List.cons_append, List.splitBy_append_cons, splitBy_of_same hrun, List.singleton_append]
  intro c hc
  have hlast : c.2 = a.2 := by
    rcases List.mem_cons.mp (List.mem_of_getLast? hc) with rfl | hmem
    · rfl
    · exact hrun c hmem
  rw [sameSwitch, beq_eq_false_iff_ne, hlast]
  exact hdiff.symm

theorem exists_first_of_not_forall {P : LayerNode → Prop} {l : List LayerNode}
    (h : ¬ ∀ c ∈ l, P c) : ∃ run d rest, l = run ++ d :: rest ∧
      (∀ c ∈ run, P c) ∧ ¬ P d := by
  classical
  have hsome : (l.find? fun c => decide (¬ P c)).isSome = true := by
    rw [List.find?_isSome]
    simpa using h
  obtain ⟨d, hd⟩ := Option.isSome_iff_exists.mp hsome
  obtain ⟨hdiff, run, rest, heq, hrun⟩ := List.find?_eq_some_iff_append.mp hd
  exact ⟨run, d, rest, heq, fun c hc => by simpa using hrun c hc,
    of_decide_eq_true hdiff⟩

/-- The nodes behind the pointer, but for the last one, are grouped into their
runs. -/
theorem aggregate_eq (before mid : List LayerNode) (hfuel : mid.length < fuel)
    (aggSFFIDList : List (List LayerNode)) :
    aggregate (before ++ mid ++ [b]) fuel before.length aggSFFIDList =
      .ok (aggSFFIDList ++ mid.splitBy sameSwitch) := by
  induction fuel generalizing before mid aggSFFIDList with
  | zero => cases hfuel
  | succ fuel ih =>
      have hlength : (before ++ mid ++ [b]).length =
          before.length + mid.length + 1 := by
        rw [List.length_append, List.length_append, List.length_singleton]
      cases mid with
      | nil =>
          rw [aggregate, hlength, if_neg (by simp), List.splitBy_nil, List.append_nil]
          rfl
      | cons a mid =>
          rw [List.length_cons] at hlength hfuel
          have hcurrent : itemAt (before ++ a :: mid ++ [b]) before.length = .ok a := by
            rw [List.append_assoc, List.cons_append, itemAt_append]
          have hsplit : before ++ a :: mid ++ [b] = before ++ [a] ++ mid ++ [b] := by
            simp
          have hpointer : before.length + 1 = (before ++ [a]).length := by
            rw [List.length_append, List.length_singleton]
          rw [aggregate, hlength, if_pos (by omega), hcurrent, pyRange_one,
            show before.length + (mid.length + 1) + 1 - 1 - (before.length + 1) =
              mid.length by omega]
          by_cases hall : ∀ c ∈ mid, c.2 = a.2
          · have hrun := collectRun_all (before ++ [a]) [b] hall [a]
              (before.length + 1)
            rw [← hpointer, ← hsplit] at hrun
            change (collectRun (before ++ a :: mid ++ [b]) a
              (List.range' (before.length + 1) mid.length) [a]
              (before.length + 1) >>= _) = _
            rw [splitBy_of_same hall, hrun]
            refine if_pos ?_
            cases mid with
            | nil =>
                right
                rw [if_pos rfl, List.length_nil]
                omega
            | cons c mid =>
                left
                rw [if_neg (List.cons_ne_nil c mid), List.length_cons]
                exact ⟨by omega, rfl⟩
          · obtain ⟨run, d, rest, rfl, hrun, hdiff⟩ := exists_first_of_not_forall hall
            rw [List.length_append, List.length_cons] at hlength hfuel ⊢
            have huntil := collectRun_until (before ++ [a]) (rest ++ [b]) hrun hdiff
              (show run.length < run.length + (rest.length + 1) by omega) [a]
              (before.length + 1)
            have hrest := ih (before ++ a :: run) (d :: rest)
              (by rw [List.length_cons]; omega) (aggSFFIDList ++ [a :: run])
            have hlist : before ++ a :: (run ++ d :: rest) ++ [b] =
                before ++ [a] ++ run ++ d :: (rest ++ [b]) := by
              simp
            have hlist' : before ++ a :: run ++ d :: rest ++ [b] =
                before ++ a :: (run ++ d :: rest) ++ [b] := by
              simp
            rw [← hpointer, ← hlist] at huntil
            rw [hlist', List.length_append, List.length_cons,
              show before.length + (run.length + 1) = before.length + 1 + run.length by
                omega] at hrest
            change (collectRun (before ++ a :: (run ++ d :: rest) ++ [b]) a
              (List.range' (before.length + 1) (run.length + (rest.length + 1))) [a]
              (before.length + 1) >>= _) = _
            rw [huntil, splitBy_of_different rest hrun hdiff]
            refine (if_neg ?_).trans ?_
            · rintro (⟨-, hflag⟩ | hless)
              · cases hflag
              · omega
            · exact hrest.trans (congrArg Except.ok (List.append_assoc ..))

theorem getAggSFFIDList_eq (mid : List LayerNode) (hfuel : mid.length < fuel) :
    getAggSFFIDList fuel (a :: mid ++ [b]) =
      .ok ([a] :: mid.splitBy sameSwitch ++ [[b]]) := by
  have hlast : itemFromEnd (a :: mid ++ [b]) 1 = .ok b := by
    rw [itemFromEnd_one_eq_ok_iff, List.getLast?_concat]
  have hmid := aggregate_eq (b := b) [a] mid hfuel [[a]]
  have hagg : getAggSFFIDList fuel (a :: mid ++ [b]) =
      (aggregate ([a] ++ mid ++ [b]) fuel 1 [[a]] >>= fun aggSFFIDList => do
        return aggSFFIDList ++ [[← itemFromEnd (a :: mid ++ [b]) 1]]) := rfl
  rw [hagg, hlast, show 1 = [a].length from rfl, hmid]
  rfl

end Grouping

/-! ## The paths of the groups -/

def switchAt (aggSFFIDList : List (List LayerNode)) (index : Nat) : Nat :=
  ((aggSFFIDList.getD index []).headD (0, 0)).2

/-- The group is merged neither with the ingress nor with the egress. -/
def Keeps (aggSFFIDList : List (List LayerNode)) (index : Nat) : Prop :=
  ¬ (index = 1 ∧ switchAt aggSFFIDList (index - 1) = switchAt aggSFFIDList index) ∧
    ¬ (index = aggSFFIDList.length - 2 ∧
      switchAt aggSFFIDList index = switchAt aggSFFIDList (index + 1))

instance (aggSFFIDList : List (List LayerNode)) (index : Nat) :
    Decidable (Keeps aggSFFIDList index) :=
  inferInstanceAs (Decidable (_ ∧ _))

def keptGroups (aggSFFIDList : List (List LayerNode)) : List Nat :=
  (List.range' 1 (aggSFFIDList.length - 2)).filter (Keeps aggSFFIDList)

def partialPathOf (rIndex : Nat) (sfc : SFC) (aggSFFIDList : List (List LayerNode))
    (index : Nat) : PartialPath where
  rIndex := rIndex
  bpID := switchAt aggSFFIDList index
  Xp := (aggSFFIDList.getD index []).map fun sff =>
    sfc.vNFTypeSequence.getD (sff.1 - 1) 0
  sp := switchAt aggSFFIDList (index - 1)
  tp := switchAt aggSFFIDList (index + 1)
  lp := sfc.getSFCTrafficDemand

/-- The groups of a request have nodes, and those in between are in the layers of
VNFs. -/
structure GroupsOk (sfc : SFC) (aggSFFIDList : List (List LayerNode)) : Prop where
  nonempty : ∀ group ∈ aggSFFIDList, group ≠ []
  layers : ∀ index, 0 < index → index + 1 < aggSFFIDList.length →
    ∀ sff ∈ aggSFFIDList.getD index [], sff.1 - 1 < sfc.vNFTypeSequence.length

section Paths

variable {aggSFFIDList : List (List LayerNode)} {rIndex index : Nat} {sfc : SFC}

theorem itemAt_eq_getD {α : Type} {l : List α} {i : Nat} (h : i < l.length) (d : α) :
    itemAt l i = .ok (l.getD i d) := by
  rw [itemAt_eq_ok_iff, List.getD_eq_getElem?_getD, List.getElem?_eq_getElem h]
  rfl

theorem GroupsOk.itemAt_zero (h : GroupsOk sfc aggSFFIDList)
    (hindex : index < aggSFFIDList.length) :
    ∃ sff, itemAt (aggSFFIDList.getD index []) 0 = .ok sff ∧
      sff.2 = switchAt aggSFFIDList index := by
  have hne := h.nonempty _ (List.getElem_mem hindex)
  have hget : aggSFFIDList.getD index [] = aggSFFIDList[index] := by
    rw [List.getD_eq_getElem?_getD, List.getElem?_eq_getElem hindex, Option.getD_some]
  rw [switchAt, hget]
  cases hgroup : aggSFFIDList[index] with
  | nil => exact absurd hgroup hne
  | cons sff group => exact ⟨sff, rfl, rfl⟩

theorem hasPartialPath_eq (h : GroupsOk sfc aggSFFIDList) (hpos : 0 < index)
    (hlt : index + 1 < aggSFFIDList.length) :
    hasPartialPath index aggSFFIDList.length (aggSFFIDList.getD (index - 1) [])
        (aggSFFIDList.getD index []) (aggSFFIDList.getD (index + 1) []) =
      .ok (decide (Keeps aggSFFIDList index)) := by
  obtain ⟨pre, hpre, hpreID⟩ := h.itemAt_zero (show index - 1 < _ by omega)
  obtain ⟨current, hcurrent, hcurrentID⟩ := h.itemAt_zero (show index < _ by omega)
  obtain ⟨next, hnext, hnextID⟩ := h.itemAt_zero hlt
  rw [hasPartialPath, hpre, hcurrent, hnext]
  change (if index = 1 ∧ pre.2 = current.2 then Except.ok false
    else if index = aggSFFIDList.length - 2 ∧ current.2 = next.2 then .ok false
      else .ok true) = _
  rw [hpreID, hcurrentID, hnextID]
  split
  · next hfirst => rw [decide_eq_false fun hkeeps => hkeeps.1 hfirst]
  · next hfirst =>
      split
      · next hlast => rw [decide_eq_false fun hkeeps => hkeeps.2 hlast]
      · next hlast => rw [decide_eq_true ⟨hfirst, hlast⟩]

theorem addPartialPath_eq (h : GroupsOk sfc aggSFFIDList) (hpos : 0 < index)
    (hlt : index + 1 < aggSFFIDList.length) (partialPath : List PartialPath) :
    addPartialPath rIndex sfc aggSFFIDList partialPath index =
      .ok (if Keeps aggSFFIDList index then
        partialPath ++ [partialPathOf rIndex sfc aggSFFIDList index]
        else partialPath) := by
  obtain ⟨pre, hpre, hpreID⟩ := h.itemAt_zero (show index - 1 < _ by omega)
  obtain ⟨current, hcurrent, hcurrentID⟩ := h.itemAt_zero (show index < _ by omega)
  obtain ⟨next, hnext, hnextID⟩ := h.itemAt_zero hlt
  have hXp : ((aggSFFIDList.getD index []).mapM fun sff =>
      itemAt sfc.vNFTypeSequence (sff.1 - 1)) =
        .ok (partialPathOf rIndex sfc aggSFFIDList index).Xp :=
    except_mapM_eq_map fun sff hsff =>
      itemAt_eq_getD (h.layers index hpos hlt sff hsff) 0
  rw [addPartialPath, itemAt_eq_getD (show index - 1 < _ by omega) [],
    itemAt_eq_getD (show index < _ by omega) [], itemAt_eq_getD hlt []]
  change (hasPartialPath index aggSFFIDList.length (aggSFFIDList.getD (index - 1) [])
    (aggSFFIDList.getD index []) (aggSFFIDList.getD (index + 1) []) >>= _) = _
  rw [hasPartialPath_eq h hpos hlt]
  by_cases hkeeps : Keeps aggSFFIDList index
  · rw [if_pos hkeeps, decide_eq_true hkeeps, hcurrent, hXp, hpre, hnext]
    change Except.ok (partialPath ++ [⟨rIndex, current.2, _, pre.2, next.2, _⟩]) = _
    rw [hcurrentID, hpreID, hnextID]
    rfl
  · rw [if_neg hkeeps, decide_eq_false hkeeps]
    rfl

theorem foldlM_addPartialPath (h : GroupsOk sfc aggSFFIDList)
    (partialPath : List PartialPath) :
    (pyRange 1 (aggSFFIDList.length - 1) 1).foldlM
        (addPartialPath rIndex sfc aggSFFIDList) partialPath =
      .ok (partialPath ++
        (keptGroups aggSFFIDList).map (partialPathOf rIndex sfc aggSFFIDList)) := by
  rw [pyRange_one, show aggSFFIDList.length - 1 - 1 = aggSFFIDList.length - 2 from rfl,
    keptGroups]
  have hrange : ∀ index ∈ List.range' 1 (aggSFFIDList.length - 2),
      0 < index ∧ index + 1 < aggSFFIDList.length := by
    intro index hindex
    obtain ⟨hle, hlt⟩ := List.mem_range'_1.mp hindex
    omega
  generalize List.range' 1 (aggSFFIDList.length - 2) = indices at hrange
  induction indices generalizing partialPath with
  | nil => rw [List.filter_nil, List.map_nil, List.append_nil]; rfl
  | cons index indices ih =>
      obtain ⟨hpos, hlt⟩ := hrange index List.mem_cons_self
      have hrest := fun partialPath => ih partialPath fun index' hindex' =>
        hrange index' (List.mem_cons_of_mem index hindex')
      rw [List.foldlM_cons, addPartialPath_eq h hpos hlt]
      refine (hrest _).trans ?_
      by_cases hkeeps : Keeps aggSFFIDList index
      · rw [if_pos hkeeps, List.filter_cons, if_pos (decide_eq_true hkeeps),
          List.map_cons, List.append_assoc]
        rfl
      · rw [if_neg hkeeps, List.filter_cons, if_neg (by simpa using hkeeps)]

end Paths

/-! ## The stages -/

/-- The run of equal switches around the stage reaches the ingress or the egress. -/
def Merged (sffIDList : List LayerNode) (stage : LayerNode) : Prop :=
  (∀ a ∈ sffIDList, a.1 < stage.1 → a.2 = stage.2) ∨
    ∀ b ∈ sffIDList, stage.1 ≤ b.1 → b.2 = stage.2

instance (sffIDList : List LayerNode) (stage : LayerNode) :
    Decidable (Merged sffIDList stage) :=
  inferInstanceAs (Decidable (_ ∨ _))

section Stages

variable {first last stage : LayerNode} {mid group : List LayerNode}
  {before after : List (List LayerNode)}

theorem same_of_mem_run (h : group.IsChain fun a b => sameSwitch a b = true)
    {a b : LayerNode} (ha : a ∈ group) (hb : b ∈ group) : a.2 = b.2 := by
  have htrans : IsTrans LayerNode fun a b => a.2 = b.2 := ⟨fun _ _ _ => Eq.trans⟩
  have hpair : group.Pairwise fun a b => a.2 = b.2 := by
    rw [← List.isChain_iff_pairwise]
    exact h.imp fun a b hab => beq_iff_eq.mp hab
  by_cases heq : a = b
  · rw [heq]
  · have hsymm : Std.Symm fun a b : LayerNode => a.2 = b.2 := ⟨fun _ _ => Eq.symm⟩
    exact hpair.forall ha hb heq

theorem getD_run :
    ([first] :: (before ++ group :: after) ++ [[last]]).getD (before.length + 1) [] =
      group := by
  simp

theorem mem_flatten_of_mem_getD {runs : List (List LayerNode)} {index : Nat}
    (hpos : 0 < index) (hlt : index + 1 < ([first] :: runs ++ [[last]]).length)
    (h : stage ∈ ([first] :: runs ++ [[last]]).getD index []) :
    stage ∈ runs.flatten := by
  obtain ⟨i, rfl⟩ := Nat.exists_eq_add_of_le' hpos
  have hlt' : i < runs.length := by
    simp only [List.length_append, List.length_cons, List.length_nil] at hlt
    omega
  rw [List.cons_append, List.getD_cons_succ, List.getD_eq_getElem?_getD,
    List.getElem?_append_left hlt', List.getElem?_eq_getElem hlt',
    Option.getD_some] at h
  exact List.mem_flatten_of_mem (List.getElem_mem hlt') h

/-- Only the run itself has its nodes. -/
theorem mem_getD_iff (hnodup : (before ++ group :: after).flatten.Nodup)
    (hstage : stage ∈ group) {index : Nat}
    (hlt : index < (before ++ group :: after).length) :
    stage ∈ ([first] :: (before ++ group :: after) ++ [[last]]).getD (index + 1) [] ↔
      index = before.length := by
  have hget : ([first] :: (before ++ group :: after) ++ [[last]]).getD (index + 1) [] =
      (before ++ group :: after)[index] := by
    rw [List.cons_append, List.getD_cons_succ, List.getD_eq_getElem?_getD,
      List.getElem?_append_left hlt, List.getElem?_eq_getElem hlt, Option.getD_some]
  have hself : before.length < (before ++ group :: after).length := by simp
  have hrun : (before ++ group :: after)[before.length] = group := by simp
  have hmem' : stage ∈ (before ++ group :: after)[before.length] := by
    rw [hrun]
    exact hstage
  rw [hget]
  constructor
  · intro hmem
    by_contra hne
    have hpair := (List.nodup_flatten.mp hnodup).2
    have hdisjoint := List.pairwise_iff_getElem.mp hpair
    rcases Nat.lt_or_gt_of_ne hne with hless | hmore
    · exact hdisjoint index before.length hlt hself hless hmem hmem'
    · exact hdisjoint before.length index hself hlt hmore hmem' hmem
  · rintro rfl
    exact hmem'

/-- The groups in between are the runs of a list with one node for each layer. -/
structure Runs (first last : LayerNode) (runs : List (List LayerNode)) : Prop where
  rising : (first :: runs.flatten).Pairwise fun a b => a.1 < b.1
  bounded : ∀ a ∈ first :: runs.flatten, a.1 ≤ last.1
  maximal : runs.flatten.splitBy sameSwitch = runs

theorem Runs.same {runs : List (List LayerNode)} (h : Runs first last runs)
    (hgroup : group ∈ runs) {a b : LayerNode} (ha : a ∈ group) (hb : b ∈ group) :
    a.2 = b.2 :=
  same_of_mem_run ((List.splitBy_eq_iff.mp h.maximal).2.2.1 group hgroup) ha hb

/-- The nodes in front of the run are in lower layers, those behind it in higher
ones. -/
theorem Runs.layers (h : Runs first last (before ++ group :: after))
    (hstage : stage ∈ group) : first.1 < stage.1 ∧
      (∀ a ∈ before.flatten, a.1 < stage.1) ∧ (∀ b ∈ after.flatten, stage.1 < b.1) ∧
      stage.1 ≤ last.1 := by
  have hflat : stage ∈ (before ++ group :: after).flatten :=
    List.mem_flatten_of_mem (by simp) hstage
  obtain ⟨hfirst, hpair⟩ := List.pairwise_cons.mp h.rising
  rw [List.flatten_append, List.flatten_cons, List.pairwise_append,
    List.pairwise_append] at hpair
  obtain ⟨-, ⟨-, -, hafter⟩, hbefore⟩ := hpair
  exact ⟨hfirst stage hflat,
    fun a ha => hbefore a ha stage (List.mem_append_left _ hstage),
    hafter stage hstage, h.bounded stage (List.mem_cons_of_mem first hflat)⟩

theorem Runs.different {run : List LayerNode}
    (h : Runs first last (before ++ group :: run :: after)) :
    ∃ a ∈ group, ∃ b ∈ run, a.2 ≠ b.2 := by
  have hchain := (List.splitBy_eq_iff.mp h.maximal).2.2.2
  obtain ⟨ha, hb, hdiff⟩ :=
    (List.isChain_cons_cons.mp (List.isChain_split.mp hchain).2).1
  exact ⟨_, List.getLast_mem ha, _, List.head_mem hb, beq_eq_false_iff_ne.mp hdiff⟩

theorem Runs.merged_ingress_iff (h : Runs first last (before ++ group :: after))
    (hstage : stage ∈ group) :
    (∀ a ∈ first :: (before ++ group :: after).flatten ++ [last],
        a.1 < stage.1 → a.2 = stage.2) ↔
      before = [] ∧ first.2 = stage.2 := by
  obtain ⟨hfirst, hbefore, hafter, hlast⟩ := h.layers hstage
  constructor
  · intro hall
    refine ⟨?_, hall first (by simp) hfirst⟩
    rcases List.eq_nil_or_concat' before with hnil | ⟨before', run, rfl⟩
    · exact hnil
    -- otherwise the run in front of it would be at the same switch
    · rw [List.append_assoc, List.singleton_append] at h hall
      obtain ⟨a, ha, b, hb, hdiff⟩ := h.different
      have hrun : a ∈ (before' ++ [run]).flatten :=
        List.mem_flatten_of_mem (by simp) ha
      have hswitch := hall a (by simp [ha]) (hbefore a hrun)
      exact absurd (hswitch.trans (h.same (by simp) hstage hb)) hdiff
  · rintro ⟨rfl, heq⟩ a ha hless
    rw [List.nil_append, List.flatten_cons] at ha
    simp only [List.cons_append, List.mem_cons, List.mem_append, List.not_mem_nil,
      or_false] at ha
    rcases ha with rfl | (ha | ha) | rfl
    · exact heq
    · exact h.same (by simp) ha hstage
    · exact absurd (hafter a ha) (Nat.lt_asymm hless)
    · exact absurd hless (Nat.not_lt.mpr hlast)

theorem Runs.merged_egress_iff (h : Runs first last (before ++ group :: after))
    (hstage : stage ∈ group) :
    (∀ b ∈ first :: (before ++ group :: after).flatten ++ [last],
        stage.1 ≤ b.1 → b.2 = stage.2) ↔
      after = [] ∧ stage.2 = last.2 := by
  obtain ⟨hfirst, hbefore, hafter, hlast⟩ := h.layers hstage
  constructor
  · intro hall
    refine ⟨?_, (hall last (by simp) hlast).symm⟩
    cases after with
    | nil => rfl
    | cons run after =>
        obtain ⟨a, ha, b, hb, hdiff⟩ := h.different
        have hrun : b ∈ (run :: after).flatten := List.mem_flatten_of_mem (by simp) hb
        have hswitch := hall b (by simp [hb]) (Nat.le_of_lt (hafter b hrun))
        exact absurd ((h.same (by simp) ha hstage).trans hswitch.symm) hdiff
  · rintro ⟨rfl, heq⟩ b hb hle
    rw [List.flatten_append, List.flatten_cons, List.flatten_nil, List.append_nil] at hb
    simp only [List.cons_append, List.mem_cons, List.mem_append, List.not_mem_nil,
      or_false] at hb
    rcases hb with rfl | (hb | hb) | rfl
    · exact absurd hfirst (Nat.not_lt.mpr hle)
    · exact absurd (hbefore b hb) (Nat.not_lt.mpr hle)
    · exact h.same (by simp) hb hstage
    · exact heq.symm

/-- The group is kept when the run reaches neither end. -/
theorem Runs.keeps_iff (h : Runs first last (before ++ group :: after))
    (hstage : stage ∈ group) :
    Keeps ([first] :: (before ++ group :: after) ++ [[last]]) (before.length + 1) ↔
      ¬ Merged (first :: (before ++ group :: after).flatten ++ [last]) stage := by
  have hswitch : switchAt ([first] :: (before ++ group :: after) ++ [[last]])
      (before.length + 1) = stage.2 := by
    rw [switchAt, getD_run]
    cases group with
    | nil => cases hstage
    | cons a group => exact h.same (by simp) List.mem_cons_self hstage
  have hingress : (before.length + 1 = 1 ∧
      switchAt ([first] :: (before ++ group :: after) ++ [[last]]) before.length =
        stage.2) ↔ before = [] ∧ first.2 = stage.2 := by
    rw [Nat.add_eq_right, List.length_eq_zero_iff]
    refine and_congr_right ?_
    rintro rfl
    rfl
  have hegress : (before.length + 1 =
        ([first] :: (before ++ group :: after) ++ [[last]]).length - 2 ∧
      stage.2 = switchAt ([first] :: (before ++ group :: after) ++ [[last]])
        (before.length + 1 + 1)) ↔ after = [] ∧ stage.2 = last.2 := by
    have hlength : before.length + 1 =
        ([first] :: (before ++ group :: after) ++ [[last]]).length - 2 ↔ after = [] := by
      rw [← List.length_eq_zero_iff]
      simp only [List.length_append, List.length_cons, List.length_nil]
      omega
    rw [hlength]
    refine and_congr_right ?_
    rintro rfl
    have hget : switchAt ([first] :: (before ++ [group]) ++ [[last]])
        (before.length + 1 + 1) = last.2 := by
      simp [switchAt]
    rw [hget]
  rw [Merged, h.merged_ingress_iff hstage, h.merged_egress_iff hstage, not_or,
    ← hingress, ← hegress, Keeps, hswitch, Nat.add_sub_cancel]

/-- A stage in between belongs to one kept group, if it is not merged. -/
theorem countP_keptGroups {runs : List (List LayerNode)} (h : Runs first last runs)
    (hstage : stage ∈ runs.flatten) :
    (keptGroups ([first] :: runs ++ [[last]])).countP
        (fun index => decide (stage ∈ ([first] :: runs ++ [[last]]).getD index [])) =
      if Merged (first :: runs.flatten ++ [last]) stage then 0 else 1 := by
  obtain ⟨group, hgroup, hmem⟩ := List.mem_flatten.mp hstage
  obtain ⟨before, after, rfl⟩ := List.append_of_mem hgroup
  have hnodup : (before ++ group :: after).flatten.Nodup := by
    refine (List.pairwise_cons.mp h.rising).2.imp fun {a b} hless heq => ?_
    rw [heq] at hless
    exact Nat.lt_irrefl _ hless
  have hone : ∀ index ∈ List.range' 1
      (([first] :: (before ++ group :: after) ++ [[last]]).length - 2),
      (decide (stage ∈ ([first] :: (before ++ group :: after) ++ [[last]]).getD index [])
          && decide (Keeps ([first] :: (before ++ group :: after) ++ [[last]]) index)) =
        true ↔ (index == before.length + 1 && decide (¬ Merged
          (first :: (before ++ group :: after).flatten ++ [last]) stage)) = true := by
    intro index hindex
    obtain ⟨hpos, hlt⟩ := List.mem_range'_1.mp hindex
    obtain ⟨i, rfl⟩ := Nat.exists_eq_add_of_le' hpos
    have hlt' : i < (before ++ group :: after).length := by
      simp only [List.length_append, List.length_cons, List.length_nil] at hlt ⊢
      omega
    rw [Bool.and_eq_true, Bool.and_eq_true, decide_eq_true_eq, decide_eq_true_eq,
      decide_eq_true_eq, beq_iff_eq, mem_getD_iff hnodup hmem hlt', Nat.add_right_cancel_iff]
    refine and_congr_right ?_
    rintro rfl
    exact h.keeps_iff hmem
  rw [keptGroups, List.countP_filter, List.countP_congr hone]
  by_cases hmerged :
      Merged (first :: (before ++ group :: after).flatten ++ [last]) stage
  · rw [if_pos hmerged, List.countP_eq_zero]
    intro index _
    rw [decide_eq_false (not_not.mpr hmerged), Bool.and_false]
    exact Bool.false_ne_true
  · simp only [hmerged, not_false_eq_true, decide_true, Bool.and_true, if_false]
    refine List.count_eq_one_of_mem List.nodup_range' (List.mem_range'_1.mpr ?_)
    simp only [List.length_append, List.length_cons, List.length_nil]
    omega

theorem countP_keptGroups_last {runs : List (List LayerNode)}
    (hlast : ∀ a ∈ first :: runs.flatten, a.1 < last.1) :
    (keptGroups ([first] :: runs ++ [[last]])).countP
        (fun index => decide (last ∈ ([first] :: runs ++ [[last]]).getD index [])) =
      if Merged (first :: runs.flatten ++ [last]) last then 0 else 1 := by
  have hmerged : Merged (first :: runs.flatten ++ [last]) last := by
    refine Or.inr fun b hb hle => ?_
    rcases List.mem_append.mp hb with hb | hb
    · exact absurd (hlast b hb) (Nat.not_lt.mpr hle)
    · rw [List.mem_singleton.mp hb]
  rw [if_pos hmerged, List.countP_eq_zero]
  intro index hindex hmem
  obtain ⟨hpos, hlt⟩ := List.mem_range'_1.mp (List.mem_filter.mp hindex).1
  have hflat := mem_flatten_of_mem_getD hpos (by omega) (of_decide_eq_true hmem)
  exact Nat.lt_irrefl _ (hlast last (List.mem_cons_of_mem first hflat))

end Stages

/-! ## Primary paths -/

/-- A path of a chain of `c` VNFs: one segment in each layer. -/
structure IsPrimaryPath (c : Nat) (path : ForwardingPath) : Prop where
  length : path.length = c + 1
  layers : ∀ i (segPath : List LayerNode), path[i]? = some segPath →
    ∀ u ∈ segPath, u.1 = i

/-- What `_getSFFIDList` returns: a node of each layer in order, the last layer
perhaps once more. -/
structure SFFIDList (c : Nat) (first : LayerNode) (mid : List LayerNode)
    (last : LayerNode) : Prop where
  rising : (first :: mid).Pairwise fun a b => a.1 < b.1
  bounded : ∀ a ∈ first :: mid, a.1 ≤ last.1
  layers : ∀ a ∈ mid, 0 < a.1 ∧ a.1 ≤ c
  stages : ∀ s stage, 0 < s → s ≤ c → (first :: mid ++ [last])[s]? = some stage →
    stage ∈ mid ∨ (stage = last ∧ ∀ a ∈ first :: mid, a.1 < last.1)

section PrimaryPaths

variable {c fuel : Nat} {path : ForwardingPath} {sffIDList : List LayerNode}

theorem IsPrimaryPath.nodes (h : IsPrimaryPath c path) {nodes : List LayerNode}
    (hnodes : path.mapM (fun segPath => itemAt segPath 1) = .ok nodes) :
    nodes.length = c + 1 ∧ (∀ a ∈ nodes, a.1 ≤ c) ∧
      nodes.Pairwise fun a b => a.1 < b.1 := by
  have hturns := except_mapM_eq_ok_iff.mp hnodes
  have hlength : nodes.length = c + 1 := hturns.length_eq ▸ h.length
  have hlayer : ∀ i (hi : i < nodes.length), nodes[i].1 = i := by
    intro i hi
    have hi' : i < path.length := hturns.length_eq ▸ hi
    have hitem := itemAt_eq_ok_iff.mp (hturns.get hi' hi)
    exact h.layers i _ (List.getElem?_eq_getElem hi') _ (List.mem_of_getElem? hitem)
  refine ⟨hlength, fun a ha => ?_, ?_⟩
  · obtain ⟨i, hi, rfl⟩ := List.mem_iff_getElem.mp ha
    rw [hlayer i hi]
    omega
  · rw [List.pairwise_iff_getElem]
    intro i j hi hj hlt
    rw [hlayer i hi, hlayer j hj]
    exact hlt

theorem mem_of_getElem?_cons {a b : LayerNode} {l : List LayerNode} {s : Nat}
    (hpos : 0 < s) (h : (a :: l)[s]? = some b) : b ∈ l := by
  obtain ⟨s, rfl⟩ := Nat.exists_eq_add_of_le' hpos
  exact List.mem_of_getElem? h

theorem IsPrimaryPath.exists_sffIDList (h : IsPrimaryPath c path)
    (hsff : getSFFIDList path = .ok sffIDList) (hlong : 2 ≤ sffIDList.length) :
    ∃ first mid last, sffIDList = first :: mid ++ [last] ∧
      SFFIDList c first mid last := by
  obtain ⟨nodes, hnodes, hrest⟩ := except_bind_eq_ok_iff.mp hsff
  obtain ⟨lastSegPath, hlastSeg, hrest⟩ := except_bind_eq_ok_iff.mp hrest
  obtain ⟨hlength, hbound, hrising⟩ := h.nodes hnodes
  split at hrest
  · -- the switch in front of the egress is in the last layer
    obtain ⟨egSFF, hegSFF, hrest⟩ := except_bind_eq_ok_iff.mp hrest
    obtain rfl := Except.ok.inj hrest
    have heg : egSFF.1 = c := by
      obtain ⟨-, hget⟩ := itemFromEnd_eq_ok_iff.mp hlastSeg
      rw [h.length, Nat.add_sub_cancel] at hget
      exact h.layers c _ hget _
        (List.mem_of_getElem? (itemFromEnd_eq_ok_iff.mp hegSFF).2)
    cases nodes with
    | nil => cases hlength
    | cons first mid =>
        refine ⟨first, mid, egSFF, rfl, hrising, fun a ha => heg ▸ hbound a ha,
          fun a ha => ⟨?_, hbound a (List.mem_cons_of_mem first ha)⟩,
          fun s stage hpos hle hstage => Or.inl ?_⟩
        · exact Nat.lt_of_le_of_lt (Nat.zero_le _) ((List.pairwise_cons.mp hrising).1 a ha)
        · rw [List.getElem?_append_left (by omega)] at hstage
          exact mem_of_getElem?_cons hpos hstage
  · obtain rfl := Except.ok.inj hrest
    rcases List.eq_nil_or_concat' nodes with rfl | ⟨init, last, rfl⟩
    · cases hlength
    · cases init with
      | nil => cases hlong with | step hle => cases hle
      | cons first mid =>
          obtain ⟨hinit, -, hcross⟩ := List.pairwise_append.mp hrising
          have hless : ∀ a ∈ first :: mid, a.1 < last.1 := fun a ha =>
            hcross a ha last (List.mem_singleton_self last)
          refine ⟨first, mid, last, rfl, hinit, fun a ha => Nat.le_of_lt (hless a ha),
            fun a ha => ⟨?_, hbound a (by simp [ha])⟩,
            fun s stage hpos hle hstage => ?_⟩
          · exact Nat.lt_of_le_of_lt (Nat.zero_le _) ((List.pairwise_cons.mp hinit).1 a ha)
          · rcases Nat.lt_or_ge s (first :: mid).length with hlt | hge
            · rw [List.getElem?_append_left hlt] at hstage
              exact Or.inl (mem_of_getElem?_cons hpos hstage)
            · rw [List.getElem?_append_right hge] at hstage
              exact Or.inr ⟨List.mem_singleton.mp (List.mem_of_getElem? hstage), hless⟩

/-- The switches of a primary path are grouped into the ingress, the maximal runs of
equal switches in between, and the egress. The runs get the partial paths in order,
but for those merged with the ingress or the egress, so that each stage that is not
merged belongs to one partial path, and each other one to none. -/
theorem partialPaths_of_primaryPath {sfc : SFC}
    (hpath : IsPrimaryPath sfc.getSFCLength path)
    (hsff : getSFFIDList path = .ok sffIDList) (hlong : 2 ≤ sffIDList.length)
    (hfuel : sffIDList.length ≤ fuel) (rIndex : Nat) (partialPath : List PartialPath) :
    ∃ first mid last, sffIDList = first :: mid ++ [last] ∧
      ∃ aggSFFIDList, aggSFFIDList = [first] :: mid.splitBy sameSwitch ++ [[last]] ∧
        getAggSFFIDList fuel sffIDList = .ok aggSFFIDList ∧
        aggSFFIDList.flatten = sffIDList ∧
        getPartialPathOfRequest fuel rIndex sfc path partialPath =
          .ok (partialPath ++ (keptGroups aggSFFIDList).map
            (partialPathOf rIndex sfc aggSFFIDList)) ∧
        ∀ s stage, 0 < s → s ≤ sfc.getSFCLength → sffIDList[s]? = some stage →
          (keptGroups aggSFFIDList).countP
              (fun index => decide (stage ∈ aggSFFIDList.getD index [])) =
            if Merged sffIDList stage then 0 else 1 := by
  obtain ⟨first, mid, last, rfl, hlist⟩ := hpath.exists_sffIDList hsff hlong
  have hflat : (mid.splitBy sameSwitch).flatten = mid := List.flatten_splitBy ..
  have hagg : getAggSFFIDList fuel (first :: mid ++ [last]) =
      .ok ([first] :: mid.splitBy sameSwitch ++ [[last]]) := by
    apply getAggSFFIDList_eq
    rw [List.length_append, List.length_cons] at hfuel
    omega
  refine ⟨first, mid, last, rfl, _, rfl, hagg, ?_, ?_, fun s stage hpos hle hget => ?_⟩
  · rw [List.flatten_append, List.flatten_cons, hflat]
    rfl
  · have hok : GroupsOk sfc ([first] :: mid.splitBy sameSwitch ++ [[last]]) := by
      refine ⟨fun group hgroup hnil => ?_, fun index hpos hlt sff hmem => ?_⟩
      · subst hnil
        simp at hgroup
      · have hmid := mem_flatten_of_mem_getD hpos hlt hmem
        rw [hflat] at hmid
        obtain ⟨hlayer, hle⟩ := hlist.layers sff hmid
        rw [SFC.getSFCLength] at hle
        omega
    rw [getPartialPathOfRequest, hsff]
    change (getAggSFFIDList fuel (first :: mid ++ [last]) >>= _) = _
    rw [hagg]
    exact foldlM_addPartialPath hok partialPath
  · rcases hlist.stages s stage hpos hle hget with hmid | ⟨rfl, hless⟩
    · have hruns : Runs first last (mid.splitBy sameSwitch) :=
        ⟨by rw [hflat]; exact hlist.rising, by rw [hflat]; exact hlist.bounded,
          by rw [hflat]⟩
      have hstage : stage ∈ (mid.splitBy sameSwitch).flatten := by rwa [hflat]
      have hcount := countP_keptGroups hruns hstage
      rwa [hflat] at hcount
    · have hlast : ∀ a ∈ first :: (mid.splitBy sameSwitch).flatten,
          a.1 < stage.1 := by rwa [hflat]
      have hcount := countP_keptGroups_last hlast
      rwa [hflat] at hcount

/-- A chain of three VNFs: the first two at one switch, the last one at the
egress. -/
def threeVNFs : SFC := ⟨[4, 5, 6], [], 1, none⟩

def twoTogether : ForwardingPath :=
  [[(0, 10022), (0, 2), (0, 3), (0, 10008)], [(1, 10008), (1, 3), (1, 10008)],
    [(2, 10008), (2, 3), (2, 10), (2, 10009)], [(3, 10009), (3, 10), (3, 10028)]]

theorem partialPaths_of_primaryPath_twoTogether : ∃ aggSFFIDList,
    getAggSFFIDList 4 [(0, 2), (1, 3), (2, 3), (3, 10)] = .ok aggSFFIDList ∧
      (keptGroups aggSFFIDList).countP
        (fun index => decide ((1, 3) ∈ aggSFFIDList.getD index [])) = 1 := by
  have hpath : IsPrimaryPath threeVNFs.getSFCLength twoTogether := by
    refine ⟨rfl, fun i segPath hseg u hu => ?_⟩
    have hall : ∀ i, ∀ segPath ∈ twoTogether[i]?, ∀ u : LayerNode, u ∈ segPath →
        u.1 = i := by
      intro i
      rcases i with _ | _ | _ | _ | i
      · decide
      · decide
      · decide
      · decide
      · intro segPath hseg
        simp [twoTogether] at hseg
    exact hall i segPath hseg u hu
  obtain ⟨first, mid, last, -, aggSFFIDList, -, hagg, -, -, hstages⟩ :=
    partialPaths_of_primaryPath hpath (rfl : getSFFIDList twoTogether =
      .ok [(0, 2), (1, 3), (2, 3), (3, 10)]) (by decide) (Nat.le_refl 4) 0 []
  exact ⟨aggSFFIDList, hagg, hstages 1 (1, 3) (by decide) (by decide) rfl⟩

end PrimaryPaths

end PartialLP

end SelfAdaptiveMano.Mapping

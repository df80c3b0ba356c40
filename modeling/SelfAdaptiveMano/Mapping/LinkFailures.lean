import SelfAdaptiveMano.Library.Pairs
import SelfAdaptiveMano.Mapping.LayeredPaths
import SelfAdaptiveMano.Mapping.FrrPathIDAllocator

/-!
# The failure of a link in MMLBSFC

When a link fails, `MMLBSFC` scans the primary path of a request four times: for
whether the request is affected, for the part in front of the failure, for whether
there is a repair switch, and for that switch. Three of the scans take a hop over the
link in either direction, the first one only in the direction that the scenario names.
-/

namespace SelfAdaptiveMano.Mapping

open Library

namespace LinkFailures

/-! ## The four scans -/

def isLinkIDInFailureElementList (failureElementList : List (Nat × Nat))
    (linkID : Nat × Nat) : Bool :=
  failureElementList.any fun elementID => elementID == linkID

/-- `linkID1` or `linkID2` of a hop is in the list. -/
def isHopInFailureElementList (failureElementList : List (Nat × Nat))
    (hop : LayerNode × LayerNode) : Bool :=
  isLinkIDInFailureElementList failureElementList (hop.1.2, hop.2.2) ||
    isLinkIDInFailureElementList failureElementList (hop.2.2, hop.1.2)

def isRequestAffectedByFailure (failureElementList : List (Nat × Nat))
    (primaryForwardingPath : ForwardingPath) : Bool :=
  primaryForwardingPath.any fun segPath => (steps segPath).any fun hop =>
    isLinkIDInFailureElementList failureElementList (hop.1.2, hop.2.2)

/-- The loop over the hops of a segment: what comes in front of the failed link, if
the segment has it. The test for the last node in it never holds, as the index stops
before it, and what it would add to is not used any more. -/
def partOfSegPath (failureElementList : List (Nat × Nat)) :
    List (LayerNode × LayerNode) → List LayerNode → Option (List LayerNode)
  | [], _ => none
  | hop :: hops, part =>
      if isHopInFailureElementList failureElementList hop then some (part ++ [hop.1])
      else partOfSegPath failureElementList hops (part ++ [hop.1])

/-- `_getUnaffectedPartOfPrimaryForwardingPath`. -/
def getUnaffectedPart (failureElementList : List (Nat × Nat)) :
    ForwardingPath → ForwardingPath
  | [] => []
  | segPath :: primaryForwardingPath =>
      match partOfSegPath failureElementList (steps segPath) [] with
      | some part => [part]
      | none => segPath :: getUnaffectedPart failureElementList primaryForwardingPath

def hasRepairSwitch (forwardingPath : ForwardingPath)
    (failureElementList : List (Nat × Nat)) : Except PyError Bool := do
  let firstSegPath ← itemAt forwardingPath 0
  let lastSegPath ← itemFromEnd forwardingPath 1
  let source ← itemAt firstSegPath 0
  let firstSff ← itemAt firstSegPath 1
  let destination ← itemFromEnd lastSegPath 1
  let lastSff ← itemFromEnd lastSegPath 2
  let impossibleLinkList := [(source.2, firstSff.2), (firstSff.2, source.2),
    (destination.2, lastSff.2), (lastSff.2, destination.2)]
  return !impossibleLinkList.any (isLinkIDInFailureElementList failureElementList)

def getRepairSwitchLayerSwitchID (failureElementList : List (Nat × Nat)) :
    ForwardingPath → Except PyError LayerNode
  | [] => throw (.valueError "Can't find repair switch")
  | segPath :: forwardingPath =>
      match (steps segPath).find? (isHopInFailureElementList failureElementList) with
      | some hop => return hop.1
      | none => getRepairSwitchLayerSwitchID failureElementList forwardingPath

/-! ## The hops of a path -/

def hops (path : ForwardingPath) : List (LayerNode × LayerNode) := path.flatMap steps

def Over (link : Nat × Nat) (hop : LayerNode × LayerNode) : Prop :=
  (hop.1.2, hop.2.2) = link ∨ (hop.2.2, hop.1.2) = link

instance (link : Nat × Nat) (hop : LayerNode × LayerNode) : Decidable (Over link hop) :=
  inferInstanceAs (Decidable (_ ∨ _))

def AtAnEnd (link : Nat × Nat) (path : ForwardingPath) : Prop :=
  (∃ segPath, path.head? = some segPath ∧
      ∃ hop, (steps segPath).head? = some hop ∧ Over link hop) ∨
    ∃ segPath, path.getLast? = some segPath ∧
      ∃ hop, (steps segPath).getLast? = some hop ∧ Over link hop

/-- A primary path has a server and a switch at both of its ends. -/
structure HasEnds (path : ForwardingPath) : Prop where
  first : ∃ segPath, path.head? = some segPath ∧ 2 ≤ segPath.length
  last : ∃ segPath, path.getLast? = some segPath ∧ 2 ≤ segPath.length

/-- The failure of the link is seen, and what is done for a request for which there is
a repair switch starts in front of the link. -/
structure Handles (dib : DCNInfoBase) (link : Nat × Nat) (path : ForwardingPath) :
    Prop where
  affected : isRequestAffectedByFailure [link] path = true ↔
    ∃ segPath ∈ path, ∃ hop ∈ steps segPath, Over link hop
  repaired : isRequestAffectedByFailure [link] path = true →
    hasRepairSwitch path [link] = .ok true →
      ∃ repair, getRepairSwitchLayerSwitchID [link] path = .ok repair ∧
        dib.isSwitchID repair.2 = true ∧
        (getUnaffectedPart [link] path).getLast?.bind List.getLast? = some repair ∧
        ∀ segPath ∈ getUnaffectedPart [link] path, ∀ hop ∈ steps segPath, ¬ Over link hop

section Scans

variable {link : Nat × Nat} {hop : LayerNode × LayerNode} {path : ForwardingPath}
  {segPath : List LayerNode}

theorem isLinkIDInFailureElementList_iff {linkID : Nat × Nat} :
    isLinkIDInFailureElementList [link] linkID = true ↔ linkID = link := by
  rw [isLinkIDInFailureElementList, List.any_cons, List.any_nil, Bool.or_false,
    beq_iff_eq]
  exact eq_comm

theorem isHopInFailureElementList_iff :
    isHopInFailureElementList [link] hop = true ↔ Over link hop := by
  rw [isHopInFailureElementList, Bool.or_eq_true, isLinkIDInFailureElementList_iff,
    isLinkIDInFailureElementList_iff]
  rfl

theorem mem_hops : hop ∈ hops path ↔ ∃ segPath ∈ path, hop ∈ steps segPath :=
  List.mem_flatMap

theorem isRequestAffectedByFailure_iff :
    isRequestAffectedByFailure [link] path = true ↔
      ∃ hop ∈ hops path, (hop.1.2, hop.2.2) = link := by
  simp only [isRequestAffectedByFailure, List.any_eq_true,
    isLinkIDInFailureElementList_iff, mem_hops]
  constructor
  · rintro ⟨segPath, hsegPath, hop, hhop, hsame⟩
    exact ⟨hop, ⟨segPath, hsegPath, hhop⟩, hsame⟩
  · rintro ⟨hop, ⟨segPath, hsegPath, hhop⟩, hsame⟩
    exact ⟨segPath, hsegPath, hop, hhop, hsame⟩

theorem getRepairSwitchLayerSwitchID_eq_ok
    (h : (hops path).find? (isHopInFailureElementList [link]) = some hop) :
    getRepairSwitchLayerSwitchID [link] path = .ok hop.1 := by
  induction path with
  | nil => cases h
  | cons segPath path ih =>
      rw [hops, List.flatMap_cons, List.find?_append] at h
      rw [getRepairSwitchLayerSwitchID]
      cases hfind : (steps segPath).find? (isHopInFailureElementList [link]) with
      | none =>
          rw [hfind, Option.none_or] at h
          exact ih h
      | some hop' =>
          rw [hfind, Option.some_or, Option.some.injEq] at h
          rw [h]
          rfl

theorem partOfSegPath_eq_none {hops : List (LayerNode × LayerNode)}
    (h : ∀ hop ∈ hops, ¬ Over link hop) (part : List LayerNode) :
    partOfSegPath [link] hops part = none := by
  induction hops generalizing part with
  | nil => rfl
  | cons hop hops ih =>
      rw [List.forall_mem_cons] at h
      rw [partOfSegPath, if_neg (mt isHopInFailureElementList_iff.mp h.1)]
      exact ih h.2 _

theorem partOfSegPath_eq_some
    (h : (steps segPath).find? (isHopInFailureElementList [link]) = some hop)
    (part : List LayerNode) :
    ∃ front, segPath.head? = (front ++ [hop.1]).head? ∧
      partOfSegPath [link] (steps segPath) part = some (part ++ (front ++ [hop.1])) ∧
      ∀ hop' ∈ steps (front ++ [hop.1]), ¬ Over link hop' := by
  induction segPath generalizing part with
  | nil => cases h
  | cons u segPath ih =>
      cases segPath with
      | nil => cases h
      | cons v segPath =>
          rw [steps_cons_cons] at h ⊢
          by_cases hover : Over link (u, v)
          · have htest := isHopInFailureElementList_iff.mpr hover
            rw [List.find?_cons_of_pos htest, Option.some.injEq] at h
            subst h
            refine ⟨[], rfl, ?_, ?_⟩
            · rw [partOfSegPath, if_pos htest]
              rfl
            · intro hop' hhop'
              cases hhop'
          · have htest := mt isHopInFailureElementList_iff.mp hover
            rw [List.find?_cons_of_neg htest] at h
            rcases ih h (part ++ [u]) with ⟨front, hhead, hpart, hnot⟩
            refine ⟨u :: front, rfl, ?_, ?_⟩
            · rw [partOfSegPath, if_neg htest, hpart, List.append_assoc]
              rfl
            · rw [List.cons_append]
              cases hfront : front ++ [hop.1] with
              | nil =>
                  intro hop' hhop'
                  cases hhop'
              | cons w rest =>
                  rw [hfront] at hhead hnot
                  cases hhead
                  rw [steps_cons_cons, List.forall_mem_cons]
                  exact ⟨hover, hnot⟩

theorem getUnaffectedPart_spec
    (h : (hops path).find? (isHopInFailureElementList [link]) = some hop) :
    (getUnaffectedPart [link] path).getLast?.bind List.getLast? = some hop.1 ∧
      ∀ segPath ∈ getUnaffectedPart [link] path, ∀ hop' ∈ steps segPath,
        ¬ Over link hop' := by
  induction path with
  | nil => cases h
  | cons segPath path ih =>
      rw [hops, List.flatMap_cons, List.find?_append] at h
      rw [getUnaffectedPart]
      cases hfind : (steps segPath).find? (isHopInFailureElementList [link]) with
      | none =>
          rw [hfind, Option.none_or] at h
          have hnot : ∀ hop' ∈ steps segPath, ¬ Over link hop' := by
            intro hop' hhop' hover
            have htest := List.find?_eq_none.mp hfind hop' hhop'
            exact htest (isHopInFailureElementList_iff.mpr hover)
          rcases ih h with ⟨hlast, hrest⟩
          rw [partOfSegPath_eq_none hnot]
          dsimp only
          constructor
          · cases hpart : getUnaffectedPart [link] path with
            | nil => rw [hpart] at hlast; cases hlast
            | cons part parts => rwa [List.getLast?_cons_cons, ← hpart]
          · rw [List.forall_mem_cons]
            exact ⟨hnot, hrest⟩
      | some hop' =>
          rw [hfind, Option.some_or, Option.some.injEq] at h
          subst h
          rcases partOfSegPath_eq_some hfind [] with ⟨front, -, hpart, hnot⟩
          rw [hpart, List.nil_append]
          constructor
          · exact List.getLast?_concat
          · intro segPath' hsegPath'
            rw [List.mem_singleton.mp hsegPath']
            exact hnot

theorem exists_concat_pair {l : List LayerNode} (h : 2 ≤ l.length) :
    ∃ front a b, l = front ++ [a, b] := by
  rcases l.eq_nil_or_concat' with rfl | ⟨l', b, rfl⟩
  · cases h
  · rcases l'.eq_nil_or_concat' with rfl | ⟨front, a, rfl⟩
    · rw [List.nil_append, List.length_singleton] at h
      exact absurd h (by decide)
    · exact ⟨front, a, b, (List.append_cons front a [b]).symm⟩

/-- There is a repair switch unless the link is that of the first or last hop. -/
theorem hasRepairSwitch_eq_ok_iff (h : HasEnds path) :
    hasRepairSwitch path [link] = .ok true ↔ ¬ AtAnEnd link path := by
  rcases h with ⟨⟨firstSegPath, hfirst, hlength⟩, ⟨lastSegPath, hlast, hlength'⟩⟩
  rcases exists_concat_pair hlength' with ⟨front, lastSff, destination, rfl⟩
  match firstSegPath, hlength with
  | source :: firstSff :: rest, _ =>
      have hread : itemFromEnd (front ++ [lastSff, destination]) 1 = .ok destination := by
        rw [itemFromEnd_one_eq_ok_iff, List.append_cons]
        exact List.getLast?_concat
      have hread' : itemFromEnd (front ++ [lastSff, destination]) 2 = .ok lastSff := by
        rw [itemFromEnd_eq_ok_iff]
        simp
      have hscan : hasRepairSwitch path [link] =
          .ok (!([(source.2, firstSff.2), (firstSff.2, source.2),
            (destination.2, lastSff.2), (lastSff.2, destination.2)].any
              (isLinkIDInFailureElementList [link]))) := by
        rw [hasRepairSwitch, itemAt_zero_eq_ok_iff.mpr hfirst,
          itemFromEnd_one_eq_ok_iff.mpr hlast]
        simp only [Except.bind, bind]
        rw [hread, hread']
        rfl
      have hends : AtAnEnd link path ↔
          Over link (source, firstSff) ∨ Over link (lastSff, destination) := by
        simp only [AtAnEnd, hfirst, hlast, Option.some.injEq, exists_eq_left', steps_cons_cons,
          List.head?_cons]
        rw [show (steps (front ++ [lastSff, destination])).getLast? =
          some (lastSff, destination) from getLast?_pairs front lastSff destination]
        simp only [Option.some.injEq, exists_eq_left']
      rw [hscan, hends, Except.ok.injEq, Bool.not_eq_true', ← Bool.not_eq_true]
      apply not_congr
      simp only [List.any_cons, List.any_nil, Bool.or_false, Bool.or_eq_true,
        isLinkIDInFailureElementList_iff, Over]
      tauto

theorem isHopInFailureElementList_eq :
    isHopInFailureElementList [link] = fun hop => decide (Over link hop) := by
  funext hop
  rw [Bool.eq_iff_iff, isHopInFailureElementList_iff, decide_eq_true_iff]

/-- The failure of the link is handled when the path does without the link, and else
when it goes over the link in the named direction at least once and the first hop over
the link starts at a switch or the link is that of the first or last hop, for which
there is no repair switch. -/
theorem handles_iff (dib : DCNInfoBase) (h : HasEnds path) :
    Handles dib link path ↔
      (∀ hop ∈ hops path, ¬ Over link hop) ∨
        (∃ hop ∈ hops path, (hop.1.2, hop.2.2) = link) ∧
          (AtAnEnd link path ∨
            ∀ hop, (hops path).find? (fun hop => decide (Over link hop)) = some hop →
              dib.isSwitchID hop.1.2 = true) := by
  rw [← isHopInFailureElementList_eq]
  constructor
  · intro hhandles
    by_cases hover : ∃ hop ∈ hops path, Over link hop
    · right
      rcases hover with ⟨hop, hhop, hover⟩
      rcases mem_hops.mp hhop with ⟨segPath, hsegPath, hstep⟩
      have haffected := hhandles.affected.mpr ⟨segPath, hsegPath, hop, hstep, hover⟩
      refine ⟨isRequestAffectedByFailure_iff.mp haffected, or_iff_not_imp_left.mpr ?_⟩
      intro hend hop' hfind
      have hdeclared := (hasRepairSwitch_eq_ok_iff h).mpr hend
      rcases hhandles.repaired haffected hdeclared with ⟨repair, hrepair, hswitch, -⟩
      rw [getRepairSwitchLayerSwitchID_eq_ok hfind, Except.ok.injEq] at hrepair
      rwa [hrepair]
    · left
      push Not at hover
      exact hover
  · rintro (hnot | ⟨hnamed, hrest⟩)
    · have hfree : ∀ segPath ∈ path, ∀ hop ∈ steps segPath, ¬ Over link hop :=
        fun segPath hsegPath hop hhop => hnot hop (mem_hops.mpr ⟨segPath, hsegPath, hhop⟩)
      have hunaffected : ¬ isRequestAffectedByFailure [link] path = true := by
        rw [isRequestAffectedByFailure_iff]
        rintro ⟨hop, hhop, hsame⟩
        exact hnot hop hhop (Or.inl hsame)
      refine ⟨iff_of_false hunaffected ?_, fun haffected => absurd haffected hunaffected⟩
      rintro ⟨segPath, hsegPath, hop, hhop, hover⟩
      exact hfree segPath hsegPath hop hhop hover
    · have haffected := isRequestAffectedByFailure_iff.mpr hnamed
      rcases hnamed with ⟨hop, hhop, hsame⟩
      have hover : Over link hop := Or.inl hsame
      rcases mem_hops.mp hhop with ⟨segPath, hsegPath, hstep⟩
      refine ⟨iff_of_true haffected ⟨segPath, hsegPath, hop, hstep, hover⟩, ?_⟩
      intro _ hdeclared
      have hswitch := hrest.resolve_left ((hasRepairSwitch_eq_ok_iff h).mp hdeclared)
      have hsome : ((hops path).find? (isHopInFailureElementList [link])).isSome := by
        rw [List.find?_isSome]
        exact ⟨hop, hhop, isHopInFailureElementList_iff.mpr hover⟩
      rcases Option.isSome_iff_exists.mp hsome with ⟨first, hfind⟩
      rcases getUnaffectedPart_spec hfind with ⟨hlast, hclear⟩
      exact ⟨first.1, getRepairSwitchLayerSwitchID_eq_ok hfind, hswitch first hfind, hlast,
        hclear⟩

/-- From the ingress over the link between the switches to the VNF, and back to the
egress at the second switch. -/
def overOneLink : ForwardingPath :=
  [[(0, 9), (0, 1), (0, 2), (0, 7)], [(1, 7), (1, 2), (1, 8)]]

theorem handles_iff_namedForwards :
    HasEnds overOneLink ∧ Handles MultiLayerGraph.twoSwitches (1, 2) overOneLink := by
  have hends : HasEnds overOneLink := ⟨⟨_, rfl, by decide⟩, ⟨_, rfl, by decide⟩⟩
  refine ⟨hends, (handles_iff MultiLayerGraph.twoSwitches hends).mpr (Or.inr ⟨?_, Or.inr ?_⟩)⟩
  · exact ⟨((0, 1), (0, 2)), by decide, rfl⟩
  · intro hop hfind
    cases hfind
    decide

/-- The link is between two nodes of the path, and the scenario names it in the other
direction. -/
theorem not_handles_namedBackwards :
    ¬ Handles MultiLayerGraph.twoSwitches (2, 1) overOneLink := by
  intro h
  have haffected := h.affected.mpr
    ⟨_, List.mem_cons_self, ((0, 1), (0, 2)), by decide, Or.inr rfl⟩
  revert haffected
  decide

end Scans

end LinkFailures

end SelfAdaptiveMano.Mapping

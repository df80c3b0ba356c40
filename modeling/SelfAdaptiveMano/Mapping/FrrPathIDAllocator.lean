import SelfAdaptiveMano.Library.Dict
import SelfAdaptiveMano.Mapping.MultiLayerGraph
import Mathlib.Data.Finset.Card

/-!
# The path IDs of backup paths

`FRRPathIDAllocator` gives a path ID to each failure element that a request is
protected against: 2 to the first one, and the next number to each further one.
There is no bound, although a path ID has the range up to 127 in this direction.

`MMLBSFC` goes through the failure scenarios, one for each switch and server, and
asks for an ID where it found a backup path for a request.
-/

namespace SelfAdaptiveMano.Mapping

open Library Numbering

def DIRECTION0_PATHID_OFFSET : Nat := 1
def DIRECTION1_PATHID_OFFSET : Nat := 128

/-- The IDs are different from one another and from that of the primary path, and
lie in the range of the direction. -/
def PathIDsOk (pathIDs : List Nat) : Prop :=
  pathIDs.Nodup ∧ ∀ pathID ∈ pathIDs, pathID ≠ DIRECTION0_PATHID_OFFSET ∧
    2 ≤ pathID ∧ pathID < DIRECTION1_PATHID_OFFSET

theorem pathIDsOk_values_iff {ε : Type} {ids : Dict ε Nat}
    (hids : Numbered 2 ids) : PathIDsOk ids.values ↔ ids.keys.length ≤ 126 := by
  have hbound := hids.forall_lt_iff (show 2 ≤ 128 by decide)
  constructor
  · intro h
    have hle := hbound.mp fun v hv => (h.2 v hv).2.2
    omega
  · intro h
    refine ⟨hids.nodup_values, fun v hv => ?_⟩
    have hlt := hbound.mpr (by omega) v hv
    have hge := (hids.mem_values_iff.mp hv).1
    exact ⟨fun heq => absurd hge (heq ▸ by decide), hge, hlt⟩

/-! ## The allocator -/

structure FRRPathIDAllocator (ε : Type) where
  pathIDDict : Dict Nat (Dict ε Nat)
  startPathID : Nat

namespace FRRPathIDAllocator

variable {ε : Type} [DecidableEq ε]

def init : FRRPathIDAllocator ε := ⟨.empty, 2⟩

/-- The answer, and the allocator after it. -/
def genPathID (a : FRRPathIDAllocator ε) (rIndex : Nat) (failureElementID : ε) :
    Nat × FRRPathIDAllocator ε :=
  match a.pathIDDict.get? rIndex with
  | none =>
      (a.startPathID, { a with
        pathIDDict := a.pathIDDict.set rIndex
          (Dict.empty.set failureElementID a.startPathID) })
  | some ids =>
      match ids.get? failureElementID with
      | some pathID => (pathID, a)
      | none =>
          let newPathID := a.startPathID + ids.keys.length
          (newPathID, { a with
            pathIDDict :=
              a.pathIDDict.set rIndex (ids.set failureElementID newPathID) })

def ids (a : FRRPathIDAllocator ε) (rIndex : Nat) : Dict ε Nat :=
  (a.pathIDDict.get? rIndex).getD .empty

def withIDs (a : FRRPathIDAllocator ε) (rIndex : Nat) (ids : Dict ε Nat) :
    FRRPathIDAllocator ε :=
  { a with pathIDDict := a.pathIDDict.set rIndex ids }

def run (a : FRRPathIDAllocator ε) (calls : List (Nat × ε)) :
    FRRPathIDAllocator ε :=
  calls.foldl (fun a call => (a.genPathID call.1 call.2).2) a

structure Numbers (a : FRRPathIDAllocator ε) : Prop where
  start : a.startPathID = 2
  numbered : ∀ rIndex, Numbered 2 (a.ids rIndex)

variable {a : FRRPathIDAllocator ε} {rIndex : Nat} {failureElementID : ε}

omit [DecidableEq ε] in
theorem ids_withIDs (a : FRRPathIDAllocator ε) (rIndex rIndex' : Nat)
    (ids : Dict ε Nat) :
    (a.withIDs rIndex ids).ids rIndex' =
      if rIndex' = rIndex then ids else a.ids rIndex' := by
  simp only [FRRPathIDAllocator.ids, withIDs, Dict.get?_set]
  split <;> rfl

omit [DecidableEq ε] in
theorem numbers_init : Numbers (init : FRRPathIDAllocator ε) :=
  ⟨rfl, fun _ => numbered_empty⟩

theorem genPathID_of_some {pathID : Nat}
    (h : (a.ids rIndex).get? failureElementID = some pathID) :
    a.genPathID rIndex failureElementID = (pathID, a) := by
  rw [ids] at h
  rw [genPathID]
  cases hids : a.pathIDDict.get? rIndex with
  | none => simp [hids] at h
  | some ids =>
      rw [hids] at h
      simp only [Option.getD_some] at h
      simp only [h]

theorem genPathID_of_none (ha : Numbers a)
    (h : (a.ids rIndex).get? failureElementID = none) :
    a.genPathID rIndex failureElementID =
      (2 + (a.ids rIndex).keys.length, a.withIDs rIndex
        ((a.ids rIndex).set failureElementID
          (2 + (a.ids rIndex).keys.length))) := by
  obtain ⟨pathIDDict, startPathID⟩ := a
  obtain rfl : startPathID = 2 := ha.start
  simp only [ids] at h
  simp only [genPathID, ids]
  cases hids : pathIDDict.get? rIndex with
  | none => rfl
  | some ids =>
      rw [hids] at h
      simp only [Option.getD_some] at h
      simp only [h, Option.getD_some]
      rfl

theorem Numbers.genPathID (ha : Numbers a) (rIndex : Nat) (failureElementID : ε) :
    Numbers (a.genPathID rIndex failureElementID).2 ∧
      ∀ rIndex' e, e ∈ ((a.genPathID rIndex failureElementID).2.ids rIndex').keys ↔
        e ∈ (a.ids rIndex').keys ∨ (rIndex', e) = (rIndex, failureElementID) := by
  cases h : (a.ids rIndex).get? failureElementID with
  | some pathID =>
      rw [genPathID_of_some h]
      refine ⟨ha, fun rIndex' e => ⟨Or.inl, ?_⟩⟩
      rintro (hmem | heq)
      · exact hmem
      · obtain ⟨rfl, rfl⟩ := Prod.mk.inj heq
        exact Dict.mem_keys_iff.mpr ⟨pathID, h⟩
  | none =>
      rw [genPathID_of_none ha h]
      refine ⟨⟨ha.start, fun rIndex' => ?_⟩, fun rIndex' e => ?_⟩
      · rw [ids_withIDs]
        split
        · exact (ha.numbered rIndex).set_next h
        · exact ha.numbered rIndex'
      · rw [ids_withIDs]
        split
        next heq => rw [Dict.keys_set_of_get?_eq_none h, heq]; simp
        next hne => simp [hne]

theorem Numbers.run (ha : Numbers a) (calls : List (Nat × ε)) :
    Numbers (a.run calls) ∧ ∀ rIndex e, e ∈ ((a.run calls).ids rIndex).keys ↔
      e ∈ (a.ids rIndex).keys ∨ (rIndex, e) ∈ calls := by
  induction calls generalizing a with
  | nil => exact ⟨ha, fun rIndex e => by simp [FRRPathIDAllocator.run]⟩
  | cons call calls ih =>
      obtain ⟨hnext, hkeys⟩ := ha.genPathID call.1 call.2
      obtain ⟨hrun, hall⟩ := ih hnext
      refine ⟨hrun, fun rIndex e => (hall rIndex e).trans ?_⟩
      rw [hkeys, List.mem_cons, or_assoc]

def elements (calls : List (Nat × ε)) (rIndex : Nat) : Finset ε :=
  ((calls.filter fun call => call.1 = rIndex).map Prod.snd).toFinset

theorem length_keys_run (calls : List (Nat × ε)) (rIndex : Nat) :
    ((init.run calls).ids rIndex).keys.length = (elements calls rIndex).card := by
  have hrun := numbers_init.run calls
  rw [← List.toFinset_card_of_nodup (Dict.nodup_keys' _)]
  congr 1
  ext e
  rw [List.mem_toFinset, hrun.2, elements, List.mem_toFinset]
  simp [ids, init, Dict.keys]

end FRRPathIDAllocator

/-! ## The backup paths of `MMLBSFC` -/

/-- One segment for each stage of a chain. -/
abbrev ForwardingPath := List (List LayerNode)

structure BackupPathKey where
  failureNodeID : Nat
  repairSwitchID : Nat
  newPathID : Nat
  deriving DecidableEq, Repr

structure BackupPaths where
  fpIDA : FRRPathIDAllocator Nat
  backupForwardingPath : Dict Nat (Dict BackupPathKey ForwardingPath)

namespace BackupPaths

def init : BackupPaths := ⟨.init, .empty⟩

variable (b : BackupPaths)

def ofRequest (rIndex : Nat) : Dict BackupPathKey ForwardingPath :=
  (b.backupForwardingPath.get? rIndex).getD .empty

/-- The end of `_genBackupPath4EachRequest`, for a path from the repair switch. -/
def record (failureElementID rIndex : Nat) (found : Nat × ForwardingPath) :
    BackupPaths :=
  let (newPathID, fpIDA) := b.fpIDA.genPathID rIndex failureElementID
  ⟨fpIDA, b.backupForwardingPath.set rIndex
    ((b.ofRequest rIndex).set ⟨failureElementID, found.1, newPathID⟩ found.2)⟩

/-- `found rIndex` is the backup path of a request, if it has one. -/
def genBackupPath4EachRequest (requests failureElementID : Nat)
    (found : Nat → Option (Nat × ForwardingPath)) : BackupPaths :=
  (List.range requests).foldl (fun b rIndex =>
    match found rIndex with
    | none => b
    | some path => b.record failureElementID rIndex path) b

def mapBackupPath4AllFailureScenarios (requests : Nat)
    (found : Nat → Nat → Option (Nat × ForwardingPath))
    (failureElementIDs : List Nat) : BackupPaths :=
  failureElementIDs.foldl (fun b failureElementID =>
    b.genBackupPath4EachRequest requests failureElementID
      (found failureElementID)) b

/-- The backup paths are stored under the IDs that their elements were given. -/
structure Recorded (elements : Nat → List Nat) : Prop where
  numbers : b.fpIDA.Numbers
  elements : ∀ rIndex, (b.fpIDA.ids rIndex).keys = elements rIndex
  keys : ∀ rIndex, (b.ofRequest rIndex).keys.map (fun key =>
    (key.failureNodeID, key.newPathID)) = (b.fpIDA.ids rIndex).items

variable {b} {elements : Nat → List Nat} {failureElementID rIndex : Nat}

theorem recorded_init : init.Recorded fun _ => [] :=
  ⟨FRRPathIDAllocator.numbers_init, fun _ => rfl, fun _ => rfl⟩

theorem Recorded.newPathIDs (h : b.Recorded elements) (rIndex : Nat) :
    (b.ofRequest rIndex).keys.map BackupPathKey.newPathID =
      (b.fpIDA.ids rIndex).values := by
  rw [Dict.values, ← h.keys, List.map_map]
  rfl

theorem Recorded.record (h : b.Recorded elements)
    (hnew : failureElementID ∉ elements rIndex) (path : Nat × ForwardingPath) :
    (b.record failureElementID rIndex path).Recorded fun rIndex' =>
      if rIndex' = rIndex then elements rIndex ++ [failureElementID]
      else elements rIndex' := by
  rw [← h.elements, ← Dict.get?_eq_none_iff] at hnew
  have hgen := FRRPathIDAllocator.genPathID_of_none h.numbers hnew
  have hkey : (b.ofRequest rIndex).get?
      ⟨failureElementID, path.1, 2 + (b.fpIDA.ids rIndex).keys.length⟩ =
        none := by
    rw [Dict.get?_eq_none_iff]
    intro hmem
    have hitem := List.mem_map_of_mem
      (f := fun key : BackupPathKey => (key.failureNodeID, key.newPathID)) hmem
    rw [h.keys, Dict.mem_items_iff, hnew] at hitem
    cases hitem
  simp only [BackupPaths.record, hgen]
  refine ⟨?_, fun rIndex' => ?_, fun rIndex' => ?_⟩
  · have hnumbers := (h.numbers.genPathID rIndex failureElementID).1
    rwa [hgen] at hnumbers
  · rw [FRRPathIDAllocator.ids_withIDs]
    split
    · rw [Dict.keys_set_of_get?_eq_none hnew, h.elements]
    · exact h.elements rIndex'
  · rw [FRRPathIDAllocator.ids_withIDs, ofRequest, Dict.get?_set]
    split
    · rw [Option.getD_some, Dict.keys_set_of_get?_eq_none hkey, List.map_append,
        h.keys, Dict.items_set_of_get?_eq_none hnew]
      rfl
    · exact h.keys rIndex'

theorem Recorded.congr {elements' : Nat → List Nat} (h : b.Recorded elements)
    (heq : ∀ rIndex, elements rIndex = elements' rIndex) :
    b.Recorded elements' := by
  obtain rfl := funext heq
  exact h

theorem Recorded.genBackupPath4EachRequest (h : b.Recorded elements)
    (hnew : ∀ rIndex, failureElementID ∉ elements rIndex) (requests : Nat)
    (found : Nat → Option (Nat × ForwardingPath)) :
    (b.genBackupPath4EachRequest requests failureElementID found).Recorded
      fun rIndex => elements rIndex ++
        if rIndex < requests ∧ (found rIndex).isSome then [failureElementID]
        else [] := by
  induction requests with
  | zero =>
      apply h.congr
      intro rIndex
      simp
  | succ n ih =>
      rw [BackupPaths.genBackupPath4EachRequest, List.range_succ,
        List.foldl_append]
      change Recorded (match found n with
        | none => b.genBackupPath4EachRequest n failureElementID found
        | some path => (b.genBackupPath4EachRequest n failureElementID
            found).record failureElementID n path) _
      cases hfound : found n with
      | none =>
          apply ih.congr
          intro rIndex
          have hne : (found rIndex).isSome → rIndex ≠ n := by
            rintro hsome rfl
            simp [hfound] at hsome
          grind
      | some path =>
          have hnew' : failureElementID ∉ elements n ++
              if n < n ∧ (found n).isSome then [failureElementID] else [] := by
            simpa using hnew n
          apply (ih.record hnew' path).congr
          intro rIndex
          by_cases hn : rIndex = n
          · subst hn
            simp [hfound]
          · rw [if_neg hn]
            grind

theorem Recorded.mapBackupPath4AllFailureScenarios (h : b.Recorded elements)
    {failureElementIDs : List Nat} (hnodup : failureElementIDs.Nodup)
    (hnew : ∀ e ∈ failureElementIDs, ∀ rIndex, e ∉ elements rIndex)
    (requests : Nat) (found : Nat → Nat → Option (Nat × ForwardingPath)) :
    (b.mapBackupPath4AllFailureScenarios requests found
      failureElementIDs).Recorded fun rIndex => elements rIndex ++
        failureElementIDs.filter fun e =>
          rIndex < requests ∧ (found e rIndex).isSome := by
  induction failureElementIDs generalizing b elements with
  | nil =>
      apply h.congr
      intro rIndex
      simp
  | cons e rest ih =>
      obtain ⟨he, hrest⟩ := List.nodup_cons.mp hnodup
      have hscenario := h.genBackupPath4EachRequest (hnew e List.mem_cons_self)
        requests (found e)
      apply (ih hscenario hrest ?_).congr
      · intro rIndex
        rw [List.filter_cons, List.append_assoc]
        by_cases htest : rIndex < requests ∧ (found e rIndex).isSome
        · simp [htest]
        · simp [htest]
      · intro e' he' rIndex hmem
        obtain hmem | hmem := List.mem_append.mp hmem
        · exact hnew e' (List.mem_cons_of_mem e he') rIndex hmem
        · split at hmem
          · obtain rfl := List.mem_singleton.mp hmem
            exact he he'
          · cases hmem

end BackupPaths

end SelfAdaptiveMano.Mapping

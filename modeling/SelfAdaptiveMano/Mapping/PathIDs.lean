import SelfAdaptiveMano.Mapping.NotVia

/-!
# The range of the path IDs

The IDs of the allocator, and so those of `MMLBSFC`, run out of the range with
the 127th failure element of a request. `NotVia` gives the ID of the primary path
to the first path around a node.
-/

namespace SelfAdaptiveMano.Mapping

open Library

/-- The path IDs of a request are different from one another, from that of the
primary path and in their range: from the allocator, as long as at most 126
elements are asked for; from `MMLBSFC`, as long as at most 126 failures have a
backup path; from `NotVia`, as long as there is no path around the first node
that needs one, so that none is given. -/
theorem pathIDsOk_iff (ε : Type) [DecidableEq ε] (calls : List (Nat × ε))
    (requests rIndex : Nat) (found : Nat → Nat → Option (Nat × ForwardingPath))
    (failureElementIDs : List Nat) (byPass : NotVia.ByPass) (s : NotVia)
    (primaryForwardingPath : ForwardingPath) :
    (PathIDsOk ((FRRPathIDAllocator.init.run calls).ids rIndex).values ↔
      (FRRPathIDAllocator.elements calls rIndex).card ≤ 126) ∧
    (failureElementIDs.Nodup → rIndex < requests →
      (PathIDsOk (((BackupPaths.init.mapBackupPath4AllFailureScenarios requests
          found failureElementIDs).ofRequest rIndex).keys.map
            BackupPathKey.newPathID) ↔
        (failureElementIDs.filter fun e => (found e rIndex).isSome).length ≤
          126)) ∧
    (PathIDsOk
        ((NotVia.notVia byPass primaryForwardingPath).finalState s).given ↔
      ∀ turn, s.firstUncovered primaryForwardingPath = some turn →
        ∃ e, NotVia.byPassOf byPass turn.1 turn.2 = .error e) := by
  refine ⟨?_, fun hnodup hrIndex => ?_, NotVia.pathIDsOk_notVia_iff ..⟩
  · rw [pathIDsOk_values_iff
      ((FRRPathIDAllocator.numbers_init.run calls).1.numbered rIndex),
      FRRPathIDAllocator.length_keys_run]
  · have hrun := BackupPaths.recorded_init.mapBackupPath4AllFailureScenarios
      hnodup (fun _ _ _ => List.not_mem_nil) requests found
    rw [hrun.newPathIDs, pathIDsOk_values_iff (hrun.numbers.numbered rIndex),
      hrun.elements]
    simp [hrIndex]

/-- Two failures with a backup path. -/
theorem pathIDsOk_iff_two :
    PathIDsOk (((BackupPaths.init.mapBackupPath4AllFailureScenarios 1
      (fun _ _ => some (1, [[(0, 1), (0, 2)]])) [5, 6]).ofRequest 0).keys.map
        BackupPathKey.newPathID) :=
  ((pathIDsOk_iff Nat [] 1 0 (fun _ _ => some (1, [[(0, 1), (0, 2)]])) [5, 6]
    (fun _ _ _ => .ok []) ⟨0, Dict.empty⟩ []).2.1 (by decide) (by decide)).mpr
      (by decide)

/-- A request that 127 nodes with a path around them are protected for. -/
theorem not_pathIDsOk_long :
    ¬ PathIDsOk ((FRRPathIDAllocator.init.run
      ((List.range 127).map fun e => (0, e))).ids 0).values := by
  rw [pathIDsOk_values_iff
    ((FRRPathIDAllocator.numbers_init.run _).1.numbered 0),
    FRRPathIDAllocator.length_keys_run]
  have helements : FRRPathIDAllocator.elements
      ((List.range 127).map fun e => (0, e)) 0 = Finset.range 127 := by
    ext e
    simp [FRRPathIDAllocator.elements]
  rw [helements, Finset.card_range]
  decide

end SelfAdaptiveMano.Mapping

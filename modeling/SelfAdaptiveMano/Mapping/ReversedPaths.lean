import SelfAdaptiveMano.Mapping.RepairedPaths
import SelfAdaptiveMano.Orchestration.OSFCAdder
import SelfAdaptiveMano.Library.Pairs

/-!
# The path of the other direction

`MMLPSFC` sends the packets of the second direction back along the path of the first
one. The stages of the reversed path are numbered from 0 on, whatever the first stage
of the path was.
-/

namespace SelfAdaptiveMano.Mapping

open Library Segments

namespace PathServerFiller

def reverseForwardingPath (d0FP : ForwardingPath) : ForwardingPath :=
  d0FP.reverse.zipIdx.map fun (segPath, idx) =>
    segPath.reverse.map fun segNodeTuple => (idx, segNodeTuple.2)

end PathServerFiller

namespace MMLPSFC

open PathServerFiller

def forwardingPathSet (path : ForwardingPath) (directionsNum : Nat) :
    Except PyError SelfAdaptiveMano.ForwardingPathSet :=
  let rPath := reverseForwardingPath path
  if directionsNum = 1 then
    .ok
      { primaryForwardingPath :=
          Dict.empty.set DIRECTION0_PATHID_OFFSET (.path path)
        mappingType := .mmlpsfc
        backupForwardingPath :=
          (Dict.empty.set DIRECTION0_PATHID_OFFSET .empty).set
            DIRECTION1_PATHID_OFFSET .empty }
  else if directionsNum = 2 then
    .ok
      { primaryForwardingPath :=
          (Dict.empty.set DIRECTION0_PATHID_OFFSET (.path path)).set
            DIRECTION1_PATHID_OFFSET (.path rPath)
        mappingType := .mmlpsfc
        backupForwardingPath :=
          Dict.empty.set DIRECTION0_PATHID_OFFSET .empty }
  else
    .error (.valueError
      ("Unknown directions number " ++ toString directionsNum))

end MMLPSFC

/-- The nodes of the segments, without their stages. -/
def nodes (path : ForwardingPath) : List (List Nat) :=
  path.map (List.map Prod.snd)

/-- The path goes from the ingress to the egress by steps of `E`, each segment from
the node where the one before it ended, and its stages are numbered from `start`
on. -/
structure WellFormed (E : Nat → Nat → Prop) (start ingress egress : Nat)
    (path : ForwardingPath) : Prop where
  stages : ∀ (i : Nat) (segPath : List LayerNode), path[i]? = some segPath →
    ∀ u ∈ segPath, u.1 = start + i
  walk : Walk E ingress egress (nodes path)

namespace PathServerFiller

variable {E : Nat → Nat → Prop} {start ingress egress i : Nat}
  {path path' : ForwardingPath}

theorem nodes_reverseForwardingPath (path : ForwardingPath) :
    nodes (reverseForwardingPath path) = turn (nodes path) := by
  have hseg (segPath : List LayerNode) (idx : Nat) :
      (segPath.reverse.map fun u => (idx, u.2)).map Prod.snd =
        (segPath.map Prod.snd).reverse := by
    rw [List.map_map, List.map_reverse]
    rfl
  have hidx : (path.reverse.zipIdx.map fun e => (e.1.map Prod.snd).reverse) =
      (path.reverse.zipIdx.map Prod.fst).map fun segPath =>
        (segPath.map Prod.snd).reverse := by
    rw [List.map_map]
    rfl
  simp only [nodes, reverseForwardingPath, List.map_map, Function.comp_def, hseg]
  rw [hidx, List.zipIdx_map_fst, turn, ← List.map_reverse, List.map_map]
  rfl

theorem stage_reverseForwardingPath {segPath : List LayerNode} {u : LayerNode}
    (h : (reverseForwardingPath path)[i]? = some segPath) (hu : u ∈ segPath) :
    u.1 = i := by
  rw [reverseForwardingPath, List.getElem?_map, List.getElem?_zipIdx,
    Option.map_map, Option.map_eq_some_iff] at h
  obtain ⟨before, -, rfl⟩ := h
  obtain ⟨v, -, rfl⟩ := List.mem_map.mp hu
  exact Nat.zero_add i

theorem eq_of_nodes_eq (hnodes : nodes path = nodes path')
    (hstages : ∀ (i : Nat) (segPath segPath' : List LayerNode),
      path[i]? = some segPath → path'[i]? = some segPath' →
        ∀ u ∈ segPath, ∀ u' ∈ segPath', u.1 = u'.1) : path = path' := by
  apply List.ext_getElem?
  intro i
  have hseg : path[i]?.map (List.map Prod.snd) =
      path'[i]?.map (List.map Prod.snd) := by
    rw [← List.getElem?_map, ← List.getElem?_map]
    exact congrArg (·[i]?) hnodes
  cases h : path[i]? with
  | none =>
      rw [h, Option.map_none, eq_comm, Option.map_eq_none_iff] at hseg
      exact hseg.symm
  | some segPath =>
      rw [h, Option.map_some, eq_comm, Option.map_eq_some_iff] at hseg
      obtain ⟨segPath', h', heq⟩ := hseg
      rw [h', Option.some.injEq]
      have hlength : segPath.length = segPath'.length := by
        have hlength := congrArg List.length heq
        rwa [List.length_map, List.length_map, eq_comm] at hlength
      apply List.ext_getElem hlength
      intro k hk hk'
      have hsnd : segPath'[k].2 = segPath[k].2 := by
        have hget := congrArg (·[k]?) heq
        simpa [hk, hk'] using hget
      have hfst := hstages i segPath segPath' h h' segPath[k]
        (List.getElem_mem hk) segPath'[k] (List.getElem_mem hk')
      exact Prod.ext hfst hsnd.symm

theorem wellFormed_reverseForwardingPath (h : WellFormed E start ingress egress path) :
    WellFormed (flip E) 0 egress ingress (reverseForwardingPath path) where
  stages i segPath hseg u hu := by
    rw [Nat.zero_add, stage_reverseForwardingPath hseg hu]
  walk := by
    rw [nodes_reverseForwardingPath]
    exact h.walk.turn

def renumbered (start : Nat) (path : ForwardingPath) : ForwardingPath :=
  path.map (List.map fun u => (u.1 - start, u.2))

theorem reverseForwardingPath_reverseForwardingPath
    (h : WellFormed E start ingress egress path) :
    reverseForwardingPath (reverseForwardingPath path) = renumbered start path := by
  apply eq_of_nodes_eq
  · rw [nodes_reverseForwardingPath, nodes_reverseForwardingPath, turn_turn]
    simp [nodes, renumbered, Function.comp_def]
  · intro i segPath segPath' hseg hseg' u hu u' hu'
    rw [renumbered, List.getElem?_map, Option.map_eq_some_iff] at hseg'
    obtain ⟨before, hbefore, rfl⟩ := hseg'
    obtain ⟨v, hv, rfl⟩ := List.mem_map.mp hu'
    rw [stage_reverseForwardingPath hseg hu, h.stages i before hbefore v hv,
      Nat.add_sub_cancel_left]

/-- The way back of a well-formed path is well-formed, and the way back of that is the
path with its stages numbered from 0 on. -/
theorem wellFormed_and_reverse_reverse
    (h : WellFormed E start ingress egress path) :
    WellFormed (flip E) 0 egress ingress (reverseForwardingPath path) ∧
      reverseForwardingPath (reverseForwardingPath path) =
        renumbered start path :=
  ⟨wellFormed_reverseForwardingPath h,
    reverseForwardingPath_reverseForwardingPath h⟩

def overOneServer : ForwardingPath :=
  [[(1, 10001), (1, 15), (1, 14), (1, 10002)], [(2, 10002), (2, 14), (2, 10003)]]

theorem wellFormed_overOneServer :
    WellFormed (fun a b => a ≠ b) 1 10001 10003 overOneServer where
  stages i segPath hseg u hu := by
    match i with
    | 0 =>
        obtain rfl := Option.some.inj hseg
        revert u
        decide
    | 1 =>
        obtain rfl := Option.some.inj hseg
        revert u
        decide
  walk :=
    { steps := by decide
      shares := List.isChain_pair.mpr ⟨10002, rfl, rfl⟩
      first := rfl
      last := rfl }

theorem wellFormed_and_reverse_reverse_overOneServer :
    WellFormed (flip fun a b => a ≠ b) 0 10003 10001
        (reverseForwardingPath overOneServer) ∧
      reverseForwardingPath (reverseForwardingPath overOneServer) =
        renumbered 1 overOneServer :=
  wellFormed_and_reverse_reverse wellFormed_overOneServer

example : reverseForwardingPath overOneServer =
    [[(0, 10003), (0, 14), (0, 10002)],
      [(1, 10002), (1, 14), (1, 15), (1, 10001)]] := rfl

end PathServerFiller

/-! ## The paths of the algorithm -/

section Serves

variable {dib : DCNInfoBase} {zoneName : Zone} {sfc : SFC} {ingID egID : Nat}
  {path : ForwardingPath}

def GoesOn (dib : DCNInfoBase) (zoneName : Zone) (a b : Nat) : Prop :=
  b = a ∨ Adjacent dib zoneName a b

theorem Serves.wellFormed (h : Serves dib zoneName sfc ingID egID path) :
    WellFormed (GoesOn dib zoneName) 0 ingID egID path where
  stages i segPath hseg u hu := by
    rw [Nat.zero_add]
    exact h.layers i segPath hseg u hu
  walk :=
    { steps := by
        intro s hs
        obtain ⟨segPath, hseg, rfl⟩ := List.mem_map.mp hs
        rw [List.isChain_map]
        exact h.contiguous segPath hseg
      shares := by
        rw [nodes, List.isChain_map, List.isChain_iff_getElem]
        intro i hi
        have hlt : i < sfc.getSFCLength := by
          have hlength := h.length
          omega
        obtain ⟨vnf, host, -, -, hlast, hhead⟩ := h.hosts i hlt
        rw [List.getElem?_eq_getElem (Nat.lt_of_succ_lt hi), Option.bind_some]
          at hlast
        rw [List.getElem?_eq_getElem hi, Option.bind_some] at hhead
        exact ⟨host, by simp [hlast], by simp [hhead]⟩
      first := by
        have hfirst := congrArg (Option.map Prod.snd) h.first
        rw [nodes, List.head?_map, Option.bind_map]
        simpa [Option.map_bind, Function.comp_def] using hfirst
      last := by
        have hlast := congrArg (Option.map Prod.snd) h.last
        rw [nodes, List.getLast?_map, Option.bind_map]
        simpa [Option.map_bind, Function.comp_def] using hlast }

theorem MMLPSFC.forwardingPathSet_two (h : Serves dib zoneName sfc ingID egID path) :
    ∃ fPS rPath, forwardingPathSet path 2 = .ok fPS ∧
      fPS.primaryForwardingPath.get? DIRECTION0_PATHID_OFFSET =
        some (.path path) ∧
      fPS.primaryForwardingPath.get? DIRECTION1_PATHID_OFFSET =
        some (.path rPath) ∧
      WellFormed (flip (GoesOn dib zoneName)) 0 egID ingID rPath := by
  refine ⟨_, PathServerFiller.reverseForwardingPath path, rfl, ?_, ?_, ?_⟩
  · have hne : DIRECTION0_PATHID_OFFSET ≠ DIRECTION1_PATHID_OFFSET := by decide
    exact (Dict.get?_set_of_ne _ _ hne).trans (Dict.get?_set_self ..)
  · exact Dict.get?_set_self ..
  · exact PathServerFiller.wellFormed_reverseForwardingPath h.wellFormed

end Serves

end SelfAdaptiveMano.Mapping

import SelfAdaptiveMano.Mapping.NotVia
import SelfAdaptiveMano.Mapping.RepairedPaths

/-!
# The paths around the inner nodes

Each inner node of a segment is to have a path around it, from the node before to the
node behind it, and one only. The search for it raises at the first inner node, so that
a request keeps what it needs only when no segment of its path has an inner node.
-/

namespace SelfAdaptiveMano.Mapping

open Library

namespace NotVia

/-- Each inner node has a path around it, between its neighbours in the segment, and
there is one such path for a node and the ends of the path. -/
structure ByPassed (primaryForwardingPath : ForwardingPath)
    (backupForwardingPath : Dict ByPassKey ForwardingPath) : Prop where
  found : ∀ segPath ∈ primaryForwardingPath, ∀ layerNodeID ∈ innerNodes segPath,
    ∀ preNode nextNode, neighbours segPath layerNodeID = .ok (preNode, nextNode) →
      ∃ key path, backupForwardingPath.get? key = some [path] ∧
        key.failureLayerNodeID = layerNodeID ∧
        path.head?.map Prod.snd = some preNode.2 ∧
        path.getLast?.map Prod.snd = some nextNode.2 ∧
        ∀ u ∈ path, u.2 ≠ layerNodeID.2
  unique : ∀ key ∈ backupForwardingPath.keys, ∀ key' ∈ backupForwardingPath.keys,
    key.failureLayerNodeID = key'.failureLayerNodeID →
      key.repairLayerSwitchID = key'.repairLayerSwitchID →
        key.mergeLayerSwitchID = key'.mergeLayerSwitchID → key = key'

def FromGiven (s : NotVia) : Prop :=
  ∀ key ∈ s.backupForwardingPath.keys, key.newPathID ∈ s.given

variable {s : NotVia} {primaryForwardingPath : ForwardingPath} {byPass : ByPass}

theorem FromGiven.addByPassPath {failureLayerNodeID : LayerNode}
    {stageNum preID nextID : Nat} {path : List LayerNode} (h : s.FromGiven) :
    (s.addByPassPath failureLayerNodeID stageNum preID nextID path).FromGiven := by
  intro key hkey
  rw [NotVia.given, NotVia.addByPassPath, List.mem_range'_1]
  rcases Dict.mem_keys_set.mp hkey with hkey | rfl
  · have hgiven := List.mem_range'_1.mp (h key hkey)
    dsimp only
    omega
  · dsimp only
    omega

theorem fromGiven_notVia (hempty : s.backupForwardingPath = .empty) :
    ((notVia byPass primaryForwardingPath).finalState s).FromGiven := by
  rw [finalState_notVia]
  apply (keeps_calByPassPaths fun _ _ _ _ _ _ h => h.addByPassPath).finalState
  intro key hkey
  rw [hempty] at hkey
  cases hkey

variable {dijkstra : List Edge → LayerNode → LayerNode → Option (List LayerNode)}
  {dibDict : Nat → DCNInfoBase} {zoneName : Zone} {sfc : SFC}

theorem get?_notVia_computeByPass (hempty : s.backupForwardingPath = .empty)
    (key : ByPassKey) :
    ((notVia (computeByPass dijkstra dibDict zoneName sfc)
      primaryForwardingPath).finalState s).backupForwardingPath.get? key = none := by
  rw [Dict.get?_eq_none_iff]
  intro hkey
  have hgiven := fromGiven_notVia hempty key hkey
  rw [given_notVia_computeByPass] at hgiven
  cases hgiven

/-- From no paths on, the request has what it needs exactly when all segments of its
path are too short to have an inner node. -/
theorem byPassed_notVia_iff (hempty : s.backupForwardingPath = .empty) :
    ByPassed primaryForwardingPath
        ((notVia (computeByPass dijkstra dibDict zoneName sfc)
          primaryForwardingPath).finalState s).backupForwardingPath ↔
      ∀ segPath ∈ primaryForwardingPath, segPath.length < 5 := by
  constructor
  · intro h segPath hsegPath
    rw [← innerNodes_eq_nil_iff]
    by_contra hne
    rcases List.exists_mem_of_ne_nil _ hne with ⟨layerNodeID, hinner⟩
    rcases exists_neighbours hinner with ⟨⟨preNode, nextNode⟩, hnodes⟩
    rcases h.found segPath hsegPath layerNodeID hinner preNode nextNode hnodes with
      ⟨key, path, hget, -⟩
    rw [get?_notVia_computeByPass hempty] at hget
    cases hget
  · intro h
    constructor
    · intro segPath hsegPath layerNodeID hinner
      rw [innerNodes_eq_nil_iff.mpr (h segPath hsegPath)] at hinner
      cases hinner
    · intro key hkey
      rcases Dict.mem_keys_iff.mp hkey with ⟨path, hget⟩
      rw [get?_notVia_computeByPass hempty] at hget
      cases hget

def secondWay (_ : List Edge) (_ _ : LayerNode) : Option (List LayerNode) :=
  some [(0, 1), (0, 4), (0, 3)]

def noPaths : NotVia := ⟨0, .empty⟩

theorem byPassed_notVia_iff_threeNodes :
    ByPassed [[(0, 9), (0, 1), (0, 7)]]
      ((notVia (computeByPass secondWay (fun _ => MMLBSFC.twoWays) .simulator
        ⟨[3], [⟨3, none, .server⟩], 1, none⟩)
          [[(0, 9), (0, 1), (0, 7)]]).finalState noPaths).backupForwardingPath :=
  (byPassed_notVia_iff rfl).mpr (by decide)

/-- The switch between two others has no path around it, though there is a second
way. -/
theorem not_byPassed_notVia_fiveNodes :
    ¬ ByPassed [[(0, 9), (0, 1), (0, 2), (0, 3), (0, 7)]]
      ((notVia (computeByPass secondWay (fun _ => MMLBSFC.twoWays) .simulator
        ⟨[3], [⟨3, none, .server⟩], 1, none⟩)
          [[(0, 9), (0, 1), (0, 2), (0, 3), (0, 7)]]).finalState
            noPaths).backupForwardingPath := by
  intro h
  rcases h.found _ List.mem_cons_self (0, 2) (by decide) (0, 1) (0, 3) rfl with
    ⟨key, path, hget, -⟩
  rw [get?_notVia_computeByPass rfl] at hget
  cases hget

end NotVia

end SelfAdaptiveMano.Mapping

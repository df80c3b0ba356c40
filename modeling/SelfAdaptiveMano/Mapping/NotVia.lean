import SelfAdaptiveMano.Library.Hoare
import SelfAdaptiveMano.Mapping.FrrPathIDAllocator
import SelfAdaptiveMano.Mapping.LayeredPaths

/-!
# NotVia

`NotVia` looks at the inner nodes of each segment of the primary path of a request
and gives each of them a path around it, under the next path ID. The numbering
starts again with each request, at 1.

The path around a node comes from a layer without the node. As the code stands
there is no such layer: `addAbandonNodeIDs` leaves no list behind, so that the
test of the first link raises.
-/

namespace SelfAdaptiveMano.Mapping

open Library

structure ByPassKey where
  failureLayerNodeID : LayerNode
  repairLayerSwitchID : LayerNode
  mergeLayerSwitchID : LayerNode
  newPathID : Nat
  deriving DecidableEq, Repr

/-- The path ID given last, and the backup paths of the request. -/
structure NotVia where
  pathID : Nat
  backupForwardingPath : Dict ByPassKey ForwardingPath

namespace NotVia

abbrev ByPass := Nat → LayerNode → LayerNode → Except PyError (List LayerNode)

def hasBackupPath (s : NotVia)
    (failureElementID repairSwitchID mergeSwitchID : LayerNode) : Bool :=
  s.backupForwardingPath.keys.any fun key =>
    key.failureLayerNodeID == failureElementID &&
      key.repairLayerSwitchID == repairSwitchID &&
      key.mergeLayerSwitchID == mergeSwitchID

/-- `segPath[2:-2]`. -/
def innerNodes (segPath : List LayerNode) : List LayerNode :=
  (segPath.take (segPath.length - 2)).drop 2

/-- `segPath[index - 1]`. -/
def nodeBefore (segPath : List LayerNode) (index : Nat) :
    Except PyError LayerNode :=
  if index = 0 then itemFromEnd segPath 1 else itemAt segPath (index - 1)

/-- The nodes before and after the first place of the node in its segment. -/
def neighbours (segPath : List LayerNode) (layerNodeID : LayerNode) :
    Except PyError (LayerNode × LayerNode) := do
  let index := segPath.idxOf layerNodeID
  let preNode ← nodeBefore segPath index
  let nextNode ← itemAt segPath (index + 1)
  return (preNode, nextNode)

def modifyPathStage (path : List LayerNode) (stageNum : Nat) : ForwardingPath :=
  [path.map fun layerNodeID => (stageNum, layerNodeID.2)]

/-- `_assignPathID` and `_addByPassPath2Set`. -/
def addByPassPath (s : NotVia) (failureLayerNodeID : LayerNode)
    (stageNum preID nextID : Nat) (path : List LayerNode) : NotVia :=
  let pathID := s.pathID + 1
  ⟨pathID, s.backupForwardingPath.set
    ⟨failureLayerNodeID, (stageNum, preID), (stageNum, nextID), pathID⟩
    (modifyPathStage path stageNum)⟩

variable (byPass : ByPass)

def calByPassPath (segPath : List LayerNode) (layerNodeID : LayerNode) :
    PyM NotVia PUnit := do
  let (preNode, nextNode) ← PyM.ofExcept (neighbours segPath layerNodeID)
  let s ← get
  if s.hasBackupPath layerNodeID (0, preNode.2) (0, nextNode.2) then
    return
  else
    let path ← PyM.ofExcept (byPass layerNodeID.2 (0, preNode.2) (0, nextNode.2))
    set (s.addByPassPath layerNodeID preNode.1 preNode.2 nextNode.2 path)

def calByPassPaths4SegPath (segPath : List LayerNode) : PyM NotVia PUnit :=
  if segPath.length < 5 then pure ⟨⟩
  else (innerNodes segPath).forM (calByPassPath byPass segPath)

/-- The turn of `notVia` for one request. -/
def notVia (primaryForwardingPath : ForwardingPath) : PyM NotVia PUnit := do
  modify fun s => { s with pathID := 0 }
  primaryForwardingPath.forM (calByPassPaths4SegPath byPass)

/-- The path around a node as the code computes it. There is an information base
for each node that is given up, and `dijkstra` is the shortest path of a graph. -/
def computeByPass
    (dijkstra : List Edge → LayerNode → LayerNode → Option (List LayerNode))
    (dibDict : Nat → DCNInfoBase) (zoneName : Zone) (sfc : SFC) : ByPass :=
  fun abandonNodeID startLayerNodeID endLayerNodeID => do
    let mlg ← (MultiLayerGraph.load (dibDict abandonNodeID) zoneName sfc
      false fun _ _ => .ok 1).addAbandonNodeIDs [abandonNodeID]
    let graph ← mlg.genOneLayer 0 true
    match dijkstra graph startLayerNodeID endLayerNodeID with
    | none => throw (.valueError "can't compute path")
    | some path => return path

/-! ## The first path ID -/

/-- The node has no path around it yet: `neighbours` are those it is between. -/
def uncovered (s : NotVia) (segPath : List LayerNode) (layerNodeID : LayerNode) :
    Bool :=
  match neighbours segPath layerNodeID with
  | .error _ => false
  | .ok (preNode, nextNode) =>
      !s.hasBackupPath layerNodeID (0, preNode.2) (0, nextNode.2)

def byPassOf (segPath : List LayerNode) (layerNodeID : LayerNode) :
    Except PyError (List LayerNode) := do
  let (preNode, nextNode) ← neighbours segPath layerNodeID
  byPass layerNodeID.2 (0, preNode.2) (0, nextNode.2)

def allInnerNodes (primaryForwardingPath : ForwardingPath) :
    List (List LayerNode × LayerNode) :=
  primaryForwardingPath.flatMap fun segPath =>
    (innerNodes segPath).map fun layerNodeID => (segPath, layerNodeID)

variable {byPass} {s s' : NotVia} {segPath : List LayerNode}
  {layerNodeID : LayerNode}

theorem idxOf_lt_of_mem_innerNodes (h : layerNodeID ∈ innerNodes segPath) :
    segPath.idxOf layerNodeID < segPath.length - 2 := by
  have hmem := List.mem_of_mem_drop h
  have hlt := List.idxOf_lt_length_of_mem hmem
  rw [List.length_take] at hlt
  rw [← List.take_append_drop (segPath.length - 2) segPath,
    List.idxOf_append_of_mem hmem, List.take_append_drop]
  omega

theorem exists_neighbours (h : layerNodeID ∈ innerNodes segPath) :
    ∃ nodes, neighbours segPath layerNodeID = .ok nodes := by
  have hindex := idxOf_lt_of_mem_innerNodes h
  have hpre : ∃ preNode,
      nodeBefore segPath (segPath.idxOf layerNodeID) = .ok preNode := by
    rw [nodeBefore]
    split
    · exact ⟨segPath[segPath.length - 1], itemFromEnd_eq_ok_iff.mpr
        ⟨by omega, List.getElem?_eq_getElem _⟩⟩
    · exact ⟨segPath[segPath.idxOf layerNodeID - 1],
        itemAt_eq_ok_iff.mpr (List.getElem?_eq_getElem _)⟩
  have hnext : ∃ nextNode,
      itemAt segPath (segPath.idxOf layerNodeID + 1) = .ok nextNode :=
    ⟨segPath[segPath.idxOf layerNodeID + 1],
      itemAt_eq_ok_iff.mpr (List.getElem?_eq_getElem _)⟩
  obtain ⟨preNode, hpre⟩ := hpre
  obtain ⟨nextNode, hnext⟩ := hnext
  refine ⟨(preNode, nextNode), ?_⟩
  rw [neighbours, except_bind_eq_ok_iff]
  exact ⟨preNode, hpre, except_bind_eq_ok_iff.mpr ⟨nextNode, hnext, rfl⟩⟩

theorem run_calByPassPath_covered (h : layerNodeID ∈ innerNodes segPath)
    (hcovered : s.uncovered segPath layerNodeID = false) :
    (calByPassPath byPass segPath layerNodeID).run s = .ok ⟨⟩ s := by
  obtain ⟨⟨preNode, nextNode⟩, hnodes⟩ := exists_neighbours h
  simp only [uncovered, hnodes, Bool.not_eq_false'] at hcovered
  rw [calByPassPath, hnodes, PyM.run_bind_ok (PyM.run_ofExcept_ok _ s),
    PyM.run_bind_get, if_pos hcovered]
  rfl

/-- A node that has none raises, or gets the next path ID. -/
theorem run_calByPassPath_uncovered (byPass : ByPass)
    (h : layerNodeID ∈ innerNodes segPath)
    (huncovered : s.uncovered segPath layerNodeID = true) :
    match byPassOf byPass segPath layerNodeID with
    | .error e =>
        (calByPassPath byPass segPath layerNodeID).run s = .error e s
    | .ok _ => ∃ s', (calByPassPath byPass segPath layerNodeID).run s =
        .ok ⟨⟩ s' ∧ s'.pathID = s.pathID + 1 := by
  obtain ⟨⟨preNode, nextNode⟩, hnodes⟩ := exists_neighbours h
  simp only [uncovered, hnodes, Bool.not_eq_true'] at huncovered
  have hbyPass : byPassOf byPass segPath layerNodeID =
      byPass layerNodeID.2 (0, preNode.2) (0, nextNode.2) := by
    rw [byPassOf, hnodes]
    rfl
  rw [hbyPass, calByPassPath, hnodes,
    PyM.run_bind_ok (PyM.run_ofExcept_ok _ s), PyM.run_bind_get,
    if_neg (Bool.not_eq_true _ ▸ huncovered)]
  cases byPass layerNodeID.2 (0, preNode.2) (0, nextNode.2) with
  | error e => rfl
  | ok path => exact ⟨_, rfl, rfl⟩

/-- The turns of both loops of `notVia`. -/
def calByPassPaths (byPass : ByPass) (turns : List (List LayerNode × LayerNode)) :
    PyM NotVia PUnit :=
  turns.forM fun turn => calByPassPath byPass turn.1 turn.2

theorem innerNodes_eq_nil_iff : innerNodes segPath = [] ↔ segPath.length < 5 := by
  rw [innerNodes, List.drop_eq_nil_iff, List.length_take]
  omega

theorem forM_calByPassPaths4SegPath (primaryForwardingPath : ForwardingPath) :
    primaryForwardingPath.forM (calByPassPaths4SegPath byPass) =
      calByPassPaths byPass (allInnerNodes primaryForwardingPath) := by
  rw [calByPassPaths, allInnerNodes, ← PyM.forM_forM_eq]
  congr 1
  funext segPath
  rw [calByPassPaths4SegPath]
  split
  next hlt => rw [innerNodes_eq_nil_iff.mpr hlt]; rfl
  next => rfl

theorem mem_innerNodes_of_mem_allInnerNodes
    {primaryForwardingPath : ForwardingPath}
    {turn : List LayerNode × LayerNode}
    (h : turn ∈ allInnerNodes primaryForwardingPath) :
    turn.2 ∈ innerNodes turn.1 := by
  obtain ⟨segPath, -, h⟩ := List.mem_flatMap.mp h
  obtain ⟨layerNodeID, hinner, rfl⟩ := List.mem_map.mp h
  exact hinner

variable {turns : List (List LayerNode × LayerNode)}

theorem keeps_calByPassPaths {I : NotVia → Prop}
    (h : ∀ s failureLayerNodeID stageNum preID nextID path, I s →
      I (s.addByPassPath failureLayerNodeID stageNum preID nextID path)) :
    PyM.Keeps I (calByPassPaths byPass turns) := by
  refine PyM.Keeps.forM fun turn _ => PyM.Meets.bind_ofExcept (fun nodes _ => ?_)
    fun s hs => hs
  refine PyM.Meets.bind_get fun s hs => PyM.Meets.ite (fun _ => ?_) fun _ => ?_
  · intro s' heq
    exact heq ▸ hs
  · refine PyM.Meets.bind_ofExcept (fun path _ => ?_) fun s' heq => heq ▸ hs
    intro s' _
    exact h s _ _ _ _ path hs

theorem le_pathID_finalState (byPass : ByPass)
    (turns : List (List LayerNode × LayerNode)) (s : NotVia) :
    s.pathID ≤ ((calByPassPaths byPass turns).finalState s).pathID :=
  (keeps_calByPassPaths (I := fun s' => s.pathID ≤ s'.pathID)
    fun _ _ _ _ _ _ hle => Nat.le_succ_of_le hle).finalState le_rfl

theorem pathID_finalState_eq_iff
    (hturns : ∀ turn ∈ turns, turn.2 ∈ innerNodes turn.1) :
    ((calByPassPaths byPass turns).finalState s).pathID = s.pathID ↔
      ∀ turn, (turns.find? fun turn => s.uncovered turn.1 turn.2) = some turn →
        ∃ e, byPassOf byPass turn.1 turn.2 = .error e := by
  induction turns with
  | nil => simp [calByPassPaths, PyM.finalState]
  | cons turn turns ih =>
      obtain ⟨hturn, hturns⟩ := List.forall_mem_cons.mp hturns
      change ((calByPassPath byPass turn.1 turn.2 >>= fun _ =>
        calByPassPaths byPass turns).finalState s).pathID = _ ↔ _
      rw [PyM.finalState_bind]
      cases huncovered : s.uncovered turn.1 turn.2 with
      | false =>
          rw [run_calByPassPath_covered hturn huncovered, List.find?_cons,
            huncovered]
          exact ih hturns
      | true =>
          have hrun := run_calByPassPath_uncovered byPass hturn huncovered
          rw [List.find?_cons, huncovered]
          cases hbyPass : byPassOf byPass turn.1 turn.2 with
          | error e =>
              simp only [hbyPass] at hrun
              rw [hrun]
              simp [hbyPass]
          | ok path =>
              simp only [hbyPass] at hrun
              obtain ⟨s', hrun, hpathID⟩ := hrun
              have hle := le_pathID_finalState byPass turns s'
              rw [hrun]
              simp only [Option.some.injEq, forall_eq', hbyPass]
              constructor
              · intro heq
                omega
              · rintro ⟨e, he⟩
                cases he

def given (s : NotVia) : List Nat := List.range' 1 s.pathID

theorem pathIDsOk_given_iff : PathIDsOk s.given ↔ s.pathID = 0 := by
  constructor
  · intro h
    by_contra hne
    have hmem : 1 ∈ s.given := List.mem_range'_1.mpr (by omega)
    exact (h.2 1 hmem).1 rfl
  · intro h
    rw [given, h]
    exact ⟨List.nodup_nil, fun pathID hmem => absurd hmem List.not_mem_nil⟩

/-- The node that `notVia` comes to first among those without a path around. -/
def firstUncovered (s : NotVia) (primaryForwardingPath : ForwardingPath) :
    Option (List LayerNode × LayerNode) :=
  (allInnerNodes primaryForwardingPath).find? fun turn =>
    s.uncovered turn.1 turn.2

theorem finalState_notVia (byPass : ByPass) (s : NotVia)
    (primaryForwardingPath : ForwardingPath) :
    (notVia byPass primaryForwardingPath).finalState s =
      (calByPassPaths byPass (allInnerNodes primaryForwardingPath)).finalState
        { s with pathID := 0 } := by
  rw [← forM_calByPassPaths4SegPath]
  rfl

theorem pathIDsOk_notVia_iff (byPass : ByPass) (s : NotVia)
    (primaryForwardingPath : ForwardingPath) :
    PathIDsOk ((notVia byPass primaryForwardingPath).finalState s).given ↔
      ∀ turn, s.firstUncovered primaryForwardingPath = some turn →
        ∃ e, byPassOf byPass turn.1 turn.2 = .error e := by
  rw [pathIDsOk_given_iff, finalState_notVia]
  exact pathID_finalState_eq_iff (s := { s with pathID := 0 })
    fun turn => mem_innerNodes_of_mem_allInnerNodes

/-- A path around a node is never found. -/
theorem computeByPass_ne_ok
    {dijkstra : List Edge → LayerNode → LayerNode → Option (List LayerNode)}
    {dibDict : Nat → DCNInfoBase} {zoneName : Zone} {sfc : SFC}
    {abandonNodeID : Nat}
    {startLayerNodeID endLayerNodeID : LayerNode} {path : List LayerNode} :
    computeByPass dijkstra dibDict zoneName sfc abandonNodeID startLayerNodeID
      endLayerNodeID ≠ .ok path := by
  intro h
  obtain ⟨mlg, hmlg, h⟩ := except_bind_eq_ok_iff.mp h
  obtain rfl := Except.ok.inj hmlg
  obtain ⟨graph, hgraph, -⟩ := except_bind_eq_ok_iff.mp h
  obtain ⟨edge, hedge⟩ :=
    List.exists_mem_of_ne_nil graph (MultiLayerGraph.ne_nil_of_genOneLayer hgraph)
  obtain ⟨-, -, hcarries⟩ :=
    MultiLayerGraph.carries_of_mem_genOneLayer hgraph hedge
  obtain ⟨nodes, hnodes, -⟩ := hcarries.source.notAbandoned
  cases hnodes

theorem given_notVia_computeByPass
    (dijkstra : List Edge → LayerNode → LayerNode → Option (List LayerNode))
    (dibDict : Nat → DCNInfoBase) (zoneName : Zone) (sfc : SFC) (s : NotVia)
    (primaryForwardingPath : ForwardingPath) :
    ((notVia (computeByPass dijkstra dibDict zoneName sfc)
      primaryForwardingPath).finalState s).given = [] := by
  have hzero := pathIDsOk_given_iff.mp ((pathIDsOk_notVia_iff
    (computeByPass dijkstra dibDict zoneName sfc) s primaryForwardingPath).mpr ?_)
  · rw [given, hzero]
    rfl
  · intro turn _
    cases h : byPassOf (computeByPass dijkstra dibDict zoneName sfc) turn.1
        turn.2 with
    | error e => exact ⟨e, rfl⟩
    | ok path =>
        obtain ⟨nodes, -, hpath⟩ := except_bind_eq_ok_iff.mp h
        exact absurd hpath computeByPass_ne_ok

end NotVia

end SelfAdaptiveMano.Mapping

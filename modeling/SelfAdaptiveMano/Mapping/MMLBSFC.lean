import SelfAdaptiveMano.Mapping.FilledPaths

/-!
# The backup paths of MMLBSFC

For the failure of a switch or server on the primary path of a request, `MMLBSFC`
looks for the node before the failed one, the repair switch, computes a path from
there to the egress that does without the failed element, and fills servers into
it. The path is tried with respect to the capacities first, and then without.

The backup path replaces the primary one from the repair switch on.
-/

namespace SelfAdaptiveMano.Mapping

open Library LayeredWalk MultiLayerGraph

structure PathFinder where
  dijkstra : List Edge → LayerNode → LayerNode → Option (List LayerNode)
  path_spec : ∀ {edges source target path},
    dijkstra edges source target = some path →
      path.IsChain (HasEdge edges) ∧ path.head? = some source ∧
        path.getLast? = some target

/-- What `MMLBSFC` knows when it looks for the backup path of a request. The egress
is a server, at the egress switch: the constructor asks for the switch of it. -/
structure MMLBSFC where
  dib : DCNInfoBase
  zoneName : Zone
  sfc : SFC
  egressID : Nat
  egSwitchID : Nat
  connected : Connected dib zoneName egSwitchID egressID
  weight : LayerNode → LayerNode → Except PyError ℚ

namespace MMLBSFC

/-! ## The repair switch -/

/-- The loop of `_hasRepairSwitch` over the segments. -/
def hasRepairSwitchIn (dib : DCNInfoBase) (failureID : Nat) :
    ForwardingPath → Except PyError Bool
  | [] => .ok false
  | segPath :: forwardingPath => do
      let (_, nodeID) ← itemAt segPath 0
      if nodeID = failureID then
        return false
      else if (steps segPath).any fun step =>
          step.2.2 == failureID && dib.isSwitchID step.1.2 then
        return true
      else
        hasRepairSwitchIn dib failureID forwardingPath

/-- The source and its switch, and the destination and its switch, cannot be
repaired. -/
def hasRepairSwitch (dib : DCNInfoBase) (forwardingPath : ForwardingPath)
    (failureID : Nat) : Except PyError Bool := do
  let firstSegPath ← itemAt forwardingPath 0
  let lastSegPath ← itemFromEnd forwardingPath 1
  let source ← itemAt firstSegPath 0
  let firstSff ← itemAt firstSegPath 1
  let destination ← itemFromEnd lastSegPath 1
  let lastSff ← itemFromEnd lastSegPath 2
  if failureID ∈ [source.2, firstSff.2, destination.2, lastSff.2] then
    return false
  else
    hasRepairSwitchIn dib failureID forwardingPath

/-- `_getRepairSwitchLayerSwitchID`: the node before the failed one. -/
def getRepairSwitchLayerSwitchID (failureID : Nat) :
    ForwardingPath → Except PyError LayerNode
  | [] => .error (.valueError "Can't find repair switch")
  | segPath :: forwardingPath =>
      match (steps segPath).find? fun step => step.2.2 == failureID with
      | some step => .ok step.1
      | none => getRepairSwitchLayerSwitchID failureID forwardingPath

/-- `_getUnaffectedPartOfPrimaryForwardingPath`: the path up to the failed
element. -/
def getUnaffectedPart (failureID : Nat) : ForwardingPath → ForwardingPath
  | [] => []
  | segPath :: forwardingPath =>
      if failureID ∈ segPath.map Prod.snd then
        [segPath.takeWhile fun u => u.2 ≠ failureID]
      else segPath :: getUnaffectedPart failureID forwardingPath

/-! ## The backup path -/

variable (b : MMLBSFC) (finder : PathFinder) (failureID : Nat)

/-- There is no performance model: the constructor does not run that of the
filler. -/
def filler : PathServerFiller := ⟨b.dib, b.zoneName, b.sfc, false⟩

def selectNPoPNodeAndServers (path : List LayerNode) :
    Except PyError ForwardingPath := do
  let dividedPath ← PathServerFiller.addEndNodeID2DividedPath
    (PathServerFiller.dividePath path) b.egressID
  let serverList ← b.filler.selectNFVI4EachStage dividedPath [failureID]
  PathServerFiller.addNFVI2Path dividedPath serverList

def tryBackupPath (repair : LayerNode) (capacityAwareFlag : Bool) :
    Except PyError ForwardingPath := do
  let mlg ← (MultiLayerGraph.load b.dib b.zoneName b.sfc false
    b.weight).addAbandonNodes [failureID]
  let edges ← mlg.trans2MLG capacityAwareFlag
  match finder.dijkstra edges repair (b.sfc.getSFCLength, b.egSwitchID) with
  | none => throw (.valueError "can't compute path")
  | some path => b.selectNPoPNodeAndServers failureID path

/-- The path is tried without the capacities when it cannot be found with them. -/
def getBackupPath (repair : LayerNode) : Except PyError ForwardingPath :=
  match b.tryBackupPath finder failureID repair true with
  | .ok path => .ok path
  | .error _ => b.tryBackupPath finder failureID repair false

/-- The repair switch and the backup path for the failure, if there are any. The
latency check that follows may turn the path down. -/
def genBackupPath (forwardingPath : ForwardingPath) :
    Except PyError (Option (LayerNode × ForwardingPath)) :=
  match hasRepairSwitch b.dib forwardingPath failureID with
  | .error _ => .ok none
  | .ok false => .ok none
  | .ok true =>
      match getRepairSwitchLayerSwitchID failureID forwardingPath with
      | .error _ => .ok none
      | .ok repair => do
          let path ← b.getBackupPath finder failureID repair
          return some (repair, path)

/-- `_mergePath2UFP`: the unaffected part, extended by the backup path. -/
def mergePath2UFP (path unaffectedForwardingPath : ForwardingPath) :
    Except PyError ForwardingPath := do
  let firstSegPath ← itemAt path 0
  let uFP ← changeItem unaffectedForwardingPath
    (unaffectedForwardingPath.length - 1) fun segPath =>
      segPath ++ firstSegPath.tail
  return uFP ++ path.tail

end MMLBSFC

end SelfAdaptiveMano.Mapping

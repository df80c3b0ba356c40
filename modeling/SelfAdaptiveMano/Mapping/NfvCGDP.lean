import SelfAdaptiveMano.Mapping.LayeredPaths
import Mathlib.Algebra.BigOperators.Fin

/-!
# The master problem of the column generation

Each request has candidate paths through the layers, its configurations, and
chooses a primary and a backup one among them. The rows of the problem bound what
the chosen paths put on a link and on the servers at a switch. Their coefficients
are read from two tables: which links a path uses, in either direction, and which
types of VNF it places at which switches.

The tables are kept for each chain and path index; here they are functions of the
chain and the path.
-/

namespace SelfAdaptiveMano.Mapping

open Library LayeredWalk

/-- The ingress switch, the egress switch and the types of the VNFs. -/
abbrev SDC := Nat × Nat × List Nat

structure CGRequest where
  sdc : SDC
  trafficDemand : ℚ

namespace CGRequest

def vnfSeqList (request : CGRequest) : List Nat := request.sdc.2.2

end CGRequest

structure NFVCGDedicatedProtection where
  dib : DCNInfoBase
  zoneName : Zone
  requestList : List CGRequest
  configurations : Dict SDC (List (List LayerNode))

/-- The last entry of the key of a variable. -/
inductive PathRole where
  | p
  | b
  deriving DecidableEq, Repr

namespace PathRole

instance : Fintype PathRole := ⟨{.p, .b}, fun role => by cases role <;> decide⟩

end PathRole

namespace NFVCGDedicatedProtection

variable (g : NFVCGDedicatedProtection)

/-! ## Links -/

/-- The links of the zone; a zone without any raises. -/
def linkIDs : List (Nat × Nat) :=
  match g.dib.getLinksByZone g.zoneName false with
  | .ok links => links.map fun info => (info.link.srcID, info.link.dstID)
  | .error _ => []

/-- `_genPhysicalLink`: the links between switches. -/
def physicalLink : List (Nat × Nat) :=
  g.linkIDs.filter fun linkID =>
    !(g.dib.isServerID linkID.1 || g.dib.isServerID linkID.2)

def getLinkIDList4ForwardingPath (path : List LayerNode) : List (Nat × Nat) :=
  (steps path).filterMap fun step =>
    if step.1.1 = step.2.1 then some (step.1.2, step.2.2) else none

def initPathLinkVar : Dict (Nat × Nat) Nat :=
  g.linkIDs.foldl (fun pathLinkVar linkID => pathLinkVar.set linkID 0) .empty

def pathLinkVar (path : List LayerNode) : Dict (Nat × Nat) Nat :=
  (getLinkIDList4ForwardingPath path).foldl (fun pathLinkVar linkID =>
    (pathLinkVar.set linkID 1).set linkID.swap 1) g.initPathLinkVar

/-- A link without an entry has no term in its row. -/
def linkCapacityCoeff (request : CGRequest) (path : List LayerNode)
    (linkID : Nat × Nat) : ℚ :=
  match (g.pathLinkVar path).get? linkID with
  | some pathLinkVar => pathLinkVar * request.trafficDemand
  | none => 0

/-! ## Switches -/

def switchIDs : List Nat :=
  match g.dib.switches.get? g.zoneName with
  | some switches => switches.keys
  | none => []

def initAVar : Dict (Nat × Nat) Nat :=
  g.linkIDs.foldl (fun aVar linkID =>
    (List.range PerformanceModel.VNF_TYPE_MAX).foldl (fun aVar vnfType =>
      aVar.set (vnfType, linkID.2) 0) aVar) .empty

/-- One turn of the loop of `_genAVar`. -/
def markVNF (vnfSeqList : List Nat) (aVar : Dict (Nat × Nat) Nat)
    (step : LayerNode × LayerNode) : Except PyError (Dict (Nat × Nat) Nat) :=
  if step.1.1 ≠ step.2.1 then do
    let vnfType ← itemAt vnfSeqList step.1.1
    return aVar.set (vnfType, step.1.2) 1
  else
    return aVar

def aVar (vnfSeqList : List Nat) (path : List LayerNode) :
    Except PyError (Dict (Nat × Nat) Nat) :=
  (steps path).foldlM (markVNF vnfSeqList) g.initAVar

/-- `requestVNFServerRes`: the cores that the VNF takes. -/
def requestVNFServerRes (request : CGRequest) (vnfType : Nat) :
    Except PyError ℚ := do
  let resource ← PerformanceModel.getExpectedServerResource vnfType
    request.trafficDemand
  return resource.cores

/-- One turn of the loop of `_genNodeCapacityCoeff` over the VNFs. -/
def addResConsume (request : CGRequest) (aVar : Dict (Nat × Nat) Nat)
    (switchID : Nat) (resConsumeInThisSwitch : ℚ) (vnfType : Nat) :
    Except PyError ℚ :=
  match aVar.get? (vnfType, switchID) with
  | none => .error .keyError
  | some mark =>
      if mark = 1 then do
        let resConsume ← requestVNFServerRes request vnfType
        return resConsumeInThisSwitch + resConsume
      else
        return resConsumeInThisSwitch

def nodeCapacityCoeff (request : CGRequest) (path : List LayerNode)
    (switchID : Nat) : Except PyError ℚ := do
  let aVar ← g.aVar request.vnfSeqList path
  request.vnfSeqList.foldlM (addResConsume request aVar switchID) 0

/-! ## Rows -/

/-- The candidate paths of a request; a chain without any raises. -/
def pathList (rIndex : Fin g.requestList.length) : List (List LayerNode) :=
  (g.configurations.get? (g.requestList.get rIndex).sdc).getD []

/-- The left side of a row, for the values `y` of the variables. -/
def row (coeff : Fin g.requestList.length → List LayerNode → ℚ)
    (y : Fin g.requestList.length → Nat → PathRole → ℚ) : ℚ :=
  ∑ rIndex, ∑ pathIndex : Fin (g.pathList rIndex).length, ∑ pb,
    coeff rIndex (g.pathList rIndex)[pathIndex] * y rIndex pathIndex pb

end NFVCGDedicatedProtection

end SelfAdaptiveMano.Mapping

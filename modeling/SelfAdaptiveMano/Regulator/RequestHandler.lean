import SelfAdaptiveMano.Library.Machine
import SelfAdaptiveMano.Orchestration.OrchInfoBase
import SelfAdaptiveMano.Regulator.Config
import Mathlib.Logic.Function.Basic

/-!
# The request handler of the Regulator

The handler forwards a request to the dispatcher when the states of its SFC and
SFCI allow it, and parks it otherwise. A request to put an SFC under manual
control or back is carried out here. In each turn of the main loop the parked
requests are handled again, or rejected when they have waited for too long.

An exception is caught in `handle`. The branch for `ADD_SFCI` reads a variable
that only the other branches assign.
-/

namespace SelfAdaptiveMano.Regulator

open Library

/-- A request as it comes to the Regulator: `newState` is the attribute of an
`UPDATE_SFC_STATE`. -/
structure RegulatorRequest extends Request where
  newState : Option SFCState
  deriving DecidableEq

/-- What was done with a request: it was sent to the dispatcher, carried out, or
stored as rejected. -/
inductive Decision where
  | forwarded
  | applied
  | rejected
  deriving DecidableEq, Repr

/-- The handler with the information base and its clock. `log`, `arrived` and
`rejectedWhileParked` are kept for the record. -/
structure RequestHandler where
  oib : OrchInfoBase
  taskDict : RequestType → Dict UUID (RegulatorRequest × Nat)
  now : Nat
  log : List (Decision × RegulatorRequest)
  arrived : List RegulatorRequest
  rejectedWhileParked : List UUID

namespace RequestHandler

/-- The keys of `_taskDict`, in their order. -/
def taskTypes : List RequestType :=
  [.updateSFCState, .addSFC, .addSFCI, .delSFCI, .delSFC]

def isParked (s : RequestHandler) (request : RegulatorRequest) : Bool :=
  (s.taskDict request.requestType).contains request.requestID

def note (decision : Decision) (request : RegulatorRequest)
    (s : RequestHandler) : RequestHandler :=
  { s with log := s.log ++ [(decision, request)] }

/-- `self._taskDict[requestType][request.requestID] = (request, timestamp)` -/
def park (request : RegulatorRequest) (s : RequestHandler) : RequestHandler :=
  { s with
    taskDict := Function.update s.taskDict request.requestType
      ((s.taskDict request.requestType).set request.requestID
        (request, s.now)) }

/-- `del self._taskDict[requestType][requestID]`, if it is there. -/
def unpark (requestType : RequestType) (requestID : UUID) (s : RequestHandler) :
    RequestHandler :=
  { s with
    taskDict := Function.update s.taskDict requestType
      ((s.taskDict requestType).erase requestID) }

/-- `updateRequestState2DB(request, REQUEST_STATE_REJECT)` -/
def reject (request : RegulatorRequest) (s : RequestHandler) : RequestHandler :=
  { s.note .rejected request with
    oib := s.oib.updateRequestState2DB request.toRequest .reject }

def isValidToTransSFCState (curSFCState : Option SFCState)
    (newSFCState : SFCState) : Bool :=
  decide ((curSFCState = some .active ∧ newSFCState = .manual) ∨
    (curSFCState = some .manual ∧ newSFCState = .active))

def isValidDelSFCIRequest (oib : OrchInfoBase) (sfcState : Option SFCState)
    (sfciID : Nat) : Bool :=
  decide (sfcState = some .manual) && oib.isDelSFCIValidState sfciID

def forwardOrPark (valid : Bool) (request : RegulatorRequest) :
    PyM RequestHandler Unit :=
  modify fun s =>
    if valid then
      (s.note .forwarded request).unpark request.requestType request.requestID
    else s.park request

def updateSFCStateRequest (request : RegulatorRequest) :
    PyM RequestHandler Unit := do
  let sfc ← PyM.ofOption .keyError request.attributes.sfc
  let newState ← PyM.ofOption .keyError request.newState
  modify fun s =>
    let sfcState := s.oib.getSFCState sfc.sfcUUID
    if sfcState = some newState then
      -- a parked request stays parked
      { s.reject request with
        rejectedWhileParked := if s.isParked request then
          s.rejectedWhileParked ++ [request.requestID]
          else s.rejectedWhileParked }
    else if isValidToTransSFCState sfcState newState then
      let s := s.note .applied request
      { s.unpark request.requestType request.requestID with
        oib := s.oib.updateSFCState sfc.sfcUUID newState }
    else s.park request

def addSFCRequest (request : RegulatorRequest) : PyM RequestHandler Unit := do
  let sfc ← PyM.ofOption .keyError request.attributes.sfc
  let s ← get
  forwardOrPark (s.oib.isAddSFCValidState sfc.sfcUUID) request

/-- `sfcState` is not assigned in this branch. -/
def addSFCIRequest (request : RegulatorRequest) : PyM RequestHandler Unit := do
  let _ ← PyM.ofOption .keyError request.attributes.sfc
  let _ ← PyM.ofOption .keyError request.attributes.sfci
  throw .unboundLocalError

def delSFCIRequest (request : RegulatorRequest) : PyM RequestHandler Unit := do
  let sfc ← PyM.ofOption .keyError request.attributes.sfc
  let sfci ← PyM.ofOption .keyError request.attributes.sfci
  let s ← get
  forwardOrPark (isValidDelSFCIRequest s.oib (s.oib.getSFCState sfc.sfcUUID)
    sfci.sfciID) request

def delSFCRequest (request : RegulatorRequest) : PyM RequestHandler Unit := do
  let sfc ← PyM.ofOption .keyError request.attributes.sfc
  let s ← get
  forwardOrPark (s.oib.isDelSFCValidState sfc.sfcUUID) request

/-- The branches of `handle`. -/
def requestBranch (request : RegulatorRequest) : PyM RequestHandler Unit :=
  match request.requestType with
  | .updateSFCState => updateSFCStateRequest request
  | .addSFC => addSFCRequest request
  | .addSFCI => addSFCIRequest request
  | .delSFCI => delSFCIRequest request
  | .delSFC => delSFCRequest request
  | _ => pure ()

/-- `handle`: an exception is caught. -/
def handle (request : RegulatorRequest) (s : RequestHandler) : RequestHandler :=
  (requestBranch request).finalState s

/-- The body of the loop of `processAllRequestTask`. -/
def processRequestTask (requestType : RequestType) (s : RequestHandler)
    (e : UUID × (RegulatorRequest × Nat)) : RequestHandler :=
  let (request, timestamp) := e.2
  if s.now - timestamp > REQUEST_WAITING_TIMEOUT then
    (s.reject request).unpark requestType request.requestID
  else handle request s

def processAllRequestTask (s : RequestHandler) : RequestHandler :=
  taskTypes.foldl (fun s requestType =>
    (s.taskDict requestType).items.foldl (processRequestTask requestType) s) s

/-- What can happen: a request arrives, the parked requests are handled again,
other components write the information base, or time passes. -/
inductive Input where
  | request (request : RegulatorRequest)
  | processAllRequestTask
  | database (oib : OrchInfoBase)
  | time (now : Nat)

def step (s : RequestHandler) : Input → RequestHandler
  | .request request =>
      handle request { s with arrived := s.arrived ++ [request] }
  | .processAllRequestTask => s.processAllRequestTask
  | .database oib => { s with oib := oib }
  | .time now => { s with now := now }

def machine : Machine RequestHandler Input where
  init s := (∀ requestType, s.taskDict requestType = .empty) ∧ s.log = [] ∧
    s.arrived = [] ∧ s.rejectedWhileParked = []
  admits s
    | .request request => ∀ r ∈ s.arrived, r.requestID ≠ request.requestID
    | .time now => s.now ≤ now
    | _ => True
  step := step

def decisions (s : RequestHandler) (requestID : UUID) : List Decision :=
  (s.log.filter fun e => e.2.requestID = requestID).map Prod.fst

end RequestHandler

/-- A request of a type that the handler knows, with the attributes that its type
needs. -/
def RegulatorRequest.WellFormed (request : RegulatorRequest) : Prop :=
  match request.requestType with
  | .updateSFCState =>
      request.attributes.sfc.isSome ∧ request.newState.isSome
  | .addSFC | .delSFC => request.attributes.sfc.isSome
  | .addSFCI | .delSFCI =>
      request.attributes.sfc.isSome ∧ request.attributes.sfci.isSome
  | _ => False

end SelfAdaptiveMano.Regulator

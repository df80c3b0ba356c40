import SelfAdaptiveMano.Base.Command
import SelfAdaptiveMano.Base.Request
import SelfAdaptiveMano.Library.Python

/-!
# The information base of the Orchestrator

`OrchInfoBaseMaintainer` keeps three tables: the requests, the SFCs and the
SFCIs. A row is only inserted when there is none with its key, so that each
table is a dictionary from its key to the other columns. The handlers of the
Orchestrator write the tables when a request has been checked and when the reply
to a command arrives.

An update of a row that is not there changes nothing. A column that an update is
not given keeps its value.
-/

namespace SelfAdaptiveMano

open Library

/-- A row of the table `Request`. -/
structure RequestRow where
  requestType : RequestType
  sfcUUID : Option UUID
  sfciID : Option Nat
  cmdUUID : Option UUID
  state : RequestState
  pickle : Request
  retryCnt : Nat

/-- A row of the table `SFC`. -/
structure SFCRow where
  zoneName : Zone
  sfciIDList : List Nat
  state : SFCState
  pickle : SFC

/-- A row of the table `SFCI`. -/
structure SFCIRow where
  sfcUUID : UUID
  state : SFCState
  pickle : SFCI
  zoneName : Zone

/-- The database of `OrchInfoBaseMaintainer`. -/
structure OrchInfoBase where
  requestTable : Dict UUID RequestRow
  sfcTable : Dict UUID SFCRow
  sfciTable : Dict Nat SFCIRow

namespace OrchInfoBase

def hasRequest (oib : OrchInfoBase) (requestUUID : UUID) : Bool :=
  oib.requestTable.contains requestUUID

def addRequest (oib : OrchInfoBase) (request : Request)
    (sfcUUID : Option UUID) (sfciID : Option Nat) (cmdUUID : Option UUID) :
    OrchInfoBase :=
  if oib.hasRequest request.requestID then oib
  else
    let row : RequestRow :=
      { requestType := request.requestType, sfcUUID := sfcUUID,
        sfciID := sfciID, cmdUUID := cmdUUID, state := request.requestState,
        pickle := request, retryCnt := 0 }
    { oib with requestTable := oib.requestTable.set request.requestID row }

def updateRequest (oib : OrchInfoBase) (request : Request)
    (sfcUUID : Option UUID) (sfciID : Option Nat) (cmdUUID : Option UUID) :
    OrchInfoBase :=
  { oib with requestTable :=
      oib.requestTable.modify request.requestID fun row =>
        { row with
          requestType := request.requestType
          state := request.requestState
          pickle := request
          sfcUUID := sfcUUID.or row.sfcUUID
          sfciID := sfciID.or row.sfciID
          cmdUUID := cmdUUID.or row.cmdUUID } }

def updateRequestState2DB (oib : OrchInfoBase) (request : Request)
    (state : RequestState) : OrchInfoBase :=
  let request := { request with requestState := state }
  if oib.hasRequest request.requestID then
    { oib with requestTable :=
        oib.requestTable.modify request.requestID fun row =>
          { row with pickle := request, state := state } }
  else oib.addRequest request none none none

def incRequestRetryCnt (oib : OrchInfoBase) (requestUUID : UUID) :
    OrchInfoBase :=
  { oib with requestTable := oib.requestTable.modify requestUUID fun row =>
      { row with retryCnt := row.retryCnt + 1 } }

/-- The first request whose command has the id `cmdID`. -/
def getRequestByCmdID (oib : OrchInfoBase) (cmdID : UUID) :
    Except PyError Request :=
  match oib.requestTable.items.find? fun e => e.2.cmdUUID = some cmdID with
  | some e => .ok e.2.pickle
  | none => .error .indexError

def hasSFC (oib : OrchInfoBase) (sfcUUID : UUID) : Bool :=
  oib.sfcTable.contains sfcUUID

def updateSFC2DB (oib : OrchInfoBase) (sfc : SFC) (state : SFCState) :
    OrchInfoBase :=
  { oib with sfcTable := oib.sfcTable.modify sfc.sfcUUID fun row =>
      { row with pickle := sfc, state := state } }

def addSFC2DB (oib : OrchInfoBase) (sfc : SFC) (state : SFCState) :
    OrchInfoBase :=
  if oib.hasSFC sfc.sfcUUID then oib.updateSFC2DB sfc state
  else
    let row : SFCRow :=
      { zoneName := sfc.zone, sfciIDList := [], state := state, pickle := sfc }
    { oib with sfcTable := oib.sfcTable.set sfc.sfcUUID row }

def getSFC4DB (oib : OrchInfoBase) (sfcUUID : UUID) : Option SFC :=
  (oib.sfcTable.get? sfcUUID).map SFCRow.pickle

def getSFCIIDListOfASFC4DB (oib : OrchInfoBase) (sfcUUID : UUID) : List Nat :=
  (oib.sfcTable.get? sfcUUID).elim [] SFCRow.sfciIDList

def updateSFCState (oib : OrchInfoBase) (sfcUUID : UUID) (state : SFCState) :
    OrchInfoBase :=
  { oib with sfcTable := oib.sfcTable.modify sfcUUID fun row =>
      { row with state := state } }

def getSFCState (oib : OrchInfoBase) (sfcUUID : UUID) : Option SFCState :=
  (oib.sfcTable.get? sfcUUID).map SFCRow.state

def hasSFCI (oib : OrchInfoBase) (sfciID : Nat) : Bool :=
  oib.sfciTable.contains sfciID

def addSFCI2DB (oib : OrchInfoBase) (sfci : SFCI) (sfcUUID : UUID)
    (zoneName : Zone) : OrchInfoBase :=
  if oib.hasSFCI sfci.sfciID then oib
  else
    let row : SFCIRow :=
      { sfcUUID := sfcUUID, state := .inProcessing, pickle := sfci,
        zoneName := zoneName }
    { oib with sfciTable := oib.sfciTable.set sfci.sfciID row }

def updateSFCI2DB (oib : OrchInfoBase) (sfci : SFCI) (sfcUUID : UUID)
    (zoneName : Zone) (state : SFCState) : OrchInfoBase :=
  { oib with sfciTable := oib.sfciTable.modify sfci.sfciID fun row =>
      { row with
        pickle := sfci, sfcUUID := sfcUUID, zoneName := zoneName,
        state := state } }

def getSFCI4DB (oib : OrchInfoBase) (sfciID : Nat) : Option SFCI :=
  (oib.sfciTable.get? sfciID).map SFCIRow.pickle

def updateSFCIState (oib : OrchInfoBase) (sfciID : Nat) (state : SFCState) :
    OrchInfoBase :=
  { oib with sfciTable := oib.sfciTable.modify sfciID fun row =>
      { row with state := state } }

def getSFCIState (oib : OrchInfoBase) (sfciID : Nat) : Option SFCState :=
  (oib.sfciTable.get? sfciID).map SFCIRow.state

def isAddSFCValidState (oib : OrchInfoBase) (sfcUUID : UUID) : Bool :=
  match oib.getSFCState sfcUUID with
  | some state => state ∈ [SFCState.deleted, .initFailed]
  | none => true

def isAddSFCIValidState (oib : OrchInfoBase) (sfciID : Nat) : Bool :=
  match oib.getSFCIState sfciID with
  | some state => state ∈ [SFCState.deleted, .initFailed]
  | none => true

def isDelSFCIValidState (oib : OrchInfoBase) (sfciID : Nat) : Bool :=
  match oib.getSFCIState sfciID with
  | some state => state ∈ [SFCState.inactive, .active, .undeleted]
  | none => false

def isDelSFCValidState (oib : OrchInfoBase) (sfcUUID : UUID) : Bool :=
  match oib.getSFCState sfcUUID with
  | some state =>
      state ∈ [SFCState.manual, .recoverMode] &&
        (oib.getSFCIIDListOfASFC4DB sfcUUID).all fun sfciID =>
          oib.getSFCIState sfciID ∈ [some SFCState.deleted, some .initFailed]
  | none => false

def addCmdInfo2Request (oib : OrchInfoBase) (request : Request)
    (sfcUUID : UUID) (sfciID : Option Nat) (cmdID : UUID) : OrchInfoBase :=
  if oib.hasRequest request.requestID then
    oib.updateRequest request (some sfcUUID) sfciID (some cmdID)
  else oib.addRequest request (some sfcUUID) sfciID (some cmdID)

def addSFCRequestHandler (oib : OrchInfoBase) (request : Request) (sfc : SFC)
    (cmdID : UUID) (requestState : RequestState) (sfcState : SFCState) :
    OrchInfoBase :=
  let request := { request with requestState := requestState }
  (oib.addCmdInfo2Request request sfc.sfcUUID none cmdID).addSFC2DB sfc sfcState

/-- The branch of `addSFCIRequestHandler` with a command. -/
def addSFCIRequestHandler (oib : OrchInfoBase) (request : Request) (sfc : SFC)
    (sfci : SFCI) (cmdID : UUID) (requestState : RequestState) :
    OrchInfoBase :=
  let request := { request with requestState := requestState }
  match oib.getSFCIState sfci.sfciID with
  | some sfciState =>
      if sfciState ∈ [SFCState.deleted, .initFailed] then
        (oib.updateSFCI2DB sfci sfc.sfcUUID sfc.zone .inProcessing)
          |>.addCmdInfo2Request request sfc.sfcUUID (some sfci.sfciID) cmdID
      else
        oib.addCmdInfo2Request { request with requestState := .failed }
          sfc.sfcUUID (some sfci.sfciID) cmdID
  | none =>
      (oib.addSFCI2DB sfci sfc.sfcUUID sfc.zone)
        |>.addCmdInfo2Request request sfc.sfcUUID (some sfci.sfciID) cmdID

/-- The branch of `addSFCIRequestHandler` for a request without a command. -/
def addUnmappedSFCIRequestHandler (oib : OrchInfoBase) (request : Request)
    (sfc : SFC) (sfci : SFCI) (requestState : RequestState)
    (sfciState : SFCState) : OrchInfoBase :=
  let request := { request with requestState := requestState }
  let oib :=
    if oib.hasRequest request.requestID then
      oib.updateRequest request (some sfc.sfcUUID) none none
    else oib.addRequest request (some sfc.sfcUUID) none none
  oib.updateSFCIState sfci.sfciID sfciState

def delSFCIRequestHandler (oib : OrchInfoBase) (request : Request) (sfc : SFC)
    (sfci : SFCI) (cmdID : UUID) (requestState : RequestState)
    (sfciState : SFCState) : OrchInfoBase :=
  let request := { request with requestState := requestState }
  (oib.addCmdInfo2Request request sfc.sfcUUID (some sfci.sfciID) cmdID)
    |>.updateSFCIState sfci.sfciID sfciState

/-- Only an accepted `DEL_SFC` changes the state of the SFC. -/
def delSFCRequestHandler (oib : OrchInfoBase) (request : Request) (sfc : SFC)
    (cmdID : UUID) (requestState : RequestState) (sfcState : SFCState) :
    OrchInfoBase :=
  let request := { request with requestState := requestState }
  let oib := oib.addCmdInfo2Request request sfc.sfcUUID none cmdID
  if sfcState = .inProcessing then oib.updateSFCState sfc.sfcUUID sfcState
  else oib

def addSFCI2SFCInDB (oib : OrchInfoBase) (sfcUUID : UUID) (sfciID : Nat) :
    Except PyError OrchInfoBase :=
  match oib.sfcTable.get? sfcUUID with
  | none => .error .indexError
  | some row =>
      if sfciID ∈ row.sfciIDList then .ok oib
      else .ok { oib with sfcTable := oib.sfcTable.modify sfcUUID fun row =>
        { row with sfciIDList := row.sfciIDList ++ [sfciID] } }

/-- `_genRequestSFCAndSFCIState`: the states of the request and of the SFC or
SFCI it is about. -/
def genRequestSFCAndSFCIState (requestType : RequestType)
    (cmdState : CmdState) : Except PyError (RequestState × SFCState) :=
  match cmdState, requestType with
  | .successful, .addSFC => .ok (.successful, .active)
  | .successful, .addSFCI => .ok (.successful, .active)
  | .successful, .delSFCI => .ok (.successful, .deleted)
  | .successful, .delSFC => .ok (.successful, .deleted)
  | .fail, .addSFC => .ok (.failed, .initFailed)
  | .fail, .addSFCI => .ok (.failed, .initFailed)
  | .fail, .delSFCI => .ok (.failed, .undeleted)
  | .fail, .delSFC => .ok (.failed, .undeleted)
  | .successful, _ => .error (.valueError "Unkown request type.")
  | .fail, _ => .error (.valueError "Unkown request type.")
  | _, _ => .error (.valueError "Unknown cmd state. ")

def cmdRplyHandler (request : Request) (cmdState : CmdState) :
    PyM OrchInfoBase Unit := do
  let (requestState, state) ←
    PyM.ofExcept (genRequestSFCAndSFCIState request.requestType cmdState)
  modify fun oib => oib.updateRequestState2DB request requestState
  let sfc ← PyM.ofOption .keyError request.attributes.sfc
  match request.requestType with
  | .addSFC | .delSFC =>
      modify fun oib => oib.updateSFCState sfc.sfcUUID state
  | .addSFCI => do
      let sfci ← PyM.ofOption .keyError request.attributes.sfci
      let oib ← PyM.ofExcept ((← get).addSFCI2SFCInDB sfc.sfcUUID sfci.sfciID)
      set (oib.updateSFCIState sfci.sfciID state)
  | .delSFCI => do
      let sfci ← PyM.ofOption .keyError request.attributes.sfci
      -- the id stays in the list of the SFC
      modify fun oib => oib.updateSFCIState sfci.sfciID state
  | _ => throw (.valueError "Unknown request type ")

end OrchInfoBase

end SelfAdaptiveMano

import SelfAdaptiveMano.Orchestration.OSFCAdder
import SelfAdaptiveMano.Mediator.CommandMaintainer
import SelfAdaptiveMano.Library.Machine

/-!
# The Orchestrator

The Orchestrator checks a request against its information base, sends the
command that carries it out to the Mediator, and writes down what it did. The
reply to the command settles the state of the SFC or SFCI. Requests to add an
SFCI wait in a queue until a batch of them is mapped at once.

The Regulator works on the same information base. Its writes are steps of the
machine of their own, each under the condition that the Regulator checks.
-/

namespace SelfAdaptiveMano

open Library

/-- A command that was sent to the Mediator, with the request it was sent for.
The request is no part of the message; it is kept for the record. -/
structure Sending where
  requestID : UUID
  cmd : Command

/-- How a request was judged: its command was sent, the state of its SFC or SFCI
was not valid for it, or no mapping was found. -/
inductive Outcome where
  | sent
  | invalid
  | unmapped
  deriving DecidableEq, Repr

/-- A request that was judged: the information base and the outstanding commands
before, and the information base after. It is kept for the record. -/
structure Handled where
  request : Request
  outcome : Outcome
  before : OrchInfoBase
  cm : CommandMaintainer
  after : OrchInfoBase

structure Orchestrator where
  oib : OrchInfoBase
  cm : CommandMaintainer
  gen : CmdGenerator
  orchInstanceQueueName : String
  requestBatchQueue : List Request
  requestWaitingQueue : List Request
  runningState : Bool
  sent : List Sending
  handled : List Handled

namespace Orchestrator

def BATCH_SIZE : Nat := 100

/-- Run a method of `OSFCAdder` or `OSFCDeleter`. -/
def withGen {α : Type} (act : PyM CmdGenerator α) : PyM Orchestrator α :=
  PyM.zoom Orchestrator.gen (fun gen o => { o with gen := gen }) act

/-- Run a method of `self._cm`. -/
def withCm {α : Type} (act : PyM CommandMaintainer α) : PyM Orchestrator α :=
  PyM.zoom Orchestrator.cm (fun cm o => { o with cm := cm }) act

/-- Run a method of `self._oib`. -/
def withOib {α : Type} (act : PyM OrchInfoBase α) : PyM Orchestrator α :=
  PyM.zoom Orchestrator.oib (fun oib o => { o with oib := oib }) act

def modifyOib (f : OrchInfoBase → OrchInfoBase) : PyM Orchestrator Unit :=
  modify fun o => { o with oib := f o.oib }

def recorded (request : Request) (judge : PyM Orchestrator Outcome) :
    PyM Orchestrator Unit := do
  let o ← get
  let outcome ← judge
  modify fun o' => { o' with
    handled := o'.handled ++ [⟨request, outcome, o.oib, o.cm, o'.oib⟩] }

/-- Name the source of a command, store it and send it to the Mediator;
`requestID` is only for the record. -/
def addAndSendCmd (requestID : UUID) (cmd : Command) : PyM Orchestrator Unit := do
  let source := (← get).orchInstanceQueueName
  let cmd := { cmd with attributes := { cmd.attributes with source := some source } }
  withCm (CommandMaintainer.addCmd cmd)
  modify fun o => { o with sent := o.sent ++ [⟨requestID, cmd⟩] }

def isValidAddSFCIRequest (request : Request) : Bool :=
  match request.attributes.sfc with
  | some sfc =>
      sfc.directions.all (fun direction =>
        direction.ingress.isSome && direction.egress.isSome) &&
        request.attributes.sfci.isSome
  | none => false

/-- Keep the valid requests of the batch; the others are recorded as failed,
unless they are recorded already. -/
def processInvalidAddSFCIRequests (o : Orchestrator) : Orchestrator :=
  { o with
    oib := (o.requestBatchQueue.filter (!isValidAddSFCIRequest ·)).foldl
      (fun oib request =>
        oib.addRequest { request with requestState := .failed } none none none)
      o.oib
    requestBatchQueue := o.requestBatchQueue.filter isValidAddSFCIRequest }

def settleRequest (request : Request) (cmd : Option Command) :
    PyM Orchestrator Unit :=
  recorded request do
    match cmd with
    | some cmd => do
        let sfc ← PyM.ofOption .keyError cmd.attributes.sfc
        let sfci ← PyM.ofOption .keyError cmd.attributes.sfci
        if (← get).oib.isAddSFCIValidState sfci.sfciID then do
          addAndSendCmd request.requestID cmd
          modifyOib fun oib => oib.addSFCIRequestHandler request sfc sfci
            cmd.cmdID .inProcessing
          return .sent
        else do
          modifyOib fun oib => oib.addSFCIRequestHandler request sfc sfci
            cmd.cmdID .failed
          return .invalid
    | none => do
        let sfc ← PyM.ofOption .keyError request.attributes.sfc
        let sfci ← PyM.ofOption .keyError request.attributes.sfci
        modifyOib fun oib => oib.addUnmappedSFCIRequestHandler request sfc sfci
          .failed .initFailed
        return .unmapped

def processAllAddSFCIRequests (env : Env) : PyM Orchestrator Unit := do
  if (← get).requestBatchQueue ≠ [] ∧ (← get).runningState then do
    modify processInvalidAddSFCIRequests
    -- `_divRequest` empties the queue
    let batch := (← get).requestBatchQueue
    modify fun o => { o with requestBatchQueue := [] }
    let reqCmdTupleList ←
      withGen (OSFCAdder.genABatchOfRequestAndAddSFCICmds env batch)
    reqCmdTupleList.forM fun (request, cmd) => settleRequest request cmd
  else pure ()

def addSFCRequest (env : Env) (request : Request) : PyM Orchestrator Unit := do
  let (cmd, sfc) ← withGen (OSFCAdder.genAddSFCCmd env request)
  let request := { request with
    attributes := { request.attributes with sfc := some sfc } }
  recorded request do
    if (← get).oib.isAddSFCValidState sfc.sfcUUID then do
      addAndSendCmd request.requestID cmd
      modifyOib fun oib => oib.addSFCRequestHandler request sfc cmd.cmdID
        .inProcessing .inProcessing
      return .sent
    else do
      modifyOib fun oib => oib.addSFCRequestHandler request sfc cmd.cmdID
        .failed .initFailed
      return .invalid

def addSFCIRequest (env : Env) (request : Request) : PyM Orchestrator Unit := do
  modify fun o => { o with requestBatchQueue := o.requestBatchQueue ++ [request] }
  if BATCH_SIZE ≤ (← get).requestBatchQueue.length ∧ (← get).runningState then
    processAllAddSFCIRequests env
  else pure ()

def delSFCIRequest (request : Request) : PyM Orchestrator Unit := do
  let (cmd, sfc, sfci) ←
    withGen (OSFCDeleter.genDelSFCICmd (← get).oib request)
  let sfci ← PyM.ofOption .attributeError sfci
  recorded request do
    if (← get).oib.isDelSFCIValidState sfci.sfciID then do
      -- the ingress of the first direction is logged
      let _ ← PyM.ofOption .indexError sfc.directions[0]?
      addAndSendCmd request.requestID cmd
      modifyOib fun oib => oib.delSFCIRequestHandler request sfc sfci cmd.cmdID
        .inProcessing .inProcessing
      return .sent
    else do
      modifyOib fun oib => oib.delSFCIRequestHandler request sfc sfci cmd.cmdID
        .failed .undeleted
      return .invalid

def delSFCRequest (request : Request) : PyM Orchestrator Unit := do
  let (cmd, sfc) ← withGen (OSFCDeleter.genDelSFCCmd (← get).oib request)
  recorded request do
    if (← get).oib.isDelSFCValidState sfc.sfcUUID then do
      addAndSendCmd request.requestID cmd
      modifyOib fun oib => oib.delSFCRequestHandler request sfc cmd.cmdID
        .inProcessing .inProcessing
      return .sent
    else do
      modifyOib fun oib => oib.delSFCRequestHandler request sfc cmd.cmdID
        .failed .undeleted
      return .invalid

/-- The branches of `_requestHandler`. -/
def requestBranch (env : Env) (request : Request) : PyM Orchestrator Unit :=
  match request.requestType with
  | .addSFC => addSFCRequest env request
  | .addSFCI => addSFCIRequest env request
  | .delSFCI => delSFCIRequest request
  | .delSFC => delSFCRequest request
  -- an unknown request is logged
  | _ => pure ()

/-- `_requestHandler`: an exception is caught, and the request is recorded as
failed. -/
def requestHandler (env : Env) (request : Request) (o : Orchestrator) :
    Orchestrator :=
  match (requestBranch env request).run o with
  | .ok _ o => o
  | .error _ o =>
      { o with oib := o.oib.updateRequestState2DB request .failed }

def processAllWaitingRequest (env : Env) (o : Orchestrator) : Orchestrator :=
  if o.runningState then
    o.requestWaitingQueue.foldl (fun o request => requestHandler env request o)
      { o with requestWaitingQueue := [] }
  else o

def commandReplyHandler (cmdRply : CommandReply) : PyM Orchestrator Unit := do
  if ← withCm (CommandMaintainer.hasCmd cmdRply.cmdID) then do
    withCm (CommandMaintainer.changeCmdState cmdRply.cmdID cmdRply.cmdState)
    withCm (CommandMaintainer.addCmdRply cmdRply.cmdID cmdRply)
    let cmdType ← withCm (CommandMaintainer.getCmdType cmdRply.cmdID)
    if cmdType ∈ [.addSFC, .delSFC, .addSFCI, .delSFCI] then do
      let request ←
        PyM.ofExcept ((← get).oib.getRequestByCmdID cmdRply.cmdID)
      withOib (OrchInfoBase.cmdRplyHandler request cmdRply.cmdState)
      withCm (CommandMaintainer.delCmdwithChildCmd cmdRply.cmdID)
    else throw (.valueError "Unkonw cmd type")
  -- an unknown reply is logged
  else pure ()

inductive RegulatorUpdate where
  /-- A request to put an SFC under manual control or back. -/
  | updateSFCState (sfcUUID : UUID) (newState : SFCState)
  | scaling (sfcUUID : UUID) (mode : SFCState)
  /-- A scaling task, or the recovery of an SFC, has finished. -/
  | finish (sfcUUID : UUID)
  | recover (sfcUUID : UUID) (sfciID : Nat)
  | retry (requestID : UUID)
  | reject (request : Request)

def regulate (oib : OrchInfoBase) : RegulatorUpdate → OrchInfoBase
  | .updateSFCState sfcUUID newState =>
      let sfcState := oib.getSFCState sfcUUID
      if (sfcState = some .active ∧ newState = .manual) ∨
          (sfcState = some .manual ∧ newState = .active) then
        oib.updateSFCState sfcUUID newState
      else oib
  | .scaling sfcUUID mode =>
      if oib.getSFCState sfcUUID = some .active ∧
          mode ∈ [SFCState.scalingOutMode, .scalingInMode] then
        oib.updateSFCState sfcUUID mode
      else oib
  | .finish sfcUUID => oib.updateSFCState sfcUUID .active
  | .recover sfcUUID sfciID =>
      if oib.getSFCIState sfciID = some .active ∧
          oib.getSFCState sfcUUID ∈
            [some SFCState.active, some .recoverMode] then
        (oib.updateSFCState sfcUUID .recoverMode).updateSFCIState sfciID
          .inactive
      else oib
  | .retry requestID =>
      match oib.requestTable.get? requestID with
      | some row =>
          if row.state = .failed then
            (oib.updateRequestState2DB row.pickle .initial)
              |>.incRequestRetryCnt requestID
          else oib
      | none => oib
  | .reject request => oib.updateRequestState2DB request .reject

/-- What can happen to the Orchestrator. -/
inductive Input where
  | request (env : Env) (request : Request)
  | batchTimeout (env : Env)
  | waitingRequests (env : Env)
  | reply (cmdRply : CommandReply)
  | turn (on : Bool)
  | regulator (update : RegulatorUpdate)

/-- One step. An exception is caught by the main loop or by the handler. -/
def handle (o : Orchestrator) : Input → Orchestrator
  | .request env request =>
      if o.runningState then requestHandler env request o
      else { o with requestWaitingQueue := o.requestWaitingQueue ++ [request] }
  | .batchTimeout env => (processAllAddSFCIRequests env).finalState o
  | .waitingRequests env => processAllWaitingRequest env o
  | .reply cmdRply => (commandReplyHandler cmdRply).finalState o
  | .turn on => { o with runningState := on }
  | .regulator update => { o with oib := regulate o.oib update }

/-- What a request asks for: its type and the SFC and SFCI it names. -/
structure Content where
  requestType : RequestType
  sfcUUID : Option UUID
  sfciID : Option Nat
  deriving DecidableEq

def contentOf (request : Request) : Content where
  requestType := request.requestType
  sfcUUID := request.attributes.sfc.map SFC.sfcUUID
  sfciID := request.attributes.sfci.map SFCI.sfciID

/-- The Orchestrator with an empty information base among its neighbours. A
request that is sent once more under its id asks for the same, so that an id
stands for a content; a reply answers a command that was sent, as successful or
failed. -/
def machine (content : UUID → Content) : Machine Orchestrator Input where
  init o := o.oib = ⟨.empty, .empty, .empty⟩ ∧ o.cm = .empty ∧
    o.requestBatchQueue = [] ∧ o.requestWaitingQueue = [] ∧ o.sent = [] ∧
    o.handled = []
  admits o
    | .request _ request => contentOf request = content request.requestID
    | .regulator (.reject request) =>
        contentOf request = content request.requestID
    | .reply cmdRply =>
        (cmdRply.cmdState = .successful ∨ cmdRply.cmdState = .fail) ∧
          ∃ sending ∈ o.sent, sending.cmd.cmdID = cmdRply.cmdID
    | _ => True
  step := handle

end Orchestrator

end SelfAdaptiveMano

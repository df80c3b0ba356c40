import SelfAdaptiveMano.Dispatcher.OrchestratorManager
import SelfAdaptiveMano.Base.Request
import SelfAdaptiveMano.Library.Machine

/-!
# The Dispatcher

The Dispatcher passes each request on to the orchestrator that its SFC is
assigned to, and assigns an SFC that is to be added when it is not. It learns
from the replies of the orchestrators how they are.
-/

namespace SelfAdaptiveMano

open Library

/-- A request with its attribute `zone`. -/
structure DispatcherRequest extends Request where
  zone : Option Zone

structure Dispatcher where
  oMDict : Dict Zone OrchestratorManager
  /-- The requests that were sent, each with the queue that it was sent to. -/
  sent : List (String × DispatcherRequest)

namespace Dispatcher

/-- Run a method of the `OrchestratorManager` of a zone. -/
def onManager {α : Type} (zoneName : Zone) (act : PyM OrchestratorManager α) :
    PyM Dispatcher α := do
  let D ← get
  let oM ← PyM.ofOption .keyError (D.oMDict.get? zoneName)
  PyM.zoom (fun _ => oM)
    (fun oM' D => { D with oMDict := D.oMDict.set zoneName oM' }) act

/-- The text of a name in a queue name; a missing one is `None`. -/
def nameText : Option String → String
  | none => "None"
  | some orchName => orchName

def sendRequest2Orchestrator (request : DispatcherRequest)
    (orchName : Option String) : PyM Dispatcher Unit :=
  modify fun D => { D with
    sent := D.sent ++ [("ORCHESTRATOR_QUEUE_" ++ nameText orchName, request)] }

def selectAndAssign (zoneName : Zone) (sfc : SFC) : PyM Dispatcher String := do
  match ← onManager zoneName OrchestratorManager.selectOrchInRoundRobin with
  | none => throw (.valueError "Unavailable orchestrator.")
  | some orchName =>
      onManager zoneName
        (OrchestratorManager.assignSFC2Orchestrator sfc orchName)
      return orchName

/-- The SFC is assigned to an orchestrator whose runtime state is not valid: it
moves to another one when all its SFCIs are gone. -/
def migrateSFC (sfciState : Nat → Option SFCState) (zoneName : Zone) (sfc : SFC)
    (orchName : String) : PyM Dispatcher String := do
  if ← onManager zoneName
      (OrchestratorManager.isAllSFCIsOfASFCAreDeletedOrInitFailed sfciState
        orchName sfc.sfcUUID) then
    onManager zoneName
      (OrchestratorManager.removeSFCFromOrchestrator orchName sfc.sfcUUID)
    selectAndAssign zoneName sfc
  else
    return orchName

def orchestratorOfAddedSFC (sfciState : Nat → Option SFCState) (zoneName : Zone)
    (sfc : SFC) : PyM Dispatcher String := do
  let oM ← PyM.ofOption .keyError ((← get).oMDict.get? zoneName)
  match oM.getOrchestratorNameBySFC sfc with
  | none => selectAndAssign zoneName sfc
  | some orchName =>
      if ← onManager zoneName
          (OrchestratorManager.isOrchestratorValidRuntimeState orchName) then
        return orchName
      else
        migrateSFC sfciState zoneName sfc orchName

/-- `_requestHandler`, up to the handler of exceptions around it. `sfciState` is
what the information base says about an SFCI. -/
def requestHandler (sfciState : Nat → Option SFCState)
    (request : DispatcherRequest) : PyM Dispatcher Unit :=
  match request.requestType with
  | .addSFC => do
      let sfc ← PyM.ofOption .keyError request.attributes.sfc
      let zoneName ← PyM.ofOption .keyError request.zone
      let orchName ← orchestratorOfAddedSFC sfciState zoneName sfc
      sendRequest2Orchestrator request (some orchName)
  | .addSFCI => do
      let sfc ← PyM.ofOption .keyError request.attributes.sfc
      let sfci ← PyM.ofOption .keyError request.attributes.sfci
      let zoneName ← PyM.ofOption .keyError request.zone
      let oM ← PyM.ofOption .keyError ((← get).oMDict.get? zoneName)
      -- there is no orchestrator with the name None
      let orchName ←
        PyM.ofOption .keyError (oM.getOrchestratorNameBySFC sfc)
      onManager zoneName
        (OrchestratorManager.assignSFCI2Orchestrator sfc.sfcUUID sfci orchName)
      sendRequest2Orchestrator request (some orchName)
  | .delSFCI | .delSFC => do
      let sfc ← PyM.ofOption .keyError request.attributes.sfc
      let zoneName ← PyM.ofOption .keyError request.zone
      let oM ← PyM.ofOption .keyError ((← get).oMDict.get? zoneName)
      sendRequest2Orchestrator request (oM.getOrchestratorNameBySFC sfc)
  | _ => pure ()

/-- What the Dispatcher takes in: a request, with what the information base says
about the SFCIs at that time, or the runtime state of an orchestrator from the
reply to a command. -/
inductive Input where
  | request (request : DispatcherRequest) (sfciState : Nat → Option SFCState)
  | reply (zoneName : Zone) (orchestrationName : String)
      (runtimeState : RuntimeState)

def handler : Input → PyM Dispatcher Unit
  | .request request sfciState => requestHandler sfciState request
  | .reply zoneName orchestrationName runtimeState =>
      onManager zoneName (OrchestratorManager.setOrchestratorRuntimeState
        orchestrationName runtimeState)

def Started (D : Dispatcher) : Prop :=
  ∀ zoneName oM, D.oMDict.get? zoneName = some oM →
    ∀ orchName info, oM.info? orchName = some info →
      info = ⟨.initial, Dict.empty, Dict.empty⟩

/-- Exceptions are logged, so that the Dispatcher goes on in any case. -/
def machine : Machine Dispatcher Input where
  init := Started
  admits _ _ := True
  step D i := (handler i).finalState D

end Dispatcher

end SelfAdaptiveMano

import SelfAdaptiveMano.Orchestration.Orchestrator
import SelfAdaptiveMano.Regulator.Config

/-!
# The retries of the Regulator

From time to time the Regulator reads all requests that have failed and sends
them to the dispatcher once more. What it read is a list of rows; while it works
through the list, the Orchestrator goes on and writes the same table.

The table counts the retries of each request. A request that was retried
`MAX_RETRY_NUM` times stays failed.
-/

namespace SelfAdaptiveMano

open Library

def OrchInfoBase.delRequest (oib : OrchInfoBase) (requestUUID : UUID) :
    OrchInfoBase :=
  { oib with requestTable := oib.requestTable.erase requestUUID }

/-- `getAllRequest(" STATE = ... ")`: the rows whose state is `state`, each with
its key. -/
def OrchInfoBase.getAllRequest (oib : OrchInfoBase) (state : RequestState) :
    List (UUID × RequestRow) :=
  oib.requestTable.items.filter fun requestTuple => requestTuple.2.state = state

namespace Regulator

/-- The Regulator's retries next to an Orchestrator: the rows that are still to
be looked at, and what was sent to the dispatcher. -/
structure RetryLoop where
  orchestrator : Orchestrator
  requestTupleList : List (UUID × RequestRow)
  resent : List Request

namespace RetryLoop

def withOib (s : RetryLoop) (oib : OrchInfoBase) : RetryLoop :=
  { s with orchestrator := { s.orchestrator with oib := oib } }

/-- The body of the loop of `retryFailureRequests`; an exception ends the loop.
-/
def retry (requestUUID : UUID) (row : RequestRow) (s : RetryLoop) : RetryLoop :=
  let oib := s.orchestrator.oib
  if row.state = .failed then
    if row.retryCnt ≥ MAX_RETRY_NUM then s
    else
      match row.requestType with
      | .addSFC | .addSFCI | .delSFCI | .delSFC =>
          let oib := oib.updateRequestState2DB row.pickle .initial
          let oib := oib.incRequestRetryCnt requestUUID
          { s.withOib oib with
            resent := s.resent ++ [{ row.pickle with requestState := .initial }] }
      | .getDCNInfo => s.withOib (oib.delRequest requestUUID)
      | _ => { s with requestTupleList := [] }
  else s

/-- What can happen: a step of the Orchestrator or another write of the
Regulator, the Regulator reads the failed requests, and it looks at the next one
of them. -/
inductive Input where
  | orchestrator (i : Orchestrator.Input)
  | retryFailureRequests
  | next

def handle (s : RetryLoop) : Input → RetryLoop
  | .orchestrator i => { s with orchestrator := s.orchestrator.handle i }
  | .retryFailureRequests =>
      { s with requestTupleList := s.orchestrator.oib.getAllRequest .failed }
  | .next =>
      match s.requestTupleList with
      | [] => s
      | (requestUUID, row) :: rest =>
          retry requestUUID row { s with requestTupleList := rest }

/-- The Regulator and the Orchestrator. The type of a request is fixed by its
id. The Regulator reads the table again only when it is done with the list. -/
def machine (typeOf : UUID → RequestType) : Machine RetryLoop Input where
  init s := s.orchestrator.oib = ⟨.empty, .empty, .empty⟩ ∧
    s.orchestrator.requestBatchQueue = [] ∧
    s.orchestrator.requestWaitingQueue = [] ∧ s.requestTupleList = [] ∧
    s.resent = []
  admits s
    | .orchestrator (.request _ request) =>
        request.requestType = typeOf request.requestID
    | .orchestrator (.regulator (.reject request)) =>
        request.requestType = typeOf request.requestID
    -- the retries are steps of their own here
    | .orchestrator (.regulator (.retry _)) => False
    | .orchestrator _ => True
    | .retryFailureRequests => s.requestTupleList = []
    | .next => True
  step := handle

def retries (s : RetryLoop) (requestUUID : UUID) : Nat :=
  s.resent.countP fun request => request.requestID = requestUUID

end RetryLoop

end Regulator

end SelfAdaptiveMano

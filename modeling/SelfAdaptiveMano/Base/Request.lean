import SelfAdaptiveMano.Base.Sfc

/-!
# Requests

A request asks the Orchestrator to add or delete an SFC or an SFCI. It is
identified by its id: the Regulator sends a request that failed once more under
the same id.
-/

namespace SelfAdaptiveMano

inductive RequestType where
  | getLinkInfo
  | getDCNInfo
  | getSFCIState
  | addSFC
  | addSFCI
  | delSFCI
  | delSFC
  | updateSFCState
  deriving DecidableEq, Repr

inductive RequestState where
  | initial
  | inProcessing
  | successful
  | failed
  | reject
  deriving DecidableEq, Repr

/-- The mapping types of `path.py`, and a text that is none of them. -/
inductive MappingType where
  | none
  | ufrr
  | mmlpsfc
  | e2ep
  | notvia
  | notviaPSFC
  | interference
  | shortestPath
  | netpack
  | netsolverILP
  | unknown
  deriving DecidableEq, Repr

/-- The attributes of a request; a key that the dictionary lacks is `none`. -/
structure RequestAttributes where
  sfc : Option SFC
  sfci : Option SFCI
  mappingType : Option MappingType
  deriving DecidableEq, Repr

/-- `Request(userID, requestID, requestType, ...)`. -/
structure Request where
  requestID : UUID
  requestType : RequestType
  requestState : RequestState
  attributes : RequestAttributes
  deriving DecidableEq, Repr

end SelfAdaptiveMano

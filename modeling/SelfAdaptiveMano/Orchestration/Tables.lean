import SelfAdaptiveMano.Orchestration.OrchInfoBase

/-!
# The tables after a write

Each method of the information base writes one of the three tables. The lemmas
here say what is found in that table afterwards, and that the other two tables
are as before, so that later proofs do not look into the methods.
-/

namespace SelfAdaptiveMano.OrchInfoBase

open Library

section Frames

variable (oib : OrchInfoBase) (request : Request) (sfcUUID : UUID)
  (sfcUUID? : Option UUID) (sfci? : Option Nat) (cmd? : Option UUID)
  (cmdID : UUID) (sfciID : Nat) (state : SFCState) (requestState : RequestState)
  (sfc : SFC) (sfci : SFCI) (zone : Zone)

@[simp] theorem sfcTable_addRequest :
    (oib.addRequest request sfcUUID? sfci? cmd?).sfcTable = oib.sfcTable := by
  unfold addRequest
  split <;> rfl

@[simp] theorem sfciTable_addRequest :
    (oib.addRequest request sfcUUID? sfci? cmd?).sfciTable = oib.sfciTable := by
  unfold addRequest
  split <;> rfl

@[simp] theorem sfcTable_updateRequest :
    (oib.updateRequest request sfcUUID? sfci? cmd?).sfcTable = oib.sfcTable :=
  rfl

@[simp] theorem sfciTable_updateRequest :
    (oib.updateRequest request sfcUUID? sfci? cmd?).sfciTable = oib.sfciTable :=
  rfl

@[simp] theorem sfcTable_updateRequestState2DB :
    (oib.updateRequestState2DB request requestState).sfcTable =
      oib.sfcTable := by
  dsimp only [updateRequestState2DB]
  split
  · rfl
  · exact sfcTable_addRequest ..

@[simp] theorem sfciTable_updateRequestState2DB :
    (oib.updateRequestState2DB request requestState).sfciTable =
      oib.sfciTable := by
  dsimp only [updateRequestState2DB]
  split
  · rfl
  · exact sfciTable_addRequest ..

@[simp] theorem sfcTable_addCmdInfo2Request :
    (oib.addCmdInfo2Request request sfcUUID sfci? cmdID).sfcTable =
      oib.sfcTable := by
  unfold addCmdInfo2Request
  split <;> simp

@[simp] theorem sfciTable_addCmdInfo2Request :
    (oib.addCmdInfo2Request request sfcUUID sfci? cmdID).sfciTable =
      oib.sfciTable := by
  unfold addCmdInfo2Request
  split <;> simp

@[simp] theorem sfcTable_incRequestRetryCnt :
    (oib.incRequestRetryCnt cmdID).sfcTable = oib.sfcTable := rfl

@[simp] theorem sfciTable_incRequestRetryCnt :
    (oib.incRequestRetryCnt cmdID).sfciTable = oib.sfciTable := rfl

@[simp] theorem requestTable_addSFC2DB :
    (oib.addSFC2DB sfc state).requestTable = oib.requestTable := by
  unfold addSFC2DB
  split <;> rfl

@[simp] theorem sfciTable_addSFC2DB :
    (oib.addSFC2DB sfc state).sfciTable = oib.sfciTable := by
  unfold addSFC2DB
  split <;> rfl

@[simp] theorem requestTable_updateSFCState :
    (oib.updateSFCState sfcUUID state).requestTable = oib.requestTable := rfl

@[simp] theorem sfciTable_updateSFCState :
    (oib.updateSFCState sfcUUID state).sfciTable = oib.sfciTable := rfl

@[simp] theorem requestTable_addSFCI2DB :
    (oib.addSFCI2DB sfci sfcUUID zone).requestTable = oib.requestTable := by
  unfold addSFCI2DB
  split <;> rfl

@[simp] theorem sfcTable_addSFCI2DB :
    (oib.addSFCI2DB sfci sfcUUID zone).sfcTable = oib.sfcTable := by
  unfold addSFCI2DB
  split <;> rfl

@[simp] theorem requestTable_updateSFCI2DB :
    (oib.updateSFCI2DB sfci sfcUUID zone state).requestTable =
      oib.requestTable := rfl

@[simp] theorem sfcTable_updateSFCI2DB :
    (oib.updateSFCI2DB sfci sfcUUID zone state).sfcTable = oib.sfcTable := rfl

@[simp] theorem requestTable_updateSFCIState :
    (oib.updateSFCIState sfciID state).requestTable = oib.requestTable := rfl

@[simp] theorem sfcTable_updateSFCIState :
    (oib.updateSFCIState sfciID state).sfcTable = oib.sfcTable := rfl

@[simp] theorem sfciTable_addSFCRequestHandler :
    (oib.addSFCRequestHandler request sfc cmdID requestState state).sfciTable =
      oib.sfciTable := by
  simp [addSFCRequestHandler]

@[simp] theorem sfcTable_addSFCIRequestHandler :
    (oib.addSFCIRequestHandler request sfc sfci cmdID requestState).sfcTable =
      oib.sfcTable := by
  dsimp only [addSFCIRequestHandler]
  split
  · split <;> simp
  · simp

@[simp] theorem sfcTable_addUnmappedSFCIRequestHandler :
    (oib.addUnmappedSFCIRequestHandler request sfc sfci requestState
      state).sfcTable = oib.sfcTable := by
  dsimp only [addUnmappedSFCIRequestHandler]
  split <;> simp

@[simp] theorem sfcTable_delSFCIRequestHandler :
    (oib.delSFCIRequestHandler request sfc sfci cmdID requestState
      state).sfcTable = oib.sfcTable := by
  simp [delSFCIRequestHandler]

@[simp] theorem sfciTable_delSFCRequestHandler :
    (oib.delSFCRequestHandler request sfc cmdID requestState
      state).sfciTable = oib.sfciTable := by
  dsimp only [delSFCRequestHandler]
  split <;> simp

theorem requestTable_addCmdInfo2Request_congr {oib oib' : OrchInfoBase}
    (h : oib'.requestTable = oib.requestTable) (request : Request)
    (sfcUUID : UUID) (sfciID : Option Nat) (cmdID : UUID) :
    (oib'.addCmdInfo2Request request sfcUUID sfciID cmdID).requestTable =
      (oib.addCmdInfo2Request request sfcUUID sfciID cmdID).requestTable := by
  by_cases hc : oib.requestTable.contains request.requestID
  · simp [addCmdInfo2Request, hasRequest, updateRequest, h, hc]
  · simp [addCmdInfo2Request, hasRequest, addRequest, h, hc]

theorem sfcTable_addSFCRequestHandler :
    (oib.addSFCRequestHandler request sfc cmdID requestState state).sfcTable =
      (oib.addSFC2DB sfc state).sfcTable := by
  by_cases hc : oib.sfcTable.contains sfc.sfcUUID
  · simp [addSFCRequestHandler, addSFC2DB, hasSFC, updateSFC2DB, hc]
  · simp [addSFCRequestHandler, addSFC2DB, hasSFC, hc]

theorem sfcTable_delSFCRequestHandler_sent :
    (oib.delSFCRequestHandler request sfc cmdID requestState
      .inProcessing).sfcTable =
      (oib.updateSFCState sfc.sfcUUID .inProcessing).sfcTable := by
  simp [delSFCRequestHandler, updateSFCState]

theorem sfcTable_delSFCRequestHandler_invalid :
    (oib.delSFCRequestHandler request sfc cmdID requestState
      .undeleted).sfcTable = oib.sfcTable := by
  simp [delSFCRequestHandler]

theorem sfciTable_addUnmappedSFCIRequestHandler :
    (oib.addUnmappedSFCIRequestHandler request sfc sfci requestState
      state).sfciTable = (oib.updateSFCIState sfci.sfciID state).sfciTable := by
  dsimp only [addUnmappedSFCIRequestHandler]
  split <;> simp [updateSFCIState]

theorem sfciTable_delSFCIRequestHandler :
    (oib.delSFCIRequestHandler request sfc sfci cmdID requestState
      state).sfciTable = (oib.updateSFCIState sfci.sfciID state).sfciTable := by
  simp [delSFCIRequestHandler, updateSFCIState]

end Frames

section AddSFCI

variable {oib : OrchInfoBase} {request : Request} {sfc : SFC} {sfci : SFCI}
  {cmdID : UUID} {requestState : RequestState}

/-- An accepted `ADD_SFCI` replaces the row of the SFCI. -/
theorem sfciTable_addSFCIRequestHandler
    (hvalid : oib.isAddSFCIValidState sfci.sfciID = true) :
    (oib.addSFCIRequestHandler request sfc sfci cmdID requestState).sfciTable =
      oib.sfciTable.set sfci.sfciID
        ⟨sfc.sfcUUID, .inProcessing, sfci, sfc.zone⟩ := by
  unfold addSFCIRequestHandler
  unfold isAddSFCIValidState at hvalid
  cases hrow : oib.sfciTable.get? sfci.sfciID with
  | some row =>
      have hstate : oib.getSFCIState sfci.sfciID = some row.state := by
        simp [getSFCIState, hrow]
      simp only [hstate, decide_eq_true_eq] at hvalid
      simp only [hstate, if_pos hvalid, sfciTable_addCmdInfo2Request,
        updateSFCI2DB]
      exact Dict.modify_eq_set hrow _
  | none =>
      have hstate : oib.getSFCIState sfci.sfciID = none := by
        simp [getSFCIState, hrow]
      simp [hstate, addSFCI2DB, hasSFCI, Dict.contains, hrow]

theorem requestTable_addSFCIRequestHandler
    (hvalid : oib.isAddSFCIValidState sfci.sfciID = true) :
    (oib.addSFCIRequestHandler request sfc sfci cmdID
        requestState).requestTable =
      (oib.addCmdInfo2Request { request with requestState := requestState }
        sfc.sfcUUID (some sfci.sfciID) cmdID).requestTable := by
  unfold addSFCIRequestHandler
  unfold isAddSFCIValidState at hvalid
  cases hstate : oib.getSFCIState sfci.sfciID with
  | some state =>
      simp only [hstate, decide_eq_true_eq] at hvalid
      simp only [if_pos hvalid]
      exact requestTable_addCmdInfo2Request_congr (by simp) ..
  | none => exact requestTable_addCmdInfo2Request_congr (by simp) ..

/-- One that is not valid only notes the request. -/
theorem addSFCIRequestHandler_of_invalid
    (hvalid : oib.isAddSFCIValidState sfci.sfciID = false) :
    oib.addSFCIRequestHandler request sfc sfci cmdID requestState =
      oib.addCmdInfo2Request { request with requestState := .failed }
        sfc.sfcUUID (some sfci.sfciID) cmdID := by
  unfold addSFCIRequestHandler
  unfold isAddSFCIValidState at hvalid
  cases hstate : oib.getSFCIState sfci.sfciID with
  | some state =>
      simp only [hstate, decide_eq_false_iff_not] at hvalid
      simp only [if_neg hvalid]
  | none =>
      rw [hstate] at hvalid
      cases hvalid

end AddSFCI

section States

variable {oib oib' : OrchInfoBase} {sfcUUID : UUID} {sfciID : Nat}

theorem getSFCIState_eq_some {state : SFCState} :
    oib.getSFCIState sfciID = some state ↔
      ∃ row, oib.sfciTable.get? sfciID = some row ∧ row.state = state := by
  simp [getSFCIState]

theorem getSFCState_congr (h : oib'.sfcTable = oib.sfcTable) :
    oib'.getSFCState sfcUUID = oib.getSFCState sfcUUID := by
  rw [getSFCState, getSFCState, h]

theorem getSFCIState_congr (h : oib'.sfciTable = oib.sfciTable) :
    oib'.getSFCIState sfciID = oib.getSFCIState sfciID := by
  rw [getSFCIState, getSFCIState, h]

theorem getSFCIState_updateSFCIState (oib : OrchInfoBase) (sfciID' : Nat)
    (state : SFCState) :
    (oib.updateSFCIState sfciID state).getSFCIState sfciID' =
      if sfciID' = sfciID then (oib.getSFCIState sfciID).map fun _ => state
      else oib.getSFCIState sfciID' := by
  by_cases h : sfciID' = sfciID
  · simp [getSFCIState, updateSFCIState, Dict.get?_modify, h,
      Function.comp_def]
  · simp [getSFCIState, updateSFCIState, Dict.get?_modify, h]

theorem getSFCState_updateSFCState (oib : OrchInfoBase) (sfcUUID' : UUID)
    (state : SFCState) :
    (oib.updateSFCState sfcUUID state).getSFCState sfcUUID' =
      if sfcUUID' = sfcUUID then (oib.getSFCState sfcUUID).map fun _ => state
      else oib.getSFCState sfcUUID' := by
  by_cases h : sfcUUID' = sfcUUID
  · simp [getSFCState, updateSFCState, Dict.get?_modify, h, Function.comp_def]
  · simp [getSFCState, updateSFCState, Dict.get?_modify, h]

theorem getSFCState_addSFC2DB (oib : OrchInfoBase) (sfc : SFC)
    (state : SFCState) :
    (oib.addSFC2DB sfc state).getSFCState sfcUUID =
      if sfcUUID = sfc.sfcUUID then some state
      else oib.getSFCState sfcUUID := by
  cases hrow : oib.sfcTable.get? sfc.sfcUUID with
  | some row =>
      by_cases h : sfcUUID = sfc.sfcUUID
      · simp [addSFC2DB, hasSFC, Dict.contains, hrow, getSFCState,
          updateSFC2DB, Dict.get?_modify, h]
      · simp [addSFC2DB, hasSFC, Dict.contains, hrow, getSFCState,
          updateSFC2DB, Dict.get?_modify, h]
  | none =>
      by_cases h : sfcUUID = sfc.sfcUUID
      · simp [addSFC2DB, hasSFC, Dict.contains, hrow, getSFCState, h]
      · simp [addSFC2DB, hasSFC, Dict.contains, hrow, getSFCState,
          Dict.get?_set, h]

theorem getSFCIIDListOfASFC4DB_congr (h : oib'.sfcTable = oib.sfcTable) :
    oib'.getSFCIIDListOfASFC4DB sfcUUID =
      oib.getSFCIIDListOfASFC4DB sfcUUID := by
  rw [getSFCIIDListOfASFC4DB, getSFCIIDListOfASFC4DB, h]

theorem getSFCIIDListOfASFC4DB_updateSFCState (oib : OrchInfoBase)
    (sfcUUID' : UUID) (state : SFCState) :
    (oib.updateSFCState sfcUUID' state).getSFCIIDListOfASFC4DB sfcUUID =
      oib.getSFCIIDListOfASFC4DB sfcUUID := by
  by_cases h : sfcUUID = sfcUUID'
  · cases hrow : oib.sfcTable.get? sfcUUID' <;>
      simp [getSFCIIDListOfASFC4DB, updateSFCState, Dict.get?_modify, h, hrow]
  · simp [getSFCIIDListOfASFC4DB, updateSFCState, Dict.get?_modify, h]

theorem getSFCIIDListOfASFC4DB_addSFC2DB (oib : OrchInfoBase) (sfc : SFC)
    (state : SFCState) :
    (oib.addSFC2DB sfc state).getSFCIIDListOfASFC4DB sfcUUID =
      oib.getSFCIIDListOfASFC4DB sfcUUID := by
  cases hrow : oib.sfcTable.get? sfc.sfcUUID with
  | some row =>
      by_cases h : sfcUUID = sfc.sfcUUID
      · simp [addSFC2DB, hasSFC, Dict.contains, hrow, getSFCIIDListOfASFC4DB,
          updateSFC2DB, Dict.get?_modify, h]
      · simp [addSFC2DB, hasSFC, Dict.contains, hrow, getSFCIIDListOfASFC4DB,
          updateSFC2DB, Dict.get?_modify, h]
  | none =>
      by_cases h : sfcUUID = sfc.sfcUUID
      · simp [addSFC2DB, hasSFC, Dict.contains, hrow, getSFCIIDListOfASFC4DB, h]
      · simp [addSFC2DB, hasSFC, Dict.contains, hrow, getSFCIIDListOfASFC4DB,
          Dict.get?_set, h]

end States

section Rows

variable {oib : OrchInfoBase}

theorem hasRequest_iff {requestID : UUID} :
    oib.hasRequest requestID ↔
      ∃ row, oib.requestTable.get? requestID = some row :=
  Option.isSome_iff_exists

theorem requestRow_addCmdInfo2Request (oib : OrchInfoBase) (request : Request)
    (sfcUUID : UUID) (sfciID : Option Nat) (cmdID : UUID) :
    ∃ row, (oib.addCmdInfo2Request request sfcUUID sfciID
        cmdID).requestTable.get? request.requestID = some row ∧
      row.pickle = request ∧ row.state = request.requestState ∧
      row.cmdUUID = some cmdID := by
  unfold addCmdInfo2Request
  split
  · next h =>
      obtain ⟨row, hrow⟩ := hasRequest_iff.mp h
      simp [updateRequest, Dict.get?_modify, hrow]
  · next h => simp [addRequest, h]

theorem requestRow_addCmdInfo2Request_of_ne (oib : OrchInfoBase)
    (request : Request) {requestID : UUID} (h : requestID ≠ request.requestID)
    (sfcUUID : UUID) (sfciID : Option Nat) (cmdID : UUID) :
    (oib.addCmdInfo2Request request sfcUUID sfciID cmdID).requestTable.get?
      requestID = oib.requestTable.get? requestID := by
  unfold addCmdInfo2Request
  split
  · simp [updateRequest, Dict.get?_modify, h]
  · next h' => simp [addRequest, h', Dict.get?_set_of_ne _ _ h]

theorem requestRow_addRequest (oib : OrchInfoBase) (request : Request)
    (requestID : UUID) :
    (oib.addRequest request none none none).requestTable.get? requestID =
      if requestID = request.requestID ∧ ¬ oib.hasRequest requestID then
        some ⟨request.requestType, none, none, none, request.requestState,
          request, 0⟩
      else oib.requestTable.get? requestID := by
  unfold addRequest
  by_cases h : requestID = request.requestID
  · subst h
    by_cases h' : oib.hasRequest request.requestID <;> simp [h']
  · by_cases h' : oib.hasRequest request.requestID
    · simp [h, h']
    · simp [h, h', Dict.get?_set_of_ne _ _ h]

theorem requestRow_updateRequestState2DB (oib : OrchInfoBase)
    (request : Request) (state : RequestState) (requestID : UUID) :
    (oib.updateRequestState2DB request state).requestTable.get? requestID =
      if requestID = request.requestID then
        let request := { request with requestState := state }
        match oib.requestTable.get? requestID with
        | some row => some { row with pickle := request, state := state }
        | none => some ⟨request.requestType, none, none, none, state, request, 0⟩
      else oib.requestTable.get? requestID := by
  unfold updateRequestState2DB
  by_cases h : requestID = request.requestID
  · subst h
    cases hrow : oib.requestTable.get? request.requestID with
    | some row =>
        have hhas : oib.hasRequest request.requestID := by
          simp [hasRequest, Dict.contains, hrow]
        simp [hhas, Dict.get?_modify, hrow]
    | none =>
        have hhas : ¬ oib.hasRequest request.requestID := by
          simp [hasRequest, Dict.contains, hrow]
        simp [hhas, addRequest]
  · by_cases h' : oib.hasRequest request.requestID
    · simp [h, h', Dict.get?_modify]
    · simp [h, h', addRequest, Dict.get?_set_of_ne _ _ h]

end Rows

end SelfAdaptiveMano.OrchInfoBase

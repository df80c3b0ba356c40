import SelfAdaptiveMano.Orchestration.Generated
import SelfAdaptiveMano.Orchestration.Steps
import SelfAdaptiveMano.Regulator.RetryLoop

/-!
# The retry counter

The Orchestrator stores a request that it has not seen with a counter of zero
and leaves the counter alone when it writes the row again, so that the counter
of a row is the number of times that the Regulator has sent the request once
more. The list that the Regulator works through holds each request at most once,
and the counters in it are still those of the table when their turn comes: only
the Regulator moves them.
-/

namespace SelfAdaptiveMano

open Library

def Request.Typed (typeOf : UUID → RequestType) (request : Request) : Prop :=
  request.requestType = typeOf request.requestID

theorem Request.Typed.withState {typeOf : UUID → RequestType}
    {request : Request} (h : request.Typed typeOf) (state : RequestState) :
    Request.Typed typeOf { request with requestState := state } := h

/-- What the row of a request holds that was retried `n` times. -/
structure RequestRow.Counted (typeOf : UUID → RequestType) (requestID : UUID)
    (n : Nat) (row : RequestRow) : Prop where
  id : row.pickle.requestID = requestID
  typed : row.pickle.Typed typeOf
  requestType : row.requestType = typeOf requestID
  retryCnt : row.retryCnt = n

/-- Each row counts the retries of its request; a request without a row was not
retried. -/
structure OrchInfoBase.Counted (typeOf : UUID → RequestType) (n : UUID → Nat)
    (oib : OrchInfoBase) : Prop where
  row : ∀ requestID row, oib.requestTable.get? requestID = some row →
    row.Counted typeOf requestID (n requestID)
  absent : ∀ requestID, oib.requestTable.get? requestID = none →
    n requestID = 0

namespace OrchInfoBase.Counted

variable {typeOf : UUID → RequestType} {n : UUID → Nat}
  {oib oib' : OrchInfoBase} {request : Request}

theorem congr (h : oib.Counted typeOf n)
    (htable : oib'.requestTable = oib.requestTable) :
    oib'.Counted typeOf n where
  row := by
    rw [htable]
    exact h.row
  absent := by
    rw [htable]
    exact h.absent

theorem write {requestID : UUID} {row' : RequestRow} {n' : UUID → Nat}
    (h : oib.Counted typeOf n)
    (hother : ∀ requestID', requestID' ≠ requestID →
      oib'.requestTable.get? requestID' = oib.requestTable.get? requestID' ∧
        n' requestID' = n requestID')
    (hown : oib'.requestTable.get? requestID = some row')
    (hrow : row'.Counted typeOf requestID (n' requestID)) :
    oib'.Counted typeOf n' where
  row := by
    intro requestID' row hget
    by_cases heq : requestID' = requestID
    · subst heq
      rw [hown] at hget
      cases hget
      exact hrow
    · obtain ⟨hsame, hn⟩ := hother requestID' heq
      rw [hn]
      exact h.row requestID' row (hsame ▸ hget)
  absent := by
    intro requestID' hget
    by_cases heq : requestID' = requestID
    · rw [heq, hown] at hget
      cases hget
    · obtain ⟨hsame, hn⟩ := hother requestID' heq
      rw [hn]
      exact h.absent requestID' (hsame ▸ hget)

theorem addRequest (h : oib.Counted typeOf n) (hrequest : request.Typed typeOf)
    (sfcUUID : Option UUID) (sfciID : Option Nat) (cmdUUID : Option UUID) :
    (oib.addRequest request sfcUUID sfciID cmdUUID).Counted typeOf n := by
  unfold OrchInfoBase.addRequest
  by_cases hhas : oib.hasRequest request.requestID = true
  · rw [if_pos hhas]
    exact h
  · rw [if_neg hhas]
    have hnone : oib.requestTable.get? request.requestID = none := by
      simpa [hasRequest, Dict.contains] using hhas
    refine h.write (fun requestID hne => ⟨Dict.get?_set_of_ne _ _ hne, rfl⟩)
      (Dict.get?_set_self ..) ⟨rfl, hrequest, hrequest, ?_⟩
    exact (h.absent _ hnone).symm

theorem updateRequest (h : oib.Counted typeOf n)
    (hrequest : request.Typed typeOf) (sfcUUID : Option UUID)
    (sfciID : Option Nat) (cmdUUID : Option UUID) :
    (oib.updateRequest request sfcUUID sfciID cmdUUID).Counted typeOf n := by
  cases hget : oib.requestTable.get? request.requestID with
  | none =>
      refine h.congr ?_
      simp [OrchInfoBase.updateRequest, Dict.modify, hget]
  | some row =>
      have hother : ∀ requestID, requestID ≠ request.requestID →
          (oib.updateRequest request sfcUUID sfciID cmdUUID).requestTable.get?
            requestID = oib.requestTable.get? requestID ∧
            n requestID = n requestID := by
        intro requestID hne
        refine ⟨?_, rfl⟩
        simp only [OrchInfoBase.updateRequest, Dict.get?_modify, if_neg hne]
      have hown : (oib.updateRequest request sfcUUID sfciID
          cmdUUID).requestTable.get? request.requestID = some { row with
            requestType := request.requestType
            state := request.requestState
            pickle := request
            sfcUUID := sfcUUID.or row.sfcUUID
            sfciID := sfciID.or row.sfciID
            cmdUUID := cmdUUID.or row.cmdUUID } := by
        simp [OrchInfoBase.updateRequest, Dict.get?_modify, hget]
      exact h.write hother hown
        ⟨rfl, hrequest, hrequest, (h.row _ row hget).retryCnt⟩

theorem updateRequestState2DB (h : oib.Counted typeOf n)
    (hrequest : request.Typed typeOf) (state : RequestState) :
    (oib.updateRequestState2DB request state).Counted typeOf n := by
  have hrow := oib.requestRow_updateRequestState2DB request state
  have hother : ∀ requestID, requestID ≠ request.requestID →
      (oib.updateRequestState2DB request state).requestTable.get? requestID =
        oib.requestTable.get? requestID ∧ n requestID = n requestID := by
    intro requestID hne
    rw [hrow, if_neg hne]
    exact ⟨rfl, rfl⟩
  have hown := hrow request.requestID
  rw [if_pos rfl] at hown
  cases hget : oib.requestTable.get? request.requestID with
  | none =>
      rw [hget] at hown
      refine h.write hother hown ⟨rfl, hrequest, hrequest, ?_⟩
      exact (h.absent _ hget).symm
  | some row =>
      rw [hget] at hown
      obtain ⟨-, -, htype, hcnt⟩ := h.row _ row hget
      exact h.write hother hown ⟨rfl, hrequest, htype, hcnt⟩

theorem addCmdInfo2Request (h : oib.Counted typeOf n)
    (hrequest : request.Typed typeOf) (sfcUUID : UUID) (sfciID : Option Nat)
    (cmdID : UUID) :
    (oib.addCmdInfo2Request request sfcUUID sfciID cmdID).Counted typeOf n := by
  unfold OrchInfoBase.addCmdInfo2Request
  split
  · exact h.updateRequest hrequest ..
  · exact h.addRequest hrequest ..

theorem addSFCRequestHandler (h : oib.Counted typeOf n)
    (hrequest : request.Typed typeOf) (sfc : SFC) (cmdID : UUID)
    (requestState : RequestState) (sfcState : SFCState) :
    (oib.addSFCRequestHandler request sfc cmdID requestState
      sfcState).Counted typeOf n := by
  have hnoted := h.addCmdInfo2Request (hrequest.withState requestState)
    sfc.sfcUUID none cmdID
  exact hnoted.congr (requestTable_addSFC2DB ..)

theorem addSFCIRequestHandler (h : oib.Counted typeOf n)
    (hrequest : request.Typed typeOf) (sfc : SFC) (sfci : SFCI) (cmdID : UUID)
    (requestState : RequestState) :
    (oib.addSFCIRequestHandler request sfc sfci cmdID
      requestState).Counted typeOf n := by
  have hnote : ∀ {oib' : OrchInfoBase} (state : RequestState),
      oib'.requestTable = oib.requestTable →
      (oib'.addCmdInfo2Request { request with requestState := state }
        sfc.sfcUUID (some sfci.sfciID) cmdID).Counted typeOf n :=
    fun state htable =>
      (h.congr htable).addCmdInfo2Request (hrequest.withState state) ..
  unfold OrchInfoBase.addSFCIRequestHandler
  cases oib.getSFCIState sfci.sfciID with
  | none => exact hnote requestState (requestTable_addSFCI2DB ..)
  | some sfciState =>
      by_cases hvalid : sfciState ∈ [SFCState.deleted, .initFailed]
      · simp only [if_pos hvalid]
        exact hnote requestState (requestTable_updateSFCI2DB ..)
      · simp only [if_neg hvalid]
        exact hnote .failed rfl

theorem addUnmappedSFCIRequestHandler (h : oib.Counted typeOf n)
    (hrequest : request.Typed typeOf) (sfc : SFC) (sfci : SFCI)
    (requestState : RequestState) (sfciState : SFCState) :
    (oib.addUnmappedSFCIRequestHandler request sfc sfci requestState
      sfciState).Counted typeOf n := by
  have hrequest' := hrequest.withState requestState
  unfold OrchInfoBase.addUnmappedSFCIRequestHandler
  by_cases hhas : oib.hasRequest request.requestID = true
  · simp only [if_pos hhas]
    exact (h.updateRequest hrequest' ..).congr (requestTable_updateSFCIState ..)
  · simp only [if_neg hhas]
    exact (h.addRequest hrequest' ..).congr (requestTable_updateSFCIState ..)

theorem delSFCIRequestHandler (h : oib.Counted typeOf n)
    (hrequest : request.Typed typeOf) (sfc : SFC) (sfci : SFCI) (cmdID : UUID)
    (requestState : RequestState) (sfciState : SFCState) :
    (oib.delSFCIRequestHandler request sfc sfci cmdID requestState
      sfciState).Counted typeOf n := by
  have hnoted := h.addCmdInfo2Request (hrequest.withState requestState)
    sfc.sfcUUID (some sfci.sfciID) cmdID
  exact hnoted.congr (requestTable_updateSFCIState ..)

theorem delSFCRequestHandler (h : oib.Counted typeOf n)
    (hrequest : request.Typed typeOf) (sfc : SFC) (cmdID : UUID)
    (requestState : RequestState) (sfcState : SFCState) :
    (oib.delSFCRequestHandler request sfc cmdID requestState
      sfcState).Counted typeOf n := by
  have hnoted := h.addCmdInfo2Request (hrequest.withState requestState)
    sfc.sfcUUID none cmdID
  unfold OrchInfoBase.delSFCRequestHandler
  by_cases hstate : sfcState = .inProcessing
  · simp only [if_pos hstate]
    exact hnoted.congr (requestTable_updateSFCState ..)
  · simp only [if_neg hstate]
    exact hnoted

theorem addSFCI2SFCInDB {sfcUUID : UUID} {sfciID : Nat}
    (h : oib.Counted typeOf n)
    (hlisted : oib.addSFCI2SFCInDB sfcUUID sfciID = .ok oib') :
    oib'.Counted typeOf n := by
  obtain ⟨row, -, ⟨-, rfl⟩ | ⟨-, rfl⟩⟩ := Orchestrator.of_addSFCI2SFCInDB hlisted
  · exact h
  · exact h.congr rfl

theorem answered {cmdState : CmdState} (h : oib.Counted typeOf n)
    (hrequest : request.Typed typeOf)
    (hanswered : Answered oib request cmdState oib') :
    oib'.Counted typeOf n := by
  cases hanswered with
  | unknown => exact h
  | raised requestState => exact h.updateRequestState2DB hrequest requestState
  | sfc => exact (h.updateRequestState2DB hrequest _).congr rfl
  | addSFCI _ _ _ _ hlisted =>
      exact ((h.updateRequestState2DB hrequest _).addSFCI2SFCInDB
        hlisted).congr rfl
  | delSFCI => exact (h.updateRequestState2DB hrequest _).congr rfl

theorem retry {n' : UUID → Nat} (h : oib.Counted typeOf n)
    (hrequest : request.Typed typeOf)
    (hsame : ∀ requestID, requestID ≠ request.requestID →
      n' requestID = n requestID)
    (hone : n' request.requestID = n request.requestID + 1) :
    ((oib.updateRequestState2DB request .initial).incRequestRetryCnt
      request.requestID).Counted typeOf n' := by
  have hstored := h.updateRequestState2DB hrequest .initial
  obtain ⟨row, hrow⟩ : ∃ row, (oib.updateRequestState2DB request
      .initial).requestTable.get? request.requestID = some row := by
    rw [requestRow_updateRequestState2DB, if_pos rfl]
    cases oib.requestTable.get? request.requestID <;> exact ⟨_, rfl⟩
  have hown : ((oib.updateRequestState2DB request .initial).incRequestRetryCnt
      request.requestID).requestTable.get? request.requestID =
      some { row with retryCnt := row.retryCnt + 1 } := by
    simp [incRequestRetryCnt, Dict.get?_modify, hrow]
  obtain ⟨hid, htyped, htype, hcnt⟩ := hstored.row _ row hrow
  refine hstored.write (fun requestID hne => ⟨?_, hsame requestID hne⟩) hown
    ⟨hid, htyped, htype, ?_⟩
  · simp only [incRequestRetryCnt, Dict.get?_modify, if_neg hne]
  · rw [hone, ← hcnt]

/-- Only a request that was not retried may be deleted. -/
theorem delRequest {requestID : UUID} (h : oib.Counted typeOf n)
    (hzero : n requestID = 0) : (oib.delRequest requestID).Counted typeOf n where
  row := by
    intro requestID' row hget
    simp only [OrchInfoBase.delRequest, Dict.get?_erase] at hget
    by_cases heq : requestID' = requestID
    · rw [if_pos heq] at hget
      cases hget
    · rw [if_neg heq] at hget
      exact h.row requestID' row hget
  absent := by
    intro requestID' hget
    simp only [OrchInfoBase.delRequest, Dict.get?_erase] at hget
    by_cases heq : requestID' = requestID
    · exact heq ▸ hzero
    · rw [if_neg heq] at hget
      exact h.absent requestID' hget

end OrchInfoBase.Counted

namespace Orchestrator

/-- The rows count the retries, and the queued requests are typed. -/
structure Tracked (typeOf : UUID → RequestType) (n : UUID → Nat)
    (o : Orchestrator) : Prop where
  counted : o.oib.Counted typeOf n
  batch : ∀ request ∈ o.requestBatchQueue, request.Typed typeOf
  waiting : ∀ request ∈ o.requestWaitingQueue, request.Typed typeOf

variable {typeOf : UUID → RequestType} {n : UUID → Nat} {o o' : Orchestrator}
  {request : Request}

theorem Tracked.congr (h : Tracked typeOf n o) (hoib : o'.oib = o.oib)
    (hbatch : o'.requestBatchQueue = o.requestBatchQueue)
    (hwaiting : o'.requestWaitingQueue = o.requestWaitingQueue) :
    Tracked typeOf n o' where
  counted := h.counted.congr (congrArg OrchInfoBase.requestTable hoib)
  batch := hbatch ▸ h.batch
  waiting := hwaiting ▸ h.waiting

theorem keeps_modifyOib {f : OrchInfoBase → OrchInfoBase}
    (hf : ∀ oib : OrchInfoBase, oib.Counted typeOf n →
      (f oib).Counted typeOf n) :
    PyM.Keeps (Tracked typeOf n) (modifyOib f) :=
  fun _ h => ⟨hf _ h.counted, h.batch, h.waiting⟩

theorem keeps_tracked_withGen {α : Type} (x : PyM CmdGenerator α) :
    PyM.Keeps (Tracked typeOf n) (withGen x) :=
  PyM.Keeps.zoom fun _ _ h => h.congr rfl rfl rfl

theorem keeps_tracked_withCm {α : Type} (x : PyM CommandMaintainer α) :
    PyM.Keeps (Tracked typeOf n) (withCm x) :=
  PyM.Keeps.zoom fun _ _ h => h.congr rfl rfl rfl

theorem keeps_addAndSendCmd (requestID : UUID) (cmd : Command) :
    PyM.Keeps (Tracked typeOf n) (addAndSendCmd requestID cmd) := by
  refine PyM.Meets.bind_get_any fun s => ?_
  refine PyM.Keeps.bind (keeps_tracked_withCm _) fun _ => ?_
  exact fun _ h => h.congr rfl rfl rfl

theorem keeps_recorded {judge : PyM Orchestrator Outcome}
    (h : PyM.Keeps (Tracked typeOf n) judge) :
    PyM.Keeps (Tracked typeOf n) (recorded request judge) := by
  refine PyM.Meets.bind_get_any fun s => ?_
  refine PyM.Keeps.bind h fun outcome => ?_
  exact fun _ h => h.congr rfl rfl rfl

/-- A request is judged: its command is sent and noted, or it is only noted. -/
theorem keeps_judge {c : Prop} [Decidable c] {requestID : UUID} {cmd : Command}
    {f g : OrchInfoBase → OrchInfoBase}
    (hf : ∀ oib : OrchInfoBase, oib.Counted typeOf n →
      (f oib).Counted typeOf n)
    (hg : ∀ oib : OrchInfoBase, oib.Counted typeOf n →
      (g oib).Counted typeOf n) :
    PyM.Keeps (Tracked typeOf n)
      (if c then do
        addAndSendCmd requestID cmd
        modifyOib f
        return Outcome.sent
      else do
        modifyOib g
        return Outcome.invalid) := by
  refine PyM.Meets.ite (fun _ => ?_) fun _ => ?_
  · refine PyM.Keeps.bind (keeps_addAndSendCmd _ _) fun _ => ?_
    exact PyM.Keeps.bind (keeps_modifyOib hf) fun _ => fun _ h => h
  · exact PyM.Keeps.bind (keeps_modifyOib hg) fun _ => fun _ h => h

theorem keeps_settleRequest (hrequest : request.Typed typeOf)
    (cmd : Option Command) :
    PyM.Keeps (Tracked typeOf n) (settleRequest request cmd) := by
  refine keeps_recorded ?_
  cases cmd with
  | some cmd =>
      refine PyM.Meets.bind_ofOption (fun sfc _ => ?_) fun _ h => h
      refine PyM.Meets.bind_ofOption (fun sfci _ => ?_) fun _ h => h
      refine PyM.Meets.bind_get_any fun s => ?_
      exact keeps_judge (fun _ h => h.addSFCIRequestHandler hrequest ..)
        fun _ h => h.addSFCIRequestHandler hrequest ..
  | none =>
      refine PyM.Meets.bind_ofOption (fun sfc _ => ?_) fun _ h => h
      refine PyM.Meets.bind_ofOption (fun sfci _ => ?_) fun _ h => h
      refine PyM.Keeps.bind (keeps_modifyOib fun _ h => ?_) fun _ => fun _ h => h
      exact h.addUnmappedSFCIRequestHandler hrequest ..

theorem keeps_settleBatch (env : Env) {batch : List Request}
    (hbatch : ∀ request ∈ batch, request.Typed typeOf) :
    PyM.Keeps (Tracked typeOf n) (do
      let reqCmdTupleList ←
        withGen (OSFCAdder.genABatchOfRequestAndAddSFCICmds env batch)
      reqCmdTupleList.forM fun (request, cmd) => settleRequest request cmd) := by
  refine PyM.Meets.of_forall fun o ho => ?_
  have hgen := meets_withGen (o := o)
    (OSFCAdder.meets_genABatchOfRequestAndAddSFCICmds env batch o.gen)
  have hfail : ∀ gen, Tracked typeOf n { o with gen := gen } :=
    fun gen => ho.congr rfl rfl rfl
  refine PyM.Meets.bind (hgen.conseq (fun _ h => h) (fun _ _ h => h) ?_) ?_
  · rintro _ ⟨gen, -, rfl⟩
    exact hfail gen
  rintro l _ ⟨gen, hresult, rfl⟩
  obtain ⟨requests, hperm, hresults⟩ := hresult.results
  refine PyM.Keeps.forM (fun p hp => ?_) _ (hfail gen)
  obtain ⟨r, hr, hof⟩ := ResultOf.exists_of_mem hresults hp
  obtain ⟨request, hrequest, rfl⟩ := List.mem_map.mp (hperm.mem_iff.mp hr)
  refine keeps_settleRequest ?_ p.2
  unfold Request.Typed
  rw [hof.requestType, hof.requestID]
  exact hbatch request hrequest

theorem Tracked.processInvalidAddSFCIRequests (h : Tracked typeOf n o) :
    Tracked typeOf n (processInvalidAddSFCIRequests o) := by
  have hregister : ∀ requests : List Request,
      (∀ r ∈ requests, r.Typed typeOf) →
      ∀ oib : OrchInfoBase, oib.Counted typeOf n →
      (requests.foldl (fun oib request => oib.addRequest
        { request with requestState := .failed } none none none)
        oib).Counted typeOf n := by
    intro requests
    induction requests with
    | nil => exact fun _ _ h => h
    | cons r requests ih =>
        intro hrequests oib hoib
        refine ih (fun r' hr' => hrequests r' (List.mem_cons_of_mem r hr')) _ ?_
        have hr := hrequests r List.mem_cons_self
        exact hoib.addRequest (hr.withState .failed) ..
  refine ⟨hregister _ ?_ _ h.counted, ?_, h.waiting⟩
  · exact fun r hr => h.batch r (List.mem_of_mem_filter hr)
  · exact fun r hr => h.batch r (List.mem_of_mem_filter hr)

theorem keeps_processAllAddSFCIRequests (env : Env) :
    PyM.Keeps (Tracked typeOf n) (processAllAddSFCIRequests env) := by
  refine PyM.Meets.bind_get_any fun s => PyM.Meets.bind_get_any fun s' => ?_
  refine PyM.Meets.ite (fun _ => ?_) fun _ => fun _ h => h
  refine PyM.Keeps.bind (fun _ h => h.processInvalidAddSFCIRequests) fun _ => ?_
  refine PyM.Meets.bind_get fun o ho => ?_
  refine PyM.Meets.conseq (P := Tracked typeOf n) ?_ (fun _ h => h ▸ ho)
    (fun _ _ h => h) fun _ h => h
  refine PyM.Keeps.bind (fun _ h => ?_) fun _ => keeps_settleBatch env ho.batch
  exact ⟨h.counted, fun r hr => absurd hr List.not_mem_nil, h.waiting⟩

theorem keeps_addSFCRequest (env : Env) (hrequest : request.Typed typeOf) :
    PyM.Keeps (Tracked typeOf n) (addSFCRequest env request) := by
  refine PyM.Keeps.bind (keeps_tracked_withGen _) fun (cmd, sfc) => ?_
  refine keeps_recorded (PyM.Meets.bind_get_any fun s => ?_)
  have hrequest' : Request.Typed typeOf { request with
      attributes := { request.attributes with sfc := some sfc } } := hrequest
  exact keeps_judge (fun _ h => h.addSFCRequestHandler hrequest' ..)
    fun _ h => h.addSFCRequestHandler hrequest' ..

theorem keeps_addSFCIRequest (env : Env) (hrequest : request.Typed typeOf) :
    PyM.Keeps (Tracked typeOf n) (addSFCIRequest env request) := by
  refine PyM.Keeps.bind (fun o h => ⟨h.counted, ?_, h.waiting⟩) fun _ => ?_
  · intro r hr
    obtain hr | hr := List.mem_append.mp hr
    · exact h.batch r hr
    · rw [List.mem_singleton.mp hr]
      exact hrequest
  refine PyM.Meets.bind_get_any fun s => PyM.Meets.bind_get_any fun s' => ?_
  refine PyM.Meets.ite (fun _ => ?_) fun _ => fun _ h => h
  exact keeps_processAllAddSFCIRequests env

theorem keeps_delSFCIRequest (hrequest : request.Typed typeOf) :
    PyM.Keeps (Tracked typeOf n) (delSFCIRequest request) := by
  refine PyM.Meets.bind_get_any fun s => ?_
  refine PyM.Keeps.bind (keeps_tracked_withGen _) fun (cmd, sfc, sfci) => ?_
  refine PyM.Meets.bind_ofOption (fun sfci _ => ?_) fun _ h => h
  refine keeps_recorded (PyM.Meets.bind_get_any fun s => ?_)
  refine PyM.Meets.ite (fun _ => ?_) fun _ => ?_
  · refine PyM.Meets.bind_ofOption (fun _ _ => ?_) fun _ h => h
    refine PyM.Keeps.bind (keeps_addAndSendCmd _ _) fun _ => ?_
    refine PyM.Keeps.bind (keeps_modifyOib fun _ h => ?_) fun _ => fun _ h => h
    exact h.delSFCIRequestHandler hrequest ..
  · refine PyM.Keeps.bind (keeps_modifyOib fun _ h => ?_) fun _ => fun _ h => h
    exact h.delSFCIRequestHandler hrequest ..

theorem keeps_delSFCRequest (hrequest : request.Typed typeOf) :
    PyM.Keeps (Tracked typeOf n) (delSFCRequest request) := by
  refine PyM.Meets.bind_get_any fun s => ?_
  refine PyM.Keeps.bind (keeps_tracked_withGen _) fun (cmd, sfc) => ?_
  refine keeps_recorded (PyM.Meets.bind_get_any fun s => ?_)
  exact keeps_judge (fun _ h => h.delSFCRequestHandler hrequest ..)
    fun _ h => h.delSFCRequestHandler hrequest ..

theorem keeps_requestBranch (env : Env) (hrequest : request.Typed typeOf) :
    PyM.Keeps (Tracked typeOf n) (requestBranch env request) := by
  unfold requestBranch
  cases request.requestType with
  | addSFC => exact keeps_addSFCRequest env hrequest
  | addSFCI => exact keeps_addSFCIRequest env hrequest
  | delSFCI => exact keeps_delSFCIRequest hrequest
  | delSFC => exact keeps_delSFCRequest hrequest
  | getLinkInfo | getDCNInfo | getSFCIState | updateSFCState =>
      exact fun _ h => h

theorem Tracked.requestHandler (h : Tracked typeOf n o) (env : Env)
    (hrequest : request.Typed typeOf) :
    Tracked typeOf n (requestHandler env request o) := by
  have hbranch := keeps_requestBranch env hrequest o h
  unfold Orchestrator.requestHandler
  cases hrun : (requestBranch env request).run o with
  | ok u o' =>
      rw [hrun] at hbranch
      exact hbranch
  | error e o' =>
      rw [hrun] at hbranch
      exact ⟨hbranch.counted.updateRequestState2DB hrequest .failed,
        hbranch.batch, hbranch.waiting⟩

theorem Tracked.processAllWaitingRequest (h : Tracked typeOf n o) (env : Env) :
    Tracked typeOf n (processAllWaitingRequest env o) := by
  have hloop : ∀ (requests : List Request) (o : Orchestrator),
      Tracked typeOf n o → (∀ r ∈ requests, r.Typed typeOf) →
      Tracked typeOf n (requests.foldl
        (fun o request => Orchestrator.requestHandler env request o) o) := by
    intro requests
    induction requests with
    | nil => exact fun _ h _ => h
    | cons r requests ih =>
        intro o h hrequests
        exact ih _ (h.requestHandler env (hrequests r List.mem_cons_self))
          fun r' hr' => hrequests r' (List.mem_cons_of_mem r hr')
  unfold Orchestrator.processAllWaitingRequest
  split
  · refine hloop _ _ ⟨h.counted, h.batch, ?_⟩ h.waiting
    exact fun r hr => absurd hr List.not_mem_nil
  · exact h

theorem keeps_withOib {cmdID : UUID} (cmdState : CmdState)
    (ho : Tracked typeOf n o)
    (hget : o.oib.getRequestByCmdID cmdID = .ok request) :
    PyM.Keeps (Tracked typeOf n)
      (withOib (OrchInfoBase.cmdRplyHandler request cmdState)) := by
  obtain ⟨requestID, row, hrow, -, rfl⟩ :=
    OrchInfoBase.getRequestByCmdID_eq_ok hget
  have hrequest := (ho.counted.row requestID row hrow).typed
  refine PyM.Meets.zoom fun s hs => ?_
  have hrun := s.oib.meets_cmdRplyHandler row.pickle cmdState s.oib rfl
  cases h : (OrchInfoBase.cmdRplyHandler row.pickle cmdState).run s.oib with
  | ok u oib' =>
      rw [h] at hrun
      exact ⟨hs.counted.answered hrequest hrun, hs.batch, hs.waiting⟩
  | error e oib' =>
      rw [h] at hrun
      exact ⟨hs.counted.answered hrequest hrun, hs.batch, hs.waiting⟩

theorem keeps_commandReplyHandler (cmdRply : CommandReply) :
    PyM.Keeps (Tracked typeOf n) (commandReplyHandler cmdRply) := by
  refine PyM.Keeps.bind (keeps_tracked_withCm _) fun known => ?_
  refine PyM.Meets.ite (fun _ => ?_) fun _ => fun _ h => h
  refine PyM.Keeps.bind (keeps_tracked_withCm _) fun _ => ?_
  refine PyM.Keeps.bind (keeps_tracked_withCm _) fun _ => ?_
  refine PyM.Keeps.bind (keeps_tracked_withCm _) fun cmdType => ?_
  refine PyM.Meets.ite (fun _ => ?_) fun _ => PyM.Meets.throw fun _ h => h
  refine PyM.Meets.bind_get fun o ho => ?_
  refine PyM.Meets.conseq (P := Tracked typeOf n) ?_ (fun _ h => h ▸ ho)
    (fun _ _ h => h) fun _ h => h
  refine PyM.Meets.bind_ofExcept (fun request hget => ?_) fun _ h => h
  refine PyM.Keeps.bind (keeps_withOib _ ho hget) fun _ => ?_
  exact keeps_tracked_withCm _

theorem Tracked.regulate {update : RegulatorUpdate} (h : Tracked typeOf n o)
    (hreject : ∀ request, update = .reject request → request.Typed typeOf)
    (hretry : ∀ requestID, update ≠ .retry requestID) :
    Tracked typeOf n { o with oib := regulate o.oib update } := by
  refine ⟨?_, h.batch, h.waiting⟩
  cases update with
  | updateSFCState | scaling | recover =>
      dsimp only [Orchestrator.regulate]
      split
      · exact h.counted.congr rfl
      · exact h.counted
  | finish => exact h.counted.congr rfl
  | retry requestID => exact absurd rfl (hretry requestID)
  | reject request =>
      exact h.counted.updateRequestState2DB (hreject request rfl) .reject

end Orchestrator

namespace Regulator.RetryLoop

open Orchestrator

variable {typeOf : UUID → RequestType} {s : RetryLoop}

/-- The rows, also those still to be looked at, count the retries, which are
bounded; a request of a type that is not retried was not. -/
structure Counting (typeOf : UUID → RequestType) (s : RetryLoop) : Prop where
  tracked : Tracked typeOf s.retries s.orchestrator
  bounded : ∀ requestID, s.retries requestID ≤ MAX_RETRY_NUM
  listed : ∀ e ∈ s.requestTupleList, e.2.Counted typeOf e.1 (s.retries e.1)
  nodup : (s.requestTupleList.map Prod.fst).Nodup
  never : ∀ requestID, typeOf requestID = .getDCNInfo → s.retries requestID = 0

theorem Counting.orchestrator (h : Counting typeOf s) {i : Orchestrator.Input}
    (hi : (machine typeOf).admits s (.orchestrator i)) :
    Tracked typeOf s.retries (s.orchestrator.handle i) := by
  cases i with
  | request env request =>
      simp only [Orchestrator.handle]
      split
      · exact h.tracked.requestHandler env hi
      · refine ⟨h.tracked.counted, h.tracked.batch, fun r hr => ?_⟩
        obtain hr | hr := List.mem_append.mp hr
        · exact h.tracked.waiting r hr
        · rw [List.mem_singleton.mp hr]
          exact hi
  | batchTimeout env =>
      exact PyM.Meets.finalState (keeps_processAllAddSFCIRequests env) h.tracked
  | waitingRequests env => exact h.tracked.processAllWaitingRequest env
  | reply cmdRply =>
      exact PyM.Meets.finalState (keeps_commandReplyHandler cmdRply) h.tracked
  | turn on => exact h.tracked.congr rfl rfl rfl
  | regulator update =>
      refine h.tracked.regulate ?_ ?_
      · rintro request rfl
        exact hi
      · rintro requestID rfl
        exact hi

theorem Counting.resend (h : Counting typeOf s) {row : RequestRow}
    (hrow : row.Counted typeOf row.pickle.requestID
      (s.retries row.pickle.requestID))
    (hnew : row.pickle.requestID ∉ s.requestTupleList.map Prod.fst)
    (hless : row.retryCnt < MAX_RETRY_NUM)
    (htype : row.requestType ≠ .getDCNInfo) :
    Counting typeOf { s.withOib
      ((s.orchestrator.oib.updateRequestState2DB row.pickle
        .initial).incRequestRetryCnt row.pickle.requestID) with
      resent := s.resent ++ [{ row.pickle with requestState := .initial }] } := by
  set s' : RetryLoop := { s.withOib
      ((s.orchestrator.oib.updateRequestState2DB row.pickle
        .initial).incRequestRetryCnt row.pickle.requestID) with
      resent := s.resent ++ [{ row.pickle with requestState := .initial }] }
    with hs'
  have hretries : ∀ requestID, s'.retries requestID = s.retries requestID +
      if row.pickle.requestID = requestID then 1 else 0 := by
    intro requestID
    simp [hs', retries, List.countP_append, List.countP_singleton]
  have hsame : ∀ requestID, requestID ≠ row.pickle.requestID →
      s'.retries requestID = s.retries requestID := by
    intro requestID hne
    rw [hretries, if_neg hne.symm, Nat.add_zero]
  have hone : s'.retries row.pickle.requestID =
      s.retries row.pickle.requestID + 1 := by
    rw [hretries, if_pos rfl]
  refine ⟨⟨h.tracked.counted.retry hrow.typed hsame hone, h.tracked.batch,
    h.tracked.waiting⟩, fun requestID => ?_, fun e he => ?_, h.nodup,
    fun requestID hnever => ?_⟩
  · by_cases heq : requestID = row.pickle.requestID
    · rw [heq, hone, ← hrow.retryCnt]
      exact hless
    · rw [hsame requestID heq]
      exact h.bounded requestID
  · have hne : e.1 ≠ row.pickle.requestID := by
      intro heq
      exact hnew (heq ▸ List.mem_map_of_mem he)
    rw [hsame e.1 hne]
    exact h.listed e he
  · have hne : requestID ≠ row.pickle.requestID := by
      rintro rfl
      exact htype (hrow.requestType.trans hnever)
    rw [hsame requestID hne]
    exact h.never requestID hnever

theorem Counting.retry (h : Counting typeOf s) {requestUUID : UUID}
    {row : RequestRow} (hrow : row.Counted typeOf requestUUID
      (s.retries requestUUID))
    (hnew : requestUUID ∉ s.requestTupleList.map Prod.fst) :
    Counting typeOf (retry requestUUID row s) := by
  obtain rfl := hrow.id
  unfold RetryLoop.retry
  by_cases hfailed : row.state = .failed
  swap
  · simp only [if_neg hfailed]
    exact h
  by_cases hmax : row.retryCnt ≥ MAX_RETRY_NUM
  · simp only [if_pos hfailed, if_pos hmax]
    exact h
  simp only [if_pos hfailed, if_neg hmax]
  have hless := Nat.lt_of_not_le hmax
  cases htype : row.requestType with
  | addSFC | addSFCI | delSFCI | delSFC =>
      exact h.resend hrow hnew hless (by rw [htype]; decide)
  | getDCNInfo =>
      have hzero := h.never _ (hrow.requestType.symm.trans htype)
      exact ⟨⟨h.tracked.counted.delRequest hzero, h.tracked.batch,
        h.tracked.waiting⟩, h.bounded, h.listed, h.nodup, h.never⟩
  | getLinkInfo | getSFCIState | updateSFCState =>
      exact ⟨h.tracked, h.bounded, fun e he => absurd he List.not_mem_nil,
        List.nodup_nil, h.never⟩

theorem counting_of_init (h : (machine typeOf).init s) : Counting typeOf s := by
  obtain ⟨hoib, hbatch, hwaiting, hlist, hresent⟩ := h
  have hzero : ∀ requestID, s.retries requestID = 0 := by
    simp [retries, hresent]
  refine ⟨⟨⟨?_, fun requestID _ => hzero requestID⟩, by simp [hbatch],
    by simp [hwaiting]⟩, ?_, by simp [hlist], by simp [hlist],
    fun requestID _ => hzero requestID⟩
  · intro requestID row hrow
    simp [hoib] at hrow
  · simp [hzero]

theorem Counting.handle (h : Counting typeOf s) {i : Input}
    (hi : (machine typeOf).admits s i) : Counting typeOf (s.handle i) := by
  cases i with
  | orchestrator i =>
      exact ⟨h.orchestrator hi, h.bounded, h.listed, h.nodup, h.never⟩
  | retryFailureRequests =>
      refine ⟨h.tracked, h.bounded, ?_, ?_, h.never⟩
      · intro e he
        have hget := Dict.mem_items_iff.mp (List.mem_of_mem_filter he)
        exact h.tracked.counted.row e.1 e.2 hget
      · exact s.orchestrator.oib.requestTable.nodup_keys.sublist
          (List.filter_sublist.map Prod.fst)
  | next =>
      cases hlist : s.requestTupleList with
      | nil =>
          simp only [RetryLoop.handle, hlist]
          exact h
      | cons e rest =>
          have hlisted := h.listed
          have hnodup := h.nodup
          rw [hlist] at hlisted hnodup
          obtain ⟨hnew, hnodup⟩ := List.nodup_cons.mp hnodup
          simp only [RetryLoop.handle, hlist]
          have hrest : Counting typeOf { s with requestTupleList := rest } :=
            ⟨h.tracked, h.bounded,
              fun e' he' => hlisted e' (List.mem_cons_of_mem e he'), hnodup,
              h.never⟩
          exact hrest.retry (hlisted e List.mem_cons_self) hnew

/-- In every run of the Regulator and the Orchestrator, a request is sent once
more at most `MAX_RETRY_NUM` times, and its row has counted each of them. -/
theorem retries_le_max (h : (machine typeOf).Reachable s) (requestID : UUID) :
    s.retries requestID ≤ MAX_RETRY_NUM ∧
      ∀ row, s.orchestrator.oib.requestTable.get? requestID = some row →
        row.retryCnt = s.retries requestID ∧ row.retryCnt ≤ MAX_RETRY_NUM := by
  have hcounting : Counting typeOf s :=
    Machine.Reachable.invariant (fun _ => counting_of_init)
      (fun _ _ h hi => h.handle hi) h
  have hbounded := hcounting.bounded requestID
  refine ⟨hbounded, fun row hrow => ?_⟩
  have hcnt := (hcounting.tracked.counted.row requestID row hrow).retryCnt
  exact ⟨hcnt, hcnt ▸ hbounded⟩

/-- A request to delete an SFC that is not stored fails each time. -/
def failing : Request := sampleRequest 0 .delSFC 0 none

def failingInputs : List Input :=
  [.orchestrator (.request sampleEnv failing), .retryFailureRequests, .next,
    .orchestrator (.request sampleEnv failing), .retryFailureRequests, .next]

def failedTwice : RetryLoop :=
  failingInputs.foldl handle ⟨fresh, [], []⟩

theorem reachable_failedTwice :
    (machine fun _ => .delSFC).Reachable failedTwice := by
  have hstart : (machine fun _ => .delSFC).Run [] ⟨fresh, [], []⟩ :=
    .start ⟨rfl, rfl, rfl, rfl, rfl⟩
  have hinputs : (machine fun _ => .delSFC).Arrive ⟨fresh, [], []⟩
      failingInputs := ⟨rfl, rfl, trivial, rfl, rfl, trivial, trivial⟩
  exact (hstart.arrive hinputs).reachable

theorem retries_le_max_failedTwice :
    failedTwice.retries failing.requestID = 1 ∧
      failedTwice.retries failing.requestID ≤ MAX_RETRY_NUM ∧
      ∀ row, failedTwice.orchestrator.oib.requestTable.get?
        failing.requestID = some row →
        row.retryCnt = failedTwice.retries failing.requestID ∧
          row.retryCnt ≤ MAX_RETRY_NUM :=
  ⟨by decide, retries_le_max reachable_failedTwice failing.requestID⟩

end Regulator.RetryLoop

end SelfAdaptiveMano

import SelfAdaptiveMano.Mediator.Simulation
import SelfAdaptiveMano.Orchestration.Origins
import SelfAdaptiveMano.Orchestration.Steps

/-!
# The accounts of the Orchestrator

What is stored as done or as in processing is traced back to the commands that
were sent and the replies that came. `Accounted content delivered o` says how the
tables of `o` follow from the commands in `o.sent` and the replies in
`delivered`: a request is in processing only while its command is outstanding,
and it is successful, its SFCI active or its SFC or SFCI deleted only if a reply
of success came for a command that was sent for just that. The deeds keep it, and
so does a reply that joins those delivered.
-/

namespace SelfAdaptiveMano

open Library CommandMaintainer

namespace OrchInfoBase

variable {oib oib' : OrchInfoBase}

/-- The commands that bring an SFCI into the state, where the state says that one of
them was carried out. -/
def doneBy : SFCState → Option CmdType
  | .active => some .addSFCI
  | .deleted => some .delSFCI
  | _ => none

theorem doneBy_eq_some {state : SFCState} {cmdType : CmdType}
    (h : doneBy state = some cmdType) : cmdType = .addSFCI ∨ cmdType = .delSFCI := by
  cases state <;> simp_all [doneBy]

structure NothingDone (oib oib' : OrchInfoBase) : Prop where
  sfci : ∀ {sfciID state}, doneBy state ≠ none →
    oib'.getSFCIState sfciID = some state → oib.getSFCIState sfciID = some state
  sfc : ∀ {sfcUUID}, oib'.getSFCState sfcUUID = some .deleted →
    oib.getSFCState sfcUUID = some .deleted

theorem NothingDone.of_eq (hsfci : oib'.sfciTable = oib.sfciTable)
    (hsfc : oib'.sfcTable = oib.sfcTable) : NothingDone oib oib' where
  sfci := by
    intro sfciID state _ h
    rwa [getSFCIState_congr hsfci] at h
  sfc := by
    intro sfcUUID h
    rwa [getSFCState_congr hsfc] at h

theorem sfci_of_updateSFCIState {sfciID sfciID' : Nat} {state state' : SFCState}
    (htable : oib'.sfciTable = (oib.updateSFCIState sfciID state).sfciTable)
    (h : oib'.getSFCIState sfciID' = some state') :
    oib.getSFCIState sfciID' = some state' ∨ (sfciID' = sfciID ∧ state' = state) := by
  rw [getSFCIState_congr htable, getSFCIState_updateSFCIState] at h
  by_cases heq : sfciID' = sfciID
  · rw [if_pos heq] at h
    obtain ⟨-, -, rfl⟩ := Option.map_eq_some_iff.mp h
    exact .inr ⟨heq, rfl⟩
  · rw [if_neg heq] at h
    exact .inl h

/-- The rows of the requests are rewritten at most with a state that is neither
in processing nor successful, and keep their commands. -/
def Dampened (oib oib' : OrchInfoBase) : Prop :=
  ∀ requestID row', oib'.requestTable.get? requestID = some row' →
    oib.requestTable.get? requestID = some row' ∨
      (row'.state ≠ .inProcessing ∧ row'.state ≠ .successful ∧
        (row'.cmdUUID = none ∨ ∃ row,
          oib.requestTable.get? requestID = some row ∧
            row'.cmdUUID = row.cmdUUID))

theorem dampened_updateRequestState2DB (oib : OrchInfoBase) (request : Request)
    {state : RequestState} (hprocessing : state ≠ .inProcessing)
    (hsuccessful : state ≠ .successful) :
    Dampened oib (oib.updateRequestState2DB request state) := by
  intro requestID row' hrow
  rw [requestRow_updateRequestState2DB] at hrow
  split at hrow
  · cases hold : oib.requestTable.get? requestID with
    | some row =>
        simp only [hold, Option.some.injEq] at hrow
        subst hrow
        exact .inr ⟨hprocessing, hsuccessful, .inr ⟨row, rfl, rfl⟩⟩
    | none =>
        simp only [hold, Option.some.injEq] at hrow
        subst hrow
        exact .inr ⟨hprocessing, hsuccessful, .inl rfl⟩
  · exact .inl hrow

theorem dampened_addRequest (oib : OrchInfoBase) (request : Request) :
    Dampened oib (oib.addRequest { request with requestState := .failed } none none
      none) := by
  intro requestID row' hrow
  rw [requestRow_addRequest] at hrow
  split at hrow
  · cases hrow
    exact .inr ⟨by simp, by simp, .inl rfl⟩
  · exact .inl hrow

theorem Dampened.incRequestRetryCnt (h : Dampened oib oib') (requestID : UUID)
    (hstate : ∀ row', oib'.requestTable.get? requestID = some row' →
      row'.state ≠ .inProcessing ∧ row'.state ≠ .successful) :
    Dampened oib (oib'.incRequestRetryCnt requestID) := by
  intro requestID' row'' hrow
  simp only [OrchInfoBase.incRequestRetryCnt, Dict.get?_modify] at hrow
  by_cases heq : requestID' = requestID
  · subst heq
    rw [if_pos rfl] at hrow
    obtain ⟨row', hrow', rfl⟩ := Option.map_eq_some_iff.mp hrow
    obtain ⟨hprocessing, hsuccessful⟩ := hstate row' hrow'
    refine .inr ⟨hprocessing, hsuccessful, ?_⟩
    obtain hold | ⟨-, -, hcmd⟩ := h requestID' row' hrow'
    · exact .inr ⟨row', hold, rfl⟩
    · exact hcmd
  · rw [if_neg heq] at hrow
    exact h requestID' row'' hrow

end OrchInfoBase

open OrchInfoBase Orchestrator

theorem nothingDone_regulate (oib : OrchInfoBase) (update : RegulatorUpdate) :
    NothingDone oib (regulate oib update) where
  sfc := sfcState_regulate
  sfci := by
    intro sfciID state hstate h
    cases update with
    | updateSFCState | scaling =>
        dsimp only [regulate] at h
        split at h <;> exact h
    | finish => exact h
    | recover sfcUUID sfciID' =>
        dsimp only [regulate] at h
        split at h
        · obtain hold | ⟨-, rfl⟩ := sfci_of_updateSFCIState rfl h
          · exact hold
          · exact absurd rfl hstate
        · exact h
    | reject =>
        rwa [regulate, getSFCIState_congr
          (sfciTable_updateRequestState2DB ..)] at h
    | retry requestID =>
        dsimp only [regulate] at h
        split at h
        · split at h
          · rwa [getSFCIState_congr ((sfciTable_incRequestRetryCnt ..).trans
              (sfciTable_updateRequestState2DB ..))] at h
          · exact h
        · exact h

theorem dampened_regulate {content : UUID → Content} {oib : OrchInfoBase}
    (hmatches : oib.Matches content) (update : RegulatorUpdate) :
    Dampened oib (regulate oib update) := by
  cases update with
  | updateSFCState | scaling | recover =>
      dsimp only [regulate]
      split <;> exact fun _ _ hrow => .inl hrow
  | finish => exact fun _ _ hrow => .inl hrow
  | reject request =>
      exact dampened_updateRequestState2DB oib request (by simp) (by simp)
  | retry requestID =>
      dsimp only [regulate]
      cases hrow : oib.requestTable.get? requestID with
      | none => exact fun _ _ hrow => .inl hrow
      | some row =>
          by_cases hfailed : row.state = .failed
          · simp only [if_pos hfailed]
            refine (dampened_updateRequestState2DB oib row.pickle (by simp)
              (by simp)).incRequestRetryCnt requestID ?_
            intro row' hrow'
            rw [requestRow_updateRequestState2DB,
              if_pos (hmatches requestID row hrow).1.symm, hrow] at hrow'
            cases hrow'
            simp
          · simp only [if_neg hfailed]
            exact fun _ _ hrow => .inl hrow

namespace Judged

variable {oib oib' : OrchInfoBase} {cmdID : UUID} {request : Request}
  {outcome : Outcome}

theorem nothingDone (h : Judged oib cmdID request outcome oib') :
    NothingDone oib oib' where
  sfc := h.sfcState_deleted
  sfci := by
    intro sfciID state hstate h'
    have hwritten : ∀ {sfciID' : Nat} {state' : SFCState},
        oib'.sfciTable = (oib.updateSFCIState sfciID' state').sfciTable →
        doneBy state' = none → oib.getSFCIState sfciID = some state := by
      intro sfciID' state' htable hnone
      obtain hold | ⟨-, rfl⟩ := sfci_of_updateSFCIState htable h'
      · exact hold
      · exact absurd hnone hstate
    have hsame : oib'.sfciTable = oib.sfciTable →
        oib.getSFCIState sfciID = some state := by
      intro htable
      rwa [getSFCIState_congr htable] at h'
    cases h with
    | addSFCSent | addSFCInvalid | delSFCSent | delSFCInvalid =>
        exact hsame (by simp)
    | @addSFCISent sfc sfci htype hsfc hsfci hvalid =>
        rw [getSFCIState, sfciTable_addSFCIRequestHandler hvalid,
          Dict.get?_set] at h'
        by_cases heq : sfciID = sfci.sfciID
        · rw [if_pos heq] at h'
          cases h'
          exact absurd rfl hstate
        · rw [if_neg heq] at h'
          exact h'
    | addSFCIInvalid htype hsfc hsfci hvalid =>
        exact hsame (by simp [addSFCIRequestHandler_of_invalid hvalid])
    | addSFCIUnmapped =>
        exact hwritten (sfciTable_addUnmappedSFCIRequestHandler ..) rfl
    | delSFCISent | delSFCIInvalid =>
        exact hwritten (sfciTable_delSFCIRequestHandler ..) rfl

theorem row (h : Judged oib cmdID request outcome oib') :
    ∃ row', oib'.requestTable.get? request.requestID = some row' ∧
      row'.state = (if outcome = .sent then .inProcessing else .failed) ∧
      (outcome ≠ .unmapped → row'.cmdUUID = some cmdID) ∧
      (outcome = .unmapped → row'.cmdUUID = none ∨ ∃ row,
        oib.requestTable.get? request.requestID = some row ∧
          row'.cmdUUID = row.cmdUUID) := by
  -- all outcomes but one note the command
  have hnoted : ∀ (state : RequestState) (sfcUUID : UUID) (sfciID : Option Nat),
      oib'.requestTable = (oib.addCmdInfo2Request
        { request with requestState := state } sfcUUID sfciID
          cmdID).requestTable →
      ∃ row', oib'.requestTable.get? request.requestID = some row' ∧
        row'.state = state ∧ row'.cmdUUID = some cmdID := by
    intro state sfcUUID sfciID htable
    obtain ⟨row', hrow, -, hstate, hcmd⟩ := oib.requestRow_addCmdInfo2Request
      { request with requestState := state } sfcUUID sfciID cmdID
    exact ⟨row', htable ▸ hrow, hstate, hcmd⟩
  cases h with
  | @addSFCSent sfc | @addSFCInvalid sfc =>
      obtain ⟨row', hrow, hstate, hcmd⟩ := hnoted _ sfc.sfcUUID none
        (requestTable_addSFC2DB ..)
      exact ⟨row', hrow, hstate, fun _ => hcmd, by simp⟩
  | @addSFCISent sfc sfci _ _ _ hvalid =>
      obtain ⟨row', hrow, hstate, hcmd⟩ := hnoted _ sfc.sfcUUID
        (some sfci.sfciID) (requestTable_addSFCIRequestHandler hvalid)
      exact ⟨row', hrow, hstate, fun _ => hcmd, by simp⟩
  | @addSFCIInvalid sfc sfci _ _ _ hvalid =>
      obtain ⟨row', hrow, hstate, hcmd⟩ := hnoted .failed sfc.sfcUUID
        (some sfci.sfciID) (by rw [addSFCIRequestHandler_of_invalid hvalid])
      exact ⟨row', hrow, hstate, fun _ => hcmd, by simp⟩
  | @addSFCIUnmapped sfc sfci =>
      dsimp only [addUnmappedSFCIRequestHandler]
      split
      · next hhas =>
          obtain ⟨row, hrow⟩ := hasRequest_iff.mp hhas
          have hnew : (oib.updateRequest { request with requestState := .failed }
              (some sfc.sfcUUID) none none).requestTable.get? request.requestID =
              some { row with
                requestType := request.requestType, state := .failed,
                pickle := { request with requestState := .failed },
                sfcUUID := some sfc.sfcUUID } := by
            simp [updateRequest, Dict.get?_modify, hrow]
          exact ⟨_, hnew, by simp, by simp, fun _ => .inr ⟨row, hrow, rfl⟩⟩
      · next hhas =>
          have hnew : (oib.addRequest { request with requestState := .failed }
              (some sfc.sfcUUID) none none).requestTable.get? request.requestID =
              some ⟨request.requestType, some sfc.sfcUUID, none, none, .failed,
                { request with requestState := .failed }, 0⟩ := by
            simp [addRequest, hhas]
          exact ⟨_, hnew, by simp, by simp, fun _ => .inl rfl⟩
  | @delSFCISent _ sfc _ sfci | @delSFCIInvalid _ sfc _ sfci =>
      obtain ⟨row', hrow, hstate, hcmd⟩ := hnoted _ sfc.sfcUUID
        (some sfci.sfciID) rfl
      exact ⟨row', hrow, hstate, fun _ => hcmd, by simp⟩
  | @delSFCSent _ sfc =>
      obtain ⟨row', hrow, hstate, hcmd⟩ := hnoted .inProcessing sfc.sfcUUID none
        (by simp [delSFCRequestHandler])
      exact ⟨row', hrow, hstate, fun _ => hcmd, by simp⟩
  | @delSFCInvalid _ sfc =>
      obtain ⟨row', hrow, hstate, hcmd⟩ := hnoted .failed sfc.sfcUUID none
        (by simp [delSFCRequestHandler])
      exact ⟨row', hrow, hstate, fun _ => hcmd, by simp⟩

end Judged

namespace OrchInfoBase

variable {oib : OrchInfoBase}

theorem getRequestByCmdID_eq_error {cmdID : UUID} {e : PyError}
    (h : oib.getRequestByCmdID cmdID = .error e) {requestID : UUID}
    {row : RequestRow} (hrow : oib.requestTable.get? requestID = some row) :
    row.cmdUUID ≠ some cmdID := by
  intro hcmd
  unfold getRequestByCmdID at h
  cases hfind : oib.requestTable.items.find? fun e => e.2.cmdUUID = some cmdID with
  | some e => simp [hfind] at h
  | none =>
      have := List.find?_eq_none.mp hfind (requestID, row)
        (Dict.mem_items_iff.mpr hrow)
      simp [hcmd] at this

theorem exists_genRequestSFCAndSFCIState {requestType : RequestType}
    {cmdType : CmdType} {cmdState : CmdState}
    (htype : requestType.cmdType? = some cmdType)
    (hstate : cmdState = .successful ∨ cmdState = .fail) :
    ∃ requestState state, genRequestSFCAndSFCIState requestType cmdState =
        .ok (requestState, state) ∧
      (requestState = .failed ∨
        (requestState = .successful ∧ cmdState = .successful)) := by
  obtain rfl | rfl := hstate <;> cases requestType <;>
    simp [RequestType.cmdType?] at htype <;> exact ⟨_, _, rfl, by simp⟩

theorem cmdType_of_doneBy {requestType : RequestType} {cmdType : CmdType}
    {cmdState : CmdState} {requestState : RequestState} {state : SFCState}
    (h : genRequestSFCAndSFCIState requestType cmdState = .ok (requestState, state))
    (htype : requestType = .addSFCI ∨ requestType = .delSFCI)
    (hdone : doneBy state = some cmdType) :
    cmdState = .successful ∧ requestType.cmdType? = some cmdType := by
  unfold genRequestSFCAndSFCIState at h
  split at h <;> cases h <;> simp_all [doneBy, RequestType.cmdType?]

theorem delSFC_of_deleted {requestType : RequestType} {cmdState : CmdState}
    {requestState : RequestState}
    (h : genRequestSFCAndSFCIState requestType cmdState =
      .ok (requestState, .deleted))
    (htype : requestType = .addSFC ∨ requestType = .delSFC) :
    cmdState = .successful ∧ requestType = .delSFC := by
  unfold genRequestSFCAndSFCIState at h
  split at h <;> cases h <;> simp_all

end OrchInfoBase

namespace Orchestrator

variable {content : UUID → Content} {o o' : Orchestrator}

/-- A command with `p` was sent, and its success was reported. -/
def Granted (o : Orchestrator) (delivered : List CommandReply)
    (p : Command → Prop) : Prop :=
  ∃ sending ∈ o.sent, p sending.cmd ∧ ∃ cmdRply ∈ delivered,
    cmdRply.cmdID = sending.cmd.cmdID ∧ cmdRply.cmdState = .successful

theorem Granted.mono {delivered delivered' : List CommandReply}
    {p : Command → Prop} (h : Granted o delivered p)
    (hsent : ∀ sending ∈ o.sent, sending ∈ o'.sent)
    (hdelivered : ∀ cmdRply ∈ delivered, cmdRply ∈ delivered') :
    Granted o' delivered' p := by
  obtain ⟨sending, hmem, hp, cmdRply, hrply, hid, hstate⟩ := h
  exact ⟨sending, hsent _ hmem, hp, cmdRply, hdelivered _ hrply, hid, hstate⟩

/-- A command of the type `cmdType` about the SFCI. -/
def AboutSFCI (cmdType : CmdType) (sfciID : Nat) (cmd : Command) : Prop :=
  cmd.cmdType = cmdType ∧ cmd.attributes.sfci.map SFCI.sfciID = some sfciID

/-- A command of the type `cmdType` about the SFC. -/
def AboutSFC (cmdType : CmdType) (sfcUUID : UUID) (cmd : Command) : Prop :=
  cmd.cmdType = cmdType ∧ cmd.attributes.sfc.map SFC.sfcUUID = some sfcUUID

def Awaited (delivered : List CommandReply) (cmdID : UUID) : Prop :=
  ∀ cmdRply ∈ delivered, cmdRply.cmdID ≠ cmdID

/-- The tables follow from the commands that were sent and the replies that were
delivered. -/
structure Accounted (content : UUID → Content) (delivered : List CommandReply)
    (o : Orchestrator) : Prop where
  filed : Filed content o
  nodup : (o.sent.map fun sending => sending.cmd.cmdID).Nodup
  proper : ∀ sending ∈ o.sent,
    o.Proper sending.cmd (content sending.requestID)
  replied : ∀ cmdRply ∈ delivered, ∃ sending ∈ o.sent,
    sending.cmd.cmdID = cmdRply.cmdID
  owner : ∀ {requestID row sending},
    o.oib.requestTable.get? requestID = some row → sending ∈ o.sent →
    row.cmdUUID = some sending.cmd.cmdID → sending.requestID = requestID
  unique : ∀ {requestID row requestID' row' cmdID},
    o.oib.requestTable.get? requestID = some row →
    o.oib.requestTable.get? requestID' = some row' →
    row.cmdUUID = some cmdID → row'.cmdUUID = some cmdID → requestID = requestID'
  entry : ∀ {cmdID info}, o.cm.get? cmdID = some info →
    info.childCmdID = .empty ∧
      ∃ sending ∈ o.sent, sending.cmd = info.cmd ∧ info.cmd.cmdID = cmdID
  kept : ∀ sending ∈ o.sent, Awaited delivered sending.cmd.cmdID →
    o.cm.contains sending.cmd.cmdID = true
  pending : ∀ {requestID row}, o.oib.requestTable.get? requestID = some row →
    row.state = .inProcessing → ∃ sending ∈ o.sent,
      row.cmdUUID = some sending.cmd.cmdID ∧ Awaited delivered sending.cmd.cmdID
  granted : ∀ {requestID row}, o.oib.requestTable.get? requestID = some row →
    row.state = .successful →
      Granted o delivered fun cmd => row.cmdUUID = some cmd.cmdID
  sfci : ∀ {sfciID state cmdType}, doneBy state = some cmdType →
    o.oib.getSFCIState sfciID = some state →
    Granted o delivered (AboutSFCI cmdType sfciID)
  deletedSFC : ∀ {sfcUUID}, o.oib.getSFCState sfcUUID = some .deleted →
    Granted o delivered (AboutSFC .delSFC sfcUUID)

theorem accounted_of_init (h : (machine content).init o) :
    Accounted content [] o := by
  obtain ⟨hoib, hcm, -, -, hsent, -⟩ := id h
  constructor
  case filed => exact filed_of_init h
  all_goals simp [hoib, hcm, hsent, getSFCIState, getSFCState]

namespace Accounted

variable {delivered : List CommandReply}

theorem known_of_row {requestID : UUID} {row : RequestRow} {cmdID : UUID}
    (hrow : o.oib.requestTable.get? requestID = some row)
    (hcmd : row.cmdUUID = some cmdID) : o.Known cmdID :=
  .inl (.inr ⟨_, requestID, row, hrow, hcmd, rfl⟩)

/-- The deeds but judging keep the accounts. -/
theorem calm (h : Accounted content delivered o) (hf : Filed content o')
    (hsent : o'.sent = o.sent) (hcm : o'.cm = o.cm)
    (hname : o'.orchInstanceQueueName = o.orchInstanceQueueName)
    (hrows : Dampened o.oib o'.oib) (hdone : NothingDone o.oib o'.oib) :
    Accounted content delivered o' := by
  have hnoted : ∀ {requestID row' cmdID},
      o'.oib.requestTable.get? requestID = some row' →
      row'.cmdUUID = some cmdID → ∃ row,
        o.oib.requestTable.get? requestID = some row ∧
          row.cmdUUID = some cmdID := by
    intro requestID row' cmdID hrow' hcmd
    obtain hold | ⟨-, -, hnone | ⟨row, hrow, hsame⟩⟩ := hrows requestID row' hrow'
    · exact ⟨row', hold, hcmd⟩
    · rw [hcmd] at hnone
      cases hnone
    · exact ⟨row, hrow, hsame ▸ hcmd⟩
  have hgranted : ∀ {p}, Granted o delivered p → Granted o' delivered p :=
    fun hp => hp.mono (by simp [hsent]) fun _ h => h
  refine ⟨hf, hsent ▸ h.nodup, ?_, hsent ▸ h.replied, ?_, ?_, ?_, ?_, ?_, ?_,
    ?_, ?_⟩
  · intro sending hmem
    obtain ⟨hown, hsource, hcarries⟩ := h.proper sending (hsent ▸ hmem)
    exact ⟨hown, hname ▸ hsource, hcarries⟩
  · intro requestID row' sending hrow' hmem hcmd
    obtain ⟨row, hrow, hcmd'⟩ := hnoted hrow' hcmd
    exact h.owner hrow (hsent ▸ hmem) hcmd'
  · intro requestID row₁ requestID' row₂ cmdID hrow₁ hrow₂ hcmd₁ hcmd₂
    obtain ⟨row₁', hrow₁', hcmd₁'⟩ := hnoted hrow₁ hcmd₁
    obtain ⟨row₂', hrow₂', hcmd₂'⟩ := hnoted hrow₂ hcmd₂
    exact h.unique hrow₁' hrow₂' hcmd₁' hcmd₂'
  · rw [hcm, hsent]
    exact h.entry
  · rw [hcm, hsent]
    exact h.kept
  · intro requestID row' hrow' hstate
    obtain hold | ⟨hprocessing, -, -⟩ := hrows requestID row' hrow'
    · rw [hsent]
      exact h.pending hold hstate
    · exact absurd hstate hprocessing
  · intro requestID row' hrow' hstate
    obtain hold | ⟨-, hsuccessful, -⟩ := hrows requestID row' hrow'
    · exact hgranted (h.granted hold hstate)
    · exact absurd hstate hsuccessful
  · intro sfciID state cmdType hstate hnow
    exact hgranted (h.sfci hstate (hdone.sfci (by simp [hstate]) hnow))
  · exact fun hdel => hgranted (h.deletedSFC (hdone.sfc hdel))

section Judging

variable {request : Request} {cmd : Command} {outcome : Outcome}
  {oib' : OrchInfoBase}

theorem mem_sent_judge {sending : Sending} (h : sending ∈ o.sent) :
    sending ∈ (o.judge request cmd outcome oib').sent := by
  by_cases hsent : outcome = .sent
  · simp [Orchestrator.judge, hsent, h]
  · simpa [Orchestrator.judge, hsent] using h

theorem granted_judge_of_granted {p : Command → Prop} (h : Granted o delivered p) :
    Granted (o.judge request cmd outcome oib') delivered p :=
  h.mono (fun _ => mem_sent_judge) fun _ h => h

theorem noted_of_judged (hjudged : Judged o.oib cmd.cmdID request outcome oib')
    {requestID cmdID : UUID} {row' : RequestRow}
    (hrow' : oib'.requestTable.get? requestID = some row')
    (hcmd : row'.cmdUUID = some cmdID) :
    (∃ row, o.oib.requestTable.get? requestID = some row ∧
      row.cmdUUID = some cmdID) ∨
      (outcome ≠ .unmapped ∧ cmdID = cmd.cmdID ∧
        requestID = request.requestID) := by
  obtain ⟨own, hown, -, hmade, hunmapped⟩ := hjudged.row
  by_cases heq : requestID = request.requestID
  · subst heq
    rw [hown] at hrow'
    cases hrow'
    by_cases hmapped : outcome = .unmapped
    · obtain hnone | ⟨row, hrow, hsame⟩ := hunmapped hmapped
      · rw [hcmd] at hnone
        cases hnone
      · exact .inl ⟨row, hrow, hsame ▸ hcmd⟩
    · rw [hmade hmapped] at hcmd
      exact .inr ⟨hmapped, (Option.some.inj hcmd).symm, rfl⟩
  · rw [hjudged.requestWrite.other requestID heq] at hrow'
    exact .inl ⟨row', hrow', hcmd⟩

theorem cmdID_ne_of_sent (hnew : outcome ≠ .unmapped → ¬ o.Known cmd.cmdID)
    {sending : Sending} (hmem : sending ∈ o.sent) (hmapped : outcome ≠ .unmapped) :
    sending.cmd.cmdID ≠ cmd.cmdID :=
  fun heq => hnew hmapped (.inr ⟨sending, hmem, heq⟩)

theorem nodup_judge (h : Accounted content delivered o)
    (hnew : outcome ≠ .unmapped → ¬ o.Known cmd.cmdID) :
    ((o.judge request cmd outcome oib').sent.map fun sending =>
      sending.cmd.cmdID).Nodup := by
  by_cases hsent : outcome = .sent
  · have hlist : (o.judge request cmd outcome oib').sent =
        o.sent ++ [⟨request.requestID, cmd⟩] := by
      simp [Orchestrator.judge, hsent]
    rw [hlist, List.map_append, List.nodup_append]
    refine ⟨h.nodup, by simp, ?_⟩
    rintro cmdID hmem _ hcmd rfl
    obtain ⟨sending, hold, rfl⟩ := List.mem_map.mp hmem
    exact cmdID_ne_of_sent hnew hold (by simp [hsent]) (List.mem_singleton.mp hcmd)
  · simpa [Orchestrator.judge, hsent] using h.nodup

theorem proper_judge (h : Accounted content delivered o)
    (hproper : outcome = .sent → o.Proper cmd (content request.requestID))
    {sending : Sending} (hmem : sending ∈ (o.judge request cmd outcome oib').sent) :
    (o.judge request cmd outcome oib').Proper sending.cmd
      (content sending.requestID) := by
  obtain hold | ⟨hsent, rfl⟩ := sent_judge hmem
  · obtain ⟨hown, hsource, hcarries⟩ := h.proper sending hold
    exact ⟨hown, hsource, hcarries⟩
  · obtain ⟨hown, hsource, hcarries⟩ := hproper hsent
    exact ⟨hown, hsource, hcarries⟩

theorem owner_judge (h : Accounted content delivered o)
    (hjudged : Judged o.oib cmd.cmdID request outcome oib')
    (hnew : outcome ≠ .unmapped → ¬ o.Known cmd.cmdID) {requestID : UUID}
    {row' : RequestRow} {sending : Sending}
    (hrow' : oib'.requestTable.get? requestID = some row')
    (hmem : sending ∈ (o.judge request cmd outcome oib').sent)
    (hcmd : row'.cmdUUID = some sending.cmd.cmdID) :
    sending.requestID = requestID := by
  obtain hold | ⟨hsent, rfl⟩ := sent_judge hmem
  · obtain ⟨row, hrow, hcmd'⟩ | ⟨hmapped, heq, -⟩ :=
      noted_of_judged hjudged hrow' hcmd
    · exact h.owner hrow hold hcmd'
    · exact absurd heq (cmdID_ne_of_sent hnew hold hmapped)
  · obtain ⟨row, hrow, hcmd'⟩ | ⟨-, -, heq⟩ := noted_of_judged hjudged hrow' hcmd
    · exact absurd (known_of_row hrow hcmd') (hnew (by simp [hsent]))
    · exact heq.symm

theorem unique_judge (h : Accounted content delivered o)
    (hjudged : Judged o.oib cmd.cmdID request outcome oib')
    (hnew : outcome ≠ .unmapped → ¬ o.Known cmd.cmdID)
    {requestID₁ requestID₂ cmdID : UUID} {row₁ row₂ : RequestRow}
    (hrow₁ : oib'.requestTable.get? requestID₁ = some row₁)
    (hrow₂ : oib'.requestTable.get? requestID₂ = some row₂)
    (hcmd₁ : row₁.cmdUUID = some cmdID) (hcmd₂ : row₂.cmdUUID = some cmdID) :
    requestID₁ = requestID₂ := by
  obtain ⟨row₁', hrow₁', hcmd₁'⟩ | ⟨hmapped₁, rfl, heq₁⟩ :=
    noted_of_judged hjudged hrow₁ hcmd₁
  · obtain ⟨row₂', hrow₂', hcmd₂'⟩ | ⟨hmapped₂, rfl, -⟩ :=
      noted_of_judged hjudged hrow₂ hcmd₂
    · exact h.unique hrow₁' hrow₂' hcmd₁' hcmd₂'
    · exact absurd (known_of_row hrow₁' hcmd₁') (hnew hmapped₂)
  · obtain ⟨row₂', hrow₂', hcmd₂'⟩ | ⟨-, -, heq₂⟩ :=
      noted_of_judged hjudged hrow₂ hcmd₂
    · exact absurd (known_of_row hrow₂' hcmd₂') (hnew hmapped₁)
    · exact heq₁.trans heq₂.symm

theorem entry_judge (h : Accounted content delivered o) {cmdID : UUID}
    {info : CmdInfo}
    (hinfo : (o.judge request cmd outcome oib').cm.get? cmdID = some info) :
    info.childCmdID = .empty ∧
      ∃ sending ∈ (o.judge request cmd outcome oib').sent,
        sending.cmd = info.cmd ∧ info.cmd.cmdID = cmdID := by
  by_cases hsent : outcome = .sent
  · simp only [Orchestrator.judge, if_pos hsent, Dict.get?_set] at hinfo
    by_cases heq : cmdID = cmd.cmdID
    · rw [if_pos heq] at hinfo
      cases hinfo
      exact ⟨rfl, ⟨request.requestID, cmd⟩, by simp [Orchestrator.judge, hsent],
        rfl, heq.symm⟩
    · rw [if_neg heq] at hinfo
      obtain ⟨hchildren, sending, hmem, hcmd⟩ := h.entry hinfo
      exact ⟨hchildren, sending, mem_sent_judge hmem, hcmd⟩
  · simp only [Orchestrator.judge, if_neg hsent] at hinfo
    obtain ⟨hchildren, sending, hmem, hcmd⟩ := h.entry hinfo
    exact ⟨hchildren, sending, mem_sent_judge hmem, hcmd⟩

theorem kept_judge (h : Accounted content delivered o)
    (hnew : outcome ≠ .unmapped → ¬ o.Known cmd.cmdID) {sending : Sending}
    (hmem : sending ∈ (o.judge request cmd outcome oib').sent)
    (hawaited : Awaited delivered sending.cmd.cmdID) :
    (o.judge request cmd outcome oib').cm.contains sending.cmd.cmdID = true := by
  obtain hold | ⟨hsent, rfl⟩ := sent_judge hmem
  · have hcontains := h.kept sending hold hawaited
    by_cases hsent : outcome = .sent
    · have hne := cmdID_ne_of_sent hnew hold (by simp [hsent])
      simpa [Orchestrator.judge, hsent, Dict.contains,
        Dict.get?_set_of_ne _ _ hne] using hcontains
    · simpa [Orchestrator.judge, hsent] using hcontains
  · simp [Orchestrator.judge, hsent, Dict.contains]

theorem awaited_of_new (h : Accounted content delivered o)
    (hnew : outcome ≠ .unmapped → ¬ o.Known cmd.cmdID) (hsent : outcome = .sent) :
    Awaited delivered cmd.cmdID := by
  intro cmdRply hrply heq
  obtain ⟨sending, hmem, hid⟩ := h.replied cmdRply hrply
  exact cmdID_ne_of_sent hnew hmem (by simp [hsent]) (hid.trans heq)

theorem pending_judge (h : Accounted content delivered o)
    (hjudged : Judged o.oib cmd.cmdID request outcome oib')
    (hnew : outcome ≠ .unmapped → ¬ o.Known cmd.cmdID) {requestID : UUID}
    {row' : RequestRow} (hrow' : oib'.requestTable.get? requestID = some row')
    (hprocessing : row'.state = .inProcessing) :
    ∃ sending ∈ (o.judge request cmd outcome oib').sent,
      row'.cmdUUID = some sending.cmd.cmdID ∧
        Awaited delivered sending.cmd.cmdID := by
  obtain ⟨own, hown, hstate, hmade, -⟩ := hjudged.row
  by_cases heq : requestID = request.requestID
  · subst heq
    obtain rfl : own = row' := Option.some.inj (hown.symm.trans hrow')
    have hsent : outcome = .sent := by
      by_contra hsent
      rw [hstate, if_neg hsent] at hprocessing
      cases hprocessing
    exact ⟨⟨request.requestID, cmd⟩, by simp [Orchestrator.judge, hsent],
      hmade (by simp [hsent]), h.awaited_of_new hnew hsent⟩
  · have hrow : o.oib.requestTable.get? requestID = some row' := by
      rw [← hjudged.requestWrite.other requestID heq]
      exact hrow'
    obtain ⟨sending, hmem, hcmd⟩ := h.pending hrow hprocessing
    exact ⟨sending, mem_sent_judge hmem, hcmd⟩

theorem granted_judge (h : Accounted content delivered o)
    (hjudged : Judged o.oib cmd.cmdID request outcome oib') {requestID : UUID}
    {row' : RequestRow} (hrow' : oib'.requestTable.get? requestID = some row')
    (hsuccessful : row'.state = .successful) :
    Granted (o.judge request cmd outcome oib') delivered fun cmd =>
      row'.cmdUUID = some cmd.cmdID := by
  obtain ⟨own, hown, hstate, -, -⟩ := hjudged.row
  by_cases heq : requestID = request.requestID
  · subst heq
    obtain rfl : own = row' := Option.some.inj (hown.symm.trans hrow')
    rw [hstate] at hsuccessful
    split at hsuccessful <;> cases hsuccessful
  · have hrow : o.oib.requestTable.get? requestID = some row' := by
      rw [← hjudged.requestWrite.other requestID heq]
      exact hrow'
    exact granted_judge_of_granted (h.granted hrow hsuccessful)

theorem judge (h : Accounted content delivered o)
    (hf : Filed content (o.judge request cmd outcome oib'))
    (hjudged : Judged o.oib cmd.cmdID request outcome oib')
    (hnew : outcome ≠ .unmapped → ¬ o.Known cmd.cmdID)
    (hproper : outcome = .sent → o.Proper cmd (content request.requestID)) :
    Accounted content delivered (o.judge request cmd outcome oib') where
  filed := hf
  nodup := h.nodup_judge hnew
  proper _ hmem := h.proper_judge hproper hmem
  replied cmdRply hrply := by
    obtain ⟨sending, hmem, hid⟩ := h.replied cmdRply hrply
    exact ⟨sending, mem_sent_judge hmem, hid⟩
  owner hrow' hmem hcmd := h.owner_judge hjudged hnew hrow' hmem hcmd
  unique hrow₁ hrow₂ hcmd₁ hcmd₂ :=
    h.unique_judge hjudged hnew hrow₁ hrow₂ hcmd₁ hcmd₂
  entry hinfo := h.entry_judge hinfo
  kept _ hmem hawaited := h.kept_judge hnew hmem hawaited
  pending hrow' hprocessing := h.pending_judge hjudged hnew hrow' hprocessing
  granted hrow' hsuccessful := h.granted_judge hjudged hrow' hsuccessful
  sfci hdone hnow := granted_judge_of_granted
    (h.sfci hdone (hjudged.nothingDone.sfci (by simp [hdone]) hnow))
  deletedSFC hdel := granted_judge_of_granted
    (h.deletedSFC (hjudged.nothingDone.sfc hdel))

end Judging

theorem deed (h : Accounted content delivered o) (hdeed : Deed content o o') :
    Accounted content delivered o' := by
  have hf := hdeed.filed h.filed
  have hsame : ∀ {oib : OrchInfoBase}, Dampened oib oib :=
    fun _ _ hrow => .inl hrow
  cases hdeed with
  | generate | queues => exact h.calm hf rfl rfl rfl hsame (.of_eq rfl rfl)
  | fail =>
      exact h.calm hf rfl rfl rfl
        (dampened_updateRequestState2DB _ _ (by simp) (by simp))
        (.of_eq (by simp) (by simp))
  | refuse =>
      exact h.calm hf rfl rfl rfl (dampened_addRequest _ _)
        (.of_eq (by simp) (by simp))
  | judge request cmd hcontent hjudged hnew hproper =>
      exact h.judge hf hjudged (fun hmapped => (hnew hmapped).1) hproper
  | regulate =>
      exact h.calm hf rfl rfl rfl (dampened_regulate h.filed.sound.rows _)
        (nothingDone_regulate _ _)

theorem deeds (h : Accounted content delivered o) (hdeeds : Deeds content o o') :
    Accounted content delivered o' := by
  induction hdeeds with
  | refl => exact h
  | tail _ hdeed ih => exact ih.deed hdeed

end Accounted

end Orchestrator

namespace Answered

variable {oib oib' : OrchInfoBase} {request : Request} {cmdState : CmdState}

/-- A reply stores an SFCI as done only for a request for just that. -/
theorem sfci_done (h : Answered oib request cmdState oib') {sfciID : Nat}
    {state : SFCState} {cmdType : CmdType} (hdone : doneBy state = some cmdType)
    (hnow : oib'.getSFCIState sfciID = some state) :
    oib.getSFCIState sfciID = some state ∨ (cmdState = .successful ∧
      request.requestType.cmdType? = some cmdType ∧
      request.attributes.sfci.map SFCI.sfciID = some sfciID) := by
  have hnot : doneBy state ≠ none := by simp [hdone]
  have hmarked : ∀ requestState,
      NothingDone oib (oib.updateRequestState2DB request requestState) :=
    fun _ => .of_eq (by simp) (by simp)
  cases h with
  | unknown => exact .inl hnow
  | raised => exact .inl ((hmarked _).sfci hnot hnow)
  | sfc => exact .inl ((hmarked _).sfci hnot hnow)
  | @addSFCI sfc sfci requestState state' listed hgen _ hsfci htype hlisted =>
      have htable : (listed.updateSFCIState sfci.sfciID state').sfciTable =
          (oib.updateSFCIState sfci.sfciID state').sfciTable := by
        simp [updateSFCIState, (sfciTable_addSFCI2SFCInDB hlisted).1]
      obtain hold | ⟨rfl, rfl⟩ := sfci_of_updateSFCIState htable hnow
      · exact .inl hold
      · obtain ⟨hsucc, hcmd⟩ := cmdType_of_doneBy hgen (.inl htype) hdone
        exact .inr ⟨hsucc, hcmd, by simp [hsfci]⟩
  | @delSFCI sfc sfci requestState state' hgen _ hsfci htype =>
      have htable : ((oib.updateRequestState2DB request
          requestState).updateSFCIState sfci.sfciID state').sfciTable =
          (oib.updateSFCIState sfci.sfciID state').sfciTable := by
        simp [updateSFCIState]
      obtain hold | ⟨rfl, rfl⟩ := sfci_of_updateSFCIState htable hnow
      · exact .inl hold
      · obtain ⟨hsucc, hcmd⟩ := cmdType_of_doneBy hgen (.inr htype) hdone
        exact .inr ⟨hsucc, hcmd, by simp [hsfci]⟩

/-- A reply stores an SFC as deleted only for a `DEL_SFC` that succeeded. -/
theorem sfc_deleted (h : Answered oib request cmdState oib') {sfcUUID : UUID}
    (hnow : oib'.getSFCState sfcUUID = some .deleted) :
    oib.getSFCState sfcUUID = some .deleted ∨
      (cmdState = .successful ∧ request.requestType = .delSFC ∧
        request.attributes.sfc.map SFC.sfcUUID = some sfcUUID) := by
  have hmarked : ∀ requestState,
      (oib.updateRequestState2DB request requestState).getSFCState sfcUUID =
        oib.getSFCState sfcUUID := fun _ => getSFCState_congr (by simp)
  cases h with
  | unknown => exact .inl hnow
  | raised => exact .inl (hmarked _ ▸ hnow)
  | @sfc sfc requestState state hgen hsfc htype =>
      rw [getSFCState_updateSFCState, hmarked] at hnow
      by_cases heq : sfcUUID = sfc.sfcUUID
      · rw [if_pos heq] at hnow
        obtain ⟨-, -, rfl⟩ := Option.map_eq_some_iff.mp hnow
        obtain ⟨hsucc, hdel⟩ := delSFC_of_deleted hgen htype
        exact .inr ⟨hsucc, hdel, by simp [hsfc, heq]⟩
      · rw [if_neg heq] at hnow
        exact .inl hnow
  | addSFCI _ _ _ _ hlisted =>
      rw [getSFCState_congr (sfcTable_updateSFCIState ..),
        sfcState_addSFCI2SFCInDB hlisted, hmarked] at hnow
      exact .inl hnow
  | delSFCI =>
      rw [getSFCState_congr (sfcTable_updateSFCIState ..), hmarked] at hnow
      exact .inl hnow

end Answered

namespace Orchestrator

variable {content : UUID → Content} {o o' : Orchestrator}

/-- What a reply may store: the request of its command is settled as the reply
says, and what the command is about is active or deleted only if it says
success. -/
structure Heard (o : Orchestrator) (cmdRply : CommandReply) (oib' : OrchInfoBase) :
    Prop where
  row : ∀ {requestID row'}, oib'.requestTable.get? requestID = some row' →
    (o.oib.requestTable.get? requestID = some row' ∧
        (row'.state = .inProcessing → row'.cmdUUID ≠ some cmdRply.cmdID)) ∨
      (row'.state ≠ .inProcessing ∧ row'.cmdUUID = some cmdRply.cmdID ∧
        (row'.state = .successful → cmdRply.cmdState = .successful) ∧
        ∃ row, o.oib.requestTable.get? requestID = some row ∧
          row.cmdUUID = some cmdRply.cmdID)
  sfci : ∀ {sfciID state cmdType}, doneBy state = some cmdType →
    oib'.getSFCIState sfciID = some state →
    o.oib.getSFCIState sfciID = some state ∨ (cmdRply.cmdState = .successful ∧
      ∃ sending ∈ o.sent, sending.cmd.cmdID = cmdRply.cmdID ∧
        AboutSFCI cmdType sfciID sending.cmd)
  deletedSFC : ∀ {sfcUUID}, oib'.getSFCState sfcUUID = some .deleted →
    o.oib.getSFCState sfcUUID = some .deleted ∨ (cmdRply.cmdState = .successful ∧
      ∃ sending ∈ o.sent, sending.cmd.cmdID = cmdRply.cmdID ∧
        AboutSFC .delSFC sfcUUID sending.cmd)

theorem Heard.of_same {cmdRply : CommandReply}
    (h : ∀ {requestID row}, o.oib.requestTable.get? requestID = some row →
      row.state = .inProcessing → row.cmdUUID ≠ some cmdRply.cmdID) :
    Heard o cmdRply o.oib :=
  ⟨fun hrow => .inl ⟨hrow, h hrow⟩, fun _ => .inl, .inl⟩

namespace Accounted

variable {delivered : List CommandReply}

theorem cmdType_of_sent (h : Accounted content delivered o) {sending : Sending}
    (hmem : sending ∈ o.sent) :
    sending.cmd.cmdType ∈ [.addSFC, .delSFC, .addSFCI, .delSFCI] := by
  have htype := (h.proper sending hmem).carries.cmdType
  cases hk : (content sending.requestID).requestType <;>
    rw [hk] at htype <;> simp [RequestType.cmdType?] at htype <;>
    simp [← htype]

theorem heard_afterReply (h : Accounted content delivered o)
    {cmdRply : CommandReply}
    (hfin : cmdRply.cmdState = .successful ∨ cmdRply.cmdState = .fail)
    {sending : Sending} (hmem : sending ∈ o.sent)
    (hid : sending.cmd.cmdID = cmdRply.cmdID) :
    Heard o cmdRply (o.oib.afterReply cmdRply) := by
  rw [afterReply]
  cases hget : o.oib.getRequestByCmdID cmdRply.cmdID with
  | error e =>
      exact Heard.of_same fun hrow _ => getRequestByCmdID_eq_error hget hrow
  | ok request =>
      obtain ⟨requestID, row, hrow, hcmd, rfl⟩ := getRequestByCmdID_eq_ok hget
      obtain ⟨hrequest, hcontent⟩ := h.filed.sound.rows requestID row hrow
      have howner := h.owner hrow hmem (hid ▸ hcmd)
      have hcarries := (h.proper sending hmem).carries
      rw [howner, ← hcontent] at hcarries
      have htype : row.pickle.requestType.cmdType? = some sending.cmd.cmdType :=
        hcarries.cmdType
      obtain ⟨requestState, state, hstates, hsettled⟩ :=
        exists_genRequestSFCAndSFCIState htype hfin
      have hanswered := (o.oib.meets_cmdRplyHandler row.pickle
        cmdRply.cmdState).finalState rfl
      have habout : ∀ {cmdType}, row.pickle.requestType.cmdType? = some cmdType →
          sending.cmd.cmdType = cmdType := fun hsame =>
        Option.some.inj (htype.symm.trans hsame)
      refine ⟨?_, ?_, ?_⟩
      · intro requestID' row' hrow'
        rw [hanswered.requestTable hstates,
          requestRow_updateRequestState2DB] at hrow'
        by_cases heq : requestID' = row.pickle.requestID
        · rw [if_pos heq, heq, hrequest, hrow] at hrow'
          cases hrow'
          right
          obtain rfl | ⟨rfl, hsucc⟩ := hsettled
          · exact ⟨by simp, hcmd, by simp, row, by rw [heq, hrequest, hrow], hcmd⟩
          · exact ⟨by simp, hcmd, fun _ => hsucc, row,
              by rw [heq, hrequest, hrow], hcmd⟩
        · rw [if_neg heq] at hrow'
          refine .inl ⟨hrow', fun _ hcmd' => heq ?_⟩
          rw [hrequest]
          exact h.unique hrow' hrow hcmd' hcmd
      · intro sfciID state cmdType hdone hnow
        refine (hanswered.sfci_done hdone hnow).imp_right ?_
        rintro ⟨hsucc, hkind, hid'⟩
        have hcmdType := habout hkind
        refine ⟨hsucc, sending, hmem, hid, hcmdType, ?_⟩
        rw [hcarries.sfciID (hcmdType ▸ doneBy_eq_some hdone)]
        exact hid'
      · intro sfcUUID hnow
        refine (hanswered.sfc_deleted hnow).imp_right ?_
        rintro ⟨hsucc, hdel, hid'⟩
        refine ⟨hsucc, sending, hmem, hid, habout (by rw [hdel]; rfl), ?_⟩
        rw [hcarries.sfcUUID]
        exact hid'

theorem hear (h : Accounted content delivered o) {cmdRply : CommandReply}
    {sending : Sending} (hmem : sending ∈ o.sent)
    (hid : sending.cmd.cmdID = cmdRply.cmdID) {cm' : CommandMaintainer}
    {oib' : OrchInfoBase}
    (hf : Filed content { o with cm := cm', oib := oib' })
    (hother : ∀ cmdID, cmdID ≠ cmdRply.cmdID → cm'.get? cmdID = o.cm.get? cmdID)
    (hentry : ∀ info', cm'.get? cmdRply.cmdID = some info' →
      info'.childCmdID = .empty ∧
        ∃ sending ∈ o.sent, sending.cmd = info'.cmd ∧
          info'.cmd.cmdID = cmdRply.cmdID)
    (hheard : Heard o cmdRply oib') :
    Accounted content (delivered ++ [cmdRply])
      { o with cm := cm', oib := oib' } := by
  have hsub : ∀ r ∈ delivered, r ∈ delivered ++ [cmdRply] :=
    fun r hr => List.mem_append_left _ hr
  have hgranted : ∀ {p}, Granted o delivered p →
      Granted { o with cm := cm', oib := oib' } (delivered ++ [cmdRply]) p :=
    fun hp => hp.mono (fun _ h => h) hsub
  have hnew : ∀ {p : Command → Prop},
      cmdRply.cmdState = .successful ∧
        (∃ sending ∈ o.sent, sending.cmd.cmdID = cmdRply.cmdID ∧ p sending.cmd) →
      Granted { o with cm := cm', oib := oib' } (delivered ++ [cmdRply]) p := by
    rintro p ⟨hsucc, sending', hmem', hid', hp⟩
    exact ⟨sending', hmem', hp, cmdRply, by simp, hid'.symm, hsucc⟩
  have hawaited : ∀ {cmdID}, Awaited (delivered ++ [cmdRply]) cmdID ↔
      Awaited delivered cmdID ∧ cmdRply.cmdID ≠ cmdID := by
    intro cmdID
    simp [Awaited, or_imp, forall_and]
  have hnoted : ∀ {requestID row' cmdID},
      oib'.requestTable.get? requestID = some row' →
      row'.cmdUUID = some cmdID → ∃ row,
        o.oib.requestTable.get? requestID = some row ∧
          row.cmdUUID = some cmdID := by
    intro requestID row' cmdID hrow' hcmd
    obtain ⟨hold, -⟩ | ⟨-, hsame, -, row, hrow, hcmd'⟩ := hheard.row hrow'
    · exact ⟨row', hold, hcmd⟩
    · exact ⟨row, hrow, hcmd'.trans (hsame.symm.trans hcmd)⟩
  refine ⟨hf, h.nodup, ?_, ?_, ?_, ?_, ?_, ?_, ?_, ?_, ?_, ?_⟩
  · intro sending' hmem'
    obtain ⟨hown, hsource, hcarries⟩ := h.proper sending' hmem'
    exact ⟨hown, hsource, hcarries⟩
  · intro r hr
    obtain hr | hr := List.mem_append.mp hr
    · exact h.replied r hr
    · rw [List.mem_singleton.mp hr]
      exact ⟨sending, hmem, hid⟩
  · intro requestID row' sending' hrow' hmem' hcmd
    obtain ⟨row, hrow, hcmd'⟩ := hnoted hrow' hcmd
    exact h.owner hrow hmem' hcmd'
  · intro requestID₁ row₁ requestID₂ row₂ cmdID hrow₁ hrow₂ hcmd₁ hcmd₂
    obtain ⟨row₁', hrow₁', hcmd₁'⟩ := hnoted hrow₁ hcmd₁
    obtain ⟨row₂', hrow₂', hcmd₂'⟩ := hnoted hrow₂ hcmd₂
    exact h.unique hrow₁' hrow₂' hcmd₁' hcmd₂'
  · intro cmdID info hinfo
    by_cases heq : cmdID = cmdRply.cmdID
    · subst heq
      exact hentry info hinfo
    · exact h.entry ((hother cmdID heq).symm.trans hinfo)
  · intro sending' hmem' haw
    obtain ⟨haw, hne⟩ := hawaited.mp haw
    have := h.kept sending' hmem' haw
    rwa [Dict.contains, hother _ hne.symm]
  · intro requestID row' hrow' hprocessing
    obtain ⟨hold, hne⟩ | ⟨hnot, -⟩ := hheard.row hrow'
    · obtain ⟨sending', hmem', hcmd, haw⟩ := h.pending hold hprocessing
      refine ⟨sending', hmem', hcmd, hawaited.mpr ⟨haw, fun heq => ?_⟩⟩
      exact hne hprocessing (heq ▸ hcmd)
    · exact absurd hprocessing hnot
  · intro requestID row' hrow' hsuccessful
    obtain ⟨hold, -⟩ | ⟨-, hcmd, hsucc, -⟩ := hheard.row hrow'
    · exact hgranted (h.granted hold hsuccessful)
    · exact hnew ⟨hsucc hsuccessful, sending, hmem, hid, by rw [hcmd, hid]⟩
  · exact fun hdone hnow => (hheard.sfci hdone hnow).elim
      (fun h' => hgranted (h.sfci hdone h')) hnew
  · exact fun hnow => (hheard.deletedSFC hnow).elim
      (fun h' => hgranted (h.deletedSFC h')) hnew

theorem reply (h : Accounted content delivered o) {cmdRply : CommandReply}
    (hi : (machine content).admits o (.reply cmdRply)) :
    Accounted content (delivered ++ [cmdRply]) (handle o (.reply cmdRply)) := by
  obtain ⟨hfin, sending, hmem, hid⟩ := id hi
  have hfiled := (handle_replies cmdRply).filed h.filed
  cases hinfo : o.cm.get? cmdRply.cmdID with
  | none =>
      rw [handle_reply_of_none hinfo]
      refine h.hear hmem hid h.filed (fun _ _ => rfl) ?_ (Heard.of_same ?_)
      · intro info' hinfo'
        rw [hinfo] at hinfo'
        cases hinfo'
      · intro requestID row hrow hprocessing hcmd
        obtain ⟨sending', hmem', hcmd', haw⟩ := h.pending hrow hprocessing
        have hkept := h.kept sending' hmem' haw
        rw [Option.some.inj (hcmd'.symm.trans hcmd), Dict.contains, hinfo] at hkept
        cases hkept
  | some info =>
      obtain ⟨hchildren, sending', hmem', hcmd, hid'⟩ := h.entry hinfo
      have htype := h.cmdType_of_sent hmem'
      rw [hcmd] at htype
      obtain ⟨cm', htouched, hhandle⟩ := handle_reply hinfo
      rw [if_pos htype] at hhandle
      rw [hhandle] at hfiled ⊢
      refine h.hear hmem hid hfiled (htouched.other hchildren) ?_
        (h.heard_afterReply hfin hmem hid)
      intro info' hinfo'
      obtain ⟨hsame, hchildren'⟩ := htouched.own hchildren info' hinfo'
      exact ⟨hchildren', sending', hmem', hcmd.trans hsame.symm, by rw [hsame, hid']⟩

end Accounted

end Orchestrator

end SelfAdaptiveMano

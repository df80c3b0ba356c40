import SelfAdaptiveMano.Library.Hoare
import SelfAdaptiveMano.Orchestration.Judged

/-!
# What a step of the Orchestrator does

A step handles any number of requests: a batch settles one request after the
other, and the waiting requests are handled one after the other. `Act content o
o'` lists the single acts that a step is made of.

`Sound` collects what the acts themselves rely on: the id of a new command is
new, a row is stored under its key, and all requests with one id ask for the
same.
-/

namespace SelfAdaptiveMano

open Library

namespace CommandMaintainer

/-- `cm'` holds no command that `cm` does not hold. -/
def Within (cm cm' : CommandMaintainer) : Prop :=
  ∀ cmdID, cm'.contains cmdID = true → cm.contains cmdID = true

theorem keeps_getInfo (cm : CommandMaintainer) (cmdID : UUID) :
    PyM.Keeps (Within cm) (getInfo cmdID) := by
  refine PyM.Meets.bind_get fun cm' hcm => ?_
  cases cm'.get? cmdID with
  | none =>
      rintro _ rfl
      exact hcm
  | some info =>
      rintro _ rfl
      exact hcm

theorem keeps_delInfo (cm : CommandMaintainer) (cmdID : UUID) :
    PyM.Keeps (Within cm) (delInfo cmdID) := by
  refine PyM.Keeps.bind (keeps_getInfo cm cmdID) fun _ => ?_
  intro cm' hcm cmdID' hmem
  refine hcm cmdID' ?_
  simp only [Dict.contains, Dict.get?_erase] at hmem ⊢
  by_cases h : cmdID' = cmdID
  · simp [h] at hmem
  · simpa [h] using hmem

theorem keeps_delCmdwithChildCmd (cm : CommandMaintainer) (cmdID : UUID) :
    PyM.Keeps (Within cm) (delCmdwithChildCmd cmdID) := by
  refine PyM.Keeps.bind (keeps_getInfo cm cmdID) fun cmdInfo => ?_
  refine PyM.Keeps.bind ?_ fun _ => keeps_delInfo cm cmdID
  exact PyM.Keeps.forM fun child _ => keeps_delInfo cm child.2

end CommandMaintainer

/-- What the reply to a command of `request` makes of the information base. -/
inductive Answered (oib : OrchInfoBase) (request : Request)
    (cmdState : CmdState) : OrchInfoBase → Prop where
  | unknown {e : PyError} :
      OrchInfoBase.genRequestSFCAndSFCIState request.requestType cmdState = .error e →
      Answered oib request cmdState oib
  | raised (requestState : RequestState) {state : SFCState} :
      OrchInfoBase.genRequestSFCAndSFCIState request.requestType cmdState =
        .ok (requestState, state) →
      Answered oib request cmdState
        (oib.updateRequestState2DB request requestState)
  | sfc {sfc : SFC} {requestState : RequestState} {state : SFCState} :
      OrchInfoBase.genRequestSFCAndSFCIState request.requestType cmdState =
        .ok (requestState, state) →
      request.attributes.sfc = some sfc →
      (request.requestType = .addSFC ∨ request.requestType = .delSFC) →
      Answered oib request cmdState
        ((oib.updateRequestState2DB request requestState).updateSFCState
          sfc.sfcUUID state)
  | addSFCI {sfc : SFC} {sfci : SFCI} {requestState : RequestState}
      {state : SFCState} {listed : OrchInfoBase} :
      OrchInfoBase.genRequestSFCAndSFCIState request.requestType cmdState =
        .ok (requestState, state) →
      request.attributes.sfc = some sfc →
      request.attributes.sfci = some sfci →
      request.requestType = .addSFCI →
      (oib.updateRequestState2DB request requestState).addSFCI2SFCInDB
        sfc.sfcUUID sfci.sfciID = .ok listed →
      Answered oib request cmdState (listed.updateSFCIState sfci.sfciID state)
  | delSFCI {sfc : SFC} {sfci : SFCI} {requestState : RequestState}
      {state : SFCState} :
      OrchInfoBase.genRequestSFCAndSFCIState request.requestType cmdState =
        .ok (requestState, state) →
      request.attributes.sfc = some sfc →
      request.attributes.sfci = some sfci →
      request.requestType = .delSFCI →
      Answered oib request cmdState
        ((oib.updateRequestState2DB request requestState).updateSFCIState
          sfci.sfciID state)

theorem OrchInfoBase.meets_cmdRplyHandler (oib : OrchInfoBase)
    (request : Request) (cmdState : CmdState) :
    PyM.Meets (· = oib) (OrchInfoBase.cmdRplyHandler request cmdState)
      (fun _ => Answered oib request cmdState)
      (Answered oib request cmdState) := by
  rw [OrchInfoBase.cmdRplyHandler]
  rcases hstates : OrchInfoBase.genRequestSFCAndSFCIState request.requestType
    cmdState with e | ⟨requestState, state⟩
  · rintro _ rfl
    exact .unknown hstates
  rw [PyM.ofExcept_ok_bind]
  refine PyM.Meets.bind (Q := fun _ oib' =>
    oib' = oib.updateRequestState2DB request requestState) ?_ fun _ => ?_
  · rintro _ rfl
    rfl
  refine PyM.Meets.bind_ofOption (fun sfc hsfc => ?_) ?_
  swap
  · rintro _ rfl
    exact .raised _ hstates
  cases htype : request.requestType with
  | addSFC =>
      rintro _ rfl
      exact .sfc hstates hsfc (.inl htype)
  | delSFC =>
      rintro _ rfl
      exact .sfc hstates hsfc (.inr htype)
  | addSFCI =>
      refine PyM.Meets.bind_ofOption (fun sfci hsfci => ?_) ?_
      swap
      · rintro _ rfl
        exact .raised _ hstates
      refine PyM.Meets.bind_get fun oib' hoib' => ?_
      refine PyM.Meets.bind_ofExcept (fun listed hlisted => ?_) ?_
      · rintro _ rfl
        exact .addSFCI hstates hsfc hsfci htype (hoib' ▸ hlisted)
      · rintro _ rfl
        exact hoib' ▸ .raised _ hstates
  | delSFCI =>
      refine PyM.Meets.bind_ofOption (fun sfci hsfci => ?_) ?_
      swap
      · rintro _ rfl
        exact .raised _ hstates
      rintro _ rfl
      exact .delSFCI hstates hsfc hsfci htype
  | getLinkInfo | getDCNInfo | getSFCIState | updateSFCState =>
      rintro _ rfl
      exact .raised _ hstates

theorem OrchInfoBase.getRequestByCmdID_eq_ok {oib : OrchInfoBase} {cmdID : UUID}
    {request : Request} (h : oib.getRequestByCmdID cmdID = .ok request) :
    ∃ requestID row, oib.requestTable.get? requestID = some row ∧
      row.cmdUUID = some cmdID ∧ row.pickle = request := by
  unfold OrchInfoBase.getRequestByCmdID at h
  cases hfind : oib.requestTable.items.find? fun e => e.2.cmdUUID = some cmdID with
  | none =>
      rw [hfind] at h
      cases h
  | some e =>
      rw [hfind] at h
      cases h
      refine ⟨e.1, e.2, ?_, ?_, rfl⟩
      · exact Dict.mem_items_iff.mp (List.mem_of_find?_eq_some hfind)
      · simpa using List.find?_some hfind

namespace Orchestrator

def judge (o : Orchestrator) (request : Request) (cmd : Command)
    (outcome : Outcome) (oib' : OrchInfoBase) : Orchestrator :=
  { o with
    oib := oib'
    cm :=
      if outcome = .sent then o.cm.set cmd.cmdID ⟨cmd, .waiting, none, none, .empty⟩
      else o.cm
    sent :=
      if outcome = .sent then o.sent ++ [⟨request.requestID, cmd⟩] else o.sent
    handled := o.handled ++ [⟨request, outcome, o.oib, o.cm, oib'⟩] }

def Used (o : Orchestrator) (cmdID : UUID) : Prop :=
  o.cm.contains cmdID = true ∨ ∃ k, o.oib.Noted cmdID k

inductive Act (content : UUID → Content) (o : Orchestrator) :
    Orchestrator → Prop where
  | generate {gen : CmdGenerator} :
      o.gen.clock ≤ gen.clock →
      Act content o { o with gen := gen }
  | queues {batch waiting : List Request} {running : Bool} :
      (∀ request ∈ batch, request.requestType = .addSFCI ∧
        contentOf request = content request.requestID) →
      (∀ request ∈ waiting, contentOf request = content request.requestID) →
      Act content o { o with
        requestBatchQueue := batch, requestWaitingQueue := waiting,
        runningState := running }
  | mark {request : Request} {state : RequestState} :
      contentOf request = content request.requestID →
      Act content o { o with oib := o.oib.updateRequestState2DB request state }
  | register {request : Request} {state : RequestState} :
      contentOf request = content request.requestID →
      Act content o { o with
        oib := o.oib.addRequest { request with requestState := state } none none
          none }
  | judge (request : Request) (cmd : Command) {outcome : Outcome}
      {oib' : OrchInfoBase} :
      contentOf request = content request.requestID →
      Judged o.oib cmd.cmdID request outcome oib' →
      (outcome ≠ .unmapped →
        ¬ o.Used cmd.cmdID ∧ cmd.cmdID.tick < o.gen.clock) →
      Act content o (o.judge request cmd outcome oib')
  | regulate {update : RegulatorUpdate} :
      (∀ request, update = .reject request →
        contentOf request = content request.requestID) →
      Act content o { o with oib := regulate o.oib update }
  | reply {cm' : CommandMaintainer} {oib' : OrchInfoBase} :
      o.cm.Within cm' →
      (oib' = o.oib ∨ ∃ cmdID request cmdState, o.cm.contains cmdID = true ∧
        o.oib.getRequestByCmdID cmdID = .ok request ∧
        Answered o.oib request cmdState oib') →
      Act content o { o with cm := cm', oib := oib' }

/-- What the acts rely on. -/
structure Sound (content : UUID → Content) (o : Orchestrator) : Prop where
  fresh : ∀ cmdID, o.Used cmdID → cmdID.tick < o.gen.clock
  batch : ∀ request ∈ o.requestBatchQueue, request.requestType = .addSFCI ∧
    contentOf request = content request.requestID
  waiting : ∀ request ∈ o.requestWaitingQueue,
    contentOf request = content request.requestID
  keyed : o.oib.Keyed
  rows : o.oib.Matches content

/-- The requests are rewritten at most by writing one row, without a command. -/
def RowsKept (content : UUID → Content) (oib oib' : OrchInfoBase) : Prop :=
  oib'.requestTable = oib.requestTable ∨
    ∃ request, contentOf request = content request.requestID ∧
      RequestWrite oib oib' request none

/-- What the acts other than judging a request leave alone. -/
structure Quiet (content : UUID → Content) (o o' : Orchestrator) : Prop where
  handled : o'.handled = o.handled
  cm : o.cm.Within o'.cm
  clock : o.gen.clock ≤ o'.gen.clock
  rows : RowsKept content o.oib o'.oib
  keyed : o.oib.Keyed → o'.oib.Keyed

theorem rowsKept_regulate {content : UUID → Content} {oib : OrchInfoBase}
    (hmatches : oib.Matches content) {update : RegulatorUpdate}
    (hreject : ∀ request, update = .reject request →
      contentOf request = content request.requestID) :
    RowsKept content oib (regulate oib update) := by
  cases update with
  | updateSFCState | scaling | recover =>
      left
      dsimp only [regulate]
      split <;> rfl
  | finish => exact .inl rfl
  | reject request =>
      exact .inr ⟨request, hreject request rfl,
        RequestWrite.updateRequestState2DB oib request .reject⟩
  | retry requestID =>
      dsimp only [regulate]
      cases hrow : oib.requestTable.get? requestID with
      | none => exact .inl rfl
      | some row =>
          by_cases hfailed : row.state = .failed
          · simp only [if_pos hfailed]
            obtain ⟨hid, hcontent⟩ := hmatches requestID row hrow
            refine .inr ⟨row.pickle, by rw [hid, hcontent], ?_⟩
            exact RequestWrite.retry (hid.symm ▸ hrow) hid.symm .initial
          · simp only [if_neg hfailed]
            exact .inl rfl

theorem keyed_regulate {oib : OrchInfoBase} (hkeyed : oib.Keyed)
    (update : RegulatorUpdate) : (regulate oib update).Keyed := by
  cases update with
  | updateSFCState | scaling =>
      dsimp only [regulate]
      split
      · exact hkeyed.congr rfl
      · exact hkeyed
  | finish => exact hkeyed.congr rfl
  | recover sfcUUID sfciID =>
      dsimp only [regulate]
      split
      · exact (hkeyed.congr rfl).updateSFCIState sfciID .inactive
      · exact hkeyed
  | reject => exact hkeyed.congr (by simp [regulate])
  | retry requestID =>
      dsimp only [regulate]
      split
      · split
        · exact hkeyed.congr (by simp)
        · exact hkeyed
      · exact hkeyed

/-- The SFC has a row, and the row lists the SFCI already or is changed to. -/
theorem of_addSFCI2SFCInDB {oib listed : OrchInfoBase} {sfcUUID : UUID}
    {sfciID : Nat} (h : oib.addSFCI2SFCInDB sfcUUID sfciID = .ok listed) :
    ∃ row, oib.sfcTable.get? sfcUUID = some row ∧
      (sfciID ∈ row.sfciIDList ∧ listed = oib ∨
        sfciID ∉ row.sfciIDList ∧ listed = { oib with
          sfcTable := oib.sfcTable.modify sfcUUID fun row =>
            { row with sfciIDList := row.sfciIDList ++ [sfciID] } }) := by
  unfold OrchInfoBase.addSFCI2SFCInDB at h
  cases hrow : oib.sfcTable.get? sfcUUID with
  | none =>
      rw [hrow] at h
      cases h
  | some row =>
      rw [hrow] at h
      refine ⟨row, rfl, ?_⟩
      by_cases hmem : sfciID ∈ row.sfciIDList
      · simp only [if_pos hmem, Except.ok.injEq] at h
        exact .inl ⟨hmem, h.symm⟩
      · simp only [if_neg hmem, Except.ok.injEq] at h
        exact .inr ⟨hmem, h.symm⟩

theorem sfciTable_addSFCI2SFCInDB {oib listed : OrchInfoBase} {sfcUUID : UUID}
    {sfciID : Nat} (h : oib.addSFCI2SFCInDB sfcUUID sfciID = .ok listed) :
    listed.sfciTable = oib.sfciTable ∧
      listed.requestTable = oib.requestTable := by
  obtain ⟨row, -, ⟨-, rfl⟩ | ⟨-, rfl⟩⟩ := of_addSFCI2SFCInDB h
  · exact ⟨rfl, rfl⟩
  · exact ⟨rfl, rfl⟩

end Orchestrator

namespace Answered

open Orchestrator

variable {content : UUID → Content} {oib oib' : OrchInfoBase}
  {request : Request} {cmdState : CmdState}

theorem requestTable (h : Answered oib request cmdState oib')
    {requestState : RequestState} {state : SFCState}
    (hstates : OrchInfoBase.genRequestSFCAndSFCIState request.requestType cmdState =
      .ok (requestState, state)) :
    oib'.requestTable = (oib.updateRequestState2DB request requestState).requestTable := by
  cases h with
  | unknown hgen => simp [hstates] at hgen
  | raised _ hgen | sfc hgen | delSFCI hgen =>
      obtain ⟨rfl, -⟩ := Prod.mk.inj (Except.ok.inj (hgen.symm.trans hstates))
      rfl
  | addSFCI hgen _ _ _ hlisted =>
      obtain ⟨rfl, -⟩ := Prod.mk.inj (Except.ok.inj (hgen.symm.trans hstates))
      exact (sfciTable_addSFCI2SFCInDB hlisted).2

theorem rowsKept (h : Answered oib request cmdState oib')
    (hcontent : contentOf request = content request.requestID) :
    RowsKept content oib oib' := by
  cases h with
  | unknown => exact .inl rfl
  | raised requestState =>
      exact .inr ⟨request, hcontent,
        RequestWrite.updateRequestState2DB oib request requestState⟩
  | @sfc _ requestState =>
      exact .inr ⟨request, hcontent,
        (RequestWrite.updateRequestState2DB oib request requestState).congr rfl⟩
  | @addSFCI _ _ requestState _ listed _ _ _ _ hlisted =>
      exact .inr ⟨request, hcontent,
        (RequestWrite.updateRequestState2DB oib request requestState).congr
          (sfciTable_addSFCI2SFCInDB hlisted).2⟩
  | @delSFCI _ _ requestState =>
      exact .inr ⟨request, hcontent,
        (RequestWrite.updateRequestState2DB oib request requestState).congr rfl⟩

theorem keyed (h : Answered oib request cmdState oib') (hkeyed : oib.Keyed) :
    oib'.Keyed := by
  cases h with
  | unknown => exact hkeyed
  | raised => exact hkeyed.congr (by simp)
  | sfc => exact hkeyed.congr (by simp)
  | addSFCI _ _ _ _ hlisted =>
      refine OrchInfoBase.Keyed.updateSFCIState (hkeyed.congr ?_) _ _
      rw [(sfciTable_addSFCI2SFCInDB hlisted).1]
      simp
  | delSFCI => exact OrchInfoBase.Keyed.updateSFCIState (hkeyed.congr (by simp)) _ _

end Answered

namespace Orchestrator

variable {content : UUID → Content} {o o' : Orchestrator}

theorem Act.quiet_or_judge (h : Act content o o') (hs : Sound content o) :
    Quiet content o o' ∨ ∃ request cmd outcome oib',
      contentOf request = content request.requestID ∧
      Judged o.oib cmd.cmdID request outcome oib' ∧
      (outcome ≠ .unmapped →
        ¬ o.Used cmd.cmdID ∧ cmd.cmdID.tick < o.gen.clock) ∧
      o' = o.judge request cmd outcome oib' := by
  have hcm : o.cm.Within o.cm := fun _ h => h
  cases h with
  | generate hclock => exact .inl ⟨rfl, hcm, hclock, .inl rfl, id⟩
  | queues => exact .inl ⟨rfl, hcm, Nat.le_refl _, .inl rfl, id⟩
  | @mark request state hcontent =>
      exact .inl ⟨rfl, hcm, Nat.le_refl _, .inr ⟨request, hcontent,
        RequestWrite.updateRequestState2DB o.oib request state⟩,
        fun hkeyed => hkeyed.congr (by simp)⟩
  | @register request state hcontent =>
      exact .inl ⟨rfl, hcm, Nat.le_refl _, .inr ⟨request, hcontent,
        RequestWrite.addRequest o.oib request state none⟩,
        fun hkeyed => hkeyed.congr (by simp)⟩
  | judge request cmd hcontent hjudged hnew =>
      exact .inr ⟨request, cmd, _, _, hcontent, hjudged, hnew, rfl⟩
  | regulate hreject =>
      exact .inl ⟨rfl, hcm, Nat.le_refl _, rowsKept_regulate hs.rows hreject,
        fun hkeyed => keyed_regulate hkeyed _⟩
  | reply hwithin hoib =>
      obtain rfl | ⟨cmdID, request, cmdState, -, hget, hanswered⟩ := hoib
      · exact .inl ⟨rfl, hwithin, Nat.le_refl _, .inl rfl, id⟩
      · obtain ⟨requestID, row, hrow, -, rfl⟩ :=
          OrchInfoBase.getRequestByCmdID_eq_ok hget
        obtain ⟨hid, hcontent⟩ := hs.rows requestID row hrow
        exact .inl ⟨rfl, hwithin, Nat.le_refl _,
          hanswered.rowsKept (by rw [hid, hcontent]), hanswered.keyed⟩

theorem RowsKept.matches_of {oib oib' : OrchInfoBase}
    (h : RowsKept content oib oib') (hmatches : oib.Matches content) :
    oib'.Matches content := by
  obtain heq | ⟨request, hcontent, hwrite⟩ := h
  · simpa [OrchInfoBase.Matches, heq] using hmatches
  · exact hwrite.matches_of hcontent hmatches

theorem RowsKept.noted_of {oib oib' : OrchInfoBase}
    (h : RowsKept content oib oib') (hmatches : oib.Matches content)
    {cmdID : UUID} {k : Content} (hnoted : oib'.Noted cmdID k) :
    oib.Noted cmdID k := by
  obtain heq | ⟨request, hcontent, hwrite⟩ := h
  · simpa [OrchInfoBase.Noted, heq] using hnoted
  · obtain hold | ⟨hnone, -⟩ := hwrite.noted_of hcontent hmatches hnoted
    · exact hold
    · cases hnone

theorem Quiet.used_of (h : Quiet content o o') (hs : Sound content o)
    {cmdID : UUID} (hused : o'.Used cmdID) : o.Used cmdID := by
  obtain hcm | ⟨k, hnoted⟩ := hused
  · exact .inl (h.cm cmdID hcm)
  · exact .inr ⟨k, h.rows.noted_of hs.rows hnoted⟩

theorem contains_judge {request : Request} {cmd : Command} {outcome : Outcome}
    {oib' : OrchInfoBase} {cmdID : UUID}
    (h : (o.judge request cmd outcome oib').cm.contains cmdID = true) :
    o.cm.contains cmdID = true ∨ (outcome = .sent ∧ cmdID = cmd.cmdID) := by
  by_cases hsent : outcome = .sent
  · simp only [judge, if_pos hsent, Dict.contains, Dict.get?_set] at h
    by_cases heq : cmdID = cmd.cmdID
    · exact .inr ⟨hsent, heq⟩
    · rw [if_neg heq] at h
      exact .inl h
  · simp only [judge, if_neg hsent] at h
    exact .inl h

theorem used_judge {request : Request} {cmd : Command} {outcome : Outcome}
    {oib' : OrchInfoBase} (hs : Sound content o)
    (hcontent : contentOf request = content request.requestID)
    (hjudged : Judged o.oib cmd.cmdID request outcome oib') {cmdID : UUID}
    (hused : (o.judge request cmd outcome oib').Used cmdID) :
    o.Used cmdID ∨ (outcome ≠ .unmapped ∧ cmdID = cmd.cmdID) := by
  obtain hcm | ⟨k, hnoted⟩ := hused
  · obtain hold | ⟨hsent, heq⟩ := contains_judge hcm
    · exact .inl (.inl hold)
    · exact .inr ⟨by simp [hsent], heq⟩
  · obtain hold | ⟨hnew, -⟩ :=
      hjudged.requestWrite.noted_of hcontent hs.rows hnoted
    · exact .inl (.inr ⟨k, hold⟩)
    · by_cases hunmapped : outcome = .unmapped
      · simp [hunmapped] at hnew
      · rw [if_neg hunmapped] at hnew
        exact .inr ⟨hunmapped, (Option.some.inj hnew).symm⟩

theorem Act.sound (h : Act content o o') (hs : Sound content o) :
    Sound content o' := by
  have hqueues : (∀ request ∈ o'.requestBatchQueue,
      request.requestType = .addSFCI ∧
        contentOf request = content request.requestID) ∧
      ∀ request ∈ o'.requestWaitingQueue,
        contentOf request = content request.requestID := by
    cases h with
    | queues hbatch hwaiting => exact ⟨hbatch, hwaiting⟩
    | generate | mark | register | judge | regulate | reply =>
        exact ⟨hs.batch, hs.waiting⟩
  obtain hquiet | ⟨request, cmd, outcome, oib', hcontent, hjudged, hnew, rfl⟩ :=
    h.quiet_or_judge hs
  · refine ⟨?_, hqueues.1, hqueues.2, hquiet.keyed hs.keyed,
      hquiet.rows.matches_of hs.rows⟩
    intro cmdID hused
    exact Nat.lt_of_lt_of_le (hs.fresh cmdID (hquiet.used_of hs hused))
      hquiet.clock
  · refine ⟨?_, hqueues.1, hqueues.2, hjudged.keyed hs.keyed,
      hjudged.requestWrite.matches_of hcontent hs.rows⟩
    intro cmdID hused
    obtain hold | ⟨hmapped, rfl⟩ := used_judge hs hcontent hjudged hused
    · exact hs.fresh cmdID hold
    · exact (hnew hmapped).2

end Orchestrator

end SelfAdaptiveMano

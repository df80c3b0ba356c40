import SelfAdaptiveMano.Orchestration.Acts

/-!
# Where the stored states come from

The tables change in few ways. A command becomes outstanding when its request is
accepted; a row of an SFCI is written when a request is judged, when the reply to
an outstanding command arrives, or by the Regulator; an SFC is stored as deleted,
and an id is put into its list, only by the reply to an outstanding command.
-/

namespace SelfAdaptiveMano

open Library Orchestrator

/-- The command of a request with the content `k` waits for its reply. -/
def Outstanding (oib : OrchInfoBase) (cm : CommandMaintainer) (k : Content) :
    Prop :=
  ∃ cmdID, oib.Noted cmdID k ∧ cm.contains cmdID = true

theorem exists_outstanding_iff {oib : OrchInfoBase} {cm : CommandMaintainer}
    {p : Content → Prop} :
    (∃ k, Outstanding oib cm k ∧ p k) ↔
      ∃ e ∈ oib.requestTable.items,
        (e.2.cmdUUID.any fun cmdID => cm.contains cmdID) = true ∧
          p (contentOf e.2.pickle) := by
  constructor
  · rintro ⟨k, ⟨cmdID, ⟨requestID, row, hrow, hcmd, rfl⟩, hcm⟩, hp⟩
    exact ⟨(requestID, row), Dict.mem_items_iff.mpr hrow, by simp [hcmd, hcm], hp⟩
  · rintro ⟨⟨requestID, row⟩, hmem, hcm, hp⟩
    obtain ⟨cmdID, hcmd, hcm⟩ := (Option.any_eq_true _ _).mp hcm
    exact ⟨_, ⟨cmdID, ⟨requestID, row, Dict.mem_items_iff.mp hmem, hcmd, rfl⟩,
      hcm⟩, hp⟩

instance {oib : OrchInfoBase} {cm : CommandMaintainer} {p : Content → Prop}
    [DecidablePred p] :
    Decidable (∃ k, Outstanding oib cm k ∧ p k) :=
  decidable_of_iff' _ exists_outstanding_iff

namespace Orchestrator

variable {content : UUID → Content} {o o' : Orchestrator}

/-- The act from `o` to `o'` accepted a request with the content `k`. -/
def Accepted (o o' : Orchestrator) (k : Content) : Prop :=
  ∃ request after,
    o'.handled = o.handled ++ [⟨request, .sent, o.oib, o.cm, after⟩] ∧
      contentOf request = k

theorem Accepted.content_unique {k k' : Content} (h : Accepted o o' k)
    (h' : Accepted o o' k') : k = k' := by
  obtain ⟨request, after, hhandled, rfl⟩ := h
  obtain ⟨request', after', hhandled', rfl⟩ := h'
  have heq := List.append_cancel_left (hhandled.symm.trans hhandled')
  cases heq
  rfl

theorem Act.handled_subset (h : Act content o o') (hs : Sound content o) :
    ∀ h ∈ o.handled, h ∈ o'.handled := by
  intro h' hmem
  obtain hquiet | ⟨_, _, _, _, -, -, -, rfl⟩ := h.quiet_or_judge hs
  · rw [hquiet.handled]
    exact hmem
  · exact List.mem_append_left _ hmem

theorem Act.row_of_accepted (h : Act content o o') (hs : Sound content o)
    {sfcUUID : Option UUID}
    {sfciID : Nat} {row' : SFCIRow}
    (haccepted : Accepted o o' ⟨.addSFCI, sfcUUID, some sfciID⟩)
    (hrow : o'.oib.sfciTable.get? sfciID = some row') :
    sfcUUID = some row'.sfcUUID := by
  obtain ⟨request, after, hhandled, hk⟩ := haccepted
  obtain hquiet | ⟨request', cmd, outcome, oib', -, hjudged, -, rfl⟩ :=
    h.quiet_or_judge hs
  · rw [hquiet.handled] at hhandled
    simp at hhandled
  · cases List.append_cancel_left hhandled
    have hsfc := hjudged.row_of_addSFCISent (congrArg Content.requestType hk)
      (congrArg Content.sfciID hk) hrow
    rw [← hsfc, hk]

theorem Act.outstanding (h : Act content o o') (hs : Sound content o)
    {k : Content} (hout : Outstanding o'.oib o'.cm k) :
    Outstanding o.oib o.cm k ∨ Accepted o o' k := by
  obtain ⟨cmdID, hnoted, hcm⟩ := hout
  obtain hquiet | ⟨request, cmd, outcome, oib', hcontent, hjudged, hnew, rfl⟩ :=
    h.quiet_or_judge hs
  · exact .inl ⟨cmdID, hquiet.rows.noted_of hs.rows hnoted, hquiet.cm _ hcm⟩
  · obtain hold | ⟨hnow, hk⟩ :=
      hjudged.requestWrite.noted_of hcontent hs.rows hnoted
    · obtain hcm | ⟨hsent, rfl⟩ := contains_judge hcm
      · exact .inl ⟨cmdID, hold, hcm⟩
      · exact absurd (.inr ⟨k, hold⟩) (hnew (by simp [hsent])).1
    · have hmapped : outcome ≠ .unmapped := by
        rintro rfl
        simp at hnow
      rw [if_neg hmapped] at hnow
      obtain rfl := Option.some.inj hnow
      obtain hcm | ⟨hsent, -⟩ := contains_judge hcm
      · exact absurd (.inl hcm) (hnew hmapped).1
      · exact .inr ⟨request, oib', by rw [← hsent]; rfl, hk⟩

theorem outstanding_of_reply {cmdID : UUID} {request : Request}
    (hcm : o.cm.contains cmdID = true)
    (hget : o.oib.getRequestByCmdID cmdID = .ok request) :
    Outstanding o.oib o.cm (contentOf request) := by
  obtain ⟨requestID, row, hrow, hcmd, rfl⟩ :=
    OrchInfoBase.getRequestByCmdID_eq_ok hget
  exact ⟨cmdID, ⟨requestID, row, hrow, hcmd, rfl⟩, hcm⟩

end Orchestrator

theorem SFCIRowOrigin.mono {oib : OrchInfoBase} {accepted accepted' : Content → Prop}
    {activated activated' : Nat → Prop} {sfciID : Nat} {row' : SFCIRow}
    (h : SFCIRowOrigin oib accepted activated sfciID row')
    (haccepted : ∀ k, accepted k → accepted' k)
    (hactivated : ∀ s, activated s → activated' s) :
    SFCIRowOrigin oib accepted' activated' sfciID row' := by
  cases h with
  | kept hrow hsfc hstate => exact .kept hrow hsfc hstate
  | quieted hrow hsfc hstate => exact .quieted hrow hsfc hstate
  | deleting hrow hsfc hk hstate => exact .deleting hrow hsfc (haccepted _ hk) hstate
  | adding hk hstate => exact .adding (haccepted _ hk) hstate
  | activated hrow hsfc hk hstate =>
      exact .activated hrow hsfc (hactivated _ hk) hstate

namespace Answered

variable {oib oib' : OrchInfoBase} {request : Request} {cmdState : CmdState}

theorem state_cases {requestType : RequestType} {requestState : RequestState}
    {state : SFCState}
    (h : OrchInfoBase.genRequestSFCAndSFCIState requestType cmdState =
      .ok (requestState, state)) :
    (state = .active ∧ (requestType = .addSFC ∨ requestType = .addSFCI)) ∨
      (state = .deleted ∧ (requestType = .delSFC ∨ requestType = .delSFCI)) ∨
      state = .initFailed ∨ state = .undeleted := by
  unfold OrchInfoBase.genRequestSFCAndSFCIState at h
  split at h <;> cases h <;> simp

theorem sfciIDList_addSFCI2SFCInDB {oib listed : OrchInfoBase} {sfcUUID : UUID}
    {sfciID : Nat} (h : oib.addSFCI2SFCInDB sfcUUID sfciID = .ok listed)
    (sfcUUID' : UUID) :
    listed.getSFCIIDListOfASFC4DB sfcUUID' =
      if sfcUUID' = sfcUUID ∧ sfciID ∉ oib.getSFCIIDListOfASFC4DB sfcUUID then
        oib.getSFCIIDListOfASFC4DB sfcUUID ++ [sfciID]
      else oib.getSFCIIDListOfASFC4DB sfcUUID' := by
  obtain ⟨row, hrow, hlisted⟩ := of_addSFCI2SFCInDB h
  have hlist : oib.getSFCIIDListOfASFC4DB sfcUUID = row.sfciIDList := by
    simp [OrchInfoBase.getSFCIIDListOfASFC4DB, hrow]
  obtain ⟨hmem, rfl⟩ | ⟨hmem, rfl⟩ := hlisted
  · simp [hlist, hmem]
  · by_cases heq : sfcUUID' = sfcUUID
    · simp [heq, hmem, OrchInfoBase.getSFCIIDListOfASFC4DB, Dict.get?_modify, hrow]
    · simp [heq, OrchInfoBase.getSFCIIDListOfASFC4DB, Dict.get?_modify]

theorem sfcState_addSFCI2SFCInDB {oib listed : OrchInfoBase} {sfcUUID : UUID}
    {sfciID : Nat} (h : oib.addSFCI2SFCInDB sfcUUID sfciID = .ok listed)
    (sfcUUID' : UUID) :
    listed.getSFCState sfcUUID' = oib.getSFCState sfcUUID' := by
  obtain ⟨row, hrow, ⟨-, rfl⟩ | ⟨-, rfl⟩⟩ := of_addSFCI2SFCInDB h
  · rfl
  · by_cases heq : sfcUUID' = sfcUUID
    · simp [heq, OrchInfoBase.getSFCState, Dict.get?_modify, hrow]
    · simp [heq, OrchInfoBase.getSFCState, Dict.get?_modify]

/-- A reply activates only the SFCI of an addition, which is then listed. -/
theorem sfciRow (h : Answered oib request cmdState oib') {sfciID : Nat}
    {row' : SFCIRow} (hrow : oib'.sfciTable.get? sfciID = some row')
    (accepted : Content → Prop) :
    SFCIRowOrigin oib accepted (fun s => ∃ sfcUUID,
      contentOf request = ⟨.addSFCI, some sfcUUID, some s⟩ ∧
        s ∈ oib'.getSFCIIDListOfASFC4DB sfcUUID) sfciID row' := by
  cases h with
  | unknown => exact .kept hrow rfl rfl
  | raised => exact .of_eq (OrchInfoBase.sfciTable_updateRequestState2DB ..) hrow
  | sfc => exact .of_eq (OrchInfoBase.sfciTable_updateRequestState2DB ..) hrow
  | @addSFCI sfc sfci requestState state listed hstate hsfc hsfci htype hlisted =>
      have htable : (listed.updateSFCIState sfci.sfciID state).sfciTable =
          (oib.updateSFCIState sfci.sfciID state).sfciTable := by
        simp [OrchInfoBase.updateSFCIState,
          (sfciTable_addSFCI2SFCInDB hlisted).1]
      rw [htable] at hrow
      refine .of_updateSFCIState hrow fun row heq hold hsame hstate' => ?_
      obtain ⟨rfl, -⟩ | ⟨-, hdel⟩ | hfailed := state_cases hstate
      · refine .activated hold hsame ⟨sfc.sfcUUID, ?_, ?_⟩ hstate'
        · simp [contentOf, htype, hsfc, hsfci, heq]
        · show sfciID ∈ listed.getSFCIIDListOfASFC4DB sfc.sfcUUID
          rw [sfciIDList_addSFCI2SFCInDB hlisted, heq]
          split
          · simp
          · next hlist => simpa using hlist
      · simp [htype] at hdel
      · exact .quieted hold hsame (by obtain h | h := hfailed <;> simp [hstate', h])
  | @delSFCI sfc sfci requestState state hstate hsfc hsfci htype =>
      have htable : ((oib.updateRequestState2DB request
          requestState).updateSFCIState sfci.sfciID state).sfciTable =
          (oib.updateSFCIState sfci.sfciID state).sfciTable := by
        simp [OrchInfoBase.updateSFCIState]
      rw [htable] at hrow
      refine .of_updateSFCIState hrow fun row heq hold hsame hstate' => ?_
      obtain ⟨-, hadd⟩ | ⟨rfl, -⟩ | hfailed := state_cases hstate
      · simp [htype] at hadd
      · exact .quieted hold hsame (by simp [hstate'])
      · exact .quieted hold hsame (by obtain h | h := hfailed <;> simp [hstate', h])

/-- A reply stores an SFC as deleted only for a `DEL_SFC`. -/
theorem sfcState_deleted (h : Answered oib request cmdState oib')
    {sfcUUID : UUID} (hdeleted : oib'.getSFCState sfcUUID = some .deleted) :
    oib.getSFCState sfcUUID = some .deleted ∨
      ∃ sfciID, contentOf request = ⟨.delSFC, some sfcUUID, sfciID⟩ := by
  cases h with
  | unknown => exact .inl hdeleted
  | raised =>
      rw [OrchInfoBase.getSFCState_congr
        (OrchInfoBase.sfcTable_updateRequestState2DB ..)] at hdeleted
      exact .inl hdeleted
  | @sfc sfc requestState state hstate hsfc htype =>
      rw [OrchInfoBase.getSFCState_updateSFCState] at hdeleted
      by_cases heq : sfcUUID = sfc.sfcUUID
      · rw [if_pos heq] at hdeleted
        obtain ⟨-, -, rfl⟩ := Option.map_eq_some_iff.mp hdeleted
        have hdel : request.requestType = .delSFC := by
          have := state_cases hstate
          grind
        exact .inr ⟨request.attributes.sfci.map SFCI.sfciID,
          by simp [contentOf, hdel, hsfc, heq]⟩
      · rw [if_neg heq, OrchInfoBase.getSFCState_congr
          (OrchInfoBase.sfcTable_updateRequestState2DB ..)] at hdeleted
        exact .inl hdeleted
  | addSFCI _ _ _ _ hlisted =>
      rw [OrchInfoBase.getSFCState_congr
        (OrchInfoBase.sfcTable_updateSFCIState ..),
        sfcState_addSFCI2SFCInDB hlisted, OrchInfoBase.getSFCState_congr
        (OrchInfoBase.sfcTable_updateRequestState2DB ..)] at hdeleted
      exact .inl hdeleted
  | delSFCI =>
      rw [OrchInfoBase.getSFCState_congr
        (OrchInfoBase.sfcTable_updateSFCIState ..),
        OrchInfoBase.getSFCState_congr
        (OrchInfoBase.sfcTable_updateRequestState2DB ..)] at hdeleted
      exact .inl hdeleted

/-- A reply lists only the SFCI of an addition, and not twice. -/
theorem sfciIDList (h : Answered oib request cmdState oib') (sfcUUID : UUID) :
    oib'.getSFCIIDListOfASFC4DB sfcUUID = oib.getSFCIIDListOfASFC4DB sfcUUID ∨
      ∃ sfciID, contentOf request = ⟨.addSFCI, some sfcUUID, some sfciID⟩ ∧
        sfciID ∉ oib.getSFCIIDListOfASFC4DB sfcUUID ∧
        oib'.getSFCIIDListOfASFC4DB sfcUUID =
          oib.getSFCIIDListOfASFC4DB sfcUUID ++ [sfciID] := by
  cases h with
  | unknown => exact .inl rfl
  | raised =>
      exact .inl (OrchInfoBase.getSFCIIDListOfASFC4DB_congr
        (OrchInfoBase.sfcTable_updateRequestState2DB ..))
  | sfc =>
      rw [OrchInfoBase.getSFCIIDListOfASFC4DB_updateSFCState]
      exact .inl (OrchInfoBase.getSFCIIDListOfASFC4DB_congr
        (OrchInfoBase.sfcTable_updateRequestState2DB ..))
  | delSFCI =>
      exact .inl (OrchInfoBase.getSFCIIDListOfASFC4DB_congr
        ((OrchInfoBase.sfcTable_updateSFCIState ..).trans
          (OrchInfoBase.sfcTable_updateRequestState2DB ..)))
  | @addSFCI sfc sfci requestState state listed _ hsfc hsfci htype hlisted =>
      rw [OrchInfoBase.getSFCIIDListOfASFC4DB_congr
        (OrchInfoBase.sfcTable_updateSFCIState ..),
        sfciIDList_addSFCI2SFCInDB hlisted]
      have hsame : ∀ sfcUUID', (oib.updateRequestState2DB request
          requestState).getSFCIIDListOfASFC4DB sfcUUID' =
          oib.getSFCIIDListOfASFC4DB sfcUUID' := fun _ =>
        OrchInfoBase.getSFCIIDListOfASFC4DB_congr
          (OrchInfoBase.sfcTable_updateRequestState2DB ..)
      simp only [hsame]
      split
      · next hnew =>
          obtain ⟨rfl, hmem⟩ := hnew
          exact .inr ⟨sfci.sfciID, by simp [contentOf, htype, hsfc, hsfci],
            hmem, rfl⟩
      · exact .inl rfl

end Answered

namespace Orchestrator

variable {content : UUID → Content} {o o' : Orchestrator}

theorem sfciRow_regulate {oib : OrchInfoBase} {update : RegulatorUpdate}
    {sfciID : Nat} {row' : SFCIRow}
    (hrow : (regulate oib update).sfciTable.get? sfciID = some row')
    (accepted : Content → Prop) (activated : Nat → Prop) :
    SFCIRowOrigin oib accepted activated sfciID row' := by
  cases update with
  | updateSFCState | scaling =>
      refine .of_eq ?_ hrow
      dsimp only [regulate]
      split <;> rfl
  | finish => exact .of_eq rfl hrow
  | reject => exact .of_eq (OrchInfoBase.sfciTable_updateRequestState2DB ..) hrow
  | retry requestID =>
      refine .of_eq ?_ hrow
      dsimp only [regulate]
      split
      · split <;> simp
      · rfl
  | recover sfcUUID sfciID' =>
      dsimp only [regulate] at hrow
      split at hrow
      · refine .of_updateSFCIState hrow fun row _ hold hsame hstate => ?_
        exact .quieted hold hsame (by simp [hstate])
      · exact .kept hrow rfl rfl

theorem sfcState_regulate {oib : OrchInfoBase} {update : RegulatorUpdate}
    {sfcUUID : UUID}
    (h : (regulate oib update).getSFCState sfcUUID = some .deleted) :
    oib.getSFCState sfcUUID = some .deleted := by
  have hwrite : ∀ {sfcUUID' : UUID} {state : SFCState}, state ≠ .deleted →
      (oib.updateSFCState sfcUUID' state).getSFCState sfcUUID = some .deleted →
      oib.getSFCState sfcUUID = some .deleted := by
    intro sfcUUID' state hstate h
    rw [OrchInfoBase.getSFCState_updateSFCState] at h
    split at h
    · obtain ⟨-, -, heq⟩ := Option.map_eq_some_iff.mp h
      exact absurd heq hstate
    · exact h
  cases update with
  | updateSFCState sfcUUID' newState =>
      dsimp only [regulate] at h
      split at h
      · next hcond =>
          refine hwrite ?_ h
          obtain ⟨-, rfl⟩ | ⟨-, rfl⟩ := hcond <;> simp
      · exact h
  | scaling sfcUUID' mode =>
      dsimp only [regulate] at h
      split at h
      · next hcond =>
          refine hwrite ?_ h
          rintro rfl
          simp at hcond
      · exact h
  | finish => exact hwrite (by simp) h
  | reject =>
      rwa [regulate, OrchInfoBase.getSFCState_congr
        (OrchInfoBase.sfcTable_updateRequestState2DB ..)] at h
  | retry requestID =>
      dsimp only [regulate] at h
      split at h
      · split at h
        · rwa [OrchInfoBase.getSFCState_congr
            ((OrchInfoBase.sfcTable_incRequestRetryCnt ..).trans
              (OrchInfoBase.sfcTable_updateRequestState2DB ..))] at h
        · exact h
      · exact h
  | recover sfcUUID' sfciID =>
      dsimp only [regulate] at h
      split at h
      · rw [OrchInfoBase.getSFCState_congr
          (OrchInfoBase.sfcTable_updateSFCIState ..)] at h
        exact hwrite (by simp) h
      · exact h

theorem sfciIDList_regulate (oib : OrchInfoBase) (update : RegulatorUpdate)
    (sfcUUID : UUID) :
    (regulate oib update).getSFCIIDListOfASFC4DB sfcUUID =
      oib.getSFCIIDListOfASFC4DB sfcUUID := by
  cases update with
  | updateSFCState | scaling =>
      dsimp only [regulate]
      split
      · exact OrchInfoBase.getSFCIIDListOfASFC4DB_updateSFCState ..
      · rfl
  | finish => exact OrchInfoBase.getSFCIIDListOfASFC4DB_updateSFCState ..
  | reject =>
      exact OrchInfoBase.getSFCIIDListOfASFC4DB_congr
        (OrchInfoBase.sfcTable_updateRequestState2DB ..)
  | retry requestID =>
      dsimp only [regulate]
      split
      · split
        · exact OrchInfoBase.getSFCIIDListOfASFC4DB_congr (by simp)
        · rfl
      · rfl
  | recover =>
      dsimp only [regulate]
      split
      · exact (OrchInfoBase.getSFCIIDListOfASFC4DB_congr
          (OrchInfoBase.sfcTable_updateSFCIState ..)).trans
          (OrchInfoBase.getSFCIIDListOfASFC4DB_updateSFCState ..)
      · rfl

theorem Act.sfciRow (h : Act content o o') (hs : Sound content o) {sfciID : Nat}
    {row' : SFCIRow} (hrow : o'.oib.sfciTable.get? sfciID = some row') :
    SFCIRowOrigin o.oib (Accepted o o') (fun s => ∃ sfcUUID,
      Outstanding o.oib o.cm ⟨.addSFCI, some sfcUUID, some s⟩ ∧
        s ∈ o'.oib.getSFCIIDListOfASFC4DB sfcUUID) sfciID row' := by
  cases h with
  | generate | queues => exact .kept hrow rfl rfl
  | mark => exact .of_eq (OrchInfoBase.sfciTable_updateRequestState2DB ..) hrow
  | register => exact .of_eq (OrchInfoBase.sfciTable_addRequest ..) hrow
  | @judge request cmd outcome oib' hcontent hjudged hnew =>
      refine (hjudged.sfciRow hs.keyed hrow).mono ?_ fun _ => False.elim
      rintro k ⟨rfl, hk⟩
      exact ⟨request, oib', rfl, hk⟩
  | regulate => exact sfciRow_regulate hrow _ _
  | reply hwithin hoib =>
      obtain rfl | ⟨cmdID, request, cmdState, hcm, hget, hanswered⟩ := hoib
      · exact .kept hrow rfl rfl
      · have hout := outstanding_of_reply hcm hget
        refine (hanswered.sfciRow hrow _).mono (fun _ h => h) ?_
        rintro s ⟨sfcUUID, hcontent, hlist⟩
        exact ⟨sfcUUID, hcontent ▸ hout, hlist⟩

/-- An SFC is stored as deleted by the reply to a `DEL_SFC` only. -/
theorem Act.sfcState_deleted (h : Act content o o') {sfcUUID : UUID}
    (hdeleted : o'.oib.getSFCState sfcUUID = some .deleted) :
    o.oib.getSFCState sfcUUID = some .deleted ∨
      ∃ sfciID, Outstanding o.oib o.cm ⟨.delSFC, some sfcUUID, sfciID⟩ := by
  cases h with
  | generate | queues => exact .inl hdeleted
  | mark =>
      rw [OrchInfoBase.getSFCState_congr
        (OrchInfoBase.sfcTable_updateRequestState2DB ..)] at hdeleted
      exact .inl hdeleted
  | register =>
      rw [OrchInfoBase.getSFCState_congr
        (OrchInfoBase.sfcTable_addRequest ..)] at hdeleted
      exact .inl hdeleted
  | judge request cmd hcontent hjudged hnew =>
      exact .inl (hjudged.sfcState_deleted hdeleted)
  | regulate => exact .inl (sfcState_regulate hdeleted)
  | reply hwithin hoib =>
      obtain rfl | ⟨cmdID, request, cmdState, hcm, hget, hanswered⟩ := hoib
      · exact .inl hdeleted
      · obtain hold | ⟨sfciID, hcontent⟩ := hanswered.sfcState_deleted hdeleted
        · exact .inl hold
        · exact .inr ⟨sfciID, hcontent ▸ outstanding_of_reply hcm hget⟩

/-- An id is listed by the reply to an `ADD_SFCI` only, and not twice. -/
theorem Act.sfciIDList (h : Act content o o') (sfcUUID : UUID) :
    o'.oib.getSFCIIDListOfASFC4DB sfcUUID =
        o.oib.getSFCIIDListOfASFC4DB sfcUUID ∨
      ∃ sfciID,
        Outstanding o.oib o.cm ⟨.addSFCI, some sfcUUID, some sfciID⟩ ∧
        sfciID ∉ o.oib.getSFCIIDListOfASFC4DB sfcUUID ∧
        o'.oib.getSFCIIDListOfASFC4DB sfcUUID =
          o.oib.getSFCIIDListOfASFC4DB sfcUUID ++ [sfciID] := by
  cases h with
  | generate | queues => exact .inl rfl
  | mark =>
      exact .inl (OrchInfoBase.getSFCIIDListOfASFC4DB_congr
        (OrchInfoBase.sfcTable_updateRequestState2DB ..))
  | register =>
      exact .inl (OrchInfoBase.getSFCIIDListOfASFC4DB_congr
        (OrchInfoBase.sfcTable_addRequest ..))
  | judge request cmd hcontent hjudged hnew =>
      exact .inl (hjudged.sfciIDList sfcUUID)
  | regulate => exact .inl (sfciIDList_regulate ..)
  | reply hwithin hoib =>
      obtain rfl | ⟨cmdID, request, cmdState, hcm, hget, hanswered⟩ := hoib
      · exact .inl rfl
      · obtain hsame | ⟨sfciID, hcontent, hrest⟩ := hanswered.sfciIDList sfcUUID
        · exact .inl hsame
        · exact .inr ⟨sfciID, hcontent ▸ outstanding_of_reply hcm hget, hrest⟩

end Orchestrator

end SelfAdaptiveMano

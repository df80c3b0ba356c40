import SelfAdaptiveMano.Orchestration.Origins
import SelfAdaptiveMano.Orchestration.Steps

/-!
# Deleted SFCs

An SFC that is stored as deleted should have no SFCI that is active or in
processing. The check for `DEL_SFC` looks at the SFCIs in the list of the SFC,
which an SFCI enters when its addition is answered, and the other requests do not
look at the SFC at all. A run can therefore break the rule in several ways; in
each of them some request was accepted that should have been turned down.

`Careful` says which requests may be accepted: none that adds or deletes an SFCI
while the SFC is being deleted or was deleted, and no deletion of an SFC that
still has something to do. The runs that accept such requests only never break
the rule (`deleted_idle`).
-/

namespace SelfAdaptiveMano

open Library Orchestrator

section States

variable (oib : OrchInfoBase) (cm : CommandMaintainer)

def DeletedIdle : Prop :=
  ∀ sfciID row, oib.sfciTable.get? sfciID = some row →
    oib.getSFCState row.sfcUUID = some .deleted →
    row.state ∉ [SFCState.active, .inProcessing]

def Closing (sfcUUID : UUID) : Prop :=
  oib.getSFCState sfcUUID = some .deleted ∨
    ∃ k, Outstanding oib cm k ∧ k.requestType = .delSFC ∧
      k.sfcUUID = some sfcUUID

/-- The SFCI is active or in processing, or a command to add it is
outstanding. -/
def BusySFCI (sfciID : Nat) (row : SFCIRow) : Prop :=
  row.state ∈ [SFCState.active, .inProcessing] ∨
    ∃ k, Outstanding oib cm k ∧ k.requestType = .addSFCI ∧
      k.sfciID = some sfciID

def Busy (sfcUUID : UUID) : Prop :=
  ∃ sfciID row, oib.sfciTable.get? sfciID = some row ∧
    row.sfcUUID = sfcUUID ∧ BusySFCI oib cm sfciID row

/-- A request with the content `k` may be accepted. -/
def MayAccept (k : Content) : Prop :=
  match k.requestType, k.sfcUUID, k.sfciID with
  | .delSFC, some sfcUUID, _ => ¬ Busy oib cm sfcUUID
  | .addSFCI, some sfcUUID, _ => ¬ Closing oib cm sfcUUID
  | .delSFCI, _, some sfciID =>
      ∀ row ∈ oib.sfciTable.get? sfciID, ¬ Closing oib cm row.sfcUUID
  | _, _, _ => True

variable {oib cm}

instance (sfcUUID : UUID) : Decidable (Closing oib cm sfcUUID) :=
  inferInstanceAs (Decidable (_ ∨ _))

instance (sfciID : Nat) (row : SFCIRow) :
    Decidable (BusySFCI oib cm sfciID row) :=
  inferInstanceAs (Decidable (_ ∨ _))

instance (sfcUUID : UUID) : Decidable (Busy oib cm sfcUUID) :=
  decidable_of_iff
    (∃ e ∈ oib.sfciTable.items, e.2.sfcUUID = sfcUUID ∧ BusySFCI oib cm e.1 e.2)
    ⟨fun ⟨e, hmem, h⟩ => ⟨e.1, e.2, Dict.mem_items_iff.mp hmem, h⟩,
      fun ⟨sfciID, row, hrow, h⟩ =>
        ⟨(sfciID, row), Dict.mem_items_iff.mpr hrow, h⟩⟩

instance (k : Content) : Decidable (MayAccept oib cm k) := by
  unfold MayAccept
  split <;> infer_instance

end States

def Handled.Careful (h : Handled) : Prop :=
  h.outcome = .sent → MayAccept h.before h.cm (contentOf h.request)

instance (h : Handled) : Decidable h.Careful :=
  inferInstanceAs (Decidable (_ → _))

namespace Orchestrator

variable {content : UUID → Content} {o o' : Orchestrator}

theorem Accepted.mayAccept {k : Content} (h : Accepted o o' k)
    (hcareful : ∀ h ∈ o'.handled, h.Careful) : MayAccept o.oib o.cm k := by
  obtain ⟨request, after, hhandled, rfl⟩ := h
  exact hcareful ⟨request, .sent, o.oib, o.cm, after⟩ (by simp [hhandled]) rfl

theorem Act.closing (h : Act content o o') (hs : Sound content o)
    {sfcUUID : UUID} (hclosing : Closing o'.oib o'.cm sfcUUID) :
    Closing o.oib o.cm sfcUUID ∨
      ∃ sfciID, Accepted o o' ⟨.delSFC, some sfcUUID, sfciID⟩ := by
  obtain hdeleted | ⟨k, hout, htype, hsfc⟩ := hclosing
  · obtain hold | ⟨sfciID, hout⟩ := h.sfcState_deleted hdeleted
    · exact .inl (.inl hold)
    · exact .inl (.inr ⟨_, hout, rfl, rfl⟩)
  · obtain hold | haccepted := h.outstanding hs hout
    · exact .inl (.inr ⟨k, hold, htype, hsfc⟩)
    · obtain ⟨requestType, sfcUUID', sfciID⟩ := k
      dsimp only at htype hsfc
      subst htype hsfc
      exact .inr ⟨sfciID, haccepted⟩

theorem Act.busy (h : Act content o o') (hs : Sound content o)
    {sfcUUID : UUID} (hbusy : Busy o'.oib o'.cm sfcUUID) :
    Busy o.oib o.cm sfcUUID ∨
      (∃ sfciID, Accepted o o' ⟨.addSFCI, some sfcUUID, sfciID⟩) ∨
      ∃ sfcUUID' sfciID row, Accepted o o' ⟨.delSFCI, sfcUUID', some sfciID⟩ ∧
        o.oib.sfciTable.get? sfciID = some row ∧ row.sfcUUID = sfcUUID := by
  obtain ⟨sfciID, row', hrow, rfl, hbusy⟩ := hbusy
  -- a row that was there before, with the commands that are outstanding for it
  have hold : ∀ row, o.oib.sfciTable.get? sfciID = some row →
      row'.sfcUUID = row.sfcUUID →
      (row'.state ∈ [SFCState.active, .inProcessing] →
        BusySFCI o.oib o.cm sfciID row) →
      Busy o.oib o.cm row'.sfcUUID ∨
        ∃ sfciID, Accepted o o' ⟨.addSFCI, some row'.sfcUUID, sfciID⟩ := by
    intro row hrow₀ hsame hstate
    obtain hstate' | ⟨k, hout, htype, hsfci⟩ := hbusy
    · exact .inl ⟨sfciID, row, hrow₀, hsame.symm, hstate hstate'⟩
    · obtain hout | haccepted := h.outstanding hs hout
      · exact .inl ⟨sfciID, row, hrow₀, hsame.symm, .inr ⟨k, hout, htype, hsfci⟩⟩
      · obtain ⟨requestType, sfcUUID', sfciID'⟩ := k
        dsimp only at htype hsfci
        subst htype hsfci
        have hsfc := h.row_of_accepted hs haccepted hrow
        exact .inr ⟨some sfciID, hsfc ▸ haccepted⟩
  cases h.sfciRow hs hrow with
  | @kept row hrow₀ hsame hstate =>
      obtain hb | ha := hold row hrow₀ hsame fun hbusy => .inl (hstate ▸ hbusy)
      · exact .inl hb
      · exact .inr (.inl ha)
  | @quieted row hrow₀ hsame hstate =>
      obtain hb | ha := hold row hrow₀ hsame fun hbusy => by
        exact absurd hbusy (by
          simp only [List.mem_cons, List.not_mem_nil, or_false] at hstate ⊢
          obtain h | h | h | h := hstate <;> simp [h])
      · exact .inl hb
      · exact .inr (.inl ha)
  | @deleting row sfcUUID' hrow₀ hsame haccepted _ =>
      exact .inr (.inr ⟨sfcUUID', sfciID, row, haccepted, hrow₀, hsame.symm⟩)
  | adding haccepted _ => exact .inr (.inl ⟨some sfciID, haccepted⟩)
  | @activated row hrow₀ hsame hactivated _ =>
      obtain ⟨sfcUUID', hout, -⟩ := hactivated
      exact .inl ⟨sfciID, row, hrow₀, hsame.symm, .inr ⟨_, hout, rfl, rfl⟩⟩

/-- Accepting only requests that may be accepted keeps the SFCs that are being
deleted free of work. -/
theorem Act.closing_not_busy (h : Act content o o') (hs : Sound content o)
    (hcareful : ∀ h ∈ o'.handled, h.Careful)
    (hI : ∀ sfcUUID, Closing o.oib o.cm sfcUUID → ¬ Busy o.oib o.cm sfcUUID)
    {sfcUUID : UUID} (hclosing : Closing o'.oib o'.cm sfcUUID) :
    ¬ Busy o'.oib o'.cm sfcUUID := by
  intro hbusy
  obtain hold | ⟨sfciID, haccepted⟩ := h.closing hs hclosing
  · obtain hb | ⟨s, ha⟩ | ⟨sfcUUID', s, row, ha, hrow, rfl⟩ := h.busy hs hbusy
    · exact hI sfcUUID hold hb
    · exact ha.mayAccept hcareful hold
    · exact ha.mayAccept hcareful row hrow hold
  · obtain hb | ⟨s, ha⟩ | ⟨sfcUUID', s, row, ha, -, -⟩ := h.busy hs hbusy
    · exact haccepted.mayAccept hcareful hb
    · cases haccepted.content_unique ha
    · cases haccepted.content_unique ha

/-- In every run that accepts only requests that may be accepted, no SFCI of a
deleted SFC is active or in processing. -/
theorem deleted_idle (h : (machine content).Reachable o)
    (hcareful : ∀ h ∈ o.handled, h.Careful) : DeletedIdle o.oib := by
  have hinv := @invariant_of_acts content o
    (fun o => (∀ h ∈ o.handled, h.Careful) → ∀ sfcUUID,
      Closing o.oib o.cm sfcUUID → ¬ Busy o.oib o.cm sfcUUID) ?_ ?_ h
  · intro sfciID row hrow hdeleted hstate
    exact hinv.2 hcareful row.sfcUUID (.inl hdeleted)
      ⟨sfciID, row, hrow, rfl, .inl hstate⟩
  · rintro o ⟨hoib, -⟩ - sfcUUID - ⟨sfciID, row, hrow, -⟩
    simp [hoib] at hrow
  · intro o o' hs hI hact hcareful' sfcUUID hclosing
    exact hact.closing_not_busy hs hcareful' (hI fun h hmem =>
      hcareful' h (hact.handled_subset hs h hmem)) hclosing

def sampleContent (requestID : UUID) : Content :=
  match requestID.tick with
  | 0 => ⟨.addSFC, some ⟨0, 0⟩, none⟩
  | 1 => ⟨.addSFCI, some ⟨0, 0⟩, some 7⟩
  | 2 => ⟨.delSFCI, some ⟨0, 0⟩, some 7⟩
  | _ => ⟨.delSFC, some ⟨0, 0⟩, none⟩

def deletedInOrder : Orchestrator :=
  after [.request sampleEnv (sampleRequest 0 .addSFC 0 none),
    .reply (sampleReply 0 .successful),
    .request sampleEnv (sampleRequest 1 .addSFCI 0 (some 7)),
    .batchTimeout sampleEnv,
    .reply (sampleReply 2 .successful),
    .request sampleEnv (sampleRequest 2 .delSFCI 0 (some 7)),
    .reply (sampleReply 3 .successful),
    .regulator (.updateSFCState ⟨0, 0⟩ .manual),
    .request sampleEnv (sampleRequest 3 .delSFC 0 none),
    .reply (sampleReply 4 .successful)]

theorem reachable_deletedInOrder :
    (machine sampleContent).Reachable deletedInOrder :=
  reachable_after ⟨rfl, ⟨.inl rfl, by decide⟩, rfl, trivial,
    ⟨.inl rfl, by decide⟩, rfl, ⟨.inl rfl, by decide⟩, trivial,
    rfl, ⟨.inl rfl, by decide⟩, trivial⟩

theorem deleted_idle_deletedInOrder :
    DeletedIdle deletedInOrder.oib ∧
      deletedInOrder.oib.getSFCState ⟨0, 0⟩ = some .deleted ∧
      deletedInOrder.oib.getSFCIState 7 = some .deleted :=
  ⟨deleted_idle reachable_deletedInOrder (by decide),
    by decide, by decide⟩

/-- The SFC 0 is deleted while the addition of its SFCI 7 is not answered. -/
def deletedTooEarly : Orchestrator :=
  after [.request sampleEnv (sampleRequest 0 .addSFC 0 none),
    .reply (sampleReply 0 .successful),
    .request sampleEnv (sampleRequest 1 .addSFCI 0 (some 7)),
    .batchTimeout sampleEnv,
    .regulator (.updateSFCState ⟨0, 0⟩ .manual),
    .request sampleEnv (sampleRequest 3 .delSFC 0 none),
    .reply (sampleReply 3 .successful)]

theorem reachable_deletedTooEarly :
    (machine sampleContent).Reachable deletedTooEarly :=
  reachable_after ⟨rfl, ⟨.inl rfl, by decide⟩, rfl, trivial, trivial,
    rfl, ⟨.inl rfl, by decide⟩, trivial⟩

/-- An SFC is deleted and its SFCI is in processing. -/
theorem deleted_sfc_in_processing :
    ∃ content o, (machine content).Reachable o ∧ ¬ DeletedIdle o.oib := by
  refine ⟨sampleContent, deletedTooEarly, reachable_deletedTooEarly, ?_⟩
  intro hidle
  have hrow : ∃ e ∈ deletedTooEarly.oib.sfciTable.items,
      e.2.state = .inProcessing ∧
        deletedTooEarly.oib.getSFCState e.2.sfcUUID = some .deleted := by
    decide
  obtain ⟨⟨sfciID, row⟩, hmem, hstate, hdeleted⟩ := hrow
  refine hidle sfciID row (Dict.mem_items_iff.mp hmem) hdeleted ?_
  dsimp only at hstate
  simp [hstate]

end Orchestrator

end SelfAdaptiveMano

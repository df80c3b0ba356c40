import SelfAdaptiveMano.Orchestration.Origins
import SelfAdaptiveMano.Orchestration.Steps

/-!
# The list of the SFCIs of an SFC

An SFCI enters the list of its SFC when its addition is answered, and stays there
when it is deleted. The list is never emptied, so an id that is added under
another SFC later on is in both lists. What holds in every run is that a list has
no id twice and only ids that were added under its SFC, and that an active SFCI
is in the list of its SFC. The last point needs that no addition is accepted
while another addition of the same id, under another SFC, is not answered.
-/

namespace SelfAdaptiveMano

open Library Orchestrator

/-- No addition of the same SFCI under another SFC was outstanding when the
request was accepted. -/
def Handled.Unmixed (h : Handled) : Prop :=
  h.outcome = .sent → (contentOf h.request).requestType = .addSFCI →
    ¬ ∃ k, Outstanding h.before h.cm k ∧ k.requestType = .addSFCI ∧
      k.sfciID = (contentOf h.request).sfciID ∧
      k.sfcUUID ≠ (contentOf h.request).sfcUUID

instance (h : Handled) : Decidable h.Unmixed :=
  inferInstanceAs (Decidable (_ → _ → _))

namespace Orchestrator

variable {content : UUID → Content} {o o' : Orchestrator}

/-- A request with the content `k` was accepted some time. -/
def EverAccepted (o : Orchestrator) (k : Content) : Prop :=
  ∃ h ∈ o.handled, h.outcome = .sent ∧ contentOf h.request = k

theorem Accepted.everAccepted {k : Content} (h : Accepted o o' k) :
    EverAccepted o' k := by
  obtain ⟨request, after, hhandled, hk⟩ := h
  exact ⟨⟨request, .sent, o.oib, o.cm, after⟩, by simp [hhandled], rfl, hk⟩

theorem EverAccepted.act {k : Content} (h : EverAccepted o k)
    (hact : Act content o o') (hs : Sound content o) : EverAccepted o' k := by
  obtain ⟨h', hmem, hsent, hk⟩ := h
  exact ⟨h', hact.handled_subset hs h' hmem, hsent, hk⟩

/-- What holds of the lists in every run: the requests behind the outstanding
commands, the rows and the lists were accepted, and no id is listed twice. -/
structure Listed (o : Orchestrator) : Prop where
  outstanding : ∀ k, Outstanding o.oib o.cm k → EverAccepted o k
  row : ∀ sfciID row, o.oib.sfciTable.get? sfciID = some row →
    EverAccepted o ⟨.addSFCI, some row.sfcUUID, some sfciID⟩
  mem : ∀ sfcUUID, ∀ sfciID ∈ o.oib.getSFCIIDListOfASFC4DB sfcUUID,
    EverAccepted o ⟨.addSFCI, some sfcUUID, some sfciID⟩
  nodup : ∀ sfcUUID, (o.oib.getSFCIIDListOfASFC4DB sfcUUID).Nodup

theorem Act.listed (h : Act content o o') (hs : Sound content o)
    (hI : Listed o) : Listed o' where
  outstanding := by
    intro k hout
    obtain hold | haccepted := h.outstanding hs hout
    · exact (hI.outstanding k hold).act h hs
    · exact haccepted.everAccepted
  row := by
    intro sfciID row' hrow
    cases h.sfciRow hs hrow with
    | adding haccepted => exact haccepted.everAccepted
    | kept hold hsame | quieted hold hsame | deleting hold hsame
    | activated hold hsame =>
        rw [hsame]
        exact (hI.row sfciID _ hold).act h hs
  mem := by
    intro sfcUUID sfciID hmem
    obtain hsame | ⟨sfciID', hout, -, happend⟩ := h.sfciIDList sfcUUID
    · rw [hsame] at hmem
      exact (hI.mem sfcUUID sfciID hmem).act h hs
    · rw [happend, List.mem_append, List.mem_singleton] at hmem
      obtain hmem | rfl := hmem
      · exact (hI.mem sfcUUID sfciID hmem).act h hs
      · exact (hI.outstanding _ hout).act h hs
  nodup := by
    intro sfcUUID
    obtain hsame | ⟨sfciID, -, hnew, happend⟩ := h.sfciIDList sfcUUID
    · rw [hsame]
      exact hI.nodup sfcUUID
    · rw [happend]
      exact List.Nodup.append (hI.nodup sfcUUID) (by simp) (by simpa using hnew)

/-- What holds in the runs without mixed additions: an outstanding addition is
for the SFC that is stored, and an active SFCI is listed there. -/
structure Current (o : Orchestrator) : Prop where
  outstanding : ∀ sfcUUID sfciID row,
    Outstanding o.oib o.cm ⟨.addSFCI, sfcUUID, some sfciID⟩ →
    o.oib.sfciTable.get? sfciID = some row → sfcUUID = some row.sfcUUID
  active : ∀ sfciID row, o.oib.sfciTable.get? sfciID = some row →
    row.state = .active → sfciID ∈ o.oib.getSFCIIDListOfASFC4DB row.sfcUUID

theorem Act.current (h : Act content o o') (hs : Sound content o)
    (hunmixed : ∀ h ∈ o'.handled, h.Unmixed) (hI : Current o) : Current o' where
  outstanding := by
    intro sfcUUID sfciID row' hout hrow
    obtain hold | haccepted := h.outstanding hs hout
    · cases h.sfciRow hs hrow with
      | adding haccepted =>
          obtain ⟨request, after, hhandled, hk⟩ := haccepted
          have hmixed := hunmixed ⟨request, .sent, o.oib, o.cm, after⟩
            (by simp [hhandled]) rfl (by rw [hk])
          by_contra hne
          exact hmixed ⟨_, hold, rfl, by rw [hk], by rwa [hk]⟩
      | kept hrow₀ hsame | quieted hrow₀ hsame | deleting hrow₀ hsame
      | activated hrow₀ hsame =>
          rw [hsame]
          exact hI.outstanding sfcUUID sfciID _ hold hrow₀
    · exact h.row_of_accepted hs haccepted hrow
  active := by
    intro sfciID row' hrow hactive
    have hgrow : ∀ sfcUUID, ∀ s ∈ o.oib.getSFCIIDListOfASFC4DB sfcUUID,
        s ∈ o'.oib.getSFCIIDListOfASFC4DB sfcUUID := by
      intro sfcUUID s hmem
      obtain hsame | ⟨_, -, -, happend⟩ := h.sfciIDList sfcUUID
      · rwa [hsame]
      · rw [happend]
        exact List.mem_append_left _ hmem
    cases h.sfciRow hs hrow with
    | kept hold hsame hstate =>
        rw [hsame]
        exact hgrow _ _ (hI.active sfciID _ hold (hstate ▸ hactive))
    | quieted _ _ hstate => simp [hactive] at hstate
    | deleting _ _ _ hstate => simp [hactive] at hstate
    | adding _ hstate => simp [hactive] at hstate
    | activated hold hsame hactivated =>
        obtain ⟨sfcUUID, hout, hlist⟩ := hactivated
        have hsfc := hI.outstanding _ sfciID _ hout hold
        rw [hsame, ← Option.some.inj hsfc]
        exact hlist

/-- In every run without mixed additions an active SFCI is exactly once in the
list of its SFC; and in such a run no list has an id twice, and an id in the list
of an SFC was added under this SFC, as it was under the SFC that is stored for
it. -/
theorem active_sfci_listed_once (h : (machine content).Reachable o)
    (hunmixed : ∀ h ∈ o.handled, h.Unmixed) :
    (∀ sfciID row, o.oib.sfciTable.get? sfciID = some row →
      row.state = .active →
      (o.oib.getSFCIIDListOfASFC4DB row.sfcUUID).count sfciID = 1) ∧
    (∀ sfcUUID, (o.oib.getSFCIIDListOfASFC4DB sfcUUID).Nodup) ∧
    ∀ sfcUUID, ∀ sfciID ∈ o.oib.getSFCIIDListOfASFC4DB sfcUUID,
      EverAccepted o ⟨.addSFCI, some sfcUUID, some sfciID⟩ ∧
      ∀ row ∈ o.oib.sfciTable.get? sfciID,
        EverAccepted o ⟨.addSFCI, some row.sfcUUID, some sfciID⟩ := by
  have hinv := @invariant_of_acts content o
    (fun o => Listed o ∧ ((∀ h ∈ o.handled, h.Unmixed) → Current o))
    ?_ ?_ h
  · obtain ⟨-, hlisted, hcurrent⟩ := hinv
    refine ⟨fun sfciID row hrow hactive => ?_, hlisted.nodup, ?_⟩
    · exact List.count_eq_one_of_mem (hlisted.nodup row.sfcUUID)
        ((hcurrent hunmixed).active sfciID row hrow hactive)
    · intro sfcUUID sfciID hmem
      exact ⟨hlisted.mem sfcUUID sfciID hmem, fun row hrow =>
        hlisted.row sfciID row hrow⟩
  · rintro o ⟨hoib, hcm, -⟩
    have hout : ∀ k, ¬ Outstanding o.oib o.cm k := by
      rintro k ⟨cmdID, -, hmem⟩
      simp [hcm, Dict.contains] at hmem
    have hlist : ∀ sfcUUID, o.oib.getSFCIIDListOfASFC4DB sfcUUID = [] := by
      intro sfcUUID
      simp [hoib, OrchInfoBase.getSFCIIDListOfASFC4DB]
    have hrow : ∀ sfciID, o.oib.sfciTable.get? sfciID = none := by
      simp [hoib]
    exact ⟨⟨fun k hk => absurd hk (hout k), by simp [hrow], by simp [hlist],
      by simp [hlist]⟩, fun _ => ⟨fun _ _ _ hk => absurd hk (hout _),
      by simp [hrow]⟩⟩
  · rintro o o' hs ⟨hlisted, hcurrent⟩ hact
    refine ⟨hact.listed hs hlisted, fun hunmixed' => ?_⟩
    exact hact.current hs hunmixed' (hcurrent fun h hmem =>
      hunmixed' h (hact.handled_subset hs h hmem))

/-- The SFCI 7 is added under the SFC 0, deleted, and added under the SFC 1. -/
def movedSFCI : Orchestrator :=
  after [.request sampleEnv (sampleRequest 0 .addSFC 0 none),
    .reply (sampleReply 0 .successful),
    .request sampleEnv (sampleRequest 1 .addSFC 1 none),
    .reply (sampleReply 1 .successful),
    .request sampleEnv (sampleRequest 2 .addSFCI 0 (some 7)),
    .batchTimeout sampleEnv,
    .reply (sampleReply 3 .successful),
    .request sampleEnv (sampleRequest 3 .delSFCI 0 (some 7)),
    .reply (sampleReply 4 .successful),
    .request sampleEnv (sampleRequest 4 .addSFCI 1 (some 7)),
    .batchTimeout sampleEnv,
    .reply (sampleReply 5 .successful)]

def movedContent (requestID : UUID) : Content :=
  match requestID.tick with
  | 0 => ⟨.addSFC, some ⟨0, 0⟩, none⟩
  | 1 => ⟨.addSFC, some ⟨0, 1⟩, none⟩
  | 2 => ⟨.addSFCI, some ⟨0, 0⟩, some 7⟩
  | 3 => ⟨.delSFCI, some ⟨0, 0⟩, some 7⟩
  | _ => ⟨.addSFCI, some ⟨0, 1⟩, some 7⟩

theorem reachable_movedSFCI : (machine movedContent).Reachable movedSFCI :=
  reachable_after ⟨rfl, ⟨.inl rfl, by decide⟩, rfl,
    ⟨.inl rfl, by decide⟩, rfl, trivial, ⟨.inl rfl, by decide⟩,
    rfl, ⟨.inl rfl, by decide⟩, rfl, trivial,
    ⟨.inl rfl, by decide⟩, trivial⟩

theorem active_sfci_listed_once_movedSFCI :
    movedSFCI.oib.getSFCIState 7 = some .active ∧
      (movedSFCI.oib.getSFCIIDListOfASFC4DB ⟨0, 1⟩).count 7 = 1 := by
  have hrow : ∃ row ∈ movedSFCI.oib.sfciTable.get? 7,
      row.sfcUUID = ⟨0, 1⟩ ∧ row.state = .active := by
    decide
  obtain ⟨row, hrow, hsfc, hactive⟩ := hrow
  refine ⟨OrchInfoBase.getSFCIState_eq_some.mpr ⟨row, hrow, hactive⟩, ?_⟩
  rw [← hsfc]
  exact (active_sfci_listed_once reachable_movedSFCI
    (by decide)).1 7 row hrow hactive

/-- The list of an SFC contains the id of an SFCI of another SFC. -/
theorem listed_under_another_sfc :
    ∃ content o, (machine content).Reachable o ∧
      ∃ sfcUUID, ∃ sfciID ∈ o.oib.getSFCIIDListOfASFC4DB sfcUUID,
        ∃ row ∈ o.oib.sfciTable.get? sfciID, row.sfcUUID ≠ sfcUUID :=
  ⟨movedContent, movedSFCI, reachable_movedSFCI, ⟨0, 0⟩, 7, by decide,
    by decide⟩

end Orchestrator

end SelfAdaptiveMano

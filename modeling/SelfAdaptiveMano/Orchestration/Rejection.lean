import SelfAdaptiveMano.Orchestration.Steps

/-!
# Requests that are turned down

A request that is turned down, since the state of the SFC or SFCI is not valid
for it or since no mapping was found, should leave that state alone. Only
`DEL_SFC` and the addition of an SFCI that was mapped are handled that way. The
other handlers write the state of a failed attempt over the state that is there:
an SFC that is active is stored as failed to start, an SFCI that is in processing
as undeleted. `unchanged_iff_harmless` says for all runs which requests that are
turned down change a state.
-/

namespace SelfAdaptiveMano

open Library

namespace Handled

/-- The states of the SFC and the SFCI of the request are as before. -/
def Unchanged (h : Handled) : Prop :=
  (∀ sfc, h.request.attributes.sfc = some sfc →
    h.after.getSFCState sfc.sfcUUID = h.before.getSFCState sfc.sfcUUID) ∧
  ∀ sfci, h.request.attributes.sfci = some sfci →
    h.after.getSFCIState sfci.sfciID = h.before.getSFCIState sfci.sfciID

/-- The request deletes an SFC, or it adds an SFCI that was mapped or of which
nothing is stored but a failed attempt. -/
def Harmless (h : Handled) : Prop :=
  h.request.requestType = .delSFC ∨
    (h.request.requestType = .addSFCI ∧
      (h.outcome ≠ .unmapped ∨
        ∀ sfci, h.request.attributes.sfci = some sfci →
          h.before.getSFCIState sfci.sfciID ∈ [none, some .initFailed]))

def TablesKept (h : Handled) : Prop :=
  h.after.sfcTable = h.before.sfcTable ∧
    h.after.sfciTable = h.before.sfciTable

theorem TablesKept.unchanged {h : Handled} (hkept : h.TablesKept) :
    h.Unchanged :=
  ⟨fun _ _ => OrchInfoBase.getSFCState_congr hkept.1,
    fun _ _ => OrchInfoBase.getSFCIState_congr hkept.2⟩

end Handled

namespace Judged

variable {oib oib' : OrchInfoBase} {cmdID : UUID} {request : Request}
  {outcome : Outcome} {c : CommandMaintainer}

theorem updateSFCIState_eq_self {sfciID : Nat}
    (h : oib.getSFCIState sfciID ∈ [none, some SFCState.initFailed]) :
    (oib.updateSFCIState sfciID .initFailed).sfciTable = oib.sfciTable := by
  cases hrow : oib.sfciTable.get? sfciID with
  | none => simp [OrchInfoBase.updateSFCIState, Dict.modify, hrow]
  | some row =>
      have hstate : row.state = .initFailed := by
        simpa [OrchInfoBase.getSFCIState, hrow] using h
      simp only [OrchInfoBase.updateSFCIState, Dict.modify, hrow]
      apply Dict.set_eq_self
      rw [hrow, ← hstate]

theorem tablesKept (h : Judged oib cmdID request outcome oib')
    (hrejected : outcome ≠ .sent)
    (hharmless : Handled.Harmless ⟨request, outcome, oib, c, oib'⟩) :
    Handled.TablesKept ⟨request, outcome, oib, c, oib'⟩ := by
  cases h with
  | addSFCSent | addSFCISent | delSFCISent | delSFCSent =>
      exact absurd rfl hrejected
  | addSFCInvalid htype => simp [Handled.Harmless, htype] at hharmless
  | delSFCIInvalid sfc htype => simp [Handled.Harmless, htype] at hharmless
  | delSFCInvalid =>
      exact ⟨OrchInfoBase.sfcTable_delSFCRequestHandler_invalid ..,
        OrchInfoBase.sfciTable_delSFCRequestHandler ..⟩
  | addSFCIInvalid _ _ _ hvalid =>
      rw [OrchInfoBase.addSFCIRequestHandler_of_invalid hvalid]
      exact ⟨OrchInfoBase.sfcTable_addCmdInfo2Request ..,
        OrchInfoBase.sfciTable_addCmdInfo2Request ..⟩
  | @addSFCIUnmapped sfc sfci htype hsfc hsfci =>
      refine ⟨OrchInfoBase.sfcTable_addUnmappedSFCIRequestHandler .., ?_⟩
      have hstate := by simpa [Handled.Harmless, htype, hsfci] using hharmless
      show (OrchInfoBase.addUnmappedSFCIRequestHandler ..).sfciTable = _
      rw [OrchInfoBase.sfciTable_addUnmappedSFCIRequestHandler]
      exact updateSFCIState_eq_self (by simpa using hstate)

theorem harmless_of_unchanged (h : Judged oib cmdID request outcome oib')
    (hkeyed : oib.Keyed) (hrejected : outcome ≠ .sent)
    (hunchanged : Handled.Unchanged ⟨request, outcome, oib, c, oib'⟩) :
    Handled.Harmless ⟨request, outcome, oib, c, oib'⟩ := by
  cases h with
  | addSFCSent | addSFCISent | delSFCISent | delSFCSent =>
      exact absurd rfl hrejected
  | delSFCInvalid htype => exact .inl htype
  | addSFCIInvalid htype => exact .inr ⟨htype, .inl (by simp)⟩
  | @addSFCInvalid sfc htype hsfc hvalid =>
      have hstate := hunchanged.1 sfc hsfc
      dsimp only at hstate
      rw [OrchInfoBase.getSFCState_congr
        (OrchInfoBase.sfcTable_addSFCRequestHandler ..),
        OrchInfoBase.getSFCState_addSFC2DB, if_pos rfl] at hstate
      simp [OrchInfoBase.isAddSFCValidState, ← hstate] at hvalid
  | @addSFCIUnmapped sfc sfci htype hsfc hsfci =>
      refine .inr ⟨htype, .inr fun sfci' hsfci' => ?_⟩
      have hstate := hunchanged.2 sfci' hsfci'
      obtain rfl : sfci = sfci' := Option.some.inj (hsfci.symm.trans hsfci')
      dsimp only at hstate ⊢
      rw [OrchInfoBase.getSFCIState_congr
        (OrchInfoBase.sfciTable_addUnmappedSFCIRequestHandler ..),
        OrchInfoBase.getSFCIState_updateSFCIState, if_pos rfl] at hstate
      cases hbefore : oib.getSFCIState sfci.sfciID with
      | none => simp
      | some state =>
          rw [hbefore] at hstate
          simp [Option.some.inj hstate.symm]
  | @delSFCIInvalid named sfc namedI sfci htype hsfc hsfci hstored hvalid =>
      have hstate := hunchanged.2 namedI hsfci
      have hid := hkeyed.getSFCI4DB hstored
      dsimp only at hstate
      rw [OrchInfoBase.getSFCIState_congr
        (OrchInfoBase.sfciTable_delSFCIRequestHandler ..),
        OrchInfoBase.getSFCIState_updateSFCIState, if_pos hid.symm] at hstate
      obtain ⟨row, hrow, -⟩ := Option.map_eq_some_iff.mp hstored
      have hbefore : oib.getSFCIState sfci.sfciID = some row.state := by
        rw [OrchInfoBase.getSFCIState, hid, hrow]
        rfl
      rw [← hid, hbefore] at hstate
      rw [OrchInfoBase.isDelSFCIValidState, hbefore,
        ← Option.some.inj hstate] at hvalid
      simp at hvalid

end Judged

namespace Orchestrator

variable {content : UUID → Content} {o : Orchestrator}

theorem handled_judged (h : (machine content).Reachable o) :
    ∀ h ∈ o.handled, h.before.Keyed ∧
      ∃ cmdID, Judged h.before cmdID h.request h.outcome h.after := by
  refine (@invariant_of_acts content o (fun o =>
    ∀ h ∈ o.handled, h.before.Keyed ∧
      ∃ cmdID, Judged h.before cmdID h.request h.outcome h.after) ?_ ?_ h).2
  · rintro o ⟨-, -, -, -, -, hhandled⟩
    simp [hhandled]
  · intro o o' hs hI hact
    obtain hquiet | ⟨request, cmd, outcome, oib', -, hjudged, -, rfl⟩ :=
      hact.quiet_or_judge hs
    · rw [hquiet.handled]
      exact hI
    · intro h hmem
      obtain hmem | hmem := List.mem_append.mp hmem
      · exact hI h hmem
      · rw [List.mem_singleton.mp hmem]
        exact ⟨hs.keyed, cmd.cmdID, hjudged⟩

/-- No SFC and no SFCI was written since `o`. -/
def TablesKept (o o' : Orchestrator) : Prop :=
  o'.oib.sfcTable = o.oib.sfcTable ∧ o'.oib.sfciTable = o.oib.sfciTable

/-- A method that writes no SFC or SFCI before it raises. -/
def RaisesUnwritten {α : Type} (o : Orchestrator) (x : PyM Orchestrator α) :
    Prop :=
  PyM.Meets (TablesKept o) x (fun _ _ => True) (TablesKept o)

theorem returns_addAndSendCmd (requestID : UUID) (cmd : Command) :
    PyM.Returns (addAndSendCmd requestID cmd) :=
  fun _ _ => trivial

theorem returns_modifyOib (f : OrchInfoBase → OrchInfoBase) :
    PyM.Returns (modifyOib f) :=
  fun _ _ => trivial

theorem RaisesUnwritten.recorded {request : Request}
    {x : PyM Orchestrator Outcome} (h : RaisesUnwritten o x) :
    RaisesUnwritten o (recorded request x) := by
  refine PyM.Meets.bind_get fun s hs => ?_
  have hx : PyM.Meets (· = s) x (fun _ _ => True) (TablesKept o) :=
    h.conseq (fun _ h => h ▸ hs) (fun _ _ h => h) fun _ h => h
  exact PyM.Meets.bind hx fun outcome s' _ => trivial

theorem returns_recorded {request : Request} {x : PyM Orchestrator Outcome}
    (h : PyM.Returns x) : PyM.Returns (recorded request x) := by
  refine PyM.Meets.bind_get fun s _ => ?_
  exact PyM.Meets.bind h.meets fun outcome s' _ => trivial

theorem returns_settleRequest {r : Request} {p : Request × Option Command}
    (h : ResultOf r p) : PyM.Returns (settleRequest p.1 p.2) := by
  obtain ⟨request, cmd⟩ := p
  obtain ⟨sfc, sfci, hsfc, hsfci, hcmd⟩ := h.named
  dsimp only at hsfc hsfci
  refine returns_recorded ?_
  cases cmd with
  | none =>
      refine .bind_ofOption hsfc (.bind_ofOption hsfci ?_)
      exact (returns_modifyOib _).bind fun _ => .pure _
  | some cmd =>
      obtain ⟨-, hcsfc, hcsfci⟩ := hcmd cmd rfl
      refine .bind_ofOption hcsfc (.bind_ofOption hcsfci ?_)
      refine .bind_get fun s => .ite ?_ ?_
      · exact (returns_addAndSendCmd _ _).bind fun _ =>
          (returns_modifyOib _).bind fun _ => .pure _
      · exact (returns_modifyOib _).bind fun _ => .pure _

theorem raisesUnwritten_withGen {α β : Type} {x : PyM CmdGenerator α}
    {f : α → PyM Orchestrator β}
    (hf : ∀ a, RaisesUnwritten o (f a)) :
    RaisesUnwritten o (withGen x >>= f) :=
  PyM.Meets.bind (PyM.Keeps.zoom fun _ _ h => h) hf

theorem tablesKept_processInvalidAddSFCIRequests (o : Orchestrator) :
    TablesKept o (processInvalidAddSFCIRequests o) := by
  have hfold : ∀ (requests : List Request) (oib : OrchInfoBase),
      let oib' := requests.foldl (fun oib request => oib.addRequest
        { request with requestState := .failed } none none none) oib
      oib'.sfcTable = oib.sfcTable ∧ oib'.sfciTable = oib.sfciTable := by
    intro requests
    induction requests with
    | nil => exact fun _ => ⟨rfl, rfl⟩
    | cons r requests ih =>
        intro oib
        simpa using ih (oib.addRequest { r with requestState := .failed } none
          none none)
  exact hfold _ _

theorem raisesUnwritten_processAllAddSFCIRequests (env : Env)
    (o : Orchestrator) : RaisesUnwritten o (processAllAddSFCIRequests env) := by
  refine PyM.Meets.bind_get_any fun _ => PyM.Meets.bind_get_any fun _ => ?_
  refine PyM.Meets.ite (fun _ => ?_) fun _ _ _ => trivial
  refine PyM.Meets.bind (Q := fun _ => TablesKept o) ?_ fun _ => ?_
  · intro s hs
    have hinvalid := tablesKept_processInvalidAddSFCIRequests s
    exact ⟨hinvalid.1.trans hs.1, hinvalid.2.trans hs.2⟩
  refine PyM.Meets.bind_get_any fun s => ?_
  refine PyM.Meets.bind (Q := fun _ => TablesKept o) (fun _ hs => hs) fun _ => ?_
  refine PyM.Meets.bind (Q := fun l _ => ∃ requests, List.Forall₂ ResultOf requests l)
    (PyM.Meets.of_forall fun s' hs' => ?_) fun l => ?_
  · refine (meets_withGen (OSFCAdder.meets_genABatchOfRequestAndAddSFCICmds env
      s.requestBatchQueue s'.gen)).conseq (fun _ h => h) ?_ ?_
    · rintro l _ ⟨gen, hresult, rfl⟩
      obtain ⟨requests, -, hresults⟩ := hresult.results
      exact ⟨requests, hresults⟩
    · rintro _ ⟨gen, -, rfl⟩
      exact hs'
  · rintro s' ⟨requests, hresults⟩
    refine PyM.Returns.meets (P := fun _ => True) (.forM fun p hp => ?_) s' trivial
    obtain ⟨r, -, hresult⟩ := ResultOf.exists_of_mem hresults hp
    exact returns_settleRequest hresult

theorem raisesUnwritten_requestBranch (env : Env) (request : Request)
    (o : Orchestrator) : RaisesUnwritten o (requestBranch env request) := by
  unfold requestBranch
  cases request.requestType with
  | addSFC =>
      refine raisesUnwritten_withGen fun p => PyM.Returns.meets ?_
      refine returns_recorded (.bind_get fun s => .ite ?_ ?_)
      · exact (returns_addAndSendCmd _ _).bind fun _ =>
          (returns_modifyOib _).bind fun _ => .pure _
      · exact (returns_modifyOib _).bind fun _ => .pure _
  | addSFCI =>
      refine PyM.Meets.bind (Q := fun _ => TablesKept o) (fun _ hs => hs) fun _ => ?_
      refine PyM.Meets.bind_get_any fun _ => PyM.Meets.bind_get_any fun _ => ?_
      refine PyM.Meets.ite (fun _ => ?_) fun _ _ _ => trivial
      exact raisesUnwritten_processAllAddSFCIRequests env o
  | delSFCI =>
      refine PyM.Meets.bind_get_any fun s => raisesUnwritten_withGen fun p => ?_
      refine PyM.Meets.bind_ofOption (fun sfci _ => ?_) fun _ h => h
      refine RaisesUnwritten.recorded (PyM.Meets.bind_get_any fun s => ?_)
      refine PyM.Meets.ite (fun _ => ?_) fun _ => PyM.Returns.meets ?_
      · refine PyM.Meets.bind_ofOption (fun _ _ => PyM.Returns.meets ?_) fun _ h => h
        exact (returns_addAndSendCmd _ _).bind fun _ =>
          (returns_modifyOib _).bind fun _ => .pure _
      · exact (returns_modifyOib _).bind fun _ => .pure _
  | delSFC =>
      refine PyM.Meets.bind_get_any fun s => raisesUnwritten_withGen fun p => ?_
      refine PyM.Returns.meets (returns_recorded (.bind_get fun s => .ite ?_ ?_))
      · exact (returns_addAndSendCmd _ _).bind fun _ =>
          (returns_modifyOib _).bind fun _ => .pure _
      · exact (returns_modifyOib _).bind fun _ => .pure _
  | getLinkInfo | getDCNInfo | getSFCIState | updateSFCState =>
      exact fun _ _ => trivial

/-- In every run, a request that is turned down leaves the states of its SFC and
SFCI alone exactly if it is harmless, and then nothing of them is written. A
request or a batch that ends with an exception writes neither. -/
theorem unchanged_iff_harmless (content : UUID → Content) :
    (∀ o, (machine content).Reachable o → ∀ h ∈ o.handled, h.outcome ≠ .sent →
      (h.Unchanged ↔ h.Harmless) ∧ (h.Harmless → h.TablesKept)) ∧
    (∀ env request o e o', (requestBranch env request).run o = .error e o' →
      TablesKept o o') ∧
    ∀ env o e o', (processAllAddSFCIRequests env).run o = .error e o' →
      TablesKept o o' := by
  refine ⟨?_, ?_, ?_⟩
  · intro o hreachable h hmem hrejected
    obtain ⟨hkeyed, cmdID, hjudged⟩ := handled_judged hreachable h hmem
    have htables := hjudged.tablesKept (c := h.cm) hrejected
    have hharmless := hjudged.harmless_of_unchanged (c := h.cm) hkeyed hrejected
    exact ⟨⟨hharmless, fun hh => (htables hh).unchanged⟩, htables⟩
  · intro env request o e o' hrun
    exact (raisesUnwritten_requestBranch env request o).of_run_error
      ⟨rfl, rfl⟩ hrun
  · intro env o e o' hrun
    exact (raisesUnwritten_processAllAddSFCIRequests env o).of_run_error
      ⟨rfl, rfl⟩ hrun

def addedTwice : Orchestrator :=
  after [.request sampleEnv (sampleRequest 0 .addSFC 0 none),
    .reply (sampleReply 0 .successful),
    .request sampleEnv (sampleRequest 1 .addSFC 0 none)]

theorem reachable_addedTwice :
    (machine fun _ => ⟨.addSFC, some ⟨0, 0⟩, none⟩).Reachable addedTwice :=
  reachable_after ⟨rfl, ⟨.inl rfl, by decide⟩, rfl, trivial⟩

/-- An SFC that is active is stored as failed to start, since a second request to
add it was turned down. -/
theorem active_sfc_stored_as_failed :
    ∃ content o, (machine content).Reachable o ∧
      ∃ h ∈ o.handled, h.outcome ≠ .sent ∧ ¬ h.Unchanged := by
  refine ⟨_, addedTwice, reachable_addedTwice, ?_⟩
  have hrecord : ∃ h ∈ addedTwice.handled, h.outcome ≠ .sent ∧
      (h.request.attributes.sfc = some (sampleSFC 0) ∧
        h.before.getSFCState ⟨0, 0⟩ = some .active ∧
        h.after.getSFCState ⟨0, 0⟩ = some .initFailed) := by
    decide
  obtain ⟨h, hmem, hrejected, hsfc, hbefore, hafter⟩ := hrecord
  refine ⟨h, hmem, hrejected, fun hunchanged => ?_⟩
  have hstate := hunchanged.1 (sampleSFC 0) hsfc
  rw [show (sampleSFC 0).sfcUUID = ⟨0, 0⟩ from rfl, hbefore, hafter] at hstate
  cases hstate

/-- The request that was turned down there is not harmless. -/
theorem unchanged_iff_harmless_addedTwice :
    ∃ h ∈ addedTwice.handled, h.outcome ≠ .sent ∧ ¬ h.Harmless ∧
      ¬ h.Unchanged := by
  have hrecord : ∃ h ∈ addedTwice.handled, h.outcome ≠ .sent ∧
      h.request.requestType = .addSFC := by
    decide
  obtain ⟨h, hmem, hrejected, htype⟩ := hrecord
  have hiff := ((unchanged_iff_harmless _).1 addedTwice reachable_addedTwice h
    hmem hrejected).1
  have hharmful : ¬ h.Harmless := by
    simp [Handled.Harmless, htype]
  exact ⟨h, hmem, hrejected, hharmful, fun hu => hharmful (hiff.mp hu)⟩

end Orchestrator

end SelfAdaptiveMano

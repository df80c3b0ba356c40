import SelfAdaptiveMano.Orchestration.Acts
import SelfAdaptiveMano.Orchestration.Generated
import Mathlib.Logic.Relation

/-!
# What the Orchestrator does of its own accord

The acts of a step that is not a reply, with all that is known of the commands
that are sent: a command has an id that was never used, it names the queue of the
Orchestrator as its source, and it carries out what its request asks for. `Deed`
lists these acts, each of which is an `Act`, and `handle_deeds` says that every
input but a reply is a sequence of them.
-/

namespace SelfAdaptiveMano

open Library Orchestrator

def RequestType.cmdType? : RequestType → Option CmdType
  | .addSFC => some .addSFC
  | .addSFCI => some .addSFCI
  | .delSFCI => some .delSFCI
  | .delSFC => some .delSFC
  | _ => none

structure Command.Carries (cmd : Command) (k : Content) : Prop where
  cmdType : k.requestType.cmdType? = some cmd.cmdType
  sfcUUID : cmd.attributes.sfc.map SFC.sfcUUID = k.sfcUUID
  sfciID : cmd.cmdType = .addSFCI ∨ cmd.cmdType = .delSFCI →
    cmd.attributes.sfci.map SFCI.sfciID = k.sfciID

namespace OSFCAdder

def Own (p : Request × Option Command) : Prop :=
  ∀ cmd, p.2 = some cmd → cmd.cmdID.generator = generator

theorem meets_genAddSFCICmd_own (env : Env) (fpSets : Option FPSetsDict)
    (request : Request) (rIndex : Nat) (g : CmdGenerator) :
    PyM.Meets (· = g) (genAddSFCICmd env fpSets request rIndex)
      (fun p _ => Own p) fun _ => True := by
  refine PyM.Meets.bind_ofOption (fun sfc _ => ?_) fun _ _ => trivial
  refine PyM.Meets.bind_ofOption (fun sfci _ => ?_) fun _ _ => trivial
  refine PyM.Meets.bind_ofOption (fun table _ => ?_) fun _ _ => trivial
  refine PyM.Meets.bind_ofOption (fun fpSet _ => ?_) fun _ _ => trivial
  cases fpSet with
  | none =>
      intro g' _ cmd hcmd
      cases hcmd
  | some fpSet =>
      have hkeeps := keeps_getVNFISeqFromForwardingPathSet env sfc fpSet 0
      refine PyM.Meets.bind (Q := fun _ _ => True)
        (hkeeps.conseq (fun _ _ => Nat.zero_le _) (fun _ _ _ => trivial)
          fun _ _ => trivial) fun vnfiSequence g' _ => ?_
      intro cmd hcmd
      cases hcmd
      rfl

theorem meets_genGroup_own (env : Env) (mappingType : MappingType)
    (requestBatchList : List Request) (g : CmdGenerator) :
    PyM.Meets (· = g) (genGroup env mappingType requestBatchList)
      (fun l _ => ∀ p ∈ l, Own p) fun _ => True := by
  refine PyM.Meets.bind_ofExcept (fun fpSets _ => ?_) fun _ _ => trivial
  have hmap := PyM.Meets.mapM
    (R := fun (_ : Request × Nat) (_ : Request × Option Command) => True)
    (T := fun _ l _ => ∀ p ∈ l, Own p) (F := fun _ _ => True)
    (fun _ => by simp)
    (fun h h' => List.forall_mem_cons.mpr ⟨h _ List.mem_cons_self, h'⟩)
    (fun _ _ => trivial)
    (fun e (_ : e ∈ requestBatchList.zipIdx) g =>
      (meets_genAddSFCICmd_own env fpSets e.1 e.2 g).conseq (fun _ h => h)
        (fun p _ h => ⟨trivial, by simpa using h⟩) fun _ h => h) g
  exact hmap.conseq (fun _ h => h) (fun _ _ h => h.2) fun _ h => h

theorem meets_genABatch_own (env : Env) (requestBatchQueue : List Request)
    (g : CmdGenerator) :
    PyM.Meets (· = g) (genABatchOfRequestAndAddSFCICmds env requestBatchQueue)
      (fun l _ => ∀ p ∈ l, Own p) fun _ => True := by
  have hmap := PyM.Meets.mapM
    (R := fun (_ : MappingType × List Request)
      (_ : List (Request × Option Command)) => True)
    (T := fun _ ls _ => ∀ l ∈ ls, ∀ p ∈ l, Own p) (F := fun _ _ => True)
    (fun _ => by simp)
    (fun h h' => List.forall_mem_cons.mpr ⟨h _ List.mem_cons_self, h'⟩)
    (fun _ _ => trivial)
    (fun e (_ : e ∈ (divRequest requestBatchQueue).items) g =>
      (meets_genGroup_own env e.1 e.2 g).conseq (fun _ h => h)
        (fun l _ h => ⟨trivial, by simpa using h⟩) fun _ h => h) g
  refine PyM.Meets.bind hmap fun ls g' h p hp => ?_
  obtain ⟨l, hl, hp⟩ := List.mem_flatten.mp hp
  exact h.2 l hl p hp

end OSFCAdder

def OrchInfoBase.SFCKeyed (oib : OrchInfoBase) : Prop :=
  ∀ sfcUUID row, oib.sfcTable.get? sfcUUID = some row →
    row.pickle.sfcUUID = sfcUUID

namespace OrchInfoBase

variable {oib oib' : OrchInfoBase}

theorem SFCKeyed.getSFC4DB (h : oib.SFCKeyed) {sfcUUID : UUID} {sfc : SFC}
    (hsfc : oib.getSFC4DB sfcUUID = some sfc) : sfc.sfcUUID = sfcUUID := by
  obtain ⟨row, hrow, rfl⟩ := Option.map_eq_some_iff.mp hsfc
  exact h sfcUUID row hrow

theorem SFCKeyed.congr (h : oib.SFCKeyed) (htable : oib'.sfcTable = oib.sfcTable) :
    oib'.SFCKeyed := by
  simpa [SFCKeyed, htable] using h

theorem SFCKeyed.modify (h : oib.SFCKeyed) (sfcUUID : UUID) {f : SFCRow → SFCRow}
    (htable : oib'.sfcTable = oib.sfcTable.modify sfcUUID f)
    (hf : ∀ row, (f row).pickle = row.pickle) : oib'.SFCKeyed := by
  intro sfcUUID' row' hrow
  rw [htable, Dict.get?_modify] at hrow
  by_cases heq : sfcUUID' = sfcUUID
  · rw [if_pos heq] at hrow
    obtain ⟨row, hold, rfl⟩ := Option.map_eq_some_iff.mp hrow
    rw [hf]
    exact heq ▸ h sfcUUID row hold
  · rw [if_neg heq] at hrow
    exact h sfcUUID' row' hrow

theorem SFCKeyed.updateSFCState (h : oib.SFCKeyed) (sfcUUID : UUID)
    (state : SFCState) : (oib.updateSFCState sfcUUID state).SFCKeyed :=
  h.modify sfcUUID rfl fun _ => rfl

theorem SFCKeyed.addSFC2DB (h : oib.SFCKeyed) (sfc : SFC) (state : SFCState) :
    (oib.addSFC2DB sfc state).SFCKeyed := by
  intro sfcUUID row' hrow
  cases hold : oib.sfcTable.get? sfc.sfcUUID with
  | some row =>
      by_cases heq : sfcUUID = sfc.sfcUUID
      · simp [OrchInfoBase.addSFC2DB, hasSFC, Dict.contains, hold, updateSFC2DB,
          Dict.get?_modify, heq] at hrow
        rw [← hrow, heq]
      · simp [OrchInfoBase.addSFC2DB, hasSFC, Dict.contains, hold, updateSFC2DB,
          Dict.get?_modify, heq] at hrow
        exact h sfcUUID row' hrow
  | none =>
      by_cases heq : sfcUUID = sfc.sfcUUID
      · simp [OrchInfoBase.addSFC2DB, hasSFC, Dict.contains, hold, heq] at hrow
        rw [← hrow, heq]
      · simp [OrchInfoBase.addSFC2DB, hasSFC, Dict.contains, hold,
          Dict.get?_set_of_ne _ _ heq] at hrow
        exact h sfcUUID row' hrow

end OrchInfoBase

theorem Judged.sfcKeyed {oib oib' : OrchInfoBase} {cmdID : UUID}
    {request : Request} {outcome : Outcome}
    (h : Judged oib cmdID request outcome oib') (hkeyed : oib.SFCKeyed) :
    oib'.SFCKeyed := by
  cases h with
  | addSFCSent | addSFCInvalid =>
      exact OrchInfoBase.SFCKeyed.addSFC2DB (hkeyed.congr (by simp)) _ _
  | addSFCISent | addSFCIInvalid | addSFCIUnmapped | delSFCISent
  | delSFCIInvalid => exact hkeyed.congr (by simp)
  | delSFCSent =>
      exact (hkeyed.updateSFCState _ _).congr
        (OrchInfoBase.sfcTable_delSFCRequestHandler_sent ..)
  | delSFCInvalid =>
      exact hkeyed.congr (OrchInfoBase.sfcTable_delSFCRequestHandler_invalid ..)

theorem Answered.sfcKeyed {oib oib' : OrchInfoBase} {request : Request}
    {cmdState : CmdState} (h : Answered oib request cmdState oib')
    (hkeyed : oib.SFCKeyed) : oib'.SFCKeyed := by
  have hmarked : ∀ requestState,
      (oib.updateRequestState2DB request requestState).SFCKeyed := fun _ =>
    hkeyed.congr (OrchInfoBase.sfcTable_updateRequestState2DB ..)
  cases h with
  | unknown => exact hkeyed
  | raised => exact hmarked _
  | sfc => exact (hmarked _).updateSFCState _ _
  | @addSFCI sfc sfci requestState state listed _ _ _ _ hlisted =>
      obtain ⟨row, -, ⟨-, rfl⟩ | ⟨-, rfl⟩⟩ := of_addSFCI2SFCInDB hlisted
      · exact (hmarked _).congr rfl
      · exact (hmarked requestState).modify sfc.sfcUUID rfl fun _ => rfl
  | delSFCI => exact (hmarked _).congr rfl

theorem sfcKeyed_regulate {oib : OrchInfoBase} (hkeyed : oib.SFCKeyed)
    (update : RegulatorUpdate) : (regulate oib update).SFCKeyed := by
  cases update with
  | updateSFCState | scaling =>
      dsimp only [regulate]
      split
      · exact hkeyed.updateSFCState _ _
      · exact hkeyed
  | finish => exact hkeyed.updateSFCState _ _
  | recover =>
      dsimp only [regulate]
      split
      · exact (hkeyed.updateSFCState _ _).congr rfl
      · exact hkeyed
  | reject => exact hkeyed.congr (by simp [regulate])
  | retry requestID =>
      dsimp only [regulate]
      split
      · split
        · exact hkeyed.congr (by simp)
        · exact hkeyed
      · exact hkeyed

namespace Orchestrator

variable {content : UUID → Content} {o o' : Orchestrator}

theorem run_recorded {request : Request} {x : PyM Orchestrator Outcome}
    {outcome : Outcome} (h : x.run o = .ok outcome o') :
    (recorded request x).run o = .ok () { o' with
      handled := o'.handled ++ [⟨request, outcome, o.oib, o.cm, o'.oib⟩] } := by
  rw [recorded, PyM.run_bind_get, PyM.run_bind_ok h]
  rfl

theorem run_recorded_error {request : Request} {x : PyM Orchestrator Outcome}
    {e : PyError} (h : x.run o = .error e o') :
    (recorded request x).run o = .error e o' := by
  rw [recorded, PyM.run_bind_get, PyM.run_bind_error h]

def sourced (o : Orchestrator) (cmd : Command) : Command :=
  { cmd with attributes :=
      { cmd.attributes with source := some o.orchInstanceQueueName } }

theorem run_recorded_sent {request : Request} {cmd : Command}
    {x : PyM Orchestrator Outcome} (f : OrchInfoBase → OrchInfoBase)
    (hx : x.run o = (do
      addAndSendCmd request.requestID cmd
      modifyOib f
      return Outcome.sent : PyM Orchestrator Outcome).run o) :
    (recorded request x).run o =
      .ok () (o.judge request (o.sourced cmd) .sent (f o.oib)) :=
  run_recorded (hx.trans rfl)

theorem run_recorded_refused {request : Request} {outcome : Outcome}
    {x : PyM Orchestrator Outcome} (cmd : Command) (hrefused : outcome ≠ .sent)
    (f : OrchInfoBase → OrchInfoBase)
    (hx : x.run o = (do
      modifyOib f
      return outcome : PyM Orchestrator Outcome).run o) :
    (recorded request x).run o =
      .ok () (o.judge request cmd outcome (f o.oib)) := by
  have hrun : x.run o = .ok outcome { o with oib := f o.oib } := hx.trans rfl
  rw [run_recorded hrun, judge, if_neg hrefused, if_neg hrefused]

/-- Settling a result of a batch does not raise. -/
theorem run_settleRequest {r : Request} {p : Request × Option Command}
    (h : ResultOf r p) (htype : r.requestType = .addSFCI) (o : Orchestrator) :
    ∃ cmd outcome oib',
      (settleRequest p.1 p.2).run o = .ok () (o.judge p.1 cmd outcome oib') ∧
      Judged o.oib cmd.cmdID p.1 outcome oib' ∧
      (outcome ≠ .unmapped → cmd.cmdType = .addSFCI ∧
        ∃ made, p.2 = some made ∧ cmd.cmdID = made.cmdID ∧
          (outcome = .sent → cmd = o.sourced made)) := by
  obtain ⟨request, cmd⟩ := p
  obtain ⟨sfc, sfci, hsfc, hsfci, hcmd⟩ := h.named
  have htype' : request.requestType = .addSFCI := h.requestType.trans htype
  dsimp only at hsfc hsfci
  cases cmd with
  | none =>
      refine ⟨⟨.addSFCI, ⟨0, 0⟩, none, none, none, none⟩, .unmapped,
        o.oib.addUnmappedSFCIRequestHandler request sfc sfci .failed .initFailed,
        ?_, .addSFCIUnmapped htype' hsfc hsfci, fun h => absurd rfl h⟩
      refine run_recorded_refused _ (by decide) (fun oib =>
        oib.addUnmappedSFCIRequestHandler request sfc sfci .failed .initFailed) ?_
      dsimp only
      rw [PyM.run_bind_ofOption hsfc, PyM.run_bind_ofOption hsfci]
  | some cmd =>
      obtain ⟨hcmdType, hcsfc, hcsfci⟩ := hcmd cmd rfl
      cases hvalid : o.oib.isAddSFCIValidState sfci.sfciID with
      | true =>
          refine ⟨o.sourced cmd, .sent,
            o.oib.addSFCIRequestHandler request sfc sfci cmd.cmdID .inProcessing,
            ?_, .addSFCISent htype' hsfc hsfci hvalid,
            fun _ => ⟨hcmdType, cmd, rfl, rfl, fun _ => rfl⟩⟩
          refine run_recorded_sent (fun oib =>
            oib.addSFCIRequestHandler request sfc sfci cmd.cmdID .inProcessing) ?_
          dsimp only
          rw [PyM.run_bind_ofOption hcsfc, PyM.run_bind_ofOption hcsfci,
            PyM.run_bind_get, if_pos hvalid]
      | false =>
          refine ⟨cmd, .invalid,
            o.oib.addSFCIRequestHandler request sfc sfci cmd.cmdID .failed,
            ?_, .addSFCIInvalid htype' hsfc hsfci hvalid,
            fun _ => ⟨hcmdType, cmd, rfl, rfl, fun h => by cases h⟩⟩
          refine run_recorded_refused _ (by decide) (fun oib =>
            oib.addSFCIRequestHandler request sfc sfci cmd.cmdID .failed) ?_
          dsimp only
          rw [PyM.run_bind_ofOption hcsfc, PyM.run_bind_ofOption hcsfci,
            PyM.run_bind_get, hvalid]
          rfl

def Known (o : Orchestrator) (cmdID : UUID) : Prop :=
  o.Used cmdID ∨ ∃ sending ∈ o.sent, sending.cmd.cmdID = cmdID

/-- A command as the Orchestrator sends it for a request with the content `k`. -/
structure Proper (o : Orchestrator) (cmd : Command) (k : Content) : Prop where
  own : cmd.cmdID.generator = OSFCAdder.generator
  source : cmd.attributes.source = some o.orchInstanceQueueName
  carries : cmd.Carries k

/-- A single act of a step that is not a reply. -/
inductive Deed (content : UUID → Content) (o : Orchestrator) :
    Orchestrator → Prop where
  | generate {gen : CmdGenerator} :
      o.gen.clock ≤ gen.clock →
      Deed content o { o with gen := gen }
  | queues {batch waiting : List Request} {running : Bool} :
      (∀ request ∈ batch, request.requestType = .addSFCI ∧
        contentOf request = content request.requestID) →
      (∀ request ∈ waiting, contentOf request = content request.requestID) →
      Deed content o { o with
        requestBatchQueue := batch, requestWaitingQueue := waiting,
        runningState := running }
  | fail {request : Request} :
      contentOf request = content request.requestID →
      Deed content o { o with
        oib := o.oib.updateRequestState2DB request .failed }
  | refuse {request : Request} :
      contentOf request = content request.requestID →
      Deed content o { o with
        oib := o.oib.addRequest { request with requestState := .failed } none none
          none }
  | judge (request : Request) (cmd : Command) {outcome : Outcome}
      {oib' : OrchInfoBase} :
      contentOf request = content request.requestID →
      Judged o.oib cmd.cmdID request outcome oib' →
      (outcome ≠ .unmapped →
        ¬ o.Known cmd.cmdID ∧ cmd.cmdID.tick < o.gen.clock) →
      (outcome = .sent → o.Proper cmd (content request.requestID)) →
      Deed content o (o.judge request cmd outcome oib')
  | regulate {update : RegulatorUpdate} :
      (∀ request, update = .reject request →
        contentOf request = content request.requestID) →
      Deed content o { o with oib := regulate o.oib update }

theorem Deed.act (h : Deed content o o') : Act content o o' := by
  cases h with
  | generate hclock => exact .generate hclock
  | queues hbatch hwaiting => exact .queues hbatch hwaiting
  | fail hcontent => exact .mark hcontent
  | refuse hcontent => exact .register hcontent
  | judge request cmd hcontent hjudged hnew =>
      exact .judge request cmd hcontent hjudged fun hmapped =>
        ⟨fun hused => (hnew hmapped).1 (.inl hused), (hnew hmapped).2⟩
  | regulate hreject => exact .regulate hreject

/-- What the deeds rely on, beyond what the acts do. -/
structure Filed (content : UUID → Content) (o : Orchestrator) : Prop where
  sound : Sound content o
  known : ∀ cmdID, o.Known cmdID → cmdID.tick < o.gen.clock
  sfcKeyed : o.oib.SFCKeyed

theorem sent_judge {request : Request} {cmd : Command} {outcome : Outcome}
    {oib' : OrchInfoBase} {sending : Sending}
    (h : sending ∈ (o.judge request cmd outcome oib').sent) :
    sending ∈ o.sent ∨ (outcome = .sent ∧ sending = ⟨request.requestID, cmd⟩) := by
  by_cases hsent : outcome = .sent
  · simp only [judge, if_pos hsent, List.mem_append, List.mem_singleton] at h
    exact h.imp_right fun h => ⟨hsent, h⟩
  · simp only [judge, if_neg hsent] at h
    exact .inl h

theorem known_judge {request : Request} {cmd : Command} {outcome : Outcome}
    {oib' : OrchInfoBase} (hs : Sound content o)
    (hcontent : contentOf request = content request.requestID)
    (hjudged : Judged o.oib cmd.cmdID request outcome oib') {cmdID : UUID}
    (h : (o.judge request cmd outcome oib').Known cmdID) :
    o.Known cmdID ∨ (outcome ≠ .unmapped ∧ cmdID = cmd.cmdID) := by
  obtain hused | ⟨sending, hmem, rfl⟩ := h
  · obtain hold | hnew := used_judge hs hcontent hjudged hused
    · exact .inl (.inl hold)
    · exact .inr hnew
  · obtain hold | ⟨hsent, rfl⟩ := sent_judge hmem
    · exact .inl (.inr ⟨sending, hold, rfl⟩)
    · exact .inr ⟨by simp [hsent], rfl⟩

/-- The deeds but judging send nothing and do not touch the outstanding
commands. -/
theorem Deed.calm_or_judge (h : Deed content o o') :
    (o'.sent = o.sent ∧ o'.cm = o.cm ∧
      o'.orchInstanceQueueName = o.orchInstanceQueueName ∧
      (o.oib.SFCKeyed → o'.oib.SFCKeyed)) ∨
    ∃ request cmd outcome oib',
      contentOf request = content request.requestID ∧
      Judged o.oib cmd.cmdID request outcome oib' ∧
      (outcome ≠ .unmapped →
        ¬ o.Known cmd.cmdID ∧ cmd.cmdID.tick < o.gen.clock) ∧
      (outcome = .sent → o.Proper cmd (content request.requestID)) ∧
      o' = o.judge request cmd outcome oib' := by
  cases h with
  | generate | queues => exact .inl ⟨rfl, rfl, rfl, id⟩
  | fail =>
      exact .inl ⟨rfl, rfl, rfl, fun hkeyed => hkeyed.congr (by simp)⟩
  | refuse =>
      exact .inl ⟨rfl, rfl, rfl, fun hkeyed => hkeyed.congr (by simp)⟩
  | judge request cmd hcontent hjudged hnew hproper =>
      exact .inr ⟨request, cmd, _, _, hcontent, hjudged, hnew, hproper, rfl⟩
  | regulate =>
      exact .inl ⟨rfl, rfl, rfl, fun hkeyed => sfcKeyed_regulate hkeyed _⟩

theorem Deed.filed (h : Deed content o o') (hf : Filed content o) :
    Filed content o' := by
  have hsound := h.act.sound hf.sound
  obtain ⟨hsent, -, -, hkeyed⟩ |
    ⟨request, cmd, outcome, oib', hcontent, hjudged, hnew, -, rfl⟩ :=
    h.calm_or_judge
  · refine ⟨hsound, ?_, hkeyed hf.sfcKeyed⟩
    rintro cmdID (hused | ⟨sending, hmem, rfl⟩)
    · exact hsound.fresh cmdID hused
    · have hclock : o.gen.clock ≤ o'.gen.clock := by
        cases h with
        | generate hclock => exact hclock
        | queues | fail | refuse | judge | regulate => exact Nat.le_refl _
      exact Nat.lt_of_lt_of_le
        (hf.known _ (.inr ⟨sending, hsent ▸ hmem, rfl⟩)) hclock
  · refine ⟨hsound, ?_, hjudged.sfcKeyed hf.sfcKeyed⟩
    intro cmdID hknown
    obtain hold | ⟨hmapped, rfl⟩ := known_judge hf.sound hcontent hjudged hknown
    · exact hf.known cmdID hold
    · exact (hnew hmapped).2

def Deeds (content : UUID → Content) : Orchestrator → Orchestrator → Prop :=
  Relation.ReflTransGen (Deed content)

theorem Deeds.filed (h : Deeds content o o') (hf : Filed content o) :
    Filed content o' := by
  induction h with
  | refl => exact hf
  | tail _ hdeed ih => exact hdeed.filed ih

theorem Deed.deeds (h : Deed content o o') : Deeds content o o' :=
  Relation.ReflTransGen.single h

theorem Deeds.trans {o₁ o₂ o₃ : Orchestrator} (h : Deeds content o₁ o₂)
    (h' : Deeds content o₂ o₃) : Deeds content o₁ o₃ :=
  Relation.ReflTransGen.trans h h'

/-- A method that only moves the clock on. -/
theorem meets_withGen {α : Type} {x : PyM CmdGenerator α}
    {Q : α → CmdGenerator → Prop} {E : CmdGenerator → Prop}
    (h : PyM.Meets (· = o.gen) x Q E) :
    PyM.Meets (· = o) (withGen x)
      (fun a o' => ∃ gen, Q a gen ∧ o' = { o with gen := gen })
      (fun o' => ∃ gen, E gen ∧ o' = { o with gen := gen }) := by
  refine PyM.Meets.zoom fun s hs => ?_
  have hx := h s.gen (by rw [hs])
  rw [← hs]
  cases hrun : x.run s.gen with
  | ok a gen =>
      rw [hrun] at hx
      exact ⟨gen, hx, rfl⟩
  | error e gen =>
      rw [hrun] at hx
      exact ⟨gen, hx, rfl⟩

/-- A computation that makes a command, and what is done with the command. -/
theorem leads_withGen {α : Type} {x : PyM CmdGenerator α}
    {f : α → PyM Orchestrator Unit} {Q : α → CmdGenerator → Prop}
    (hx : PyM.Meets (· = o.gen) x Q fun gen => o.gen.clock ≤ gen.clock)
    (hclock : ∀ a gen, Q a gen → o.gen.clock ≤ gen.clock)
    (hf : ∀ a gen, Q a gen →
      PyM.Leads (Deeds content) { o with gen := gen } (f a)) :
    PyM.Leads (Deeds content) o (withGen x >>= f) := by
  have hgen : PyM.Meets (· = o) (withGen x)
      (fun a o' => Deeds content o o' ∧ ∃ gen, Q a gen ∧ o' = { o with gen := gen })
      (Deeds content o) := by
    refine (meets_withGen hx).conseq (fun _ h => h) ?_ ?_
    · rintro a _ ⟨gen, hQ, rfl⟩
      exact ⟨(Deed.generate (hclock a gen hQ)).deeds, gen, hQ, rfl⟩
    · rintro _ ⟨gen, hle, rfl⟩
      exact (Deed.generate hle).deeds
  refine PyM.Leads.bind Deeds.trans hgen ?_
  rintro a _ ⟨gen, hQ, rfl⟩ -
  exact hf a gen hQ

theorem unknown_of_made (hf : Filed content o) {gen : CmdGenerator}
    (hclock : gen.clock = o.gen.clock + 1) :
    ¬ ({ o with gen := gen } : Orchestrator).Known
        ⟨OSFCAdder.generator, o.gen.clock⟩ ∧
      o.gen.clock < gen.clock := by
  refine ⟨fun hknown => ?_, by omega⟩
  have := hf.known _ hknown
  exact Nat.lt_irrefl _ this

theorem leads_recorded {request : Request} (cmd : Command) (valid : Bool)
    (accepted refused : OrchInfoBase → OrchInfoBase) {x : PyM Orchestrator Outcome}
    (hx : x.run o = (if valid then do
        addAndSendCmd request.requestID cmd
        modifyOib accepted
        return Outcome.sent
      else do
        modifyOib refused
        return Outcome.invalid : PyM Orchestrator Outcome).run o)
    (hcontent : contentOf request = content request.requestID)
    (hsent : valid = true →
      Judged o.oib cmd.cmdID request .sent (accepted o.oib))
    (hinvalid : valid = false →
      Judged o.oib cmd.cmdID request .invalid (refused o.oib))
    (hnew : ¬ o.Known cmd.cmdID ∧ cmd.cmdID.tick < o.gen.clock)
    (hproper : o.Proper (o.sourced cmd) (content request.requestID)) :
    PyM.Leads (Deeds content) o (recorded request x) := by
  cases valid with
  | true =>
      have hdeed : Deed content o (o.judge request (o.sourced cmd) .sent _) :=
        .judge request _ hcontent (hsent rfl) (fun _ => hnew) fun _ => hproper
      exact PyM.Leads.of_ok (run_recorded_sent accepted hx) hdeed.deeds
  | false =>
      have hdeed : Deed content o (o.judge request cmd .invalid _) :=
        .judge request _ hcontent (hinvalid rfl) (fun _ => hnew) (by simp)
      exact PyM.Leads.of_ok (run_recorded_refused cmd (by decide) refused hx)
        hdeed.deeds

theorem leads_addSFCRequest (env : Env) {request : Request}
    (htype : request.requestType = .addSFC)
    (hcontent : contentOf request = content request.requestID)
    (hf : Filed content o) :
    PyM.Leads (Deeds content) o (addSFCRequest env request) := by
  refine leads_withGen (OSFCAdder.meets_genAddSFCCmd env request o.gen)
    (fun p gen h => by omega) ?_
  rintro ⟨cmd, sfc⟩ gen ⟨hclock, ⟨named, directions, hnamed, hsfc⟩, hcmd⟩
  dsimp only at hsfc hcmd
  subst hcmd
  have hcontent' : contentOf { request with
      attributes := { request.attributes with sfc := some sfc } } =
      content request.requestID := by
    rw [← hcontent]
    simp [contentOf, hnamed, hsfc]
  refine leads_recorded _ _ _ _ (PyM.run_bind_get ..) hcontent' (.addSFCSent htype rfl)
    (.addSFCInvalid htype rfl) (unknown_of_made hf hclock) ⟨rfl, rfl, ?_, ?_, ?_⟩
  · rw [← hcontent']
    simp [contentOf, htype, RequestType.cmdType?, sourced]
  · rw [← hcontent']
    simp [contentOf, sourced]
  · rintro (h | h) <;> cases h

theorem leads_delSFCRequest {request : Request}
    (htype : request.requestType = .delSFC)
    (hcontent : contentOf request = content request.requestID)
    (hf : Filed content o) :
    PyM.Leads (Deeds content) o (delSFCRequest request) := by
  refine PyM.Meets.bind_get fun s hs => ?_
  subst hs
  refine leads_withGen (OSFCDeleter.meets_genDelSFCCmd s.oib request s.gen)
    (fun p gen h => by omega) ?_
  rintro ⟨cmd, sfc⟩ gen ⟨hclock, ⟨named, hnamed, hstored⟩, hcmd⟩
  dsimp only at hstored hcmd
  subst hcmd
  refine leads_recorded _ _ _ _ (PyM.run_bind_get ..) hcontent (.delSFCSent htype hnamed)
    (.delSFCInvalid htype hnamed) (unknown_of_made hf hclock) ⟨rfl, rfl, ?_, ?_, ?_⟩
  · rw [← hcontent]
    simp [contentOf, htype, RequestType.cmdType?, sourced]
  · rw [← hcontent]
    simp [contentOf, sourced, hnamed, hf.sfcKeyed.getSFC4DB hstored]
  · rintro (h | h) <;> cases h

theorem leads_delSFCIRequest {request : Request}
    (htype : request.requestType = .delSFCI)
    (hcontent : contentOf request = content request.requestID)
    (hf : Filed content o) :
    PyM.Leads (Deeds content) o (delSFCIRequest request) := by
  refine PyM.Meets.bind_get fun s hs => ?_
  subst hs
  refine leads_withGen (OSFCDeleter.meets_genDelSFCICmd s.oib request s.gen)
    (fun p gen h => by omega) ?_
  rintro ⟨cmd, sfc, stored⟩ gen
    ⟨hclock, ⟨named, hnamed, hsfc⟩, ⟨namedI, hnamedI, hstored⟩, hcmd⟩
  refine PyM.Meets.bind_ofOption (fun sfci hsfci => ?_) fun _ h => h ▸ .refl
  dsimp only at hsfc hstored hsfci hcmd
  subst hsfci hcmd
  by_cases hraises : s.oib.isDelSFCIValidState sfci.sfciID = true ∧
      sfc.directions[0]? = none
  · refine PyM.Leads.of_error (run_recorded_error (e := .indexError) ?_) .refl
    rw [PyM.run_bind_get, if_pos hraises.1, hraises.2]
    rfl
  · refine leads_recorded ⟨.delSFCI, ⟨OSFCAdder.generator, s.gen.clock⟩,
        ⟨some sfc.zone, none, some sfc, some sfci⟩⟩
      (s.oib.isDelSFCIValidState sfci.sfciID)
      (fun oib => oib.delSFCIRequestHandler request sfc sfci
        ⟨OSFCAdder.generator, s.gen.clock⟩ .inProcessing .inProcessing)
      (fun oib => oib.delSFCIRequestHandler request sfc sfci
        ⟨OSFCAdder.generator, s.gen.clock⟩ .failed .undeleted) ?_ hcontent
      (.delSFCISent sfc htype hnamed hnamedI hstored.symm)
      (.delSFCIInvalid sfc htype hnamed hnamedI hstored.symm)
      (unknown_of_made hf hclock) ⟨rfl, rfl, ?_, ?_, fun _ => ?_⟩
    · rw [PyM.run_bind_get]
      cases hvalid : s.oib.isDelSFCIValidState sfci.sfciID with
      | true =>
          obtain ⟨direction, hdirection⟩ :=
            Option.ne_none_iff_exists'.mp fun h => hraises ⟨hvalid, h⟩
          rw [hdirection]
          rfl
      | false => rfl
    · rw [← hcontent]
      simp [contentOf, htype, RequestType.cmdType?, sourced]
    · rw [← hcontent]
      simp [contentOf, sourced, hnamed, hf.sfcKeyed.getSFC4DB hsfc]
    · rw [← hcontent]
      simp [contentOf, sourced, hnamedI,
        hf.sound.keyed.getSFCI4DB hstored.symm]

theorem leads_settleAll {requests : List Request}
    {l : List (Request × Option Command)}
    (hresults : List.Forall₂ ResultOf requests l)
    (hrequests : ∀ r ∈ requests, r.requestType = .addSFCI ∧
      contentOf r = content r.requestID)
    (hown : ∀ p ∈ l, OSFCAdder.Own p) (hnodup : (cmdIDs l).Nodup)
    (hf : Filed content o)
    (hnew : ∀ cmdID ∈ cmdIDs l, ¬ o.Known cmdID ∧ cmdID.tick < o.gen.clock) :
    PyM.Leads (Deeds content) o (l.forM fun p => settleRequest p.1 p.2) := by
  induction hresults generalizing o with
  | nil => exact PyM.Leads.of_ok rfl .refl
  | @cons r p requests l hresult hresults ih =>
      obtain ⟨htype, hcontent⟩ := hrequests r List.mem_cons_self
      obtain ⟨cmd, outcome, oib', hrun, hjudged, hmade⟩ :=
        run_settleRequest hresult htype o
      have hcontent' : contentOf p.1 = content p.1.requestID := by
        rw [hresult.content, hcontent, hresult.requestID]
      -- the id of the command that was just settled is not among the rest
      have hmem : outcome ≠ .unmapped → cmd.cmdID ∈ cmdIDs (p :: l) ∧
          cmd.cmdID ∉ cmdIDs l := by
        intro hmapped
        obtain ⟨-, made, hp, hid, -⟩ := hmade hmapped
        have hcons : cmdIDs (p :: l) = made.cmdID :: cmdIDs l := by
          simp [cmdIDs, hp]
        rw [hcons] at hnodup ⊢
        rw [hid]
        exact ⟨List.mem_cons_self, (List.nodup_cons.mp hnodup).1⟩
      have hproper : outcome = .sent →
          o.Proper cmd (content p.1.requestID) := by
        rintro rfl
        obtain ⟨-, made, hp, -, hcmd⟩ := hmade (by decide)
        obtain ⟨sfc, sfci, hsfc, hsfci, hnamed⟩ := hresult.named
        obtain ⟨hcmdType, hcsfc, hcsfci⟩ := hnamed made hp
        have htype' := hresult.requestType.trans htype
        rw [hcmd rfl, ← hcontent']
        refine ⟨hown p List.mem_cons_self made hp, rfl, ?_, ?_, fun _ => ?_⟩
        · simp [contentOf, htype', RequestType.cmdType?, sourced, hcmdType]
        · simp [contentOf, sourced, hcsfc, hsfc]
        · simp [contentOf, sourced, hcsfci, hsfci]
      have hsub : ∀ cmdID ∈ cmdIDs l, cmdID ∈ cmdIDs (p :: l) := by
        intro cmdID hcmdID
        exact ((List.sublist_cons_self p l).filterMap _).subset hcmdID
      have hdeed : Deed content o (o.judge p.1 cmd outcome oib') :=
        .judge _ _ hcontent' hjudged (fun hmapped => hnew _ (hmem hmapped).1)
          hproper
      have hrest := ih (fun r' hr' => hrequests r' (List.mem_cons_of_mem r hr'))
        (fun p' hp' => hown p' (List.mem_cons_of_mem p hp'))
        (hnodup.sublist ((List.sublist_cons_self p l).filterMap _))
        (hdeed.filed hf) (by
          intro cmdID hcmdID
          refine ⟨fun hknown => ?_, (hnew cmdID (hsub cmdID hcmdID)).2⟩
          obtain hold | ⟨hmapped, rfl⟩ :=
            known_judge hf.sound hcontent' hjudged hknown
          · exact (hnew cmdID (hsub cmdID hcmdID)).1 hold
          · exact (hmem hmapped).2 hcmdID)
      show PyM.Leads (Deeds content) o (settleRequest p.1 p.2 >>= fun _ =>
        l.forM fun p => settleRequest p.1 p.2)
      refine PyM.Leads.bind Deeds.trans
        (Q := fun _ o' => o' = o.judge p.1 cmd outcome oib') ?_
        fun _ o' h _ => h ▸ hrest
      rintro _ rfl
      rw [hrun]
      exact ⟨hdeed.deeds, rfl⟩

theorem deeds_processInvalidAddSFCIRequests (hf : Filed content o) :
    Deeds content o (processInvalidAddSFCIRequests o) := by
  have hrefuse : ∀ requests : List Request,
      (∀ r ∈ requests, contentOf r = content r.requestID) →
      ∀ oib : OrchInfoBase, Deeds content { o with oib := oib } { o with
        oib := requests.foldl (fun oib request => oib.addRequest
          { request with requestState := .failed } none none none) oib } := by
    intro requests
    induction requests with
    | nil => exact fun _ _ => .refl
    | cons r requests ih =>
        intro hrequests oib
        have hdeed : Deed content { o with oib := oib } { o with
            oib := oib.addRequest { r with requestState := .failed } none none
              none } :=
          .refuse (hrequests r List.mem_cons_self)
        exact hdeed.deeds.trans
          (ih (fun r' hr' => hrequests r' (List.mem_cons_of_mem r hr')) _)
  refine (hrefuse (o.requestBatchQueue.filter (!isValidAddSFCIRequest ·))
    ?_ o.oib).tail (.queues ?_ hf.sound.waiting)
  · intro r hr
    exact (hf.sound.batch r (List.mem_of_mem_filter hr)).2
  · intro r hr
    exact hf.sound.batch r (List.mem_of_mem_filter hr)

theorem leads_settleBatch (env : Env) {batch : List Request}
    (hbatch : ∀ request ∈ batch, request.requestType = .addSFCI ∧
      contentOf request = content request.requestID) (hf : Filed content o) :
    PyM.Leads (Deeds content) o (do
      let reqCmdTupleList ←
        withGen (OSFCAdder.genABatchOfRequestAndAddSFCICmds env batch)
      reqCmdTupleList.forM fun (request, cmd) => settleRequest request cmd) := by
  have hmade : PyM.Meets (· = o.gen)
      (OSFCAdder.genABatchOfRequestAndAddSFCICmds env batch)
      (fun l gen => OSFCAdder.BatchResult batch o.gen l gen ∧
        ∀ p ∈ l, OSFCAdder.Own p) (fun gen => o.gen.clock ≤ gen.clock) := by
    rintro _ rfl
    have hresult :=
      OSFCAdder.meets_genABatchOfRequestAndAddSFCICmds env batch o.gen o.gen rfl
    have hown := OSFCAdder.meets_genABatch_own env batch o.gen o.gen rfl
    cases hrun : (OSFCAdder.genABatchOfRequestAndAddSFCICmds env batch).run
        o.gen with
    | ok l gen =>
        rw [hrun] at hresult hown
        exact ⟨hresult, hown⟩
    | error e gen =>
        rw [hrun] at hresult
        exact hresult
  refine leads_withGen hmade (fun l gen h => h.1.minted.clock) ?_
  rintro l gen ⟨hresult, hown⟩
  obtain ⟨requests, hperm, hresults⟩ := hresult.results
  have hrequests : ∀ r ∈ requests, r.requestType = .addSFCI ∧
      contentOf r = content r.requestID := by
    intro r hr
    obtain ⟨request, hrequest, rfl⟩ := List.mem_map.mp (hperm.mem_iff.mp hr)
    exact hbatch request hrequest
  have hf' := (Deed.generate hresult.minted.clock).filed hf
  refine leads_settleAll hresults hrequests hown hresult.minted.nodup hf' ?_
  intro cmdID hcmdID
  obtain ⟨hge, hlt⟩ := hresult.minted.tick cmdID hcmdID
  exact ⟨fun hknown => absurd (hf.known cmdID hknown) (Nat.not_lt.mpr hge), hlt⟩

theorem leads_processAllAddSFCIRequests (env : Env) (hf : Filed content o) :
    PyM.Leads (Deeds content) o (processAllAddSFCIRequests env) := by
  refine PyM.Meets.bind_get fun s hs => PyM.Meets.bind_get fun s' hs' => ?_
  subst hs
  subst hs'
  refine PyM.Meets.ite (fun _ => ?_) fun _ => PyM.Leads.of_ok rfl .refl
  have hinvalid := deeds_processInvalidAddSFCIRequests hf
  have hf₁ := hinvalid.filed hf
  have hempty : Deed content (processInvalidAddSFCIRequests s')
      { processInvalidAddSFCIRequests s' with requestBatchQueue := [] } :=
    .queues (by simp) hf₁.sound.waiting
  refine PyM.Leads.bind_modify Deeds.trans hinvalid ?_
  refine PyM.Meets.bind_get fun s₁ hs₁ => ?_
  subst hs₁
  refine PyM.Leads.bind_modify Deeds.trans hempty.deeds ?_
  exact leads_settleBatch env hf₁.sound.batch (hempty.filed hf₁)

theorem leads_addSFCIRequest (env : Env) {request : Request}
    (htype : request.requestType = .addSFCI)
    (hcontent : contentOf request = content request.requestID)
    (hf : Filed content o) :
    PyM.Leads (Deeds content) o (addSFCIRequest env request) := by
  have hput : Deed content o { o with
      requestBatchQueue := o.requestBatchQueue ++ [request] } := by
    refine .queues ?_ hf.sound.waiting
    intro r hr
    obtain hr | hr := List.mem_append.mp hr
    · exact hf.sound.batch r hr
    · rw [List.mem_singleton.mp hr]
      exact ⟨htype, hcontent⟩
  refine PyM.Leads.bind_modify Deeds.trans hput.deeds ?_
  refine PyM.Meets.bind_get fun s hs => PyM.Meets.bind_get fun s' hs' => ?_
  subst hs
  subst hs'
  refine PyM.Meets.ite (fun _ => ?_) fun _ => PyM.Leads.of_ok rfl .refl
  exact leads_processAllAddSFCIRequests env (hput.filed hf)

theorem deeds_requestHandler (env : Env) {request : Request}
    (hcontent : contentOf request = content request.requestID)
    (hf : Filed content o) :
    Deeds content o (requestHandler env request o) := by
  have hbranch : PyM.Leads (Deeds content) o (requestBranch env request) := by
    unfold requestBranch
    cases htype : request.requestType with
    | addSFC => exact leads_addSFCRequest env htype hcontent hf
    | addSFCI => exact leads_addSFCIRequest env htype hcontent hf
    | delSFCI => exact leads_delSFCIRequest htype hcontent hf
    | delSFC => exact leads_delSFCRequest htype hcontent hf
    | getLinkInfo | getDCNInfo | getSFCIState | updateSFCState =>
        exact PyM.Leads.of_ok rfl .refl
  have hleads := hbranch o rfl
  unfold requestHandler
  cases hrun : (requestBranch env request).run o with
  | ok u o' =>
      rw [hrun] at hleads
      exact hleads
  | error e o' =>
      rw [hrun] at hleads
      exact hleads.tail (.fail hcontent)

theorem deeds_processAllWaitingRequest (env : Env) (hf : Filed content o) :
    Deeds content o (processAllWaitingRequest env o) := by
  have hloop : ∀ requests : List Request,
      (∀ r ∈ requests, contentOf r = content r.requestID) →
      ∀ o : Orchestrator, Filed content o → Deeds content o
        (requests.foldl (fun o request => requestHandler env request o) o) := by
    intro requests
    induction requests with
    | nil => exact fun _ _ _ => .refl
    | cons r requests ih =>
        intro hrequests o hf
        have hfirst := deeds_requestHandler env (hrequests r List.mem_cons_self) hf
        exact hfirst.trans (ih (fun r' hr' =>
          hrequests r' (List.mem_cons_of_mem r hr')) _ (hfirst.filed hf))
  unfold processAllWaitingRequest
  split
  · have hempty : Deed content o { o with requestWaitingQueue := [] } :=
      .queues hf.sound.batch (by simp)
    exact hempty.deeds.trans (hloop _ hf.sound.waiting _ (hempty.filed hf))
  · exact .refl

/-- Every input but a reply is a sequence of deeds. -/
theorem handle_deeds {i : Input} (hf : Filed content o)
    (hi : (machine content).admits o i) (hreply : ∀ cmdRply, i ≠ .reply cmdRply) :
    Deeds content o (handle o i) := by
  cases i with
  | request env request =>
      simp only [handle]
      split
      · exact deeds_requestHandler env hi hf
      · refine (Deed.queues hf.sound.batch ?_).deeds
        intro r hr
        obtain hr | hr := List.mem_append.mp hr
        · exact hf.sound.waiting r hr
        · rw [List.mem_singleton.mp hr]
          exact hi
  | batchTimeout env =>
      exact PyM.Leads.finalState (leads_processAllAddSFCIRequests env hf)
  | waitingRequests env => exact deeds_processAllWaitingRequest env hf
  | reply cmdRply => exact absurd rfl (hreply cmdRply)
  | turn on => exact (Deed.queues hf.sound.batch hf.sound.waiting).deeds
  | regulator update =>
      refine (Deed.regulate ?_).deeds
      rintro request rfl
      exact hi

end Orchestrator

end SelfAdaptiveMano

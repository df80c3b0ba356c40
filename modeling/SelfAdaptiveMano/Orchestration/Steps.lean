import SelfAdaptiveMano.Mediator.Simulation
import SelfAdaptiveMano.Orchestration.Deeds

/-!
# A step is a sequence of acts

What the Orchestrator does of its own accord is a sequence of deeds, each of them an
act. `_commandReplyHandler` is run down to the one act it consists of
(`handle_reply`). `handle_acts` says so of a whole step. An invariant therefore has to
be checked for the acts only (`invariant_of_acts`).
-/

namespace SelfAdaptiveMano

open Library CommandMaintainer

def OrchInfoBase.afterReply (oib : OrchInfoBase) (cmdRply : CommandReply) : OrchInfoBase :=
  match oib.getRequestByCmdID cmdRply.cmdID with
  | .ok request => (OrchInfoBase.cmdRplyHandler request cmdRply.cmdState).finalState oib
  | .error _ => oib

namespace Orchestrator

variable {content : UUID → Content} {o o' : Orchestrator}

def Acts (content : UUID → Content) : Orchestrator → Orchestrator → Prop :=
  Relation.ReflTransGen (Act content)

theorem Acts.sound (h : Acts content o o') (hs : Sound content o) :
    Sound content o' := by
  induction h with
  | refl => exact hs
  | tail _ hact ih => exact hact.sound ih

theorem Act.acts (h : Act content o o') : Acts content o o' :=
  Relation.ReflTransGen.single h

theorem Deeds.acts (h : Deeds content o o') : Acts content o o' := by
  induction h with
  | refl => exact .refl
  | tail _ hdeed ih => exact ih.tail hdeed.act

def Replies (o o' : Orchestrator) : Prop :=
  ∃ cm' oib', o.cm.Within cm' ∧ o' = { o with cm := cm', oib := oib' } ∧
    (oib' = o.oib ∨ ∃ cmdID request cmdState, o.cm.contains cmdID = true ∧
      o.oib.getRequestByCmdID cmdID = .ok request ∧
      Answered o.oib request cmdState oib')

theorem Replies.act (h : Replies o o') : Act content o o' := by
  obtain ⟨cm', oib', hwithin, rfl, hreply⟩ := h
  exact .reply hwithin hreply

theorem Replies.filed (h : Replies o o') (hf : Filed content o) :
    Filed content o' := by
  have hsound := Act.sound h.act hf.sound
  obtain ⟨cm', oib', -, rfl, hreply⟩ := h
  refine ⟨hsound, ?_, ?_⟩
  · rintro cmdID (hused | hsent)
    · exact hsound.fresh cmdID hused
    · exact hf.known cmdID (.inr hsent)
  · obtain rfl | ⟨_, _, _, -, -, hanswered⟩ := hreply
    · exact hf.sfcKeyed
    · exact hanswered.sfcKeyed hf.sfcKeyed

theorem run_withCm {α : Type} {act : PyM CommandMaintainer α} {a : α}
    {cm : CommandMaintainer} (h : act.run o.cm = .ok a cm) :
    (withCm act).run o = .ok a { o with cm := cm } :=
  PyM.run_zoom_ok h

theorem run_hasCmd {cmdID : UUID} :
    (withCm (hasCmd cmdID)).run o = .ok (o.cm.contains cmdID) o := rfl

/-- What a reply to the command of `info` makes of the commands: none is new, and
without children only the command itself is touched. -/
structure Touched (cm : CommandMaintainer) (cmdID : UUID) (info : CmdInfo)
    (cm' : CommandMaintainer) : Prop where
  within : cm.Within cm'
  other : info.childCmdID = .empty → ∀ cmdID', cmdID' ≠ cmdID →
    cm'.get? cmdID' = cm.get? cmdID'
  own : info.childCmdID = .empty → ∀ info', cm'.get? cmdID = some info' →
    info'.cmd = info.cmd ∧ info'.childCmdID = .empty

theorem Touched.refl {cm : CommandMaintainer} {cmdID : UUID} {info : CmdInfo}
    (hinfo : cm.get? cmdID = some info) : Touched cm cmdID info cm := by
  refine ⟨fun _ h => h, fun _ _ _ => rfl, fun hchildren info' h => ?_⟩
  obtain rfl := Option.some.inj (hinfo.symm.trans h)
  exact ⟨rfl, hchildren⟩

theorem Touched.modify {cm cm' : CommandMaintainer} {cmdID : UUID} {info info' : CmdInfo}
    (h : Touched cm cmdID info cm') (hinfo : cm'.get? cmdID = some info')
    {f : CmdInfo → CmdInfo} (hcmd : (f info').cmd = info.cmd)
    (hchild : (f info').childCmdID = info.childCmdID) :
    Touched cm cmdID info (cm'.modify cmdID f) := by
  refine ⟨fun cmdID' hmem => ?_, fun hchildren cmdID' hne => ?_,
    fun hchildren info'' h' => ?_⟩
  · rw [Dict.contains_modify] at hmem
    exact h.within cmdID' hmem
  · rw [Dict.get?_modify, if_neg hne, h.other hchildren cmdID' hne]
  · rw [Dict.get?_modify, if_pos rfl, hinfo] at h'
    obtain rfl := Option.some.inj h'
    exact ⟨hcmd, hchild.trans hchildren⟩

theorem Touched.delete {cm cm' : CommandMaintainer} {cmdID : UUID}
    {info info' : CmdInfo} (h : Touched cm cmdID info cm')
    (hinfo : cm'.get? cmdID = some info') (hsame : info'.childCmdID = info.childCmdID) :
    Touched cm cmdID info
      ((delCmdwithChildCmd cmdID).finalState cm') := by
  have herase : info.childCmdID = .empty →
      (delCmdwithChildCmd cmdID).finalState cm' = cm'.erase cmdID := by
    intro hchildren
    refine PyM.finalState_of_ok (a := ()) ?_
    rw [delCmdwithChildCmd,
      PyM.run_bind_ok (run_getInfo hinfo), hsame, hchildren]
    exact run_delInfo hinfo
  refine ⟨?_, fun hchildren cmdID' hne => ?_, fun hchildren info' hinfo' => ?_⟩
  · exact (keeps_delCmdwithChildCmd cm cmdID).finalState h.within
  · rw [herase hchildren, Dict.get?_erase, if_neg hne, h.other hchildren cmdID' hne]
  · rw [herase hchildren, Dict.get?_erase_self] at hinfo'
    cases hinfo'

theorem handle_reply {cmdRply : CommandReply} {info : CmdInfo}
    (hinfo : o.cm.get? cmdRply.cmdID = some info) :
    ∃ cm', Touched o.cm cmdRply.cmdID info cm' ∧
      handle o (.reply cmdRply) = { o with
        cm := cm'
        oib := if info.cmd.cmdType ∈ [.addSFC, .delSFC, .addSFCI, .delSFCI] then
          o.oib.afterReply cmdRply else o.oib } := by
  let answered : CmdInfo :=
    { info with state := cmdRply.cmdState, cmdReply := some cmdRply }
  let cm₁ := o.cm.modify cmdRply.cmdID fun info =>
    { info with state := cmdRply.cmdState }
  let cm₂ := cm₁.modify cmdRply.cmdID fun info =>
    { info with cmdReply := some cmdRply }
  have hcm₁ : cm₁.get? cmdRply.cmdID =
      some { info with state := cmdRply.cmdState } := by
    simp [cm₁, Dict.get?_modify, hinfo]
  have hcm₂ : cm₂.get? cmdRply.cmdID = some answered := by
    simp [cm₂, Dict.get?_modify, hcm₁, answered]
  have htouched : Touched o.cm cmdRply.cmdID info cm₂ :=
    ((Touched.refl hinfo).modify hinfo rfl rfl).modify hcm₁ rfl rfl
  have hhas : (withCm (hasCmd cmdRply.cmdID)).run o = .ok true o :=
    run_hasCmd.trans (by simp [Dict.contains, hinfo])
  have hstate := run_withCm (o := o) (run_modifyInfo hinfo fun info =>
    { info with state := cmdRply.cmdState })
  have hreply := run_withCm (o := { o with cm := cm₁ })
    (run_modifyInfo hcm₁ fun info => { info with cmdReply := some cmdRply })
  have hcmdType : (withCm (getCmdType cmdRply.cmdID)).run { o with cm := cm₂ } =
      .ok info.cmd.cmdType { o with cm := cm₂ } :=
    run_withCm (o := { o with cm := cm₂ }) (by
      rw [getCmdType,
        PyM.run_bind_ok (run_getInfo hcm₂)]
      rfl)
  have hhandle : handle o (.reply cmdRply) =
      (commandReplyHandler cmdRply).finalState o := rfl
  rw [hhandle, commandReplyHandler, PyM.finalState_bind, hhas]
  simp only [if_true]
  rw [PyM.finalState_bind, changeCmdState, hstate]
  simp only
  rw [PyM.finalState_bind, addCmdRply, hreply]
  simp only
  rw [PyM.finalState_bind, hcmdType]
  simp only
  by_cases htype : info.cmd.cmdType ∈ [.addSFC, .delSFC, .addSFCI, .delSFCI]
  swap
  · rw [if_neg htype, if_neg htype]
    exact ⟨cm₂, htouched, rfl⟩
  rw [if_pos htype, if_pos htype, PyM.finalState_bind]
  simp only [EStateM.run_get]
  rw [PyM.finalState_bind, OrchInfoBase.afterReply]
  cases hget : o.oib.getRequestByCmdID cmdRply.cmdID with
  | error e => exact ⟨cm₂, htouched, rfl⟩
  | ok request =>
      simp only [PyM.run_ofExcept_ok]
      rw [PyM.finalState_bind]
      cases hrun : (OrchInfoBase.cmdRplyHandler request cmdRply.cmdState).run o.oib with
      | error e oib' =>
          have hwith : (withOib (OrchInfoBase.cmdRplyHandler request
              cmdRply.cmdState)).run { o with cm := cm₂ } =
                .error e { o with cm := cm₂, oib := oib' } :=
            PyM.run_zoom_error hrun
          rw [PyM.finalState_of_error hrun, hwith]
          exact ⟨cm₂, htouched, rfl⟩
      | ok u oib' =>
          have hwith : (withOib (OrchInfoBase.cmdRplyHandler request
              cmdRply.cmdState)).run { o with cm := cm₂ } =
                .ok u { o with cm := cm₂, oib := oib' } :=
            PyM.run_zoom_ok hrun
          rw [PyM.finalState_of_ok hrun, hwith]
          exact ⟨_, htouched.delete hcm₂ rfl, PyM.finalState_zoom _ _⟩

theorem handle_reply_of_none {cmdRply : CommandReply}
    (h : o.cm.get? cmdRply.cmdID = none) : handle o (.reply cmdRply) = o := by
  have hhas : (withCm (hasCmd cmdRply.cmdID)).run o = .ok false o :=
    run_hasCmd.trans (by simp [Dict.contains, h])
  have hhandle : handle o (.reply cmdRply) =
      (commandReplyHandler cmdRply).finalState o := rfl
  rw [hhandle, commandReplyHandler, PyM.finalState_bind, hhas]
  rfl

theorem handle_replies (cmdRply : CommandReply) :
    Replies o (handle o (.reply cmdRply)) := by
  cases hinfo : o.cm.get? cmdRply.cmdID with
  | none =>
      rw [handle_reply_of_none hinfo]
      exact ⟨_, _, fun _ h => h, rfl, .inl rfl⟩
  | some info =>
      obtain ⟨cm', htouched, hhandle⟩ := handle_reply hinfo
      rw [hhandle]
      refine ⟨cm', _, htouched.within, rfl, ?_⟩
      split
      · rw [OrchInfoBase.afterReply]
        cases hget : o.oib.getRequestByCmdID cmdRply.cmdID with
        | error e => exact .inl rfl
        | ok request =>
            have hanswered := (o.oib.meets_cmdRplyHandler request
              cmdRply.cmdState).finalState rfl
            exact .inr ⟨_, request, _, by simp [Dict.contains, hinfo], hget, hanswered⟩
      · exact .inl rfl

theorem handle_acts {i : Input} (hf : Filed content o)
    (hi : (machine content).admits o i) :
    Acts content o (handle o i) ∧ Filed content (handle o i) := by
  by_cases hreply : ∃ cmdRply, i = .reply cmdRply
  · obtain ⟨cmdRply, rfl⟩ := hreply
    have hreplies := handle_replies (o := o) cmdRply
    exact ⟨hreplies.act.acts, hreplies.filed hf⟩
  · have hdeeds := handle_deeds hf hi fun cmdRply heq => hreply ⟨cmdRply, heq⟩
    exact ⟨hdeeds.acts, hdeeds.filed hf⟩

theorem sound_of_init (h : (machine content).init o) : Sound content o := by
  obtain ⟨hoib, hcm, hbatch, hwaiting, -⟩ := h
  refine ⟨?_, by simp [hbatch], by simp [hwaiting], ?_, ?_⟩
  · rintro cmdID (h | ⟨k, requestID, row, hrow, -⟩)
    · simp [hcm, Dict.contains] at h
    · simp [hoib] at hrow
  · intro sfciID row hrow
    simp [hoib] at hrow
  · intro requestID row hrow
    simp [hoib] at hrow

theorem filed_of_init (h : (machine content).init o) : Filed content o := by
  have hsound := sound_of_init h
  obtain ⟨hoib, -, -, -, hsent, -⟩ := h
  refine ⟨hsound, ?_, by simp [OrchInfoBase.SFCKeyed, hoib]⟩
  rintro cmdID (hused | ⟨sending, hmem, -⟩)
  · exact hsound.fresh cmdID hused
  · simp [hsent] at hmem

/-- What holds at the start and is kept by every act holds in every reachable
state. -/
theorem invariant_of_acts {I : Orchestrator → Prop}
    (hinit : ∀ o, (machine content).init o → I o)
    (hact : ∀ o o', Sound content o → I o → Act content o o' → I o')
    (h : (machine content).Reachable o) : Sound content o ∧ I o := by
  suffices hboth : Filed content o ∧ I o from ⟨hboth.1.sound, hboth.2⟩
  refine Machine.Reachable.invariant (P := fun o => Filed content o ∧ I o)
    (fun o ho => ⟨filed_of_init ho, hinit o ho⟩) ?_ h
  rintro o i ⟨hf, hI⟩ hi
  obtain ⟨hacts, hf'⟩ := handle_acts hf hi
  refine ⟨hf', ?_⟩
  have hall : ∀ o', Acts content o o' → I o' := by
    intro o' hacts
    induction hacts with
    | refl => exact hI
    | tail hacts hlast ih => exact hact _ _ (Acts.sound hacts hf.sound) ih hlast
  exact hall _ hacts

def fresh : Orchestrator where
  oib := ⟨.empty, .empty, .empty⟩
  cm := .empty
  gen := ⟨.turbonet, .empty, 0⟩
  orchInstanceQueueName := "ORCHESTRATOR_QUEUE"
  requestBatchQueue := []
  requestWaitingQueue := []
  runningState := true
  sent := []
  handled := []

/-- The inputs can arrive one after the other, starting in `o`. -/
def Arrive (content : UUID → Content) : Orchestrator → List Input → Prop
  | _, [] => True
  | o, i :: inputs =>
      (machine content).admits o i ∧ Arrive content (handle o i) inputs

def after (inputs : List Input) : Orchestrator :=
  inputs.foldl handle fresh

theorem reachable_after {inputs : List Input}
    (h : Arrive content fresh inputs) :
    (machine content).Reachable (after inputs) := by
  have hfresh : (machine content).Reachable fresh :=
    Machine.Reachable.init ⟨rfl, rfl, rfl, rfl, rfl, rfl⟩
  have hrun : ∀ (inputs : List Input) (o : Orchestrator),
      (machine content).Reachable o → Arrive content o inputs →
      (machine content).Reachable (inputs.foldl handle o) := by
    intro inputs
    induction inputs with
    | nil => exact fun _ ho _ => ho
    | cons i inputs ih =>
        rintro o ho ⟨hi, hrest⟩
        exact ih _ (Machine.Reachable.step ho hi) hrest
  exact hrun inputs fresh hfresh h

def sampleSFC (n : Nat) : SFC where
  sfcUUID := ⟨0, n⟩
  vNFTypeSequence := [1]
  vnfSequence := [⟨""⟩]
  directions := [⟨some (.switch 0), some (.switch 0)⟩]
  zone := .turbonet

def sampleRequest (tick : Nat) (requestType : RequestType) (n : Nat)
    (sfciID : Option Nat) : Request where
  requestID := ⟨0, tick⟩
  requestType := requestType
  requestState := .initial
  attributes := ⟨some (sampleSFC n), sfciID.map fun sfciID => ⟨sfciID, []⟩, none⟩

def sampleReply (tick : Nat) (cmdState : CmdState) : CommandReply where
  cmdID := ⟨OSFCAdder.generator, tick⟩
  cmdState := cmdState
  attributes := .empty

def sampleEnv : Env where
  mapIngressEgress sfc := .ok sfc.directions
  node switchID := .ok (.switch switchID)
  expectedCPU _ _ := .ok 1
  mMLPSFC requests := .ok (OSFCAdder.tabulate requests.length fun _ =>
    some (OSFCAdder.plainFPSet .mmlpsfc (.path [[(0, 1)]])))
  mMLBSFC _ fpSets := .ok fpSets
  dpSFC _ := .error (.valueError "")
  notVia _ := .error (.valueError "")
  netSolverILP _ := .error (.valueError "")
  netPackPath _ := .error (.valueError "")

end Orchestrator

end SelfAdaptiveMano

import SelfAdaptiveMano.Orchestration.Accounts
import SelfAdaptiveMano.Orchestration.Deletion
import SelfAdaptiveMano.Mediator.Confirmation

/-!
# The Orchestrator and the Mediator together

The Orchestrator sends its commands to the Mediator, the Mediator sends their
copies to the controllers, and the replies come back the same way. In `Management`
both run side by side: commands, answers of controllers and replies are delivered
at any time and in any order, or not yet; a command is delivered once, a reply any
number of times. Other processes send commands to the Mediator too.

Each party lives in the environment that was assumed when it was studied alone
(`linked_of_reachable`). From the two accounts together it follows what the tables
of the Orchestrator are worth: what they note as done was carried out by every
controller it concerns, and nothing stays in processing once all is delivered.
-/

namespace SelfAdaptiveMano

open Library

namespace Orchestrator

variable {content : UUID → Content} {o o' : Orchestrator}

/-- What never changes back: the name of the queue, and the commands that were
sent. -/
def Onward (o o' : Orchestrator) : Prop :=
  o'.orchInstanceQueueName = o.orchInstanceQueueName ∧
    ∀ sending ∈ o.sent, sending ∈ o'.sent

theorem Deed.onward (h : Deed content o o') : Onward o o' := by
  obtain ⟨hsent, -, hname, -⟩ |
    ⟨request, cmd, outcome, oib', -, -, -, -, rfl⟩ := h.calm_or_judge
  · exact ⟨hname, by simp [hsent]⟩
  · refine ⟨rfl, fun sending hmem => ?_⟩
    simp only [Orchestrator.judge]
    split
    · exact List.mem_append_left _ hmem
    · exact hmem

theorem Deeds.onward (h : Deeds content o o') : Onward o o' := by
  induction h with
  | refl => exact ⟨rfl, fun _ hmem => hmem⟩
  | tail _ hdeed ih =>
      exact ⟨hdeed.onward.1.trans ih.1, fun _ hmem => hdeed.onward.2 _ (ih.2 _ hmem)⟩

theorem Replies.onward (h : Replies o o') : Onward o o' := by
  obtain ⟨_, _, -, rfl, -⟩ := h
  exact ⟨rfl, fun _ hmem => hmem⟩

end Orchestrator

namespace Mediator

variable {answers : MsgType → Command → CommandReply → Prop}

/-- The record of a command grows, and a command is received only when it arrives.
-/
theorem historyOf_handle {m : Mediator} (h : (machine answers).Reachable m)
    {i : Input} (hi : (machine answers).admits m i) (p : UUID) :
    (∀ what ∈ m.historyOf p, what ∈ (m.handle i).historyOf p) ∧
      ∀ cmd, .received cmd ∈ (m.handle i).historyOf p →
        .received cmd ∈ m.historyOf p ∨ i = .command cmd := by
  obtain ⟨A, hA⟩ := represented h
  cases i with
  | command cmd =>
      have hA' := hA.command hi
      have hnone := hA.eq_none_of_fresh hi.2
      rw [hA.represents.history p, hA'.represents.history p]
      by_cases hp : p = cmd.cmdID
      · subst hp
        rw [Function.update_self, hnone]
        refine ⟨by simp, fun cmd' hmem => .inr ?_⟩
        have hcmd := (hA'.lived (Function.update_self ..)).sound.received.mp hmem
        rw [Life.born_cmd] at hcmd
        rw [hcmd]
      · rw [Function.update_of_ne hp]
        exact ⟨fun _ hmem => hmem, fun _ hmem => .inl hmem⟩
  | reply cmdRply =>
      obtain ⟨q, l, n, k, hq, hk, hw, hid, hans⟩ := hA.reply_child hi
      by_cases hold : l.stored = false ∨ k.cmdReply ≠ none
      · rw [hA.reply_ignored hq hk hid hold]
        exact ⟨fun _ hmem => hmem, fun _ hmem => .inl hmem⟩
      · rw [not_or, not_ne_iff, Bool.not_eq_false] at hold
        have hA' := hA.reply hq hk hid hold.1 hw hold.2 hi.1 hans
        rw [hA.represents.history p, hA'.represents.history p]
        by_cases hp : p = q
        · subst hp
          rw [Function.update_self, hq]
          constructor
          · intro what hmem
            exact Life.mem_settle_history _ (List.mem_append_left _ hmem)
          · intro cmd hmem
            have hcmd :=
              (hA'.lived (Function.update_self ..)).sound.received.mp hmem
            exact .inl ((hA.lived hq).sound.received.mpr
              (hcmd.trans (Life.answer_cmd ..)))
        · rw [Function.update_of_ne hp]
          exact ⟨fun _ hmem => hmem, fun _ hmem => .inl hmem⟩

end Mediator

/-- The Orchestrator, the Mediator and the replies that the Orchestrator has
received. -/
structure Management where
  orchestrator : Orchestrator
  mediator : Mediator
  delivered : List CommandReply

namespace Management

/-- What happens to the two: something else than a reply reaches the Orchestrator,
a command reaches the Mediator, a controller answers, or a reply of the Mediator
reaches the Orchestrator. -/
inductive Input where
  | orchestrator (i : Orchestrator.Input)
  | command (cmd : Command)
  | answer (cmdRply : CommandReply)
  | reply (cmdRply : CommandReply)

def step (s : Management) : Input → Management
  | .orchestrator i => { s with orchestrator := s.orchestrator.handle i }
  | .command cmd => { s with mediator := s.mediator.handle (.command cmd) }
  | .answer cmdRply => { s with mediator := s.mediator.handle (.reply cmdRply) }
  | .reply cmdRply => { s with
      orchestrator := s.orchestrator.handle (.reply cmdRply)
      delivered := s.delivered ++ [cmdRply] }

def queue (s : Management) : String := s.orchestrator.orchInstanceQueueName

def Replied (s : Management) (cmdRply : CommandReply) : Prop :=
  ∃ p, .sent s.queue ⟨.mediatorCmdReply, .commandReply cmdRply⟩ ∈
    s.mediator.historyOf p

/-- Both start empty. A command that reaches the Mediator was sent by the
Orchestrator and is delivered once, or comes from another process, which makes ids
of its own and reads a queue of its own. A reply that reaches the Orchestrator was
sent by the Mediator. -/
def machine (content : UUID → Orchestrator.Content)
    (answers : MsgType → Command → CommandReply → Prop) :
    Machine Management Input where
  init s := (Orchestrator.machine content).init s.orchestrator ∧
    (Mediator.machine answers).init s.mediator ∧ s.delivered = []
  admits s
    | .orchestrator i => (∀ cmdRply, i ≠ .reply cmdRply) ∧
        (Orchestrator.machine content).admits s.orchestrator i
    | .command cmd => (∀ e ∈ s.mediator.trace, e.parent ≠ cmd.cmdID) ∧
        ((∃ sending ∈ s.orchestrator.sent, sending.cmd = cmd) ∨
          (cmd.cmdID.generator ≠ Mediator.generator ∧
            cmd.cmdID.generator ≠ OSFCAdder.generator ∧
            cmd.attributes.source ≠ some s.queue))
    | .answer cmdRply => (Mediator.machine answers).admits s.mediator (.reply cmdRply)
    | .reply cmdRply => s.Replied cmdRply
  step := step

variable {content : UUID → Orchestrator.Content}
  {answers : MsgType → Command → CommandReply → Prop} {s : Management}

/-- How the two parties hang together: each is in a state that it reaches on its
own, the Mediator answers to the queue of the Orchestrator only for commands that
the Orchestrator sent, and the Orchestrator hears only what the Mediator said. -/
structure Linked (content : UUID → Orchestrator.Content)
    (answers : MsgType → Command → CommandReply → Prop) (s : Management) :
    Prop where
  orchestrator : (Orchestrator.machine content).Reachable s.orchestrator
  mediator : (Mediator.machine answers).Reachable s.mediator
  accounted : Orchestrator.Accounted content s.delivered s.orchestrator
  received : ∀ p cmd, .received cmd ∈ s.mediator.historyOf p →
    cmd.attributes.source = some s.queue ∨
      cmd.cmdID.generator = OSFCAdder.generator →
    ∃ sending ∈ s.orchestrator.sent, sending.cmd = cmd
  delivered : ∀ cmdRply ∈ s.delivered, s.Replied cmdRply

theorem Linked.admits_reply (h : Linked content answers s) {cmdRply : CommandReply}
    (hi : s.Replied cmdRply) :
    (Orchestrator.machine content).admits s.orchestrator (.reply cmdRply) := by
  obtain ⟨p, hmem⟩ := hi
  obtain ⟨hid, hstate, cmd, hcmd, hcmdID, hsrc⟩ :=
    Mediator.received_of_reply h.mediator hmem
  obtain ⟨sending, hsent, rfl⟩ := h.received p cmd hcmd (.inl hsrc)
  exact ⟨hstate, sending, hsent, hcmdID.trans hid.symm⟩

theorem Linked.of_onward (h : Linked content answers s) {o' : Orchestrator}
    {delivered' : List CommandReply}
    (hreach : (Orchestrator.machine content).Reachable o')
    (haccounted : Orchestrator.Accounted content delivered' o')
    (honward : Orchestrator.Onward s.orchestrator o')
    (hdelivered : ∀ cmdRply ∈ delivered', s.Replied cmdRply) :
    Linked content answers ⟨o', s.mediator, delivered'⟩ := by
  have hqueue : queue ⟨o', s.mediator, delivered'⟩ = s.queue := honward.1
  refine ⟨hreach, h.mediator, haccounted, ?_, ?_⟩
  · intro p cmd hcmd hours
    rw [hqueue] at hours
    obtain ⟨sending, hmem, hsending⟩ := h.received p cmd hcmd hours
    exact ⟨sending, honward.2 sending hmem, hsending⟩
  · intro cmdRply hmem
    rw [Replied, hqueue]
    exact hdelivered cmdRply hmem

theorem Linked.of_handle (h : Linked content answers s) {i : Mediator.Input}
    (hi : (Mediator.machine answers).admits s.mediator i)
    (hours : ∀ cmd, i = .command cmd → cmd.attributes.source = some s.queue ∨
      cmd.cmdID.generator = OSFCAdder.generator →
      ∃ sending ∈ s.orchestrator.sent, sending.cmd = cmd) :
    Linked content answers { s with mediator := s.mediator.handle i } := by
  have hhist := Mediator.historyOf_handle h.mediator hi
  refine ⟨h.orchestrator, h.mediator.step hi, h.accounted, ?_, ?_⟩
  · intro p cmd hcmd hsource
    obtain hold | hnew := (hhist p).2 cmd hcmd
    · exact h.received p cmd hold hsource
    · exact hours cmd hnew hsource
  · intro cmdRply hmem
    obtain ⟨p, hsaid⟩ := h.delivered cmdRply hmem
    exact ⟨p, (hhist p).1 _ hsaid⟩

theorem linked_of_init (h : (machine content answers).init s) :
    Linked content answers s := by
  obtain ⟨ho, hm, hdelivered⟩ := h
  refine ⟨.init ho, .init hm, ?_, ?_, ?_⟩
  · rw [hdelivered]
    exact Orchestrator.accounted_of_init ho
  · simp [Mediator.historyOf, hm.2]
  · simp [hdelivered]

theorem Linked.step (h : Linked content answers s) {i : Input}
    (hi : (machine content answers).admits s i) :
    Linked content answers (s.step i) := by
  cases i with
  | orchestrator i =>
      obtain ⟨hreply, hi⟩ := hi
      have hdeeds := Orchestrator.handle_deeds h.accounted.filed hi hreply
      exact h.of_onward (h.orchestrator.step hi) (h.accounted.deeds hdeeds)
        hdeeds.onward h.delivered
  | command cmd =>
      obtain ⟨hfresh, hours⟩ := hi
      refine h.of_handle (i := .command cmd) ⟨?_, hfresh⟩ ?_
      · rcases hours with ⟨sending, hmem, rfl⟩ | ⟨hforeign, -, -⟩
        · rw [(h.accounted.proper sending hmem).own]
          simp [OSFCAdder.generator, Mediator.generator]
        · exact hforeign
      · rintro cmd' heq hsource
        cases heq
        rcases hours with hsent | ⟨-, hother, hqueue⟩
        · exact hsent
        · exact (hsource.elim hqueue hother).elim
  | answer cmdRply =>
      exact h.of_handle hi fun cmd heq => by cases heq
  | reply cmdRply =>
      have hadm := h.admits_reply hi
      refine h.of_onward (h.orchestrator.step hadm) (h.accounted.reply hadm)
        (Orchestrator.handle_replies cmdRply).onward ?_
      intro cmdRply' hmem
      obtain hmem | hmem := List.mem_append.mp hmem
      · exact h.delivered cmdRply' hmem
      · rw [List.mem_singleton.mp hmem]
        exact hi

theorem linked_of_reachable (h : (machine content answers).Reachable s) :
    Linked content answers s :=
  Machine.Reachable.invariant (fun _ => linked_of_init)
    (fun _ _ hlinked hi => hlinked.step hi) h

theorem Linked.carriedOut (h : Linked content answers s) {p : Command → Prop}
    (hgranted : Orchestrator.Granted s.orchestrator s.delivered p) :
    ∃ sending ∈ s.orchestrator.sent, p sending.cmd ∧
      s.mediator.CarriedOut answers sending.cmd := by
  obtain ⟨sending, hmem, hp, cmdRply, hrply, hid, hstate⟩ := hgranted
  obtain ⟨q, hsaid⟩ := h.delivered cmdRply hrply
  obtain ⟨hidq, -, cmd, hcmd, hcmdID, hsrc⟩ :=
    Mediator.received_of_reply h.mediator hsaid
  obtain ⟨sending', hmem', rfl⟩ := h.received q cmd hcmd (.inl hsrc)
  -- ids are used once, so that this is the command the table speaks of
  have hsame : sending' = sending :=
    List.inj_on_of_nodup_map h.accounted.nodup hmem' hmem
      (hcmdID.trans (hidq.symm.trans hid))
  subst hsame
  exact ⟨sending', hmem', hp, Mediator.carriedOut_of_reply h.mediator hsaid hstate hcmd⟩

/-- Over every interleaving of the Orchestrator, the Mediator, the controllers and
other senders: a request that is noted as successful has a command that carries
what the request asks for, and every controller that the command concerns has
answered a copy of it with success. The same holds of an SFCI that is noted as
active, and of an SFCI or an SFC that is noted as deleted. -/
theorem done_carried_out (h : (machine content answers).Reachable s) :
    (∀ requestID row, s.orchestrator.oib.requestTable.get? requestID = some row →
      row.state = .successful → ∃ sending ∈ s.orchestrator.sent,
        sending.requestID = requestID ∧ row.cmdUUID = some sending.cmd.cmdID ∧
          sending.cmd.Carries (content requestID) ∧
          s.mediator.CarriedOut answers sending.cmd) ∧
    (∀ sfciID, s.orchestrator.oib.getSFCIState sfciID = some .active →
      ∃ sending ∈ s.orchestrator.sent,
        Orchestrator.AboutSFCI .addSFCI sfciID sending.cmd ∧
          s.mediator.CarriedOut answers sending.cmd) ∧
    (∀ sfciID, s.orchestrator.oib.getSFCIState sfciID = some .deleted →
      ∃ sending ∈ s.orchestrator.sent,
        Orchestrator.AboutSFCI .delSFCI sfciID sending.cmd ∧
          s.mediator.CarriedOut answers sending.cmd) ∧
    ∀ sfcUUID, s.orchestrator.oib.getSFCState sfcUUID = some .deleted →
      ∃ sending ∈ s.orchestrator.sent,
        Orchestrator.AboutSFC .delSFC sfcUUID sending.cmd ∧
          s.mediator.CarriedOut answers sending.cmd := by
  have hlinked := linked_of_reachable h
  have haccounted := hlinked.accounted
  refine ⟨?_, fun _ hstate => hlinked.carriedOut (haccounted.sfci rfl hstate),
    fun _ hstate => hlinked.carriedOut (haccounted.sfci rfl hstate),
    fun _ hstate => hlinked.carriedOut (haccounted.deletedSFC hstate)⟩
  intro requestID row hrow hstate
  obtain ⟨sending, hmem, hcmd, hcarried⟩ :=
    hlinked.carriedOut (haccounted.granted hrow hstate)
  have howner := haccounted.owner hrow hmem hcmd
  refine ⟨sending, hmem, howner, hcmd, ?_, hcarried⟩
  rw [← howner]
  exact (haccounted.proper sending hmem).carries

def sampleCmd : Command where
  cmdType := .addSFC
  cmdID := ⟨OSFCAdder.generator, 0⟩
  attributes := ⟨some .turbonet, some "ORCHESTRATOR_QUEUE",
    some (Orchestrator.sampleSFC 0), none⟩

def sampleSFCICmd : Command where
  cmdType := .addSFCI
  cmdID := ⟨OSFCAdder.generator, 2⟩
  attributes := ⟨some .turbonet, some "ORCHESTRATOR_QUEUE",
    some (Orchestrator.sampleSFC 0),
    some ⟨7, [[⟨1, ⟨OSFCAdder.generator, 1⟩, "", .switch 1, 1⟩]]⟩⟩

def sampleAnswer (cmdID : UUID) : CommandReply :=
  ⟨cmdID, .successful, zoneAttributes .empty .turbonet⟩

def sampleSFFAnswer (cmdID : UUID) : CommandReply :=
  ⟨cmdID, .successful, zoneAttributes (sourceAttributes "{sffController}") .turbonet⟩

def sampleInputs : List Input :=
  [.orchestrator (.request Orchestrator.sampleEnv
      (Orchestrator.sampleRequest 0 .addSFC 0 none)),
    .command sampleCmd, .answer (sampleAnswer ⟨Mediator.generator, 0⟩),
    .reply (sampleAnswer ⟨OSFCAdder.generator, 0⟩),
    .orchestrator (.request Orchestrator.sampleEnv
      (Orchestrator.sampleRequest 1 .addSFCI 0 (some 7))),
    .orchestrator (.batchTimeout Orchestrator.sampleEnv), .command sampleSFCICmd,
    .answer (sampleAnswer ⟨Mediator.generator, 2⟩),
    .answer (sampleSFFAnswer ⟨Mediator.generator, 1⟩),
    .answer (sampleAnswer ⟨Mediator.generator, 3⟩),
    .reply (sampleSFFAnswer ⟨OSFCAdder.generator, 2⟩)]

def sampleState (n : Nat) : Management :=
  (sampleInputs.take n).foldl step ⟨Orchestrator.fresh, Mediator.fresh .server, []⟩

theorem arrive_addSFC :
    (machine Orchestrator.sampleContent controllerAnswers).Arrive (sampleState 0)
      (sampleInputs.take 4) := by
  have hsent : ∃ sending ∈ (sampleState 1).orchestrator.sent,
      sending.cmd = sampleCmd := by decide +kernel
  have htaken : ∀ e ∈ (sampleState 1).mediator.trace,
      e.parent ≠ sampleCmd.cmdID := by decide +kernel
  have hasked : (sampleState 2).mediator.wasSent sampleCmd.cmdID .p4ControllerCmd
      { sampleCmd with cmdID := ⟨Mediator.generator, 0⟩ } :=
    ⟨"P4CONTROLLER_QUEUE_TURBONET_ZONE", by decide +kernel⟩
  have hreplied : (sampleState 3).Replied (sampleAnswer ⟨OSFCAdder.generator, 0⟩) :=
    ⟨sampleCmd.cmdID, by decide +kernel⟩
  exact ⟨⟨by simp, rfl⟩, ⟨htaken, .inl hsent⟩,
    ⟨.inl rfl, _, _, _, hasked, rfl, rfl⟩, hreplied, trivial⟩

/-- The three controllers answer, and the SFF controller is not the first. -/
theorem arrive_addSFCI :
    (machine Orchestrator.sampleContent controllerAnswers).Arrive (sampleState 4)
      (sampleInputs.drop 4) := by
  have hsent : ∃ sending ∈ (sampleState 6).orchestrator.sent,
      sending.cmd = sampleSFCICmd := by decide +kernel
  have htaken : ∀ e ∈ (sampleState 6).mediator.trace,
      e.parent ≠ sampleSFCICmd.cmdID := by decide +kernel
  have hp4 : (sampleState 7).mediator.wasSent sampleSFCICmd.cmdID .p4ControllerCmd
      { sampleSFCICmd with cmdID := ⟨Mediator.generator, 2⟩ } :=
    ⟨"P4CONTROLLER_QUEUE_TURBONET_ZONE", by decide +kernel⟩
  have hsff : (sampleState 8).mediator.wasSent sampleSFCICmd.cmdID .sffControllerCmd
      { sampleSFCICmd with cmdID := ⟨Mediator.generator, 1⟩ } :=
    ⟨"SFF_CONTROLLER_QUEUE_TURBONET_ZONE", by decide +kernel⟩
  have hvnf : (sampleState 9).mediator.wasSent sampleSFCICmd.cmdID .vnfControllerCmd
      { sampleSFCICmd with
        cmdID := ⟨Mediator.generator, 3⟩
        attributes := { sampleSFCICmd.attributes with source := some "unknown" } } :=
    ⟨"VNF_CONTROLLER_QUEUE_TURBONET_ZONE", by decide +kernel⟩
  have hreplied : (sampleState 10).Replied
      (sampleSFFAnswer ⟨OSFCAdder.generator, 2⟩) :=
    ⟨sampleSFCICmd.cmdID, by decide +kernel⟩
  exact ⟨⟨by simp, rfl⟩, ⟨by simp, trivial⟩, ⟨htaken, .inl hsent⟩,
    ⟨.inl rfl, _, _, _, hp4, rfl, rfl⟩,
    ⟨.inl rfl, _, _, _, hsff, rfl, .turbonet, rfl, rfl⟩,
    ⟨.inl rfl, _, _, _, hvnf, rfl, .turbonet, rfl, rfl⟩, hreplied, trivial⟩

theorem run_addSFC :
    (machine Orchestrator.sampleContent controllerAnswers).Run
      ((machine Orchestrator.sampleContent controllerAnswers).trace (sampleState 0)
        (sampleInputs.take 4)) (sampleState 4) := by
  have hinit : (machine Orchestrator.sampleContent controllerAnswers).init
      (sampleState 0) := ⟨⟨rfl, rfl, rfl, rfl, rfl, rfl⟩, ⟨rfl, rfl⟩, rfl⟩
  exact (Machine.Run.start hinit).arrive arrive_addSFC

theorem reachable_addSFCI :
    (machine Orchestrator.sampleContent controllerAnswers).Reachable
      (sampleState 11) := by
  have hstate : sampleState 11 =
      (sampleInputs.drop 4).foldl step (sampleState 4) := by
    rw [sampleState, sampleState, ← List.foldl_append, List.take_append_drop]
    rfl
  rw [hstate]
  exact ⟨_, run_addSFC.arrive arrive_addSFCI⟩

theorem done_carried_out_sample :
    ∃ sending ∈ (sampleState 11).orchestrator.sent,
      Orchestrator.AboutSFCI .addSFCI 7 sending.cmd ∧
        (sampleState 11).mediator.CarriedOut controllerAnswers sending.cmd := by
  have hstate : (sampleState 11).orchestrator.oib.getSFCIState 7 = some .active := by
    decide +kernel
  exact (done_carried_out reachable_addSFCI).2.1 7 hstate

/-- Nothing is under way: every command of the Orchestrator has reached the
Mediator, every child command that was sent about it is answered, and every reply to the
Orchestrator has reached it. -/
structure Quiet (s : Management) : Prop where
  received : ∀ sending ∈ s.orchestrator.sent,
    .received sending.cmd ∈ s.mediator.historyOf sending.cmd.cmdID
  answered : ∀ sending ∈ s.orchestrator.sent,
    ¬ s.mediator.Awaiting sending.cmd.cmdID
  replied : ∀ cmdRply, s.Replied cmdRply → cmdRply ∈ s.delivered

theorem quiet_settled (h : (machine content controllerAnswers).Reachable s)
    (hzones : ∀ sending ∈ s.orchestrator.sent,
      sending.cmd.attributes.zone = some .simulator ∨
        sending.cmd.attributes.zone = some .turbonet)
    (hquiet : s.Quiet) {requestID : UUID} {row : RequestRow}
    (hrow : s.orchestrator.oib.requestTable.get? requestID = some row) :
    row.state ≠ .inProcessing := by
  intro hstate
  have hlinked := linked_of_reachable h
  obtain ⟨sending, hmem, -, hawaited⟩ := hlinked.accounted.pending hrow hstate
  have hproper := hlinked.accounted.proper sending hmem
  have htype := hlinked.accounted.cmdType_of_sent hmem
  have htold : ∃ rply, .sent s.queue ⟨.mediatorCmdReply, .commandReply rply⟩ ∈
      s.mediator.historyOf sending.cmd.cmdID := by
    rcases hzones sending hmem with hz | hz
    · exact Mediator.told_of_not_awaiting hlinked.mediator
        (hquiet.received sending hmem) htype hproper.source hz (.inl rfl)
        (hquiet.answered sending hmem)
    · exact Mediator.told_of_not_awaiting hlinked.mediator
        (hquiet.received sending hmem) htype hproper.source hz (.inr rfl)
        (hquiet.answered sending hmem)
  obtain ⟨rply, hsaid⟩ := htold
  have hid := (Mediator.received_of_reply hlinked.mediator hsaid).1
  exact hawaited rply (hquiet.replied rply ⟨_, hsaid⟩) hid

theorem quiet_settled_sample :
    ∃ row, (sampleState 4).orchestrator.oib.requestTable.get? ⟨0, 0⟩ = some row ∧
      row.state ≠ .inProcessing := by
  have hsent : ∀ sending ∈ (sampleState 4).orchestrator.sent,
      sending.cmd = sampleCmd := by decide +kernel
  let cCmd : Command := { sampleCmd with cmdID := ⟨Mediator.generator, 0⟩ }
  have htrace : (sampleState 4).mediator.trace =
      [⟨sampleCmd.cmdID, .received sampleCmd⟩,
        ⟨sampleCmd.cmdID, .prepared .p4ControllerCmd cCmd.cmdID⟩,
        ⟨sampleCmd.cmdID, .sent "P4CONTROLLER_QUEUE_TURBONET_ZONE"
          ⟨.p4ControllerCmd, .command cCmd⟩⟩,
        ⟨sampleCmd.cmdID, .answered (sampleAnswer cCmd.cmdID)⟩,
        ⟨sampleCmd.cmdID, .sent "ORCHESTRATOR_QUEUE" ⟨.mediatorCmdReply,
          .commandReply (sampleAnswer sampleCmd.cmdID)⟩⟩] := by decide +kernel
  have hquiet : (sampleState 4).Quiet := by
    constructor
    · intro sending hmem
      rw [hsent sending hmem, Represented.mem_historyOf, htrace]
      exact List.mem_cons_self
    · intro sending hmem
      rw [hsent sending hmem]
      rintro ⟨queue, n, cCmd', hasked, hopen⟩
      have hanswer : .answered (sampleAnswer cCmd.cmdID) ∈
          (sampleState 4).mediator.historyOf sampleCmd.cmdID := by
        rw [Represented.mem_historyOf, htrace]
        simp
      rw [Represented.mem_historyOf, htrace] at hasked
      simp only [List.mem_cons, Event.mk.injEq, Happening.sent.injEq,
        SAMMessage.mk.injEq, Body.command.injEq, reduceCtorEq, and_false, or_false,
        false_or, List.not_mem_nil] at hasked
      obtain ⟨-, -, -, rfl⟩ := hasked
      exact hopen _ hanswer rfl
    · rintro cmdRply ⟨p, hsaid⟩
      have hdelivered : (sampleState 4).delivered = [sampleAnswer sampleCmd.cmdID] := rfl
      rw [Represented.mem_historyOf, htrace] at hsaid
      simp only [List.mem_cons, Event.mk.injEq, Happening.sent.injEq,
        SAMMessage.mk.injEq, Body.commandReply.injEq, reduceCtorEq, and_false,
        or_false, false_or, List.not_mem_nil] at hsaid
      obtain ⟨-, -, -, rfl⟩ := hsaid
      simp [hdelivered]
  have hrow : ((sampleState 4).orchestrator.oib.requestTable.get? ⟨0, 0⟩).isSome := by
    decide +kernel
  obtain ⟨row, hrow⟩ := Option.isSome_iff_exists.mp hrow
  refine ⟨row, hrow, quiet_settled ⟨_, run_addSFC⟩ ?_ hquiet hrow⟩
  intro sending hmem
  rw [hsent sending hmem]
  exact .inr rfl

end Management

end SelfAdaptiveMano

import SelfAdaptiveMano.Mediator.Runs

/-!
# What the Mediator says and what it sends

Two promises over all runs of the Mediator, for any number of commands at once
and any order of answers, duplicated answers included. A command is replied to
at most once, and the reply says what the children answered. The child of an
`ADD_SFCI` for the VNF controller is sent at most once, and not before the SFF
controller has succeeded. Both are read off the histories of the lives, where
every entry was warranted by the entries before it.
-/

namespace SelfAdaptiveMano

open Library Mediator

def Happening.reply? : Happening → Option CommandReply
  | .sent _ ⟨_, .commandReply cmdRply⟩ => some cmdRply
  | _ => none

theorem Happening.reply?_eq_some_iff {what : Happening}
    {cmdRply : CommandReply} :
    what.reply? = some cmdRply ↔
      ∃ queue msgType, what = .sent queue ⟨msgType, .commandReply cmdRply⟩ := by
  constructor
  · intro h
    cases what with
    | sent queue msg =>
        rcases msg with ⟨msgType, cmd | rply⟩
        · simp [reply?] at h
        · simp only [reply?, Option.some.injEq] at h
          exact ⟨queue, msgType, by rw [h]⟩
    | _ => simp [reply?] at h
  · rintro ⟨queue, msgType, rfl⟩
    rfl

def Happening.command? : Happening → Option Command
  | .sent _ ⟨_, .command cmd⟩ => some cmd
  | _ => none

theorem Happening.command?_eq_some_iff {what : Happening} {cmd : Command} :
    what.command? = some cmd ↔
      ∃ queue msgType, what = .sent queue ⟨msgType, .command cmd⟩ := by
  constructor
  · intro h
    cases what with
    | sent queue msg =>
        rcases msg with ⟨msgType, cmd' | rply⟩
        · simp only [command?, Option.some.injEq] at h
          exact ⟨queue, msgType, by rw [h]⟩
        · simp [command?] at h
    | _ => simp [command?] at h
  · rintro ⟨queue, msgType, rfl⟩
    rfl

namespace Mediator

variable {answers : MsgType → Command → CommandReply → Prop}

/-- The replies to the command `p` that were sent so far. -/
def repliesTo (m : Mediator) (p : UUID) : List CommandReply :=
  m.trace.filterMap fun e => e.what.reply?.filter fun rply => rply.cmdID = p

/-- The commands with the id `id` that were sent so far. -/
def sendsOf (m : Mediator) (id : UUID) : List Command :=
  m.trace.filterMap fun e => e.what.command?.filter fun cmd => cmd.cmdID = id

/-- What concerns only one command can be read off its history. -/
theorem filterMap_trace {α : Type} {m : Mediator} {p : UUID}
    {f : Happening → Option α}
    (h : ∀ e ∈ m.trace, (f e.what).isSome → e.parent = p) :
    (m.trace.filterMap fun e => f e.what) = (m.historyOf p).filterMap f := by
  rw [historyOf]
  generalize m.trace = l at h
  induction l with
  | nil => rfl
  | cons e l ih =>
      have ih := ih fun e' he' => h e' (List.mem_cons_of_mem e he')
      have he := h e List.mem_cons_self
      by_cases hp : e.parent = p
      · simp [hp, ih, List.filterMap_cons]
      · have hnone : f e.what = none := by
          rw [← Option.not_isSome_iff_eq_none]
          exact fun hsome => hp (he hsome)
        simp [hp, hnone, ih]

theorem exists_received {m : Mediator} (h : (machine answers).Reachable m)
    {p : UUID} {what : Happening} (hmem : what ∈ m.historyOf p) :
    ∃ cmd, .received cmd ∈ m.historyOf p ∧ cmd.cmdID = p := by
  obtain ⟨A, hA⟩ := represented h
  obtain ⟨l, hp, hhist⟩ := hA.life_of_mem hmem
  refine ⟨l.cmd, ?_, hA.represents.parent_cmdID hp⟩
  rw [hhist]
  exact (hA.lived hp).sound.received.mpr rfl

theorem justified_historyOf {m : Mediator}
    (h : (machine answers).Reachable m) {p : UUID} {cmd : Command}
    (hcmd : .received cmd ∈ m.historyOf p) :
    Justified (Life.Warranted cmd) (m.historyOf p) := by
  obtain ⟨A, hA⟩ := represented h
  obtain ⟨l, hp, hhist⟩ := hA.life_of_mem hcmd
  rw [hhist] at hcmd ⊢
  rw [(hA.lived hp).sound.received.mp hcmd]
  exact (hA.lived hp).justified

theorem reply_cmdID {m : Mediator} (h : (machine answers).Reachable m)
    {e : Event} {cmdRply : CommandReply} (he : e ∈ m.trace)
    (hr : e.what.reply? = some cmdRply) : cmdRply.cmdID = e.parent := by
  obtain ⟨p, what⟩ := e
  have hmem := Represented.mem_historyOf.mpr he
  obtain ⟨cmd, hcmd, hid⟩ := exists_received h hmem
  obtain ⟨queue, msgType, rfl⟩ := Happening.reply?_eq_some_iff.mp hr
  obtain ⟨pre, post, hsplit⟩ := List.append_of_mem hmem
  have hw := justified_historyOf h hcmd pre _ post hsplit
  exact hw.2.1.trans hid

theorem repliesTo_length_le {m : Mediator} (h : (machine answers).Reachable m)
    (p : UUID) : (m.repliesTo p).length ≤ 1 := by
  have hp : ∀ e ∈ m.trace,
      (e.what.reply?.filter fun rply => rply.cmdID = p).isSome →
        e.parent = p := by
    intro e he hsome
    obtain ⟨rply, hrply⟩ := Option.isSome_iff_exists.mp hsome
    rw [Option.filter_eq_some_iff, decide_eq_true_eq] at hrply
    exact (reply_cmdID h he hrply.1).symm.trans hrply.2
  rw [repliesTo, filterMap_trace
    (f := fun what => what.reply?.filter fun rply => rply.cmdID = p) hp]
  by_cases hempty : m.historyOf p = []
  · simp [hempty]
  · obtain ⟨what, hmem⟩ := List.exists_mem_of_ne_nil _ hempty
    obtain ⟨cmd, hcmd, -⟩ := exists_received h hmem
    rw [List.length_filterMap_eq_countP, List.countP_eq_length_filter]
    refine ((justified_historyOf h hcmd).mono ?_).length_filter_le_one
    intro pre a ha hqa b hb hqb
    obtain ⟨r, hr⟩ := Option.isSome_iff_exists.mp hqa
    obtain ⟨r', hr'⟩ := Option.isSome_iff_exists.mp hqb
    rcases Happening.reply?_eq_some_iff.mp
      (Option.filter_eq_some_iff.mp hr).1 with ⟨queue, msgType, rfl⟩
    rcases Happening.reply?_eq_some_iff.mp
      (Option.filter_eq_some_iff.mp hr').1 with ⟨queue', msgType', rfl⟩
    exact ha.1 queue' msgType' r' hb

theorem prepared_of_answered {m : Mediator} (h : (machine answers).Reachable m)
    {p : UUID} {a : CommandReply} (ha : .answered a ∈ m.historyOf p) :
    ∃ n, .prepared n a.cmdID ∈ m.historyOf p := by
  obtain ⟨A, hA⟩ := represented h
  obtain ⟨l, hp, hhist⟩ := hA.life_of_mem ha
  have hsound := (hA.lived hp).sound
  rw [hhist] at ha ⊢
  obtain ⟨n, k, hk, hka⟩ := hsound.answered.mp ha
  rcases hsound.kid hk with ⟨hnone, -⟩ | ⟨a', ha', -, -, hid⟩
  · simp [hnone] at hka
  · rw [hka] at ha'
    cases ha'
    exact ⟨n, hsound.prepared.mpr ⟨k, hk, hid.symm⟩⟩

/-- All children are registered before the command is replied to. -/
theorem prepared_before_reply {m : Mediator}
    (h : (machine answers).Reachable m) {p : UUID} {pre post : List Happening}
    {queue : String} {msgType : MsgType} {rply : CommandReply}
    (hsplit : m.historyOf p =
      pre ++ .sent queue ⟨msgType, .commandReply rply⟩ :: post)
    {n : MsgType} {id : UUID} (hmem : .prepared n id ∈ m.historyOf p) :
    .prepared n id ∈ pre := by
  obtain ⟨cmd, hcmd, -⟩ := exists_received h hmem
  have hjust := justified_historyOf h hcmd
  rw [hsplit, List.mem_append, List.mem_cons] at hmem
  rcases hmem with hmem | hmem | hmem
  · exact hmem
  · cases hmem
  · obtain ⟨post₁, post₂, rfl⟩ := List.append_of_mem hmem
    have hunreplied := hjust
      (pre ++ .sent queue ⟨msgType, .commandReply rply⟩ :: post₁)
      (.prepared n id) post₂ (by rw [hsplit]; simp)
    exact absurd (List.mem_append_right pre List.mem_cons_self)
      (hunreplied queue msgType rply)

theorem child_gone {m : Mediator} (h : (machine answers).Reachable m)
    {p id : UUID} {n : MsgType} (hprep : .prepared n id ∈ m.historyOf p)
    (hgone : m.cm.get? p = none) : m.cm.get? id = none := by
  obtain ⟨A, hA⟩ := represented h
  obtain ⟨l, hp, hhist⟩ := hA.life_of_mem hprep
  rw [hhist] at hprep
  obtain ⟨k, hk, rfl⟩ := (hA.lived hp).sound.prepared.mp hprep
  have hs : l.stored = false := by
    rw [← Bool.not_eq_true, ← hA.represents.stored_iff hp]
    simp [Dict.contains, hgone]
  exact hA.represents.kid_get?_of_not_stored hp hs hk

/-- Over every interleaving of commands and answers, a command is replied to at
most once. A reply of success comes after every child was answered with success,
a reply of failure after some child was answered with failure. The answer of a child
whose parent was removed changes nothing. -/
theorem replies_once_and_faithfully {m : Mediator}
    (h : (machine answers).Reachable m) :
    (∀ p, (m.repliesTo p).length ≤ 1) ∧
      (∀ p pre post queue msgType rply,
        m.historyOf p =
          pre ++ .sent queue ⟨msgType, .commandReply rply⟩ :: post →
        (rply.cmdState = .successful ∧
            ∀ n id, .prepared n id ∈ m.historyOf p →
              ∃ a, .answered a ∈ pre ∧ a.cmdID = id ∧
                a.cmdState = .successful) ∨
          (rply.cmdState = .fail ∧
            ∃ n a, .prepared n a.cmdID ∈ m.historyOf p ∧
              .answered a ∈ pre ∧ a.cmdState = .fail)) ∧
      ∀ p n cmdRply, .prepared n cmdRply.cmdID ∈ m.historyOf p →
        m.cm.get? p = none → m.handle (.reply cmdRply) = m := by
  refine ⟨repliesTo_length_le h, ?_, ?_⟩
  · intro p pre post queue msgType rply hsplit
    have hmem : .sent queue ⟨msgType, .commandReply rply⟩ ∈ m.historyOf p := by
      rw [hsplit]
      exact List.mem_append_right pre List.mem_cons_self
    obtain ⟨cmd, hcmd, -⟩ := exists_received h hmem
    rcases justified_historyOf h hcmd pre _ post hsplit with
      ⟨-, -, ⟨hsucc, hall⟩ | ⟨hfail, a, ha, hast⟩⟩
    · left
      refine ⟨hsucc, fun n id hprep => hall n id ?_⟩
      exact prepared_before_reply h hsplit hprep
    · right
      have ha' : .answered a ∈ m.historyOf p := by
        rw [hsplit]
        exact List.mem_append_left _ ha
      obtain ⟨n, hn⟩ := prepared_of_answered h ha'
      exact ⟨hfail, n, a, hn, ha, hast⟩
  · intro p n cmdRply hprep hgone
    exact PyM.finalState_of_error
      (run_commandReplyHandler_of_not_stored (child_gone h hprep hgone))

theorem replies_once_and_faithfully_after_failure :
    let m := ((fresh .server).handle
      (.command (sampleCmd .addSFC .turbonet))).handle
        (.reply (sampleRply 0 .fail .empty))
    m.repliesTo ⟨1, 0⟩ = [⟨⟨1, 0⟩, .fail, .empty⟩] ∧
      ∀ p, (m.repliesTo p).length ≤ 1 := by
  have hadm : (machine fun _ _ _ => True).admits
      ((fresh .server).handle (.command (sampleCmd .addSFC .turbonet)))
      (.reply (sampleRply 0 .fail .empty)) := by
    refine ⟨.inr rfl, ⟨1, 0⟩, .p4ControllerCmd,
      sampleChild .addSFC .turbonet 0,
      ⟨"P4CONTROLLER_QUEUE_TURBONET_ZONE", by decide⟩, rfl, trivial⟩
  refine ⟨by decide, ?_⟩
  exact (replies_once_and_faithfully
    (reachable_handle (reachable_sample .addSFC .turbonet) hadm)).1

/-- A child command is sent only about the command it was prepared for. -/
theorem parent_of_sent {m : Mediator} (h : (machine answers).Reachable m)
    {p : UUID} {n : MsgType} {cCmd : Command} {e : Event} (he : e ∈ m.trace)
    (hsent : e.what.command? = some cCmd)
    (hprep : .prepared n cCmd.cmdID ∈ m.historyOf p) :
    e.parent = p ∧ ∃ queue, e.what = .sent queue ⟨n, .command cCmd⟩ := by
  obtain ⟨q, what⟩ := e
  obtain ⟨queue, n', rfl⟩ := Happening.command?_eq_some_iff.mp hsent
  obtain ⟨A, hA⟩ := represented h
  have hq := Represented.mem_historyOf.mpr he
  obtain ⟨l, hpl, hhist⟩ := hA.life_of_mem hprep
  obtain ⟨l', hql, hhist'⟩ := hA.life_of_mem hq
  rw [hhist] at hprep
  rw [hhist'] at hq
  obtain ⟨k, hk, hid⟩ := (hA.lived hpl).sound.prepared.mp hprep
  obtain ⟨k', hk', rfl, -⟩ := (hA.lived hql).sound.sent.mp ⟨queue, hq⟩
  obtain ⟨rfl, rfl⟩ := hA.represents.kid_unique hpl hql hk hk' hid
  exact ⟨rfl, queue, rfl⟩

theorem vnf_sendsOf_length_le {m : Mediator}
    (h : (machine answers).Reachable m) {p id : UUID} {cmd : Command}
    (hcmd : .received cmd ∈ m.historyOf p) (ht : cmd.cmdType = .addSFCI)
    (hprep : .prepared .vnfControllerCmd id ∈ m.historyOf p) :
    (m.sendsOf id).length ≤ 1 := by
  have hvnf : ∀ e ∈ m.trace, ∀ cCmd,
      (e.what.command?.filter fun cmd => cmd.cmdID = id) = some cCmd →
        e.parent = p ∧ ∃ queue, e.what =
          .sent queue ⟨.vnfControllerCmd, .command cCmd⟩ := by
    intro e he cCmd hcCmd
    rw [Option.filter_eq_some_iff, decide_eq_true_eq] at hcCmd
    obtain ⟨hsome, rfl⟩ := hcCmd
    exact parent_of_sent h he hsome hprep
  rw [sendsOf, filterMap_trace (p := p)
    (f := fun what => what.command?.filter fun cmd => cmd.cmdID = id),
    List.length_filterMap_eq_countP, List.countP_eq_length_filter]
  · apply Justified.length_filter_le_one
    intro pre a post hsplit hqa b hb hqb
    have hmem : ∀ what ∈ pre ++ [a], ⟨p, what⟩ ∈ m.trace := by
      intro what hwhat
      refine Represented.mem_historyOf.mp ?_
      rw [hsplit, ← List.singleton_append, ← List.append_assoc]
      exact List.mem_append_left post hwhat
    obtain ⟨c, hc⟩ := Option.isSome_iff_exists.mp hqa
    obtain ⟨c', hc'⟩ := Option.isSome_iff_exists.mp hqb
    obtain ⟨queue, rfl⟩ := (hvnf _ (hmem a (by simp)) c hc).2
    obtain ⟨queue', rfl⟩ := (hvnf _ (hmem b (by simp [hb])) c' hc').2
    have hw := justified_historyOf h hcmd pre _ post hsplit
    exact (hw ht rfl).1 queue' c' hb
  · intro e he hsome
    obtain ⟨cCmd, hcCmd⟩ := Option.isSome_iff_exists.mp hsome
    exact (hvnf e he cCmd hcCmd).1

/-- Over every interleaving of commands and answers, the child of an `ADD_SFCI`
for the VNF controller is sent at most once, after the SFF controller has
answered the same command with success and before any controller has answered
it with failure. -/
theorem vnf_child_sent_once_after_sff {m : Mediator}
    (h : (machine answers).Reachable m) {p : UUID} {cmd : Command}
    (hcmd : .received cmd ∈ m.historyOf p) (ht : cmd.cmdType = .addSFCI) :
    (∀ id, .prepared .vnfControllerCmd id ∈ m.historyOf p →
        (m.sendsOf id).length ≤ 1) ∧
      ∀ pre post queue cCmd,
        m.historyOf p =
          pre ++ .sent queue ⟨.vnfControllerCmd, .command cCmd⟩ :: post →
        (∃ a, .prepared .sffControllerCmd a.cmdID ∈ pre ∧
            .answered a ∈ pre ∧ a.cmdState = .successful) ∧
          ∀ a, .answered a ∈ pre → a.cmdState ≠ .fail := by
  refine ⟨fun id hprep => vnf_sendsOf_length_le h hcmd ht hprep, ?_⟩
  intro pre post queue cCmd hsplit
  have hw := justified_historyOf h hcmd pre _ post hsplit
  exact (hw ht rfl).2

/-- An `ADD_SFCI` in Turbonet whose SFF controller has succeeded. -/
def sffDone : Mediator :=
  ((fresh .server).handle (.command (sampleCmd .addSFCI .turbonet))).handle
    (.reply (sampleRply 0 .successful .empty))

theorem reachable_sffDone :
    (machine fun _ _ _ => True).Reachable sffDone := by
  have hadm : (machine fun _ _ _ => True).admits
      ((fresh .server).handle (.command (sampleCmd .addSFCI .turbonet)))
      (.reply (sampleRply 0 .successful .empty)) := by
    refine ⟨.inl rfl, ⟨1, 0⟩, .sffControllerCmd,
      sampleChild .addSFCI .turbonet 0,
      ⟨"SFF_CONTROLLER_QUEUE_TURBONET_ZONE", by decide +kernel⟩, rfl, trivial⟩
  exact reachable_handle (reachable_sample .addSFCI .turbonet) hadm

theorem vnf_child_sent_once_after_sff_turbonet :
    (sffDone.sendsOf ⟨generator, 2⟩).length = 1 ∧
      ∀ id, .prepared .vnfControllerCmd id ∈ sffDone.historyOf ⟨1, 0⟩ →
        (sffDone.sendsOf id).length ≤ 1 := by
  have hcmd : .received (sampleCmd .addSFCI .turbonet) ∈
      sffDone.historyOf ⟨1, 0⟩ := by decide +kernel
  refine ⟨by decide +kernel, ?_⟩
  exact (vnf_child_sent_once_after_sff reachable_sffDone hcmd rfl).1

end Mediator

end SelfAdaptiveMano

import SelfAdaptiveMano.Mediator.Delivery
import SelfAdaptiveMano.Library.Hoare

/-!
# What a reply of success stands for

A reply of success goes to the source that the command names. It is sent only
when every child that the zone and the type of the command call for (`plan`) was
sent as a copy of the command and was answered with success by its own controller
(`CarriedOut`). In the Simulator and in Turbonet the converse of this promise
holds too: a command whose sent children have all answered has been replied to.
-/

namespace SelfAdaptiveMano

open Library Mediator

def Command.CopyOf (cCmd cmd : Command) : Prop :=
  cCmd.cmdType = cmd.cmdType ∧ cCmd.attributes.zone = cmd.attributes.zone ∧
    cCmd.attributes.sfc = cmd.attributes.sfc ∧
    cCmd.attributes.sfci = cmd.attributes.sfci

namespace Life

variable {answers : MsgType → Command → CommandReply → Prop}

/-- Once there are children, they are the planned ones, and copies of the
command. -/
def Planned (classifierType : ClassifierType) (l : Life) : Prop :=
  ∀ n k, l.kids.get? n = some k → k.cmd.CopyOf l.cmd ∧
    ∃ items, plan classifierType l.cmd = some items ∧ n ∈ items.map Prod.fst ∧
      ∀ n' ∈ items.map Prod.fst, ∃ k', l.kids.get? n' = some k'

theorem planned_born (classifierType : ClassifierType) (clock : Nat)
    (cmd : Command) : (born classifierType clock cmd).Planned classifierType := by
  intro n k hk
  rw [born_cmd]
  rw [Life.born] at hk ⊢
  cases hplan : plan classifierType cmd with
  | none => simp [hplan, start] at hk
  | some items =>
      simp only [hplan] at hk ⊢
      have hnodup := Represents.plan_nodup hplan
      obtain ⟨queue, hn⟩ := mem_of_get?_register hk
      obtain ⟨id, hk'⟩ := get?_register (start cmd) clock hn hnodup
      rw [hk] at hk'
      cases hk'
      refine ⟨⟨rfl, rfl, rfl, rfl⟩, items, rfl, List.mem_map_of_mem hn, ?_⟩
      intro n' hn'
      obtain ⟨⟨n', queue'⟩, hmem, rfl⟩ := List.mem_map.mp hn'
      obtain ⟨id', hk'⟩ := get?_register (start cmd) clock hmem hnodup
      exact ⟨_, hk'⟩

theorem Planned.hear {classifierType : ClassifierType} {l : Life}
    (h : l.Planned classifierType) {n : MsgType} {k : Kid}
    (hk : l.kids.get? n = some k) (cmdRply : CommandReply) :
    (l.hear n k cmdRply).Planned classifierType := by
  have hkeep : ∀ {n'}, (∃ k', l.kids.get? n' = some k') →
      ∃ k', (l.hear n k cmdRply).kids.get? n' = some k' := by
    rintro n' ⟨k', hk'⟩
    rw [get?_hear]
    split
    · exact ⟨_, rfl⟩
    · exact ⟨k', hk'⟩
  intro n₁ k₁ hk₁
  rw [get?_hear] at hk₁
  split at hk₁
  · next heq =>
      cases hk₁
      obtain ⟨hcopy, items, hplan, hn, hall⟩ := h n k hk
      rw [heq]
      exact ⟨hcopy, items, hplan, hn, fun n' hn' => hkeep (hall n' hn')⟩
  · obtain ⟨hcopy, items, hplan, hn, hall⟩ := h n₁ k₁ hk₁
    exact ⟨hcopy, items, hplan, hn, fun n' hn' => hkeep (hall n' hn')⟩

theorem Planned.settle {classifierType : ClassifierType} {l : Life}
    (h : l.Planned classifierType) (state : CmdState) :
    (l.settle state).Planned classifierType := by
  intro n k hk
  rw [settle_cmd]
  obtain ⟨k', hk', hcopy⟩ : ∃ k', l.kids.get? n = some k' ∧
      (k'.cmd.CopyOf l.cmd → k.cmd.CopyOf l.cmd) := by
    obtain hk | ⟨vnf, zone, hdue, rfl, rfl⟩ := settle_kid hk
    · exact ⟨k, hk, id⟩
    · exact ⟨vnf, (dueVnf_eq_some_iff.mp hdue).2.2.1, id⟩
  obtain ⟨hcopy', items, hplan, hn, hall⟩ := h n k' hk'
  refine ⟨hcopy hcopy', items, hplan, hn, fun n' hn' => ?_⟩
  obtain ⟨k'', hk''⟩ := hall n' hn'
  exact settle_keeps state hk''

theorem settle_history_cases {l : Life} {state : CmdState} {what : Happening}
    (h : what ∈ (l.settle state).history) :
    what ∈ l.history ∨
      (∃ queue msgType cCmd, what = .sent queue ⟨msgType, .command cCmd⟩) ∨
      ∃ dst rply, l.cmd.attributes.source = some dst ∧
        what = .sent dst ⟨.mediatorCmdReply, .commandReply rply⟩ := by
  have hset := l.settles state
  generalize l.settle state = l' at hset h
  cases hset with
  | stuck _ => exact .inl h
  | silent _ _ _ =>
      rw [retire_history] at h
      exact .inl h
  | @replied dst verdict rply hsrc _ _ =>
      rw [retire_history] at h
      obtain h | h := List.mem_append.mp h
      · exact .inl h
      · exact .inr (.inr ⟨dst, rply, hsrc, List.mem_singleton.mp h⟩)
  | forwarded _ _ _ _ =>
      rw [sendVnf] at h
      cases hdue : l.dueVnf with
      | none =>
          rw [hdue] at h
          exact .inl h
      | some due =>
          rw [hdue] at h
          obtain h | h := List.mem_append.mp h
          · exact .inl h
          · exact .inr (.inl ⟨_, _, _, List.mem_singleton.mp h⟩)

/-- A reply goes to the source of the command, and only a command with children is
replied to. -/
theorem Lived.of_reply {l : Life} (h : Lived answers l) {queue : String}
    {msgType : MsgType} {rply : CommandReply}
    (hmem : .sent queue ⟨msgType, .commandReply rply⟩ ∈ l.history) :
    l.cmd.attributes.source = some queue ∧ ∃ n k, l.kids.get? n = some k := by
  induction h with
  | born classifierType clock cmd =>
      exact absurd hmem (unreplied_born classifierType clock cmd queue msgType rply)
  | @answer l n k cmdRply _ _ hk _ _ _ _ _ ih =>
      have hkid : ∃ k', (l.hear n k cmdRply).kids.get? n = some k' :=
        ⟨_, by rw [get?_hear, if_pos rfl]⟩
      obtain ⟨k', hk'⟩ := hkid
      refine ⟨?_, n, settle_keeps cmdRply.cmdState hk'⟩
      rw [answer_cmd]
      obtain hold | ⟨_, _, _, hcmd⟩ | ⟨dst, rply', hsrc, hnew⟩ :=
        settle_history_cases hmem
      · rw [hear_history, List.mem_append, List.mem_singleton] at hold
        obtain hold | hold := hold
        · exact (ih hold).1
        · cases hold
      · cases hcmd
      · cases hnew
        exact hsrc

end Life

namespace Mediator

variable {answers : MsgType → Command → CommandReply → Prop}

/-- Everything that the command `cmd` calls for was done: each planned child was
sent, as a copy of the command, and its controller answered it with success. -/
structure CarriedOut (answers : MsgType → Command → CommandReply → Prop)
    (m : Mediator) (cmd : Command) : Prop where
  received : .received cmd ∈ m.historyOf cmd.cmdID
  planned : ∃ items, Life.plan m.classifierType cmd = some items ∧ items ≠ [] ∧
    ∀ n ∈ items.map Prod.fst, ∃ queue cCmd a,
      .sent queue ⟨n, .command cCmd⟩ ∈ m.historyOf cmd.cmdID ∧
        cCmd.CopyOf cmd ∧ .answered a ∈ m.historyOf cmd.cmdID ∧
        a.cmdID = cCmd.cmdID ∧ a.cmdState = .successful ∧ answers n cCmd a

def KeepsMode {α : Type} (x : PyM Mediator α) : Prop :=
  ∀ classifierType : ClassifierType,
    PyM.Keeps (fun m : Mediator => m.classifierType = classifierType) x

theorem KeepsMode.bind {α β : Type} {x : PyM Mediator α}
    {f : α → PyM Mediator β} (hx : KeepsMode x) (hf : ∀ a, KeepsMode (f a)) :
    KeepsMode (x >>= f) :=
  fun classifierType => (hx classifierType).bind fun a => hf a classifierType

theorem KeepsMode.pure {α : Type} (a : α) :
    KeepsMode (Pure.pure a : PyM Mediator α) :=
  fun _ => PyM.Meets.pure fun _ h => h

theorem KeepsMode.throw {α : Type} (e : PyError) :
    KeepsMode (MonadExcept.throw e : PyM Mediator α) :=
  fun _ => PyM.Meets.throw fun _ h => h

theorem KeepsMode.ofOption {α : Type} (e : PyError) (o : Option α) :
    KeepsMode (PyM.ofOption e o) := by
  cases o with
  | none => exact KeepsMode.throw e
  | some a => exact KeepsMode.pure a

theorem KeepsMode.ofExcept {α : Type} (r : Except PyError α) :
    KeepsMode (PyM.ofExcept r) := by
  cases r with
  | error e => exact KeepsMode.throw e
  | ok a => exact KeepsMode.pure a

theorem KeepsMode.ite {α : Type} {c : Prop} [Decidable c] {x y : PyM Mediator α}
    (hx : KeepsMode x) (hy : KeepsMode y) : KeepsMode (if c then x else y) := by
  split
  · exact hx
  · exact hy

theorem keepsMode_withCm {α : Type} (act : PyM CommandMaintainer α) :
    KeepsMode (withCm act) :=
  fun _ => PyM.Keeps.zoom fun _ _ h => h

theorem keepsMode_note (parent : UUID) (what : Happening) :
    KeepsMode (note parent what) :=
  fun _ => PyM.Meets.modify fun _ h => h

theorem keepsMode_sendChildCmd (cmd cCmd : Command) (msgType : MsgType)
    (queue : String) : KeepsMode (sendChildCmd cmd cCmd msgType queue) :=
  (keepsMode_note _ _).bind fun _ =>
    (keepsMode_withCm _).bind fun _ => keepsMode_withCm _

theorem keepsMode_addSFCIs2Server (cmd : Command) :
    KeepsMode (addSFCIs2Server cmd) := by
  refine (keepsMode_withCm _).bind fun cCmd => ?_
  refine (KeepsMode.ofOption _ _).bind fun zoneName => ?_
  refine (keepsMode_withCm _).bind fun state => ?_
  refine KeepsMode.ite ?_ (KeepsMode.pure ())
  exact (keepsMode_withCm _).bind fun _ => keepsMode_sendChildCmd _ _ _ _

theorem keepsMode_replyParentCmd (parentCmdID : UUID) (state : CmdState)
    (dstQueueName : String) :
    KeepsMode (replyParentCmd parentCmdID state dstQueueName) := by
  refine (keepsMode_withCm _).bind fun _ => ?_
  refine KeepsMode.bind ?_ fun cmdRply => ?_
  · refine (keepsMode_withCm _).bind fun _ => ?_
    exact (KeepsMode.ofExcept _).bind fun _ => KeepsMode.pure _
  · refine (keepsMode_withCm _).bind fun cmdRplyType => ?_
    cases replyError cmdRplyType with
    | none => exact keepsMode_note _ _
    | some e => exact KeepsMode.throw e

theorem keepsMode_waitingParentCmdHandler (parentCmdID : UUID) :
    KeepsMode (waitingParentCmdHandler parentCmdID) := by
  refine (keepsMode_withCm _).bind fun _ => KeepsMode.ite ?_ (KeepsMode.pure ())
  refine (keepsMode_withCm _).bind fun _ => KeepsMode.ite ?_ (KeepsMode.pure ())
  refine (keepsMode_withCm _).bind fun _ => ?_
  exact (KeepsMode.ofOption _ _).bind fun _ => keepsMode_addSFCIs2Server _

theorem keepsMode_stateAction (cmdID parentCmdID : UUID) (dstQueueName : String) :
    KeepsMode (stateAction cmdID parentCmdID dstQueueName) := by
  refine (keepsMode_withCm _).bind fun _ => ?_
  refine KeepsMode.ite (keepsMode_replyParentCmd _ _ _) ?_
  refine (keepsMode_withCm _).bind fun _ => KeepsMode.ite ?_ ?_
  · refine (keepsMode_withCm _).bind fun _ => ?_
    refine (keepsMode_withCm _).bind fun _ => ?_
    exact KeepsMode.ite (keepsMode_replyParentCmd _ _ _) (KeepsMode.pure ())
  · refine (keepsMode_withCm _).bind fun _ => ?_
    exact KeepsMode.ite (keepsMode_waitingParentCmdHandler _) (KeepsMode.pure ())

theorem keepsMode_exeCmdStateAction (cmdID : UUID) :
    KeepsMode (exeCmdStateAction cmdID) := by
  refine (keepsMode_withCm _).bind fun _ => ?_
  refine (KeepsMode.ofOption _ _).bind fun _ => ?_
  refine (keepsMode_withCm _).bind fun _ => ?_
  refine (KeepsMode.ofOption _ _).bind fun _ => ?_
  refine (KeepsMode.ofOption _ _).bind fun _ => ?_
  refine (keepsMode_stateAction _ _ _).bind fun _ => ?_
  refine (keepsMode_withCm _).bind fun _ => ?_
  exact KeepsMode.ite (keepsMode_withCm _) (KeepsMode.pure ())

/-- Answering a child leaves the mode alone. -/
theorem classifierType_reply (m : Mediator) (cmdRply : CommandReply) :
    (m.handle (.reply cmdRply)).classifierType = m.classifierType := by
  have hkeeps : KeepsMode (commandReplyHandler cmdRply) := by
    refine (keepsMode_withCm _).bind fun _ => KeepsMode.ite (KeepsMode.pure ()) ?_
    refine (keepsMode_withCm _).bind fun _ => ?_
    refine (keepsMode_withCm _).bind fun _ => ?_
    refine KeepsMode.bind ?_ fun _ => keepsMode_exeCmdStateAction _
    intro classifierType
    refine PyM.Meets.bind_get_any fun m => ?_
    cases (m.cm.get? cmdRply.cmdID).bind CmdInfo.parentCmdID with
    | none => exact KeepsMode.pure () classifierType
    | some parent => exact keepsMode_note _ _ classifierType
  exact (hkeeps m.classifierType).finalState rfl

/-- Every reachable state is the union of lives whose children are planned for the
mode it is in. -/
theorem represented_planned {m : Mediator} (h : (machine answers).Reachable m) :
    ∃ A, Represented answers m A ∧
      ∀ p l, A p = some l → l.Planned m.classifierType := by
  refine Machine.Reachable.invariant (P := fun m => ∃ A, Represented answers m A ∧
    ∀ p l, A p = some l → l.Planned m.classifierType) ?_ ?_ h
  · intro m hm
    exact ⟨_, .start hm, fun _ _ hp => by cases hp⟩
  · rintro m i ⟨A, hA, hplanned⟩ hadm
    cases i with
    | command cmd =>
        refine ⟨_, hA.command hadm, fun p l hp => ?_⟩
        have hmode := (hA.represents.command_spec
          (hA.eq_none_of_fresh hadm.2) hadm.1).2
        change l.Planned (m.handle (.command cmd)).classifierType
        rw [hmode]
        rw [Function.update_apply] at hp
        split at hp
        · cases hp
          exact Life.planned_born _ _ cmd
        · exact hplanned p l hp
    | reply cmdRply =>
        have hmode := m.classifierType_reply cmdRply
        obtain ⟨p, l, n, k, hp, hk, hw, hid, hans⟩ := hA.reply_child hadm
        by_cases hold : l.stored = false ∨ k.cmdReply ≠ none
        · refine ⟨A, ?_⟩
          change Represented answers (m.handle (.reply cmdRply)) A ∧
            ∀ p l, A p = some l →
              l.Planned (m.handle (.reply cmdRply)).classifierType
          rw [hA.reply_ignored hp hk hid hold]
          exact ⟨hA, hplanned⟩
        · rw [not_or, not_ne_iff, Bool.not_eq_false] at hold
          refine ⟨_, hA.reply hp hk hid hold.1 hw hold.2 hadm.1 hans, ?_⟩
          intro q l' hq
          change l'.Planned (m.handle (.reply cmdRply)).classifierType
          rw [hmode]
          rw [Function.update_apply] at hq
          split at hq
          · cases hq
            exact ((hplanned p l hp).hear hk cmdRply).settle _
          · exact hplanned q l' hq

theorem received_of_reply {m : Mediator} (h : (machine answers).Reachable m)
    {p : UUID} {queue : String} {msgType : MsgType} {rply : CommandReply}
    (hmem : .sent queue ⟨msgType, .commandReply rply⟩ ∈ m.historyOf p) :
    rply.cmdID = p ∧ (rply.cmdState = .successful ∨ rply.cmdState = .fail) ∧
      ∃ cmd, .received cmd ∈ m.historyOf p ∧ cmd.cmdID = p ∧
        cmd.attributes.source = some queue := by
  obtain ⟨A, hA⟩ := represented h
  obtain ⟨l, hp, hhist⟩ := hA.life_of_mem hmem
  have hl := hA.lived hp
  rw [hhist] at hmem ⊢
  obtain ⟨pre, post, hsplit⟩ := List.append_of_mem hmem
  obtain ⟨-, hid, hstate⟩ := hl.justified pre _ post hsplit
  have hlid := hA.represents.parent_cmdID hp
  refine ⟨hid.trans hlid, hstate.imp And.left And.left, l.cmd,
    hl.sound.received.mpr rfl, hlid, (hl.of_reply hmem).1⟩

/-- A reply of success is sent only when the command was carried out. -/
theorem carriedOut_of_reply {m : Mediator} (h : (machine answers).Reachable m)
    {p : UUID} {queue : String} {msgType : MsgType} {rply : CommandReply}
    (hmem : .sent queue ⟨msgType, .commandReply rply⟩ ∈ m.historyOf p)
    (hsucc : rply.cmdState = .successful) {cmd : Command}
    (hcmd : .received cmd ∈ m.historyOf p) : m.CarriedOut answers cmd := by
  obtain ⟨pre, post, hsplit⟩ := List.append_of_mem hmem
  have hall : ∀ n id, .prepared n id ∈ m.historyOf p →
      ∃ a, .answered a ∈ m.historyOf p ∧ a.cmdID = id ∧
        a.cmdState = .successful := by
    intro n id hprep
    obtain ⟨-, -, hok⟩ := justified_historyOf h hcmd pre _ post hsplit
    obtain ⟨-, hall⟩ := hok.resolve_right (by simp [hsucc])
    obtain ⟨a, ha, haid, hast⟩ :=
      hall n id (prepared_before_reply h hsplit hprep)
    exact ⟨a, hsplit ▸ List.mem_append_left _ ha, haid, hast⟩
  obtain ⟨A, hA, hplanned⟩ := represented_planned h
  obtain ⟨l, hp, hhist⟩ := hA.life_of_mem hmem
  have hl := hA.lived hp
  rw [hhist] at hcmd hmem hall
  obtain rfl := hl.sound.received.mp hcmd
  have hlid := hA.represents.parent_cmdID hp
  obtain ⟨-, n, k, hk⟩ := hl.of_reply hmem
  obtain ⟨-, items, hplan, hn, hkids⟩ := hplanned p l hp n k hk
  refine ⟨by rw [hlid, hhist]; exact hcmd, items, hplan,
    fun hempty => by simp [hempty] at hn, fun n' hn' => ?_⟩
  obtain ⟨k', hk'⟩ := hkids n' hn'
  obtain ⟨a, ha, haid, hast⟩ := hall n' _ (hl.sound.prepared.mpr ⟨k', hk', rfl⟩)
  have hrply := hA.cmdReply_of_answered hp hk' ha haid
  have hsent : k'.state ≠ .waiting := by
    intro hw
    have hnone := hl.sound.cmdReply_of_waiting hk' hw
    rw [hnone] at hrply
    cases hrply
  obtain ⟨queue', hqueue⟩ := hl.sound.sent.mpr ⟨k', hk', rfl, hsent⟩
  rw [hlid, hhist]
  exact ⟨queue', k'.cmd, a, hqueue, (hplanned p l hp n' k' hk').1, ha, haid, hast,
    (hl.kid_origin hk').2.2 a hrply⟩

end Mediator

namespace Life

def Told (l : Life) : Prop :=
  ∃ dst rply, .sent dst ⟨.mediatorCmdReply, .commandReply rply⟩ ∈ l.history

theorem mem_settle_history {l : Life} (state : CmdState) {what : Happening}
    (h : what ∈ l.history) : what ∈ (l.settle state).history := by
  have hset := l.settles state
  generalize l.settle state = l' at hset
  cases hset with
  | stuck _ => exact h
  | replied _ _ _ =>
      rw [retire_history]
      exact List.mem_append_left _ h
  | silent _ _ _ =>
      rw [retire_history]
      exact h
  | forwarded _ _ _ _ =>
      rw [sendVnf]
      split
      · exact List.mem_append_left _ h
      · exact h

theorem cmdReply_of_born {classifierType : ClassifierType} {clock : Nat}
    {cmd : Command} {n : MsgType} {k : Kid}
    (hk : (born classifierType clock cmd).kids.get? n = some k) :
    k.cmdReply = none := by
  rw [Life.born] at hk
  cases hplan : plan classifierType cmd with
  | none => simp [hplan, start] at hk
  | some items =>
      simp only [hplan] at hk
      obtain ⟨queue, hn⟩ := mem_of_get?_register hk
      obtain ⟨id, hk'⟩ := get?_register (start cmd) clock hn
        (Represents.plan_nodup hplan)
      rw [hk] at hk'
      cases hk'
      rfl

theorem open_born (classifierType : ClassifierType) (clock : Nat) {cmd : Command}
    (htype : cmd.cmdType ∈ [.addSFC, .delSFC, .addSFCI, .delSFCI]) {zone : Zone}
    (hz : cmd.attributes.zone = some zone)
    (hzone : zone = .simulator ∨ zone = .turbonet) :
    (born classifierType clock cmd).Open := by
  have hknown : ∃ zone ∈ zones, cmd.attributes.zone = some zone := by
    refine ⟨zone, ?_, hz⟩
    rcases hzone with rfl | rfl <;> simp [zones]
  refine ((born_stored_iff_open classifierType clock cmd).mpr hknown).mp ?_
  rw [Life.born]
  cases hplan : plan classifierType cmd with
  | some items =>
      rw [register_stored]
      rfl
  | none =>
      simp only [List.mem_cons, List.not_mem_nil, or_false] at htype
      rcases hzone with rfl | rfl <;> rcases htype with ht | ht | ht | ht <;>
        simp [plan, hz, ht] at hplan

theorem anyKid_fail_of_settle {l : Life} {state : CmdState}
    (h : (l.settle state).anyKid (· == .fail)) : l.anyKid (· == .fail) := by
  obtain ⟨n, k, hk, hfail⟩ := anyKid_iff.mp h
  obtain hk | ⟨vnf, zone, -, -, rfl⟩ := settle_kid hk
  · exact anyKid_iff.mpr ⟨n, k, hk, hfail⟩
  · simp at hfail

/-- After a success that leaves no child open, the waiting child is sent or the
command is replied to, when replies can be sent. -/
theorem settle_of_closed {l : Life} {state : CmdState} (hsound : l.Sound)
    (hstaged : l.Staged) (hclosed : ¬ l.Open) (hfail : ¬ l.anyKid (· == .fail))
    {dst : String} (hsrc : l.cmd.attributes.source = some dst)
    (hready : l.Replyable) : (l.settle state).Open ∨ (l.settle state).Told := by
  by_cases hw : l.anyKid (· == .waiting)
  · obtain ⟨vnf, zone, hdue⟩ := dueVnf_of_closed hsound hstaged hclosed hw hfail
    have hv : l.verdict state = none := by
      cases hv : l.verdict state with
      | none => rfl
      | some verdict => exact absurd (anyKid_fail_of_verdict hv hw) hfail
    left
    simp only [settle, hsrc, hv, if_neg hfail, if_pos hw, sendVnf, hdue,
      send_setKid]
    exact ⟨.vnfControllerCmd, _, by rw [get?_send, if_pos rfl], rfl⟩
  · have hall : ∀ n k, l.kids.get? n = some k → k.state = .successful := by
      intro n k hk
      rcases hsound.kid hk with ⟨-, hst | hst⟩ | ⟨a, -, hst, hfin, -⟩
      · exact absurd (anyKid_iff.mpr ⟨n, k, hk, by simp [hst]⟩) hw
      · exact absurd ⟨n, k, hk, hst⟩ hclosed
      · rcases hfin with hfin | hfin
        · exact hst.trans hfin
        · exact absurd (anyKid_iff.mpr ⟨n, k, hk, by simp [hst, hfin]⟩) hfail
    obtain ⟨rply, hhist, -⟩ :=
      settle_of_verdict hsrc (verdict_of_successful state hall) hready
    exact .inr ⟨dst, rply, by simp [hhist]⟩

theorem Lived.told {l : Life} (h : Lived controllerAnswers l)
    (htype : l.cmd.cmdType ∈ [.addSFC, .delSFC, .addSFCI, .delSFCI])
    {dst : String} (hsrc : l.cmd.attributes.source = some dst) {zone : Zone}
    (hz : l.cmd.attributes.zone = some zone)
    (hzone : zone = .simulator ∨ zone = .turbonet) :
    (l.anyKid (· == .fail) → l.Told) ∧ (l.Open ∨ l.Told) := by
  induction h with
  | born classifierType clock cmd =>
      rw [born_cmd] at htype hz
      refine ⟨fun hfail => ?_, .inl (open_born classifierType clock htype hz hzone)⟩
      obtain ⟨n, k, hk, hst⟩ := anyKid_iff.mp hfail
      exact absurd (beq_iff_eq.mp hst) ((Sound.born classifierType clock
        cmd).unanswered hk (cmdReply_of_born hk)).2
  | @answer l n k cmdRply hl hs hk hw hr hfin hid hans ih =>
      rw [answer_cmd] at htype hsrc hz
      obtain ⟨hfailed, -⟩ := ih htype hsrc hz
      by_cases htold : l.Told
      · obtain ⟨dst', rply, hmem⟩ := htold
        have hkeep : (l.answer n k cmdRply).Told :=
          ⟨dst', rply, mem_settle_history _ (by simp [hmem])⟩
        exact ⟨fun _ => hkeep, .inr hkeep⟩
      -- no child has failed before, so that this answer may decide
      have hnone : ¬ l.anyKid (· == .fail) := fun hfail => htold (hfailed hfail)
      have hsound := hl.sound.hear hk hw hr hfin hid
      have hself : (l.hear n k cmdRply).kids.get? n = some { k with
          state := cmdRply.cmdState, cmdReply := some cmdRply } := by
        rw [get?_hear, if_pos rfl]
      have hready : (l.hear n k cmdRply).Replyable := by
        refine ⟨?_, fun a a' ha ha' => ?_⟩
        · rw [hear_cmd]
          simp only [List.mem_cons, List.not_mem_nil, or_false] at htype
          rcases htype with ht | ht | ht | ht <;> simp [replyError, ht]
        · rw [hsound.mem_replies] at ha ha'
          exact hl.hear_agrees hs hk hw hr hfin hid hans hz hzone ha ha'
      have honly : ∀ n' k', (l.hear n k cmdRply).kids.get? n' = some k' →
          k'.state = .fail → n' = n := by
        intro n' k' hk' hst
        rw [get?_hear] at hk'
        by_contra hne
        rw [if_neg hne] at hk'
        exact hnone (anyKid_iff.mpr ⟨n', k', hk', by simp [hst]⟩)
      rcases hfin with hsucc | hfail
      · have hnone' : ¬ (l.hear n k cmdRply).anyKid (· == .fail) := by
          intro hany
          obtain ⟨n', k', hk', hst⟩ := anyKid_iff.mp hany
          rw [beq_iff_eq] at hst
          obtain rfl := honly n' k' hk' hst
          rw [hself] at hk'
          cases hk'
          simp [hsucc] at hst
        refine ⟨fun hany => absurd (anyKid_fail_of_settle hany) hnone', ?_⟩
        by_cases hopen : (l.hear n k cmdRply).Open
        · exact .inl (settle_of_open (l := l.hear n k cmdRply) _ hs hopen).2
        · exact settle_of_closed hsound (hl.staged.hear (.inl hsucc)) hopen hnone'
            hsrc hready
      · have hv := verdict_of_first_failure hself hfail honly
        obtain ⟨rply, hhist, -⟩ := settle_of_verdict (l := l.hear n k cmdRply)
          hsrc hv hready
        have htold' : (l.answer n k cmdRply).Told :=
          ⟨dst, rply, by rw [Life.answer, hfail, hhist]; simp⟩
        exact ⟨fun _ => htold', .inr htold'⟩

end Life

theorem Mediator.told_of_not_awaiting {m : Mediator}
    (h : (machine controllerAnswers).Reachable m) {p : UUID} {cmd : Command}
    (hcmd : .received cmd ∈ m.historyOf p)
    (htype : cmd.cmdType ∈ [.addSFC, .delSFC, .addSFCI, .delSFCI])
    {dst : String} (hsrc : cmd.attributes.source = some dst) {zone : Zone}
    (hz : cmd.attributes.zone = some zone)
    (hzone : zone = .simulator ∨ zone = .turbonet) (hquiet : ¬ m.Awaiting p) :
    ∃ rply, .sent dst ⟨.mediatorCmdReply, .commandReply rply⟩ ∈ m.historyOf p := by
  obtain ⟨A, hA⟩ := represented h
  obtain ⟨l, hp, hhist⟩ := hA.life_of_mem hcmd
  have hl := hA.lived hp
  rw [hhist] at hcmd ⊢
  obtain rfl := hl.sound.received.mp hcmd
  rw [hA.awaiting_iff hp] at hquiet
  obtain ⟨dst', rply, hmem⟩ := (hl.told htype hsrc hz hzone).2.resolve_left hquiet
  obtain rfl := Option.some.inj (hsrc.symm.trans (hl.of_reply hmem).1)
  exact ⟨rply, hmem⟩

end SelfAdaptiveMano

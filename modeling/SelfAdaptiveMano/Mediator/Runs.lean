import SelfAdaptiveMano.Mediator.Lived

/-!
# The runs of the Mediator

Every state that the Mediator reaches, over any interleaving of commands and
replies, is the union of lives that it can lead (`represented`). A step begins
one life or takes one life an answer further, and leaves all the others alone.
-/

namespace SelfAdaptiveMano

open Library Mediator

/-- The state is the union of lives that the Mediator can lead. -/
structure Represented (answers : MsgType → Command → CommandReply → Prop)
    (m : Mediator) (A : UUID → Option Life) : Prop where
  represents : Represents m A
  lived : ∀ {p l}, A p = some l → Life.Lived answers l

namespace Represented

variable {answers : MsgType → Command → CommandReply → Prop}

theorem mem_historyOf {m : Mediator} {p : UUID} {what : Happening} :
    what ∈ m.historyOf p ↔ ⟨p, what⟩ ∈ m.trace := by
  simp only [historyOf, List.mem_filterMap, Option.ite_none_right_eq_some,
    Option.some.injEq]
  constructor
  · rintro ⟨e, he, rfl, rfl⟩
    exact he
  · intro h
    exact ⟨_, h, rfl, rfl⟩

theorem life_of_mem {m : Mediator} {A : UUID → Option Life}
    (h : Represented answers m A) {p : UUID} {what : Happening}
    (hmem : what ∈ m.historyOf p) :
    ∃ l, A p = some l ∧ m.historyOf p = l.history := by
  cases hp : A p with
  | none => simp [h.represents.history p, hp] at hmem
  | some l => exact ⟨l, rfl, h.represents.history_some hp⟩

theorem eq_none_of_fresh {m : Mediator} {A : UUID → Option Life}
    (h : Represented answers m A) {p : UUID}
    (hfresh : ∀ e ∈ m.trace, e.parent ≠ p) : A p = none := by
  cases hp : A p with
  | none => rfl
  | some l =>
      have hmem : .received l.cmd ∈ m.historyOf p := by
        rw [h.represents.history_some hp]
        exact (h.lived hp).sound.received.mpr rfl
      exact absurd rfl (hfresh _ (mem_historyOf.mp hmem))

theorem command {m : Mediator} {A : UUID → Option Life}
    (h : Represented answers m A) {cmd : Command}
    (hadm : (machine answers).admits m (.command cmd)) :
    Represented answers (m.handle (.command cmd))
      (Function.update A cmd.cmdID
        (some (Life.born m.classifierType m.clock cmd))) := by
  rcases hadm with ⟨hforeign, hfresh⟩
  have hnew := h.eq_none_of_fresh hfresh
  refine ⟨(h.represents.command_spec hnew hforeign).1, ?_⟩
  intro p l hp
  rw [Function.update_apply] at hp
  split at hp
  · cases hp
    exact .born ..
  · exact h.lived hp

theorem reply_child {m : Mediator} {A : UUID → Option Life}
    (h : Represented answers m A) {cmdRply : CommandReply}
    (hadm : (machine answers).admits m (.reply cmdRply)) :
    ∃ p l n k, A p = some l ∧ l.kids.get? n = some k ∧ k.state ≠ .waiting ∧
      cmdRply.cmdID = k.cmd.cmdID ∧ answers n k.cmd cmdRply := by
  rcases hadm with ⟨-, p, n, cCmd, ⟨queue, hsent⟩, hid, hans⟩
  have hmem := mem_historyOf.mpr hsent
  rcases h.life_of_mem hmem with ⟨l, hp, hhist⟩
  rw [hhist] at hmem
  rcases (h.lived hp).sound.sent.mp ⟨queue, hmem⟩ with ⟨k, hk, rfl, hs⟩
  exact ⟨p, l, n, k, hp, hk, hs, hid.symm, hans⟩

/-- A reply to a child that was forgotten, or has answered before, changes
nothing. -/
theorem reply_ignored {m : Mediator} {A : UUID → Option Life}
    (h : Represented answers m A) {cmdRply : CommandReply} {p : UUID} {l : Life}
    {n : MsgType} {k : Kid} (hp : A p = some l) (hk : l.kids.get? n = some k)
    (hid : cmdRply.cmdID = k.cmd.cmdID)
    (hold : l.stored = false ∨ k.cmdReply ≠ none) :
    m.handle (.reply cmdRply) = m := by
  cases hs : l.stored with
  | false =>
      have hgone := h.represents.kid_get?_of_not_stored hp hs hk
      rw [← hid] at hgone
      exact PyM.finalState_of_error (run_commandReplyHandler_of_not_stored hgone)
  | true =>
      have hold := hold.resolve_left (by simp [hs])
      exact (h.represents.reply_spec hp hs hk hid).1 hold

theorem reply {m : Mediator} {A : UUID → Option Life}
    (h : Represented answers m A) {cmdRply : CommandReply} {p : UUID} {l : Life}
    {n : MsgType} {k : Kid} (hp : A p = some l) (hk : l.kids.get? n = some k)
    (hid : cmdRply.cmdID = k.cmd.cmdID) (hs : l.stored) (hw : k.state ≠ .waiting)
    (hr : k.cmdReply = none)
    (hfin : cmdRply.cmdState = .successful ∨ cmdRply.cmdState = .fail)
    (hans : answers n k.cmd cmdRply) :
    Represented answers (m.handle (.reply cmdRply))
      (Function.update A p (some (l.answer n k cmdRply))) := by
  refine ⟨(h.represents.reply_spec hp hs hk hid).2 hr, ?_⟩
  intro q l' hq
  rw [Function.update_apply] at hq
  split at hq
  · cases hq
    exact .answer (h.lived hp) hs hk hw hr hfin hid hans
  · exact h.lived hq

theorem start {m : Mediator} (h : (machine answers).init m) :
    Represented answers m fun _ => none := by
  rcases h with ⟨hcm, htrace⟩
  refine ⟨?_, by simp⟩
  constructor
  all_goals simp [hcm, htrace, historyOf]

end Represented

theorem Mediator.represented
    {answers : MsgType → Command → CommandReply → Prop} {m : Mediator}
    (h : (machine answers).Reachable m) : ∃ A, Represented answers m A := by
  refine Machine.Reachable.invariant
    (P := fun m => ∃ A, Represented answers m A) ?_ ?_ h
  · intro m hm
    exact ⟨_, .start hm⟩
  · rintro m i ⟨A, hA⟩ hadm
    cases i with
    | command cmd => exact ⟨_, hA.command hadm⟩
    | reply cmdRply =>
        rcases hA.reply_child hadm with ⟨p, l, n, k, hp, hk, hw, hid, hans⟩
        by_cases hold : l.stored = false ∨ k.cmdReply ≠ none
        · refine ⟨A, ?_⟩
          have := hA.reply_ignored hp hk hid hold
          rw [show (machine answers).step m (.reply cmdRply) = m from this]
          exact hA
        · rw [not_or, ne_eq, not_not, Bool.not_eq_false] at hold
          exact ⟨_, hA.reply hp hk hid hold.1 hw hold.2 hadm.1 hans⟩

namespace Mediator

variable {answers : MsgType → Command → CommandReply → Prop}

/-- A Mediator that has not received anything. -/
def fresh (classifierType : ClassifierType) : Mediator :=
  ⟨.empty, classifierType, 0, []⟩

def sampleCmd (cmdType : CmdType) (zone : Zone) : Command :=
  ⟨cmdType, ⟨1, 0⟩, ⟨some zone, some "ORCHESTRATOR_QUEUE", none, none⟩⟩

def sampleChild (cmdType : CmdType) (zone : Zone) (i : Nat) : Command :=
  { sampleCmd cmdType zone with cmdID := ⟨generator, i⟩ }

def sampleRply (i : Nat) (state : CmdState) (attributes : Attributes) :
    CommandReply :=
  ⟨⟨generator, i⟩, state, attributes⟩

theorem reachable_fresh (classifierType : ClassifierType) :
    (machine answers).Reachable (fresh classifierType) :=
  Machine.Reachable.init ⟨rfl, rfl⟩

theorem reachable_handle {m : Mediator} (h : (machine answers).Reachable m)
    {i : Input} (hadm : (machine answers).admits m i) :
    (machine answers).Reachable (m.handle i) :=
  h.step hadm

theorem run_handle {τ : List (Mediator × Input)} {m : Mediator}
    (h : (machine answers).Run τ m) {i : Input}
    (hadm : (machine answers).admits m i) :
    (machine answers).Run (τ ++ [(m, i)]) (m.handle i) :=
  h.step hadm

theorem reachable_sample (cmdType : CmdType) (zone : Zone) :
    (machine answers).Reachable
      ((fresh .server).handle (.command (sampleCmd cmdType zone))) := by
  have hadm : (machine answers).admits (fresh .server)
      (.command (sampleCmd cmdType zone)) := by
    refine ⟨by simp [sampleCmd, generator], ?_⟩
    intro e he
    simp [fresh] at he
  exact reachable_handle (reachable_fresh .server) hadm

end Mediator

end SelfAdaptiveMano

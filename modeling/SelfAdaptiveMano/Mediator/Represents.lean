import SelfAdaptiveMano.Mediator.Life

/-!
# The store is the union of the lives

`Represents m A` ties the store and the trace of the Mediator to the lives of
its commands. Each way in which the Mediator writes its store has one lemma
here: the write is a change of one life, and the other lives are untouched
because every id belongs to one parent or to one child of one parent.
-/

namespace SelfAdaptiveMano

open Library

/-- The store of `m` holds the entries of the stored lives of `A` and nothing
else, and the trace of `m` is made of the histories of `A`. -/
structure Represents (m : Mediator) (A : UUID → Option Life) : Prop where
  parent_cmdID : ∀ {p l}, A p = some l → l.cmd.cmdID = p
  parent_foreign : ∀ {p l}, A p = some l → p.generator ≠ Mediator.generator
  kid_cmdID : ∀ {p l n k}, A p = some l → l.kids.get? n = some k →
    k.cmd.cmdID.generator = Mediator.generator ∧ k.cmd.cmdID.tick < m.clock
  kid_unique : ∀ {p l n k q l' n' k'}, A p = some l → A q = some l' →
    l.kids.get? n = some k → l'.kids.get? n' = some k' →
    k.cmd.cmdID = k'.cmd.cmdID → p = q ∧ n = n'
  parent_info : ∀ {p l}, A p = some l → l.stored →
    ∃ state, m.cm.get? p = some (l.info state)
  kid_info : ∀ {p l n k}, A p = some l → l.stored → l.kids.get? n = some k →
    m.cm.get? k.cmd.cmdID = some (k.info p)
  only : ∀ {id info}, m.cm.get? id = some info →
    ∃ p l, A p = some l ∧ l.stored ∧
      (id = p ∨ ∃ n k, l.kids.get? n = some k ∧ id = k.cmd.cmdID)
  history : ∀ p, m.historyOf p = (A p).elim [] Life.history

namespace Represents

theorem parent_ne_kid {m : Mediator} {A : UUID → Option Life}
    (h : Represents m A) {p q : UUID} {l l' : Life} {n : MsgType} {k : Kid}
    (hp : A p = some l) (hq : A q = some l') (hk : l'.kids.get? n = some k) :
    p ≠ k.cmd.cmdID := by
  intro hne
  exact h.parent_foreign hp (hne ▸ (h.kid_cmdID hq hk).1)

theorem history_some {m : Mediator} {A : UUID → Option Life}
    (h : Represents m A) {p : UUID} {l : Life} (hp : A p = some l) :
    m.historyOf p = l.history := by
  rw [h.history, hp]
  rfl

theorem stored_iff {m : Mediator} {A : UUID → Option Life}
    (h : Represents m A) {p : UUID} {l : Life} (hp : A p = some l) :
    m.cm.contains p ↔ l.stored := by
  constructor
  · intro hc
    obtain ⟨info, hinfo⟩ := Option.isSome_iff_exists.mp hc
    rcases h.only hinfo with ⟨q, l', hq, hs, rfl | ⟨n, k, hk, rfl⟩⟩
    · have : l = l' := Option.some.inj (hp.symm.trans hq)
      exact this ▸ hs
    · exact absurd rfl (h.parent_ne_kid hp hq hk)
  · intro hs
    obtain ⟨state, hinfo⟩ := h.parent_info hp hs
    simp [Dict.contains, hinfo]

theorem kid_get?_of_not_stored {m : Mediator} {A : UUID → Option Life}
    (h : Represents m A) {p : UUID} {l : Life} {n : MsgType} {k : Kid}
    (hp : A p = some l) (hs : l.stored = false)
    (hk : l.kids.get? n = some k) :
    m.cm.get? k.cmd.cmdID = none := by
  rw [Option.eq_none_iff_forall_ne_some]
  intro info hinfo
  rcases h.only hinfo with ⟨q, l', hq, hs', hid | ⟨n', k', hk', hid⟩⟩
  · exact h.parent_ne_kid hq hp hk hid.symm
  · have hpq := (h.kid_unique hp hq hk hk' hid).1
    subst hpq
    have : l = l' := Option.some.inj (hp.symm.trans hq)
    rw [this, hs'] at hs
    exact Bool.noConfusion hs

/-- What a write has to establish: it concerns one life, whose children keep
their ids or are registered under the next id of the clock, and the entries of
everything else stay. -/
structure Writes (m m' : Mediator) (p : UUID) (l l' : Life)
    (fresh : MsgType) : Prop where
  cmd : l'.cmd = l.cmd
  clock : m.clock ≤ m'.clock
  keep : ∀ n k, l.kids.get? n = some k →
    ∃ k', l'.kids.get? n = some k' ∧ k'.cmd.cmdID = k.cmd.cmdID
  origin : ∀ n k', l'.kids.get? n = some k' →
    (∃ k, l.kids.get? n = some k ∧ k.cmd.cmdID = k'.cmd.cmdID) ∨
      (n = fresh ∧ k'.cmd.cmdID = ⟨Mediator.generator, m.clock⟩ ∧
        m.clock < m'.clock)
  parent : l'.stored → ∃ state, m'.cm.get? p = some (l'.info state)
  kid : l'.stored → ∀ n k', l'.kids.get? n = some k' →
    m'.cm.get? k'.cmd.cmdID = some (k'.info p)
  gone : l'.stored = false → m'.cm.get? p = none ∧
    ∀ n k', l'.kids.get? n = some k' → m'.cm.get? k'.cmd.cmdID = none
  others : ∀ id, id ≠ p →
    (∀ n k', l'.kids.get? n = some k' → id ≠ k'.cmd.cmdID) →
    m'.cm.get? id = m.cm.get? id
  history : ∀ q, m'.historyOf q = if q = p then l'.history else m.historyOf q

section Update

variable {m m' : Mediator} {A : UUID → Option Life} {p : UUID} {l l' : Life}
  {fresh : MsgType}

theorem generator_of_writes (h : Represents m A) (hp : A p = some l)
    (w : Writes m m' p l l' fresh) {n : MsgType} {k' : Kid}
    (hk' : l'.kids.get? n = some k') :
    k'.cmd.cmdID.generator = Mediator.generator ∧
      k'.cmd.cmdID.tick < m'.clock := by
  rcases w.origin n k' hk' with ⟨k, hk, hid⟩ | ⟨-, hid, hlt⟩
  · have hk := h.kid_cmdID hp hk
    rw [hid] at hk
    exact ⟨hk.1, Nat.lt_of_lt_of_le hk.2 w.clock⟩
  · rw [hid]
    exact ⟨rfl, hlt⟩

theorem ne_of_writes (h : Represents m A) (hp : A p = some l)
    (w : Writes m m' p l l' fresh) {q : UUID} {lq : Life} {n n' : MsgType}
    {k k' : Kid} (hqp : q ≠ p) (hq : A q = some lq) (hk : lq.kids.get? n = some k)
    (hk' : l'.kids.get? n' = some k') : k.cmd.cmdID ≠ k'.cmd.cmdID := by
  intro hid
  rcases w.origin n' k' hk' with ⟨k₀, hk₀, hid₀⟩ | ⟨-, hid₀, -⟩
  · exact hqp (h.kid_unique hq hp hk hk₀ (hid.trans hid₀.symm)).1
  · have := (h.kid_cmdID hq hk).2
    rw [hid, hid₀] at this
    exact Nat.lt_irrefl _ this

theorem kid_unique_of_writes (h : Represents m A) (hp : A p = some l)
    (w : Writes m m' p l l' fresh) {n n' : MsgType} {k k' : Kid}
    (hk : l'.kids.get? n = some k) (hk' : l'.kids.get? n' = some k')
    (hid : k.cmd.cmdID = k'.cmd.cmdID) : n = n' := by
  rcases w.origin n k hk with ⟨k₀, hk₀, hid₀⟩ | ⟨hn, hid₀, -⟩
  · rcases w.origin n' k' hk' with ⟨k₁, hk₁, hid₁⟩ | ⟨-, hid₁, -⟩
    · exact (h.kid_unique hp hp hk₀ hk₁ (hid₀.trans (hid.trans hid₁.symm))).2
    · have := (h.kid_cmdID hp hk₀).2
      rw [hid₀, hid, hid₁] at this
      exact absurd this (Nat.lt_irrefl _)
  · rcases w.origin n' k' hk' with ⟨k₁, hk₁, hid₁⟩ | ⟨hn', -, -⟩
    · have := (h.kid_cmdID hp hk₁).2
      rw [hid₁, ← hid, hid₀] at this
      exact absurd this (Nat.lt_irrefl _)
    · rw [hn, hn']

theorem get?_parent_of_writes (h : Represents m A) (hp : A p = some l)
    (w : Writes m m' p l l' fresh) {q : UUID} {lq : Life} (hqp : q ≠ p)
    (hq : A q = some lq) : m'.cm.get? q = m.cm.get? q := by
  refine w.others q hqp ?_
  rintro n k' hk' rfl
  exact h.parent_foreign hq (h.generator_of_writes hp w hk').1

theorem get?_kid_of_writes (h : Represents m A) (hp : A p = some l)
    (w : Writes m m' p l l' fresh) {q : UUID} {lq : Life} {n : MsgType} {k : Kid}
    (hqp : q ≠ p) (hq : A q = some lq) (hk : lq.kids.get? n = some k) :
    m'.cm.get? k.cmd.cmdID = m.cm.get? k.cmd.cmdID := by
  refine w.others _ (h.parent_ne_kid hp hq hk).symm ?_
  intro n' k' hk'
  exact h.ne_of_writes hp w hqp hq hk hk'

theorem only_of_writes (h : Represents m A) (hp : A p = some l)
    (w : Writes m m' p l l' fresh) {id : UUID} {info : CmdInfo}
    (hinfo : m'.cm.get? id = some info) :
    (l'.stored ∧ (id = p ∨ ∃ n k', l'.kids.get? n = some k' ∧
        id = k'.cmd.cmdID)) ∨
      ∃ q lq, q ≠ p ∧ A q = some lq ∧ lq.stored ∧
        (id = q ∨ ∃ n k, lq.kids.get? n = some k ∧ id = k.cmd.cmdID) := by
  by_cases hmine : id = p ∨ ∃ n k', l'.kids.get? n = some k' ∧
      id = k'.cmd.cmdID
  · refine Or.inl ⟨?_, hmine⟩
    by_contra hs
    have hs : l'.stored = false := by simpa using hs
    rcases hmine with rfl | ⟨n, k', hk', rfl⟩
    · simp [(w.gone hs).1] at hinfo
    · simp [(w.gone hs).2 n k' hk'] at hinfo
  · rw [not_or] at hmine
    have hsame : m'.cm.get? id = m.cm.get? id := by
      refine w.others id hmine.1 ?_
      intro n k' hk' hid
      exact hmine.2 ⟨n, k', hk', hid⟩
    rw [hsame] at hinfo
    obtain ⟨q, lq, hq, hs, hid⟩ := h.only hinfo
    refine Or.inr ⟨q, lq, ?_, hq, hs, hid⟩
    rintro rfl
    obtain rfl : l = lq := Option.some.inj (hp.symm.trans hq)
    rcases hid with rfl | ⟨n, k, hk, rfl⟩
    · exact hmine.1 rfl
    · obtain ⟨k', hk', hid'⟩ := w.keep n k hk
      exact hmine.2 ⟨n, k', hk', hid'.symm⟩

theorem of_update {q : UUID} {lq : Life}
    (hq : Function.update A p (some l') q = some lq) :
    (q = p ∧ l' = lq) ∨ (q ≠ p ∧ A q = some lq) := by
  by_cases hqp : q = p
  · subst hqp
    rw [Function.update_self] at hq
    exact Or.inl ⟨rfl, Option.some.inj hq⟩
  · rw [Function.update_of_ne hqp] at hq
    exact Or.inr ⟨hqp, hq⟩

theorem kid_unique_update (h : Represents m A) (hp : A p = some l)
    (w : Writes m m' p l l' fresh) {q q' : UUID} {lq lq' : Life} {n n' : MsgType}
    {k k' : Kid} (hq : Function.update A p (some l') q = some lq)
    (hq' : Function.update A p (some l') q' = some lq')
    (hk : lq.kids.get? n = some k) (hk' : lq'.kids.get? n' = some k')
    (hid : k.cmd.cmdID = k'.cmd.cmdID) : q = q' ∧ n = n' := by
  obtain ⟨rfl, rfl⟩ | ⟨hqp, hold⟩ := of_update hq
  · obtain ⟨rfl, rfl⟩ | ⟨hqp', hold'⟩ := of_update hq'
    · exact ⟨rfl, h.kid_unique_of_writes hp w hk hk' hid⟩
    · exact absurd hid.symm (h.ne_of_writes hp w hqp' hold' hk' hk)
  · obtain ⟨rfl, rfl⟩ | ⟨-, hold'⟩ := of_update hq'
    · exact absurd hid (h.ne_of_writes hp w hqp hold hk hk')
    · exact h.kid_unique hold hold' hk hk' hid

theorem update (h : Represents m A) (fresh : MsgType) (hp : A p = some l)
    (w : Writes m m' p l l' fresh) :
    Represents m' (Function.update A p (some l')) where
  parent_cmdID hq := by
    obtain ⟨rfl, rfl⟩ | ⟨-, hq⟩ := of_update hq
    · exact w.cmd ▸ h.parent_cmdID hp
    · exact h.parent_cmdID hq
  parent_foreign hq := by
    obtain ⟨rfl, -⟩ | ⟨-, hq⟩ := of_update hq
    · exact h.parent_foreign hp
    · exact h.parent_foreign hq
  kid_cmdID hq hk := by
    obtain ⟨-, rfl⟩ | ⟨-, hq⟩ := of_update hq
    · exact h.generator_of_writes hp w hk
    · have hk := h.kid_cmdID hq hk
      exact ⟨hk.1, Nat.lt_of_lt_of_le hk.2 w.clock⟩
  kid_unique hq hq' hk hk' hid := h.kid_unique_update hp w hq hq' hk hk' hid
  parent_info hq hs := by
    obtain ⟨rfl, rfl⟩ | ⟨hqp, hq⟩ := of_update hq
    · exact w.parent hs
    · rw [h.get?_parent_of_writes hp w hqp hq]
      exact h.parent_info hq hs
  kid_info hq hs hk := by
    obtain ⟨rfl, rfl⟩ | ⟨hqp, hq⟩ := of_update hq
    · exact w.kid hs _ _ hk
    · rw [h.get?_kid_of_writes hp w hqp hq hk]
      exact h.kid_info hq hs hk
  only hinfo := by
    obtain ⟨hs, hid⟩ | ⟨q, lq, hqp, hq, hs, hid⟩ := h.only_of_writes hp w hinfo
    · exact ⟨p, l', Function.update_self .., hs, hid⟩
    · exact ⟨q, lq, by rw [Function.update_of_ne hqp, hq], hs, hid⟩
  history q := by
    rw [w.history q]
    by_cases hqp : q = p
    · subst hqp
      simp
    · rw [if_neg hqp, Function.update_of_ne hqp, h.history q]

end Update

theorem historyOf_note (m : Mediator) (p q : UUID) (what : Happening) :
    ({ m with trace := m.trace ++ [⟨p, what⟩] } : Mediator).historyOf q =
      if q = p then m.historyOf q ++ [what] else m.historyOf q := by
  by_cases hqp : q = p
  · subst hqp
    simp [Mediator.historyOf]
  · simp [Mediator.historyOf, hqp, Ne.symm hqp]

theorem note {m : Mediator} {A : UUID → Option Life} {p : UUID} {l : Life}
    (h : Represents m A) (hp : A p = some l) (what : Happening) :
    Represents { m with trace := m.trace ++ [⟨p, what⟩] }
      (Function.update A p (some (l.log what))) := by
  refine h.update .mediatorCmdReply hp ?_
  constructor
  · rfl
  · exact Nat.le_refl _
  · exact fun n k hk => ⟨k, hk, rfl⟩
  · exact fun n k hk => .inl ⟨k, hk, rfl⟩
  · intro hs
    have hinfo := h.parent_info hp hs
    exact hinfo
  · exact fun hs n k hk => h.kid_info hp hs hk
  · intro hs
    refine ⟨?_, fun n k hk => h.kid_get?_of_not_stored hp hs hk⟩
    have := h.stored_iff hp
    simpa [Dict.contains, show l.stored = false from hs] using this
  · exact fun _ _ _ => rfl
  · intro q
    rw [historyOf_note]
    by_cases hqp : q = p
    · subst hqp
      rw [if_pos rfl, if_pos rfl, h.history_some hp]
      rfl
    · rw [if_neg hqp, if_neg hqp]

/-- Writing the entry of a child. -/
theorem setKid {m : Mediator} {A : UUID → Option Life} {p : UUID} {l : Life}
    {n : MsgType} {k j : Kid} (h : Represents m A) (hp : A p = some l)
    (hs : l.stored) (hk : l.kids.get? n = some k)
    (hid : j.cmd.cmdID = k.cmd.cmdID) {f : CmdInfo → CmdInfo}
    (hf : f (k.info p) = j.info p) :
    Represents { m with cm := m.cm.modify k.cmd.cmdID f }
      (Function.update A p (some (l.setKid n j))) := by
  have hget : ∀ n₁, (l.setKid n j).kids.get? n₁ =
      if n₁ = n then some j else l.kids.get? n₁ :=
    fun n₁ => Dict.get?_set l.kids n n₁ j
  have hchild : (l.setKid n j).childCmdID = l.childCmdID := by
    simp only [Life.childCmdID, Life.setKid, Dict.map_set]
    apply Dict.set_eq_self
    rw [Dict.get?_map, hk, hid]
    rfl
  have hpk : p ≠ k.cmd.cmdID := h.parent_ne_kid hp hp hk
  refine h.update .mediatorCmdReply hp ?_
  constructor
  · rfl
  · exact Nat.le_refl _
  · intro n₁ k₁ hk₁
    by_cases hn : n₁ = n
    · subst hn
      refine ⟨j, by simp [hget], ?_⟩
      rw [hid, Option.some.inj (hk.symm.trans hk₁)]
    · exact ⟨k₁, by simp [hget, hn, hk₁], rfl⟩
  · intro n₁ k₁ hk₁
    left
    rw [hget] at hk₁
    split at hk₁
    · next hn => cases hk₁; exact ⟨k, hn ▸ hk, hid.symm⟩
    · exact ⟨k₁, hk₁, rfl⟩
  · intro _
    obtain ⟨state, hinfo⟩ := h.parent_info hp hs
    refine ⟨state, ?_⟩
    rw [Dict.get?_modify, if_neg hpk, hinfo]
    simp only [Life.info, hchild]
    rfl
  · intro _ n₁ k₁ hk₁
    rw [hget] at hk₁
    rw [Dict.get?_modify]
    split at hk₁
    · cases hk₁
      rw [if_pos hid, h.kid_info hp hs hk, Option.map_some, hf]
    · next hn =>
        have hne : k₁.cmd.cmdID ≠ k.cmd.cmdID :=
          fun hid₁ => hn (h.kid_unique hp hp hk₁ hk hid₁).2
        rw [if_neg hne]
        exact h.kid_info hp hs hk₁
  · intro hs'
    have hs' : l.stored = false := hs'
    exact absurd (hs.symm.trans hs') Bool.noConfusion
  · intro id _ hid'
    have hne : id ≠ k.cmd.cmdID := by
      have := hid' n j (by simp [hget])
      rwa [hid] at this
    rw [Dict.get?_modify, if_neg hne]
  · intro q
    by_cases hqp : q = p
    · subst hqp
      have hhist := h.history_some hp
      rw [if_pos rfl]
      exact hhist
    · rw [if_neg hqp]
      rfl

theorem parentState {m : Mediator} {A : UUID → Option Life} {p : UUID}
    {l : Life} (h : Represents m A) (hp : A p = some l) (hs : l.stored)
    {f : CmdInfo → CmdInfo}
    (hf : ∀ state, ∃ state', f (l.info state) = l.info state') :
    Represents { m with cm := m.cm.modify p f } A := by
  have hw : Writes m { m with cm := m.cm.modify p f } p l l
      .mediatorCmdReply := by
    constructor
    · rfl
    · exact Nat.le_refl _
    · exact fun n k hk => ⟨k, hk, rfl⟩
    · exact fun n k hk => .inl ⟨k, hk, rfl⟩
    · intro _
      obtain ⟨state, hinfo⟩ := h.parent_info hp hs
      obtain ⟨state', hf⟩ := hf state
      exact ⟨state', by rw [Dict.get?_modify, if_pos rfl, hinfo, Option.map_some, hf]⟩
    · intro _ n k hk
      rw [Dict.get?_modify, if_neg (h.parent_ne_kid hp hp hk).symm]
      exact h.kid_info hp hs hk
    · intro hs'
      exact absurd hs (by simpa using hs')
    · intro id hid _
      rw [Dict.get?_modify, if_neg hid]
    · intro q
      by_cases hqp : q = p
      · subst hqp
        rw [if_pos rfl]
        exact h.history_some hp
      · rw [if_neg hqp]
        rfl
  have := h.update .mediatorCmdReply hp hw
  rwa [← hp, Function.update_eq_self] at this

theorem addKid {m : Mediator} {A : UUID → Option Life} {p : UUID} {l : Life}
    {n : MsgType} (h : Represents m A) (hp : A p = some l) (hs : l.stored)
    (hn : l.kids.get? n = none) {cm : CommandMaintainer}
    (hcm : ∀ id, cm.get? id =
      if id = ⟨Mediator.generator, m.clock⟩ then
        some ((l.newKid ⟨Mediator.generator, m.clock⟩).info p)
      else if id = p then (m.cm.get? p).map fun info =>
        { info with childCmdID :=
            info.childCmdID.set n ⟨Mediator.generator, m.clock⟩ }
      else m.cm.get? id) :
    Represents { m with cm := cm, clock := m.clock + 1 }
      (Function.update A p
        (some (l.setKid n (l.newKid ⟨Mediator.generator, m.clock⟩)))) := by
  have hget : ∀ n₁, (l.setKid n (l.newKid ⟨Mediator.generator, m.clock⟩)).kids.get? n₁ =
      if n₁ = n then some (l.newKid ⟨Mediator.generator, m.clock⟩)
      else l.kids.get? n₁ :=
    fun n₁ => Dict.get?_set l.kids n n₁ _
  have hpid : p ≠ ⟨Mediator.generator, m.clock⟩ := by
    rintro rfl
    exact h.parent_foreign hp rfl
  have hold : ∀ n₁ k₁, l.kids.get? n₁ = some k₁ →
      k₁.cmd.cmdID ≠ ⟨Mediator.generator, m.clock⟩ := by
    intro n₁ k₁ hk₁ hid
    have := (h.kid_cmdID hp hk₁).2
    rw [hid] at this
    exact Nat.lt_irrefl _ this
  refine h.update n hp ?_
  constructor
  · rfl
  · exact Nat.le_succ _
  · intro n₁ k₁ hk₁
    have hne : n₁ ≠ n := by
      rintro rfl
      simp [hn] at hk₁
    exact ⟨k₁, by simp [hget, hne, hk₁], rfl⟩
  · intro n₁ k₁ hk₁
    rw [hget] at hk₁
    split at hk₁
    · next heq => cases hk₁; exact .inr ⟨heq, rfl, Nat.lt_succ_self _⟩
    · exact .inl ⟨k₁, hk₁, rfl⟩
  · intro _
    obtain ⟨state, hinfo⟩ := h.parent_info hp hs
    refine ⟨state, ?_⟩
    rw [hcm, if_neg hpid, if_pos rfl, hinfo]
    simp only [Option.map_some, Life.info, Life.childCmdID, Life.setKid,
      Dict.map_set]
    rfl
  · intro _ n₁ k₁ hk₁
    rw [hget] at hk₁
    rw [hcm]
    split at hk₁
    · cases hk₁
      exact if_pos rfl
    · rw [if_neg (hold n₁ k₁ hk₁), if_neg (h.parent_ne_kid hp hp hk₁).symm]
      exact h.kid_info hp hs hk₁
  · intro hs'
    have hs' : l.stored = false := hs'
    exact absurd (hs.symm.trans hs') Bool.noConfusion
  · intro id hid hid'
    have hne : id ≠ ⟨Mediator.generator, m.clock⟩ :=
      hid' n (l.newKid ⟨Mediator.generator, m.clock⟩) (by simp [hget])
    rw [hcm, if_neg hne, if_neg hid]
  · intro q
    by_cases hqp : q = p
    · subst hqp
      have hhist := h.history_some hp
      rw [if_pos rfl]
      exact hhist
    · rw [if_neg hqp]
      rfl

theorem remove {m : Mediator} {A : UUID → Option Life} {p : UUID} {l : Life}
    (h : Represents m A) (hp : A p = some l) {cm : CommandMaintainer}
    (hgone : cm.get? p = none ∧
      ∀ n k, l.kids.get? n = some k → cm.get? k.cmd.cmdID = none)
    (hothers : ∀ id, id ≠ p →
      (∀ n k, l.kids.get? n = some k → id ≠ k.cmd.cmdID) →
      cm.get? id = m.cm.get? id) :
    Represents { m with cm := cm }
      (Function.update A p (some { l with stored := false })) := by
  refine h.update .mediatorCmdReply hp ?_
  constructor
  · rfl
  · exact Nat.le_refl _
  · exact fun n k hk => ⟨k, hk, rfl⟩
  · exact fun n k hk => .inl ⟨k, hk, rfl⟩
  · intro hs
    exact Bool.noConfusion hs
  · intro hs
    exact Bool.noConfusion hs
  · exact fun _ => hgone
  · exact hothers
  · intro q
    by_cases hqp : q = p
    · subst hqp
      have hhist := h.history_some hp
      rw [if_pos rfl]
      exact hhist
    · rw [if_neg hqp]
      rfl

theorem start {m : Mediator} {A : UUID → Option Life} {cmd : Command}
    (h : Represents m A) (hnew : A cmd.cmdID = none)
    (hforeign : cmd.cmdID.generator ≠ Mediator.generator) :
    Represents
      { m with
        cm := m.cm.set cmd.cmdID ((Life.start cmd).info .waiting)
        trace := m.trace ++ [⟨cmd.cmdID, .received cmd⟩] }
      (Function.update A cmd.cmdID (some (Life.start cmd))) := by
  have hold : ∀ {q lq}, A q = some lq → q ≠ cmd.cmdID := by
    rintro q lq hq rfl
    simp [hnew] at hq
  have hkid : ∀ {q lq n k}, A q = some lq → lq.kids.get? n = some k →
      k.cmd.cmdID ≠ cmd.cmdID := by
    intro q lq n k hq hk hid
    exact hforeign (hid ▸ (h.kid_cmdID hq hk).1)
  have hnone : ∀ n k, (Life.start cmd).kids.get? n ≠ some k := by
    rintro n k ⟨⟩
  constructor
  case parent_cmdID =>
    intro q lq hq
    obtain ⟨rfl, rfl⟩ | ⟨-, hq⟩ := of_update hq
    · rfl
    · exact h.parent_cmdID hq
  case parent_foreign =>
    intro q lq hq
    obtain ⟨rfl, -⟩ | ⟨-, hq⟩ := of_update hq
    · exact hforeign
    · exact h.parent_foreign hq
  case kid_cmdID =>
    intro q lq n k hq hk
    obtain ⟨-, rfl⟩ | ⟨-, hq⟩ := of_update hq
    · exact absurd hk (hnone n k)
    · exact h.kid_cmdID hq hk
  case kid_unique =>
    intro q lq n k q' lq' n' k' hq hq' hk hk' hid
    obtain ⟨-, rfl⟩ | ⟨-, hq⟩ := of_update hq
    · exact absurd hk (hnone n k)
    · obtain ⟨-, rfl⟩ | ⟨-, hq'⟩ := of_update hq'
      · exact absurd hk' (hnone n' k')
      · exact h.kid_unique hq hq' hk hk' hid
  case parent_info =>
    intro q lq hq hs
    rw [Dict.get?_set]
    obtain ⟨rfl, rfl⟩ | ⟨hqp, hq⟩ := of_update hq
    · exact ⟨.waiting, if_pos rfl⟩
    · rw [if_neg hqp]
      exact h.parent_info hq hs
  case kid_info =>
    intro q lq n k hq hs hk
    obtain ⟨-, rfl⟩ | ⟨-, hq⟩ := of_update hq
    · exact absurd hk (hnone n k)
    · rw [Dict.get?_set, if_neg (hkid hq hk)]
      exact h.kid_info hq hs hk
  case only =>
    intro id info hinfo
    rw [Dict.get?_set] at hinfo
    by_cases hid : id = cmd.cmdID
    · exact ⟨cmd.cmdID, Life.start cmd, Function.update_self .., rfl, .inl hid⟩
    · rw [if_neg hid] at hinfo
      obtain ⟨q, lq, hq, hs, hid'⟩ := h.only hinfo
      exact ⟨q, lq, by rw [Function.update_of_ne (hold hq), hq], hs, hid'⟩
  case history =>
    intro q
    have hnote := historyOf_note m cmd.cmdID q (.received cmd)
    simp only [Mediator.historyOf] at hnote ⊢
    rw [hnote]
    by_cases hqp : q = cmd.cmdID
    · subst hqp
      have := h.history cmd.cmdID
      simp only [Mediator.historyOf, hnew] at this
      rw [if_pos rfl, Function.update_self, this]
      rfl
    · rw [if_neg hqp, Function.update_of_ne hqp]
      exact h.history q

end Represents

end SelfAdaptiveMano

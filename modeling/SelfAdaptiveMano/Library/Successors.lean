import Mathlib.Algebra.Order.Ring.Nat
import Mathlib.Data.List.GetD
import Mathlib.Data.List.Nodup

/-!
# Walking through a list by looking up the next element

`next last l a` is the element behind the first `a` of the list `l`, and `last`
behind the last element. A walk that looks up the next element at each step
goes through the list from its head to `last` exactly when no element occurs
twice; a walk that looks it up in the reversed list does so only when the list
has one element. `Visits` is a walk that ends at the first `last`.
-/

namespace Library

namespace Successors

variable {α : Type}

theorem getD_succ_ne_last {last : α} {l : List α} (hlast : last ∉ l.tail)
    {i : Nat} (h : i + 1 < l.length) : l.getD (i + 1) last ≠ last := by
  cases l with
  | nil => exact absurd h (Nat.not_lt_zero _)
  | cons a l =>
      have hi : i < l.length := Nat.lt_of_succ_lt_succ h
      rw [List.getD_cons_succ, List.getD_eq_getElem _ _ hi]
      exact fun heq => hlast (heq ▸ List.getElem_mem hi)

section Visits

variable {step : α → α → Prop} {last a b : α} {l : List α}

/-- The elements that are come to from `a` on, one step after the other, until a
step leads to `last`. -/
inductive Visits (step : α → α → Prop) (last : α) : α → List α → Prop where
  | last {a : α} : step a last → Visits step last a [a]
  | hop {a b : α} {l : List α} : step a b → b ≠ last → Visits step last b l →
      Visits step last a (a :: l)

theorem Visits.head (h : Visits step last a l) : l.head? = some a := by
  cases h with
  | last _ => rfl
  | hop _ _ _ => rfl

theorem visits_singleton_iff : Visits step last a [a] ↔ step a last := by
  constructor
  · rintro (h | ⟨_, _, h⟩)
    · exact h
    · cases h
  · exact Visits.last

theorem visits_cons_cons_iff :
    Visits step last a (a :: b :: l) ↔
      step a b ∧ b ≠ last ∧ Visits step last b (b :: l) := by
  constructor
  · intro h
    cases h with
    | hop hstep hne hrest =>
        obtain rfl := Option.some.inj hrest.head
        exact ⟨hstep, hne, hrest⟩
  · rintro ⟨hstep, hne, hrest⟩
    exact .hop hstep hne hrest

end Visits

variable [DecidableEq α]

/-- The element behind the first `a`. -/
def next (last : α) : List α → α → Option α
  | [], _ => none
  | b :: l, a => if b = a then some (l.headD last) else next last l a

variable {last a b : α} {l order : List α}

theorem next_cons :
    next last (b :: l) a =
      if b = a then some (l.headD last) else next last l a := rfl

theorem mem_of_next (h : next last l a = some b) : a ∈ l := by
  induction l with
  | nil => cases h
  | cons c l ih =>
      rw [next_cons] at h
      split at h
      · next heq => exact heq ▸ List.mem_cons_self
      · exact List.mem_cons_of_mem _ (ih h)

theorem eq_last_or_mem_of_next (h : next last l a = some b) :
    b = last ∨ b ∈ l := by
  induction l with
  | nil => cases h
  | cons c l ih =>
      rw [next_cons] at h
      split at h
      · obtain rfl := Option.some.inj h
        cases l with
        | nil => exact Or.inl rfl
        | cons d l => exact Or.inr (by simp)
      · exact (ih h).imp_right (List.mem_cons_of_mem _)

/-- Looking up the next element in `order` leads from each element of `l` to the
one behind it. -/
def Follows (last : α) (order l : List α) : Prop :=
  ∀ (i : Nat) (h : i < l.length),
    next last order l[i] = some (l.getD (i + 1) last)

/-- Two places with the same element have the same one behind them, up to the
end of the list. -/
theorem Follows.ne (hlast : last ∉ l.tail) (hfollows : Follows last l l) {i j : Nat}
    (hij : i < j) (hj : j < l.length) : l.getD i last ≠ l.getD j last := by
  -- by induction on the number of elements behind the second place
  induction hk : l.length - j generalizing i j with
  | zero => omega
  | succ k ih =>
      intro heq
      have hi : i < l.length := hij.trans hj
      have hnext : l.getD (i + 1) last = l.getD (j + 1) last := by
        have hnextI := hfollows i hi
        have hnextJ := hfollows j hj
        rw [← List.getD_eq_getElem _ last hi, heq,
          List.getD_eq_getElem _ _ hj, hnextJ] at hnextI
        exact (Option.some.inj hnextI).symm
      by_cases hend : j + 1 < l.length
      · exact ih (Nat.succ_lt_succ hij) hend (by omega) hnext
      · rw [List.getD_eq_default _ _ (Nat.le_of_not_lt hend)] at hnext
        exact getD_succ_ne_last hlast (by omega) hnext

theorem Follows.nodup (hlast : last ∉ l.tail) (hfollows : Follows last l l) :
    l.Nodup := by
  rw [List.Nodup, List.pairwise_iff_getElem]
  intro i j hi hj hij heq
  apply hfollows.ne hlast hij hj
  rw [List.getD_eq_getElem _ _ hi, List.getD_eq_getElem _ _ hj, heq]

theorem follows_of_nodup (h : l.Nodup) : Follows last l l := by
  induction l with
  | nil => exact fun i hi => absurd hi (Nat.not_lt_zero i)
  | cons b l ih =>
      obtain ⟨hb, hnodup⟩ := List.nodup_cons.mp h
      intro i hi
      cases i with
      | zero => cases l <;> simp [next_cons]
      | succ i =>
          have hi' : i < l.length := Nat.lt_of_succ_lt_succ hi
          have hne : b ≠ l[i] := fun heq => hb (heq ▸ List.getElem_mem hi')
          rw [List.getElem_cons_succ, next_cons, if_neg hne, ih hnodup i hi']
          rfl

theorem follows_iff_nodup (hlast : last ∉ l.tail) : Follows last l l ↔ l.Nodup :=
  ⟨fun h => h.nodup hlast, follows_of_nodup⟩

/-- In the reversed list an element is followed by the one before it. -/
theorem follows_reverse_iff (hlast : last ∉ l) (hne : l ≠ []) :
    Follows last l.reverse l ↔ l.length = 1 := by
  constructor
  · intro h
    obtain ⟨l', a, rfl⟩ := (List.eq_nil_or_concat l).resolve_left hne
    rw [List.concat_eq_append] at h hlast ⊢
    cases hl' : l'.reverse with
    | nil =>
        rw [List.reverse_eq_nil_iff] at hl'
        simp [hl']
    | cons b r =>
        -- behind the last element comes the one before it
        have hnext := h l'.length (by simp)
        have hb : b ∈ l' := by
          rw [← List.mem_reverse, hl']
          exact List.mem_cons_self
        simp [hl', next_cons] at hnext
        exact absurd (List.mem_append_left _ (hnext ▸ hb)) hlast
  · intro h
    obtain ⟨a, rfl⟩ := List.length_eq_one_iff.mp h
    exact follows_of_nodup (List.nodup_singleton a)

/-- The elements that a walk from `start` comes to. -/
def walk (last : α) (order : List α) (start : Option α) : Nat → Option α
  | 0 => start
  | i + 1 => (walk last order start i).bind (next last order)

theorem walk_none (i : Nat) : walk last order none i = none := by
  induction i with
  | zero => rfl
  | succ i ih => rw [walk, ih, Option.bind_none]

theorem eq_last_or_mem_of_walk {start : α} (hstart : start ∈ order) {i : Nat}
    (h : walk last order (some start) i = some a) : a = last ∨ a ∈ order := by
  cases i with
  | zero => exact Or.inr (Option.some.inj h ▸ hstart)
  | succ i =>
      obtain ⟨b, -, hnext⟩ := Option.bind_eq_some_iff.mp h
      exact eq_last_or_mem_of_next hnext

/-- The walk from the head of `l` goes through `l` exactly when looking up the
next element does. -/
theorem walk_iff_follows :
    (∀ i ≤ l.length, walk last order l.head? i = some (l.getD i last)) ↔
      l ≠ [] ∧ Follows last order l := by
  constructor
  · intro h
    refine ⟨?_, fun i hi => ?_⟩
    · rintro rfl
      cases h 0 le_rfl
    · have hnext := h (i + 1) hi
      rw [walk, h i hi.le, Option.bind_some, List.getD_eq_getElem _ _ hi]
        at hnext
      exact hnext
  · rintro ⟨hne, hfollows⟩ i hi
    induction i with
    | zero =>
        cases l with
        | nil => exact absurd rfl hne
        | cons a l => rfl
    | succ i ih =>
        rw [walk, ih (Nat.le_of_succ_le hi), Option.bind_some,
          List.getD_eq_getElem _ _ hi]
        exact hfollows i hi

theorem follows_cons_iff : Follows last order (a :: l) ↔
    next last order a = some (l.headD last) ∧ Follows last order l := by
  constructor
  · intro h
    refine ⟨?_, fun i hi => h (i + 1) (Nat.succ_lt_succ hi)⟩
    have hfirst := h 0 (Nat.succ_pos _)
    cases l with
    | nil => exact hfirst
    | cons b l => exact hfirst
  · rintro ⟨hfirst, hrest⟩ i hi
    cases i with
    | zero =>
        cases l with
        | nil => exact hfirst
        | cons b l => exact hfirst
    | succ i => exact hrest i (Nat.lt_of_succ_lt_succ hi)

/-- Looking up the next element visits `l` when it leads through `l` and nothing
behind the head is taken for the end. -/
theorem visits_next_iff :
    Visits (fun a b => next last order a = some b) last a (a :: l) ↔
      Follows last order (a :: l) ∧ last ∉ l := by
  induction l generalizing a with
  | nil =>
      rw [visits_singleton_iff, follows_cons_iff]
      constructor
      · exact fun h => ⟨⟨h, fun i hi => absurd hi (Nat.not_lt_zero i)⟩,
          List.not_mem_nil⟩
      · exact fun h => h.1.1
  | cons b l ih =>
      rw [visits_cons_cons_iff, ih, follows_cons_iff (a := a), List.mem_cons, not_or]
      constructor
      · rintro ⟨hnext, hne, hrest, hlast⟩
        exact ⟨⟨hnext, hrest⟩, hne.symm, hlast⟩
      · rintro ⟨⟨hnext, hrest⟩, hne, hlast⟩
        exact ⟨hnext, Ne.symm hne, hrest, hlast⟩

/-- Looking up the next element in a list visits the list exactly when no element
occurs twice and nothing behind the head is taken for the end. -/
theorem visits_self_iff :
    Visits (fun b c => next last (a :: l) b = some c) last a (a :: l) ↔
      (a :: l).Nodup ∧ last ∉ l := by
  rw [visits_next_iff]
  exact and_congr_left fun hlast => follows_iff_nodup hlast

end Successors

end Library

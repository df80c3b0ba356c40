import Mathlib.Data.List.Rotate

/-!
# Round robin

The candidates stand in a list, and a counter says whose turn it is. A selection takes
the first able candidate from there on, and leaves the counter behind it. `able` are
the able candidates in the order of their turns: a selection takes the first of them
and moves it to the end, so that the selections that follow go through all of them
before they take one of them again.
-/

namespace Library

namespace RoundRobin

variable {α : Type*} {p : α → Bool} {l pre post : List α} {a b : α} {counter : Nat}

def able (p : α → Bool) (l : List α) (counter : Nat) : List α :=
  (l.rotate counter).filter p

theorem mem_able : a ∈ able p l counter ↔ a ∈ l ∧ p a = true := by
  rw [able, List.mem_filter, List.mem_rotate]

theorem able_mod : able p l (counter % l.length) = able p l counter := by
  rw [able, List.rotate_mod, able]

theorem nodup_able (h : l.Nodup) : (able p l counter).Nodup :=
  (List.nodup_rotate.mpr h).filter p

theorem rotate_of_split (h : l.rotate counter = pre ++ a :: post) :
    l.rotate (counter + (pre.length + 1)) = post ++ (pre ++ [a]) := by
  have hsplit : pre ++ a :: post = (pre ++ [a]) ++ post := by simp
  have hlength : pre.length + 1 = (pre ++ [a]).length := by simp
  rw [← List.rotate_rotate, h, hsplit, hlength, List.rotate_append_length_eq]

/-- With the counter behind the first able candidate, the turn of that one comes
last. -/
theorem able_of_split (h : l.rotate counter = pre ++ a :: post)
    (hpre : ∀ b ∈ pre, p b = false) (ha : p a = true) :
    (able p l counter).head? = some a ∧
      able p l (counter + (pre.length + 1)) = (able p l counter).rotate 1 := by
  have hnone : pre.filter p = [] := by
    rw [List.filter_eq_nil_iff]
    intro b hb
    simp [hpre b hb]
  have hable : able p l counter = a :: post.filter p := by
    rw [able, h, List.filter_append, hnone, List.nil_append,
      List.filter_cons_of_pos ha]
  refine ⟨by rw [hable]; rfl, ?_⟩
  rw [hable, able, rotate_of_split h, List.filter_append, List.filter_append, hnone,
    List.nil_append, List.rotate_cons_succ, List.rotate_zero,
    List.filter_singleton, ha]
  rfl

/-- A candidate whose turn comes has those before it, and it is the first one that is
able or there is none. -/
theorem able_eq_nil_or_split (p : α → Bool) (l : List α) (counter : Nat) :
    (∀ b ∈ l, p b = false) ∨
      ∃ pre a post, l.rotate counter = pre ++ a :: post ∧
        (∀ b ∈ pre, p b = false) ∧ p a = true := by
  cases hable : able p l counter with
  | nil =>
      refine Or.inl fun b hb => ?_
      rw [← Bool.not_eq_true]
      intro hp
      have hmem : b ∈ able p l counter := mem_able.mpr ⟨hb, hp⟩
      rw [hable] at hmem
      cases hmem
  | cons a rest =>
      obtain ⟨pre, post, hsplit, hpre, ha, -⟩ := List.filter_eq_cons_iff.mp hable
      exact Or.inr ⟨pre, a, post, hsplit, fun b hb => by simpa using hpre b hb, ha⟩

/-! ## Successive selections -/

/-- `chosen` are the selections, and `order` are the able candidates in the order of
their turns before each of them. -/
structure Turns (order : Nat → List α) (chosen : Nat → Option α) : Prop where
  head : ∀ i, chosen i = (order i).head?
  next : ∀ i, order (i + 1) = (order i).rotate 1

variable {order : Nat → List α} {chosen : Nat → Option α} {i j : Nat}

theorem Turns.order_add (h : Turns order chosen) (i d : Nat) :
    order (i + d) = (order i).rotate d := by
  induction d with
  | zero => rw [Nat.add_zero, List.rotate_zero]
  | succ d ih => rw [← Nat.add_assoc, h.next, ih, List.rotate_rotate]

theorem Turns.mem_iff (h : Turns order chosen) (i : Nat) :
    a ∈ order i ↔ a ∈ order 0 := by
  have horder := h.order_add 0 i
  rw [Nat.zero_add] at horder
  rw [horder, List.mem_rotate]

theorem Turns.length_eq (h : Turns order chosen) (i : Nat) :
    (order i).length = (order 0).length := by
  have horder := h.order_add 0 i
  rw [Nat.zero_add] at horder
  rw [horder, List.length_rotate]

theorem Turns.chosen_add (h : Turns order chosen) {d : Nat}
    (hd : d < (order i).length) : chosen (i + d) = (order i)[d]? := by
  rw [h.head, h.order_add, List.head?_rotate hd]

/-- Each able candidate is taken before there were more selections than able
candidates. -/
theorem Turns.exists_chosen (h : Turns order chosen) (i : Nat) (ha : a ∈ order 0) :
    ∃ m, i ≤ m ∧ m < i + (order 0).length ∧ chosen m = some a := by
  obtain ⟨d, hd, rfl⟩ := List.mem_iff_getElem.mp ((h.mem_iff i).mpr ha)
  refine ⟨i + d, Nat.le_add_right i d, ?_, ?_⟩
  · rw [← h.length_eq i]
    exact Nat.add_lt_add_left hd i
  · rw [h.chosen_add hd, List.getElem?_eq_getElem hd]

/-- No candidate is taken twice before there were as many selections as able
candidates. -/
theorem Turns.length_le_of_chosen_eq (h : Turns order chosen)
    (hnodup : (order 0).Nodup) (hij : i < j) (heq : chosen i = chosen j) :
    i + (order 0).length ≤ j := by
  by_contra hlt
  obtain ⟨d, rfl⟩ := Nat.exists_eq_add_of_le hij.le
  have hd : d < (order i).length := by
    rw [h.length_eq i]
    omega
  have hzero : 0 < (order i).length := by omega
  have hnodup' : (order i).Nodup := by
    have horder := h.order_add 0 i
    rw [Nat.zero_add] at horder
    rw [horder]
    exact List.nodup_rotate.mpr hnodup
  have hfirst := h.chosen_add hzero
  rw [Nat.add_zero, heq, h.chosen_add hd, List.getElem?_eq_getElem hd,
    List.getElem?_eq_getElem hzero, Option.some.injEq,
    hnodup'.getElem_inj_iff] at hfirst
  omega

theorem Turns.before_again (h : Turns order chosen) (hnodup : (order 0).Nodup)
    (hij : i < j) (heq : chosen i = chosen j) (ha : a ∈ order 0) :
    ∃ m, i ≤ m ∧ m < j ∧ chosen m = some a := by
  obtain ⟨m, him, hm, hchosen⟩ := h.exists_chosen i ha
  have hle := h.length_le_of_chosen_eq hnodup hij heq
  exact ⟨m, him, hm.trans_le hle, hchosen⟩

end RoundRobin

end Library

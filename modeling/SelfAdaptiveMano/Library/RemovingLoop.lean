import Mathlib.Algebra.Ring.Parity
import Mathlib.Data.List.DropRight

/-!
# Loops that remove from the list they go through

A loop over a list that removes some of its elements from that same list does not
look at the element after a removed one, which has moved to its place. Of a run of
elements that are to be removed, the loop removes the first, the third and so on.
-/

namespace Library

namespace RemovingLoop

variable {α : Type*} (p : α → Bool)

def left : List α → List α
  | [] => []
  | [a] => if p a then [] else [a]
  | a :: b :: l => if p a then b :: left l else a :: left (b :: l)

def removesLast (l : List α) : Bool :=
  l.foldl (fun removed a => !removed && p a) false

@[simp] theorem removesLast_nil : removesLast p [] = false := rfl

theorem removesLast_concat (l : List α) (a : α) :
    removesLast p (l ++ [a]) = (!removesLast p l && p a) := by
  rw [removesLast, List.foldl_concat]
  rfl

variable {p}

theorem removesLast_cons {a : α} (ha : p a = false) (l : List α) :
    removesLast p (a :: l) = removesLast p l := by
  rw [removesLast, List.foldl_cons, ha]
  rfl

theorem removesLast_cons_cons {a : α} (ha : p a = true) (b : α) (l : List α) :
    removesLast p (a :: b :: l) = removesLast p l := by
  rw [removesLast, List.foldl_cons, List.foldl_cons, ha]
  rfl

theorem removesLast_eq_true_iff {l : List α} :
    removesLast p l = true ↔ Odd (l.rtakeWhile p).length := by
  induction l using List.reverseRecOn with
  | nil => simp
  | append_singleton l a ih =>
    rw [removesLast_concat, Bool.and_eq_true, Bool.not_eq_true',
      ← Bool.not_eq_true, ih]
    cases ha : p a with
    | false => simp [List.rtakeWhile_concat_neg, ha]
    | true =>
      rw [List.rtakeWhile_concat_pos _ _ _ ha, List.length_append,
        List.length_singleton, Nat.odd_add_one]
      simp

theorem left_concat (l : List α) (c : α) :
    left p (l ++ [c]) =
      left p l ++ if removesLast p (l ++ [c]) then [] else [c] := by
  induction l using left.induct p with
  | case1 =>
    cases hc : p c <;> simp [left, removesLast, hc]
  | case2 a ha | case3 a ha =>
    cases hc : p c <;> simp [left, removesLast, ha, hc]
  | case4 a b l ha ih =>
    rw [List.cons_append, List.cons_append, left, if_pos ha, left, if_pos ha, ih,
      removesLast_cons_cons ha]
    rfl
  | case5 a b l ha ih =>
    have ha' : p a = false := Bool.eq_false_iff.mpr ha
    rw [List.cons_append, List.cons_append, left, if_neg ha, left, if_neg ha,
      ← List.cons_append, ih, removesLast_cons ha']
    rfl

theorem left_append (before after : List α) :
    ∃ rest, left p (before ++ after) = left p before ++ rest := by
  induction after using List.reverseRecOn with
  | nil => exact ⟨[], by simp⟩
  | append_singleton after c ih =>
    obtain ⟨rest, hrest⟩ := ih
    rw [← List.append_assoc, left_concat, hrest, List.append_assoc]
    exact ⟨_, rfl⟩

/-- An element is left when it does not end an odd run. -/
theorem mem_left_iff {l : List α} {x : α} :
    x ∈ left p l ↔
      ∃ before, before ++ [x] <+: l ∧ removesLast p (before ++ [x]) = false := by
  induction l using List.reverseRecOn with
  | nil => simp [left]
  | append_singleton l c ih =>
    rw [left_concat, List.mem_append, ih]
    simp only [List.prefix_concat_iff]
    constructor
    · rintro (⟨before, hbefore, hx⟩ | hx)
      · exact ⟨before, Or.inr hbefore, hx⟩
      · split at hx
        case isTrue => cases hx
        case isFalse hc =>
          obtain rfl := List.mem_singleton.mp hx
          exact ⟨l, Or.inl rfl, Bool.eq_false_iff.mpr hc⟩
    · rintro ⟨before, hbefore | hbefore, hx⟩
      · right
        obtain ⟨rfl, hxc⟩ := List.append_inj' hbefore rfl
        obtain rfl : x = c := List.singleton_inj.mp hxc
        simp [hx]
      · exact Or.inl ⟨before, hbefore, hx⟩

theorem exists_of_left_eq {l kept rest : List α} {a : α}
    (h : left p l = kept ++ a :: rest) :
    ∃ before after, l = before ++ a :: after ∧ left p before = kept ∧
      removesLast p (before ++ [a]) = false := by
  induction l using List.reverseRecOn generalizing rest with
  | nil => simp [left] at h
  | append_singleton l c ih =>
    rw [left_concat] at h
    split at h
    case isTrue =>
      rw [List.append_nil] at h
      obtain ⟨before, after, rfl, hkept, ha⟩ := ih h
      exact ⟨before, after ++ [c], by simp, hkept, ha⟩
    case isFalse hc =>
      rcases List.eq_nil_or_concat rest with rfl | ⟨rest, b, rfl⟩
      · obtain ⟨rfl, hac⟩ := List.append_inj' h rfl
        obtain rfl : c = a := List.singleton_inj.mp hac
        exact ⟨l, [], rfl, rfl, Bool.eq_false_iff.mpr hc⟩
      · rw [List.concat_eq_append, ← List.cons_append, ← List.append_assoc] at h
        obtain ⟨hl, -⟩ := List.append_inj' h rfl
        obtain ⟨before, after, rfl, hkept, ha⟩ := ih hl
        exact ⟨before, after ++ [c], by simp, hkept, ha⟩

theorem left_append_cons {before : List α} {a : α}
    (ha : removesLast p (before ++ [a]) = false) (after : List α) :
    ∃ rest, left p (before ++ a :: after) = left p before ++ a :: rest := by
  obtain ⟨rest, hrest⟩ := left_append (p := p) (before ++ [a]) after
  rw [left_concat, ha, List.append_assoc, List.append_assoc] at hrest
  exact ⟨rest, hrest⟩

/-- An element with nothing but `Q` before it in what is left has nothing but `Q`
before it in the list, but for what ends an odd run. -/
theorem exists_left_eq_iff {l : List α} {a : α} {Q : α → Prop} :
    (∃ kept rest, left p l = kept ++ a :: rest ∧ ∀ x ∈ kept, Q x) ↔
      ∃ before after, l = before ++ a :: after ∧
        ¬ Odd ((before ++ [a]).rtakeWhile p).length ∧
        ∀ b x, b ++ [x] <+: before →
          Odd ((b ++ [x]).rtakeWhile p).length ∨ Q x := by
  simp only [← removesLast_eq_true_iff, Bool.not_eq_true]
  constructor
  · rintro ⟨kept, rest, hl, hkept⟩
    obtain ⟨before, after, rfl, rfl, ha⟩ := exists_of_left_eq hl
    refine ⟨before, after, rfl, ha, ?_⟩
    intro b x hb
    cases hx : removesLast p (b ++ [x]) with
    | true => exact Or.inl rfl
    | false => exact Or.inr (hkept x (mem_left_iff.mpr ⟨b, hb, hx⟩))
  · rintro ⟨before, after, rfl, ha, hbefore⟩
    obtain ⟨rest, hrest⟩ := left_append_cons ha after
    refine ⟨left p before, rest, hrest, ?_⟩
    intro x hx
    obtain ⟨b, hb, hremoved⟩ := mem_left_iff.mp hx
    rcases hbefore b x hb with hodd | hQ
    · rw [hremoved] at hodd
      cases hodd
    · exact hQ

end RemovingLoop

end Library

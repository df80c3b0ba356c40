import Mathlib.Data.List.Basic
import Mathlib.Data.List.Perm.Basic
import Mathlib.Data.List.Chain
import Mathlib.Data.List.Infix

/-!
# Neighbours in a list, and walks that are cut into segments

`pairs l` lists the elements of `l` together with the one behind each. A list that is
cut at one of its elements, or reversed, has its pairs cut or turned accordingly.

A walk that is cut into segments is a list of lists of nodes: each segment ends at the
node where the next one begins. `turn` is the way back, with the segments and the
nodes of each segment in the other order.
-/

namespace Library

variable {α : Type*}

def pairs (l : List α) : List (α × α) := l.zip l.tail

@[simp] theorem pairs_nil : pairs ([] : List α) = [] := rfl

@[simp] theorem pairs_singleton (a : α) : pairs [a] = [] := rfl

@[simp] theorem pairs_cons_cons (a b : α) (l : List α) :
    pairs (a :: b :: l) = (a, b) :: pairs (b :: l) := rfl

theorem length_pairs (l : List α) : (pairs l).length = l.length - 1 := by
  rw [pairs, List.length_zip, List.length_tail]
  exact Nat.min_eq_right (Nat.sub_le _ _)

theorem mem_of_mem_pairs {l : List α} {e : α × α} (h : e ∈ pairs l) :
    e.1 ∈ l.dropLast ∧ e.2 ∈ l.tail := by
  induction l with
  | nil => cases h
  | cons a l ih =>
      cases l with
      | nil => cases h
      | cons b l =>
          rw [pairs_cons_cons] at h
          rcases List.mem_cons.mp h with rfl | h
          · exact ⟨List.mem_cons_self, List.mem_cons_self⟩
          · rcases ih h with ⟨hfirst, hsecond⟩
            exact ⟨List.mem_cons_of_mem a hfirst, List.mem_cons_of_mem b hsecond⟩

theorem pairs_append (front : List α) (a : α) (back : List α) :
    pairs (front ++ a :: back) = pairs (front ++ [a]) ++ pairs (a :: back) := by
  induction front with
  | nil => rfl
  | cons b front ih =>
      cases front with
      | nil => rfl
      | cons c front =>
          simp only [List.cons_append, pairs_cons_cons, List.cons.injEq, true_and]
          exact ih

theorem pairs_reverse (l : List α) : (pairs l.reverse).Perm ((pairs l).map Prod.swap) := by
  induction l with
  | nil => exact .nil
  | cons a l ih =>
      cases l with
      | nil => exact .nil
      | cons b l =>
          rw [pairs_cons_cons, List.map_cons, List.reverse_cons, List.reverse_cons,
            List.append_assoc, List.singleton_append, pairs_append, ← List.reverse_cons]
          apply (List.perm_append_singleton _ _).trans
          exact ih.cons _

theorem getLast?_pairs (front : List α) (a b : α) :
    (pairs (front ++ [a, b])).getLast? = some (a, b) := by
  rw [pairs_append]
  exact List.getLast?_concat

theorem not_mem_pairs_of_nodup {a b : α} {l : List α} (h : (a :: l).Nodup) :
    (a, b) ∉ pairs l := fun hmem =>
  (List.nodup_cons.mp h).1 (List.mem_of_mem_dropLast (mem_of_mem_pairs hmem).1)

theorem mem_of_isChain_pairs {E : α × α → Prop} {l : List α}
    (h : l.IsChain fun a b => E (a, b)) : ∀ e ∈ pairs l, E e := by
  induction l with
  | nil => exact fun e he => by cases he
  | cons a l ih =>
      cases l with
      | nil => exact fun e he => by cases he
      | cons b l =>
          obtain ⟨hfirst, hrest⟩ := List.isChain_cons_cons.mp h
          intro e he
          rcases List.mem_cons.mp he with rfl | he
          · exact hfirst
          · exact ih hrest e he

/-! ## Segments of a walk -/

namespace Segments

variable {α : Type*}

/-- The first segment ends where the second one begins. -/
def Shares (s t : List α) : Prop :=
  ∃ a, s.getLast? = some a ∧ t.head? = some a

/-- The segments go from `a` to `b` by steps of `E`. -/
structure Walk (E : α → α → Prop) (a b : α) (l : List (List α)) : Prop where
  steps : ∀ s ∈ l, s.IsChain E
  shares : l.IsChain Shares
  first : l.head?.bind List.head? = some a
  last : l.getLast?.bind List.getLast? = some b

def turn (l : List (List α)) : List (List α) :=
  l.reverse.map List.reverse

variable {E : α → α → Prop} {a b : α} {s t : List α} {l : List (List α)}

@[simp] theorem turn_turn (l : List (List α)) : turn (turn l) = l := by
  simp [turn]

@[simp] theorem length_turn (l : List (List α)) : (turn l).length = l.length := by
  simp [turn]

theorem mem_turn : s ∈ turn l ↔ s.reverse ∈ l := by
  rw [turn, List.mem_map]
  constructor
  · rintro ⟨t, ht, rfl⟩
    rwa [List.reverse_reverse, ← List.mem_reverse]
  · intro hs
    exact ⟨s.reverse, List.mem_reverse.mpr hs, List.reverse_reverse s⟩

theorem shares_reverse : Shares t.reverse s.reverse ↔ Shares s t := by
  simp only [Shares, List.getLast?_reverse, List.head?_reverse, and_comm]

theorem head?_bind_turn :
    (turn l).head?.bind List.head? = l.getLast?.bind List.getLast? := by
  rw [turn, List.head?_map, List.head?_reverse, Option.bind_map]
  apply Option.bind_congr
  intro s _
  exact List.head?_reverse

theorem getLast?_bind_turn :
    (turn l).getLast?.bind List.getLast? = l.head?.bind List.head? := by
  rw [← head?_bind_turn, turn_turn]

theorem Walk.turn (h : Walk E a b l) : Walk (flip E) b a (turn l) where
  steps s hs := by
    have hback := h.steps s.reverse (mem_turn.mp hs)
    exact List.isChain_reverse.mp hback
  shares := by
    rw [Segments.turn, List.isChain_map, List.isChain_reverse]
    exact h.shares.imp fun s t hst => shares_reverse.mpr hst
  first := by rw [head?_bind_turn, h.last]
  last := by rw [getLast?_bind_turn, h.first]

end Segments

end Library

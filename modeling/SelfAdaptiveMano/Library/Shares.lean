import Mathlib.Algebra.BigOperators.Group.List.Basic
import Mathlib.Data.List.OfFn
import Mathlib.Algebra.Order.BigOperators.Group.List
import Mathlib.Algebra.Ring.Nat

/-!
# Shares and stocks

A list of numbers cuts `0, 1, …` into consecutive shares: the share at the index
`i` starts where the shares before it end and has as many members as the list
says. Every number below the sum of the list is a member of exactly one share.

An amount is taken from a list of stocks: from the first stock, and what that one
lacks from the next. What all of them lack is not taken.
-/

namespace Library

namespace Shares

/-- Where the share at the index `i` starts. -/
def start (l : List Nat) (i : Nat) : Nat := (l.take i).sum

/-- `x` is a member of the share at the index `i`. -/
def Owns (l : List Nat) (i x : Nat) : Prop :=
  start l i ≤ x ∧ x < start l (i + 1)

@[simp] theorem start_zero (l : List Nat) : start l 0 = 0 := by
  simp [start]

theorem start_cons_succ (n : Nat) (l : List Nat) (i : Nat) :
    start (n :: l) (i + 1) = n + start l i := by
  simp [start]

theorem start_succ {l : List Nat} {i n : Nat} (h : l[i]? = some n) :
    start l (i + 1) = start l i + n := by
  rw [start, List.take_add_one, h]
  simp [start]

theorem start_le_sum (l : List Nat) (i : Nat) : start l i ≤ l.sum := by
  have hsum := congrArg List.sum (List.take_append_drop i l)
  rw [List.sum_append] at hsum
  exact Nat.le.intro hsum

theorem start_mono (l : List Nat) {i j : Nat} (h : i ≤ j) :
    start l i ≤ start l j := by
  have hmin : min i j = i := Nat.min_eq_left h
  have htake := start_le_sum (l.take j) i
  rw [start, List.take_take, hmin] at htake
  exact htake

theorem Owns.unique {l : List Nat} {i j x : Nat} (hi : Owns l i x)
    (hj : Owns l j x) : i = j := by
  obtain hlt | heq | hlt := Nat.lt_trichotomy i j
  · have hle := start_mono l (Nat.succ_le_of_lt hlt)
    exact absurd (hi.2.trans_le (hle.trans hj.1)) (lt_irrefl x)
  · exact heq
  · have hle := start_mono l (Nat.succ_le_of_lt hlt)
    exact absurd (hj.2.trans_le (hle.trans hi.1)) (lt_irrefl x)

/-- Every number below the sum belongs to a share. -/
theorem exists_owns {l : List Nat} {x : Nat} (h : x < l.sum) :
    ∃ i < l.length, Owns l i x := by
  induction l generalizing x with
  | nil => exact absurd h (Nat.not_lt_zero x)
  | cons n l ih =>
      by_cases hx : x < n
      · refine ⟨0, Nat.zero_lt_succ _, ?_, ?_⟩
        · simp
        · simpa [start] using hx
      · have hrest : x - n < l.sum := by
          rw [List.sum_cons] at h
          omega
        obtain ⟨i, hi, hlow, hhigh⟩ := ih hrest
        refine ⟨i + 1, Nat.succ_lt_succ hi, ?_, ?_⟩
        · rw [start_cons_succ]
          omega
        · rw [start_cons_succ]
          omega

end Shares

/-! ## Taking an amount from a list of stocks -/

namespace Drain

def drain : List Nat → Nat → List Nat
  | [], _ => []
  | stock :: rest, amount =>
      if stock < amount then 0 :: drain rest (amount - stock)
      else (stock - amount) :: rest

@[simp] theorem drain_zero (stocks : List Nat) : drain stocks 0 = stocks := by
  cases stocks <;> simp [drain]

theorem sum_drain (stocks : List Nat) (amount : Nat) :
    (drain stocks amount).sum = stocks.sum - amount := by
  induction stocks generalizing amount with
  | nil => simp [drain]
  | cons stock rest ih =>
    rw [drain]
    split
    case isTrue h =>
      rw [List.sum_cons, ih, List.sum_cons]
      omega
    case isFalse h =>
      rw [List.sum_cons, List.sum_cons]
      omega

/-- Two amounts are taken one after the other as their sum is. -/
theorem drain_drain (stocks : List Nat) (a b : Nat) :
    drain (drain stocks a) b = drain stocks (a + b) := by
  induction stocks generalizing a b with
  | nil => rfl
  | cons stock rest ih =>
    rcases lt_or_ge stock a with ha | ha
    · have hrest : a - stock + b = a + b - stock := by omega
      rw [drain, if_pos ha, drain, drain, if_pos (Nat.lt_add_right b ha)]
      rcases Nat.eq_zero_or_pos b with rfl | hb
      · simp
      · rw [if_pos hb, Nat.sub_zero, ih, hrest]
    · rw [drain, if_neg (Nat.not_lt.mpr ha), drain, drain]
      rcases lt_or_ge (stock - a) b with hb | hb
      · have hrest : b - (stock - a) = a + b - stock := by omega
        rw [if_pos hb, if_pos (by omega), hrest]
      · rw [if_neg (Nat.not_lt.mpr hb), if_neg (by omega), Nat.sub_sub]

/-- Nothing changes when there is nothing to take or nothing to take it from. -/
theorem drain_eq_self_iff {stocks : List Nat} {amount : Nat} :
    drain stocks amount = stocks ↔ amount = 0 ∨ stocks.sum = 0 := by
  constructor
  · intro h
    have hsum := sum_drain stocks amount
    rw [h] at hsum
    omega
  · rintro (rfl | hsum)
    · exact drain_zero stocks
    · induction stocks generalizing amount with
      | nil => rfl
      | cons stock rest ih =>
        rw [List.sum_cons, Nat.add_eq_zero_iff] at hsum
        obtain ⟨rfl, hrest⟩ := hsum
        rw [drain, ih hrest]
        split <;> simp

end Drain

end Library

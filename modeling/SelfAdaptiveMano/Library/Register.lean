import Mathlib.Data.List.Basic

/-!
# Registers

A register has rows that are numbered from one on. A new row comes after those
that are there, and rows are amended where they are; none is ever taken out.
-/

namespace Library

namespace Register

variable {ρ β : Type*}

def row (rows : List ρ) : Nat → Option ρ
  | 0 => none
  | i + 1 => rows[i]?

def amend (rows : List ρ) (f : ρ → ρ) : Nat → List ρ
  | 0 => rows
  | i + 1 => rows.modify i f

theorem row_length_succ_append (rows : List ρ) (r : ρ) :
    row (rows ++ [r]) (rows.length + 1) = some r := by
  rw [row, List.getElem?_append_right (Nat.le_refl _), Nat.sub_self]
  rfl

theorem row_append_of_ne {rows : List ρ} {n : Nat} (h : n ≠ rows.length + 1) (r : ρ) :
    row (rows ++ [r]) n = row rows n := by
  cases n with
  | zero => rfl
  | succ i =>
      rw [row, row]
      rcases Nat.lt_or_ge i rows.length with hlt | hge
      · exact List.getElem?_append_left hlt
      · have hout : (rows ++ [r]).length ≤ i := by
          rw [List.length_append, List.length_singleton]
          exact Nat.lt_of_le_of_ne hge fun heq => h (congrArg (· + 1) heq.symm)
        rw [List.getElem?_eq_none hout, List.getElem?_eq_none hge]

theorem row_eq_none_of_length_lt {rows : List ρ} {n : Nat} (h : rows.length < n) :
    row rows n = none := by
  cases n with
  | zero => rfl
  | succ i => exact List.getElem?_eq_none (Nat.le_of_lt_succ h)

theorem row_amend (rows : List ρ) (f : ρ → ρ) (n k : Nat) :
    row (amend rows f n) k = if k = n then (row rows k).map f else row rows k := by
  cases n with
  | zero =>
      cases k with
      | zero => rfl
      | succ i => rw [amend, if_neg (Nat.succ_ne_zero i)]
  | succ j =>
      cases k with
      | zero => rw [if_neg (Nat.succ_ne_zero j).symm, row, row]
      | succ i =>
          rw [amend, row, row, List.getElem?_modify]
          by_cases h : i = j
          · rw [if_pos (congrArg (· + 1) h), h]
            simp
          · rw [if_neg fun heq => h (Nat.succ.inj heq)]
            simp [Ne.symm h]

theorem map_amend (g : ρ → β) (f : ρ → ρ) (h : ∀ r, g (f r) = g r) (rows : List ρ)
    (n : Nat) : (amend rows f n).map g = rows.map g := by
  cases n with
  | zero => rfl
  | succ i =>
      apply List.ext_getElem?
      intro j
      rw [amend, List.getElem?_map, List.getElem?_map, List.getElem?_modify]
      cases rows[j]? with
      | none => rfl
      | some r =>
          by_cases hij : i = j
          · simp [hij, h]
          · simp [hij]

theorem length_amend (rows : List ρ) (f : ρ → ρ) (n : Nat) :
    (amend rows f n).length = rows.length := by
  cases n with
  | zero => rfl
  | succ i => exact List.length_modify f rows i

end Register

end Library

import Mathlib.Algebra.BigOperators.Group.List.Basic
import Mathlib.Algebra.BigOperators.Ring.List
import Mathlib.Algebra.BigOperators.Ring.Finset
import Mathlib.Data.Rat.Star
import Mathlib.Algebra.Order.Ring.Star

/-!
# Linear programs over families of variables

A solver is given variables in families: each family has its variables under tuples of
numbers, and an expression sums those whose tuple matches a pattern. `select`, `sum` and
`prod` do what these methods of the `tupledict` of gurobipy do. A linear expression is a
list of variables with their coefficients, a constraint compares one with a number, and
an assignment is feasible when it keeps the bounds of every variable and every
constraint (`Feasible`).
-/

namespace Library

namespace LinearPrograms

/-! ## Tuples and patterns -/

/-- An entry of a pattern: `'*'`, a number or a list of numbers. -/
inductive Pattern where
  | any
  | one (n : Nat)
  | oneOf (l : List Nat)
  deriving DecidableEq, Repr

def Pattern.accepts : Pattern → Nat → Bool
  | any, _ => true
  | one m, n => m == n
  | oneOf l, n => l.contains n

def accepts : List Pattern → List Nat → Bool
  | [], [] => true
  | p :: pattern, n :: key => p.accepts n && accepts pattern key
  | _, _ => false

def select (pattern : List Pattern) (keys : List (List Nat)) : List (List Nat) :=
  keys.filter (accepts pattern)

theorem accepts_append {front front' : List Nat} (back : List Pattern)
    (back' : List Nat) (h : front.length = front'.length) :
    accepts (front.map .one ++ back) (front' ++ back') =
      (decide (front = front') && accepts back back') := by
  induction front generalizing front' with
  | nil =>
      rw [List.eq_nil_of_length_eq_zero h.symm]
      simp
  | cons n front ih =>
      obtain ⟨n', front', rfl⟩ := List.exists_cons_of_length_eq_add_one h.symm
      have hrest := ih (Nat.succ.inj h)
      simp only [List.map_cons, List.cons_append, accepts, Pattern.accepts, hrest,
        List.cons.injEq, Bool.decide_and]
      rw [Bool.and_assoc, beq_eq_decide]

/-! ## Expressions, constraints and programs -/

abbrev LinExpr (ν : Type) := List (ℚ × ν)

namespace LinExpr

variable {ν : Type}

def sum (l : List ν) : LinExpr ν := l.map fun v => (1, v)

def prod {κ : Type} (coeff : κ → ℚ) (var : κ → ν) (l : List κ) : LinExpr ν :=
  l.map fun key => (coeff key, var key)

def scale (c : ℚ) (e : LinExpr ν) : LinExpr ν := e.map fun term => (c * term.1, term.2)

def neg (e : LinExpr ν) : LinExpr ν := e.scale (-1)

def eval (x : ν → ℚ) (e : LinExpr ν) : ℚ := (e.map fun term => term.1 * x term.2).sum

variable {x : ν → ℚ} {e e' : LinExpr ν}

@[simp] theorem eval_nil : eval x ([] : LinExpr ν) = 0 := rfl

@[simp] theorem eval_append : eval x (e ++ e') = eval x e + eval x e' := by
  simp [eval]

@[simp] theorem eval_sum (l : List ν) : eval x (sum l) = (l.map x).sum := by
  simp [eval, sum, Function.comp_def]

@[simp] theorem eval_prod {κ : Type} (coeff : κ → ℚ) (var : κ → ν) (l : List κ) :
    eval x (prod coeff var l) = (l.map fun key => coeff key * x (var key)).sum := by
  simp [eval, prod, Function.comp_def]

@[simp] theorem eval_scale (c : ℚ) : eval x (e.scale c) = c * eval x e := by
  simp [eval, scale, Function.comp_def, mul_assoc, List.sum_map_mul_left]

@[simp] theorem eval_neg : eval x e.neg = -eval x e := by
  rw [neg, eval_scale, neg_one_mul]

theorem eval_flatMap {α : Type} (l : List α) (g : α → LinExpr ν) :
    eval x (l.flatMap g) = (l.map fun a => eval x (g a)).sum := by
  induction l with
  | nil => rfl
  | cons a l ih => rw [List.flatMap_cons, eval_append, ih, List.map_cons, List.sum_cons]

end LinExpr

inductive Sense where
  | eq
  | le
  deriving DecidableEq, Repr

structure Constr (ν : Type) where
  lhs : LinExpr ν
  sense : Sense
  rhs : ℚ
  deriving DecidableEq

def Constr.Holds {ν : Type} (x : ν → ℚ) (constr : Constr ν) : Prop :=
  match constr.sense with
  | .eq => constr.lhs.eval x = constr.rhs
  | .le => constr.lhs.eval x ≤ constr.rhs

inductive VarType where
  | continuous
  | binary
  deriving DecidableEq, Repr

/-- A variable with its type and its bounds. -/
structure Var (ν : Type) where
  name : ν
  vtype : VarType
  lb : ℚ
  ub : ℚ
  deriving DecidableEq

structure Var.Admits {ν : Type} (x : ν → ℚ) (var : Var ν) : Prop where
  lb : var.lb ≤ x var.name
  ub : x var.name ≤ var.ub
  binary : var.vtype = .binary → x var.name = 0 ∨ x var.name = 1

structure Model (ν : Type) where
  vars : List (Var ν)
  constrs : List (Constr ν)
  deriving DecidableEq

/-- The assignment keeps all bounds and constraints. -/
structure Model.Feasible {ν : Type} (model : Model ν) (x : ν → ℚ) : Prop where
  vars : ∀ var ∈ model.vars, var.Admits x
  constrs : ∀ constr ∈ model.constrs, constr.Holds x

end LinearPrograms

end Library

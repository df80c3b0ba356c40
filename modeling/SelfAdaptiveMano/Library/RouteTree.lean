import Mathlib.Data.Finset.Basic
import SelfAdaptiveMano.Library.PrefixTable

/-!
# The smallest prefix table of a routing function

A route tree gives each address what stands at the leaf that the address leads
to. `candidates` is the set of values which a table can pass down to a tree at
no extra cost: for a leaf its own value, for a fork those that both halves take,
and those that either half takes when there is none of the former. `cost` is the
number of forks of the second kind.

A table which routes like a tree has at least `cost` entries, and one more when
the value that it inherits is not a candidate (`cost_add_missing_le`). The
argument is by induction on the tree: an entry at the root pays for a change of
the inherited value, and at a fork of the second kind the value passed down is
missing from one of the halves.
-/

namespace Library

/-- Addresses split bit by bit down to leaves. -/
inductive RouteTree (α : Type*) where
  | leaf (a : α)
  | fork (l r : RouteTree α)
  deriving DecidableEq

namespace RouteTree

variable {α : Type*}

/-- What the leaf holds that an address leads to; an address that ends early is
continued with zeros. -/
def hop : RouteTree α → List Bool → α
  | leaf a, _ => a
  | fork l _, [] => l.hop []
  | fork l r, b :: address => if b then r.hop address else l.hop address

def depth : RouteTree α → Nat
  | leaf _ => 0
  | fork l r => max l.depth r.depth + 1

@[simp] theorem hop_leaf (a : α) (address : List Bool) :
    (leaf a).hop address = a := by
  cases address <;> rfl

@[simp] theorem hop_fork_cons (l r : RouteTree α) (b : Bool)
    (address : List Bool) :
    (fork l r).hop (b :: address) =
      if b then r.hop address else l.hop address := rfl

variable [DecidableEq α]

/-- The values that a table can pass down to the tree at no extra cost. -/
def candidates : RouteTree α → Finset α
  | leaf a => {a}
  | fork l r =>
      if l.candidates ∩ r.candidates = ∅ then l.candidates ∪ r.candidates
      else l.candidates ∩ r.candidates

def cost : RouteTree α → Nat
  | leaf _ => 0
  | fork l r => l.cost + r.cost +
      if l.candidates ∩ r.candidates = ∅ then 1 else 0

/-- One more entry is needed when the inherited value is not a candidate. -/
def missing (t : RouteTree α) (inherited : Option α) : Nat :=
  if ∃ a ∈ inherited, a ∈ t.candidates then 0 else 1

theorem candidates_nonempty (t : RouteTree α) : t.candidates.Nonempty := by
  induction t with
  | leaf a => exact Finset.singleton_nonempty a
  | fork l r ihl ihr =>
      rw [candidates]
      split
      · exact ihl.mono Finset.subset_union_left
      · next h => exact Finset.nonempty_iff_ne_empty.mpr h

theorem missing_le_one (t : RouteTree α) (inherited : Option α) :
    t.missing inherited ≤ 1 := by
  rw [missing]
  split <;> omega

theorem missing_some (t : RouteTree α) (a : α) :
    t.missing (some a) = if a ∈ t.candidates then 0 else 1 := by
  simp [missing]

theorem missing_none (t : RouteTree α) : t.missing none = 1 := by
  simp [missing]

/-- What the halves of a fork cost more than the fork itself, when a value is
passed down to both. -/
theorem missing_fork_le (l r : RouteTree α) (inherited : Option α) :
    (fork l r).missing inherited +
        (if l.candidates ∩ r.candidates = ∅ then 1 else 0) ≤
      l.missing inherited + r.missing inherited := by
  cases inherited with
  | none => simp only [missing_none]; split <;> omega
  | some a =>
      simp only [missing_some, candidates]
      by_cases hcommon : l.candidates ∩ r.candidates = ∅
      · have hnot : ¬ (a ∈ l.candidates ∧ a ∈ r.candidates) := fun ha => by
          have hmem := Finset.mem_inter.mpr ha
          rw [hcommon] at hmem
          exact Finset.notMem_empty a hmem
        simp only [hcommon, if_true, Finset.mem_union]
        by_cases hl : a ∈ l.candidates
        · have hr : a ∉ r.candidates := fun hr => hnot ⟨hl, hr⟩
          simp [hl, hr]
        · by_cases hr : a ∈ r.candidates <;> simp [hl, hr]
      · simp only [hcommon, if_false, Finset.mem_inter]
        by_cases hl : a ∈ l.candidates <;> by_cases hr : a ∈ r.candidates <;>
          simp [hl, hr]

theorem missing_fork_of_mem {l r : RouteTree α} {a : α}
    (h : a ∈ (fork l r).candidates) :
    l.missing (some a) + r.missing (some a) =
      if l.candidates ∩ r.candidates = ∅ then 1 else 0 := by
  have hle := missing_fork_le l r (some a)
  rw [missing_some, if_pos h] at hle
  rw [candidates] at h
  simp only [missing_some] at hle ⊢
  by_cases hcommon : l.candidates ∩ r.candidates = ∅
  · rw [if_pos hcommon, Finset.mem_union] at h
    rw [if_pos hcommon] at hle ⊢
    obtain hl | hr := h
    · rw [if_pos hl] at hle ⊢
      split at hle <;> simp_all
    · rw [if_pos hr] at hle ⊢
      split at hle <;> simp_all
  · rw [if_neg hcommon, Finset.mem_inter] at h
    rw [if_neg hcommon, if_pos h.1, if_pos h.2]

/-- A table that routes the addresses of a width like the tree, from what it
inherits, has at least `cost` entries, and one more when the inherited value is
missing. -/
theorem cost_add_missing_le (t : RouteTree α) {width : Nat}
    (hdepth : t.depth ≤ width) {table : PrefixTable α} {inherited : Option α}
    (hroutes : ∀ address : List Bool, address.length = width →
      table.lookup inherited address = some (t.hop address)) :
    t.cost + t.missing inherited ≤ table.length := by
  induction t generalizing width table inherited with
  | leaf a =>
      cases table with
      | cons entry table =>
          have hle := missing_le_one (leaf a) inherited
          simp only [cost, List.length_cons]
          omega
      | nil =>
          -- every address of the region takes the inherited value
          have haddress := hroutes (List.replicate width false) (by simp)
          rw [PrefixTable.lookup_eq_default (by simp), hop_leaf] at haddress
          simp [haddress, missing_some, candidates, cost]
  | fork l r ihl ihr =>
      obtain ⟨width, rfl⟩ : ∃ w, width = w + 1 :=
        ⟨width - 1, by rw [depth] at hdepth; omega⟩
      have hbelow : max l.depth r.depth ≤ width := by
        rw [depth] at hdepth
        omega
      have hl : l.cost + l.missing (table.atRoot.or inherited) ≤
          (table.below false).length :=
        ihl (le_trans (le_max_left ..) hbelow) fun address hlength => by
          simpa using hroutes (false :: address) (by simp [hlength])
      have hr : r.cost + r.missing (table.atRoot.or inherited) ≤
          (table.below true).length :=
        ihr (le_trans (le_max_right ..) hbelow) fun address hlength => by
          simpa using hroutes (true :: address) (by simp [hlength])
      have hlength := PrefixTable.length_below table
      have hfork := missing_fork_le l r (table.atRoot.or inherited)
      rw [cost]
      cases hroot : table.atRoot with
      | none =>
          rw [hroot, Option.none_or] at hl hr hfork
          rw [hroot, Option.toList_none, List.length_nil] at hlength
          omega
      | some a =>
          have hle := missing_le_one (fork l r) inherited
          rw [hroot, Option.some_or] at hl hr hfork
          rw [hroot, Option.toList_some, List.length_singleton] at hlength
          omega

/-- A table that routes like the tree, with no default, has more than `cost`
entries. -/
theorem cost_lt_length (t : RouteTree α) {width : Nat}
    (hdepth : t.depth ≤ width) {table : PrefixTable α}
    (hroutes : ∀ address : List Bool, address.length = width →
      table.lookup none address = some (t.hop address)) :
    t.cost < table.length := by
  have hle := t.cost_add_missing_le hdepth hroutes
  rw [missing_none] at hle
  exact hle

end RouteTree

end Library

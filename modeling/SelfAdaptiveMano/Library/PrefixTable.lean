import Mathlib.Data.List.Basic

/-!
# Prefix tables and longest-prefix match

A prefix table is a list of entries, each a prefix and what is stored for it. An
address takes the entry with the longest prefix of it, the first one of these in
the list, and otherwise the default.

The match is defined by recursion on the address: `atRoot` is the entry of the
empty prefix, and `below b` is the table of the addresses behind the bit `b`.
`lookup_eq_of_longest` says that this is the longest prefix.
-/

namespace Library

abbrev PrefixTable (α : Type*) := List (List Bool × α)

namespace PrefixTable

variable {α : Type*}

def atRoot : PrefixTable α → Option α
  | [] => none
  | ([], a) :: _ => some a
  | (_ :: _, _) :: table => atRoot table

/-- The entries behind the bit `b`, with the bit taken off. -/
def below (b : Bool) : PrefixTable α → PrefixTable α
  | [] => []
  | ([], _) :: table => below b table
  | (b' :: p, a) :: table =>
      if b' = b then (p, a) :: below b table else below b table

/-- The entry of the longest prefix of the address, `default` without one. -/
def lookup (table : PrefixTable α) (default : Option α) :
    List Bool → Option α
  | [] => (atRoot table).or default
  | b :: address => lookup (below b table) ((atRoot table).or default) address

@[simp] theorem lookup_nil (table : PrefixTable α) (default : Option α) :
    lookup table default [] = (atRoot table).or default := rfl

@[simp] theorem lookup_cons (table : PrefixTable α) (default : Option α)
    (b : Bool) (address : List Bool) :
    lookup table default (b :: address) =
      lookup (below b table) ((atRoot table).or default) address := rfl

theorem atRoot_append (table table' : PrefixTable α) :
    atRoot (table ++ table') = (atRoot table).or (atRoot table') := by
  induction table with
  | nil => rfl
  | cons entry table ih =>
      obtain ⟨p, a⟩ := entry
      cases p with
      | nil => rfl
      | cons b p => exact ih

theorem below_append (b : Bool) (table table' : PrefixTable α) :
    below b (table ++ table') = below b table ++ below b table' := by
  induction table with
  | nil => rfl
  | cons entry table ih =>
      obtain ⟨p, a⟩ := entry
      cases p with
      | nil => exact ih
      | cons b' p =>
          simp only [List.cons_append, below, ih]
          split <;> rfl

theorem below_append_singleton (b b' : Bool) (table : PrefixTable α)
    (p : List Bool) (a : α) :
    below b' (table ++ [(b :: p, a)]) =
      below b' table ++ if b = b' then [(p, a)] else [] := by
  rw [below_append]
  simp only [below]

theorem mem_below {b : Bool} {table : PrefixTable α} {p : List Bool} {a : α} :
    (p, a) ∈ below b table ↔ (b :: p, a) ∈ table := by
  induction table with
  | nil => simp [below]
  | cons entry table ih =>
      obtain ⟨q, a'⟩ := entry
      cases q with
      | nil => simp [below, ih]
      | cons b' q =>
          by_cases hb : b' = b
          · simp [below, hb, ih]
          · have hb' : ¬ b = b' := fun h => hb h.symm
            simp [below, hb, hb', ih]

theorem atRoot_eq_none {table : PrefixTable α} :
    atRoot table = none ↔ ∀ a, ([], a) ∉ table := by
  induction table with
  | nil => simp [atRoot]
  | cons entry table ih =>
      obtain ⟨q, a'⟩ := entry
      cases q with
      | nil =>
          simp only [atRoot, reduceCtorEq, false_iff]
          intro h
          exact h a' List.mem_cons_self
      | cons b q => simp [atRoot, ih]

/-- An entry behind a bit is in one of the two halves, or at the root: the three
parts together are no larger than the table. -/
theorem length_below (table : PrefixTable α) :
    (atRoot table).toList.length + (below false table).length +
      (below true table).length ≤ table.length := by
  induction table with
  | nil => simp [atRoot, below]
  | cons entry table ih =>
      obtain ⟨q, a⟩ := entry
      cases q with
      | nil =>
          simp only [atRoot, below, Option.toList_some, List.length_cons,
            List.length_nil]
          omega
      | cons b q =>
          cases b <;> simp only [atRoot, below, if_true, reduceCtorEq, if_false,
            List.length_cons, Bool.false_eq_true] <;> omega

/-- The table of the addresses behind the bit `b`, put behind the bit again. -/
def behind (b : Bool) (table : PrefixTable α) : PrefixTable α :=
  table.map fun entry => (b :: entry.1, entry.2)

@[simp] theorem length_behind (b : Bool) (table : PrefixTable α) :
    (behind b table).length = table.length := List.length_map ..

@[simp] theorem atRoot_behind (b : Bool) (table : PrefixTable α) :
    atRoot (behind b table) = none := by
  induction table with
  | nil => rfl
  | cons entry table ih => exact ih

@[simp] theorem below_behind (b b' : Bool) (table : PrefixTable α) :
    below b' (behind b table) = if b = b' then table else [] := by
  induction table with
  | nil => simp [behind, below]
  | cons entry table ih =>
      change below b' ((b :: entry.1, entry.2) :: behind b table) = _
      by_cases hb : b = b'
      · simp only [below, hb, if_true] at ih ⊢
        rw [ih]
      · simp only [below, hb, if_false] at ih ⊢
        exact ih

/-! ## The longest prefix -/

theorem lookup_eq_default {table : PrefixTable α} {address : List Bool}
    (h : ∀ entry ∈ table, ¬ entry.1 <+: address) (default : Option α) :
    lookup table default address = default := by
  induction address generalizing table default with
  | nil =>
      have hroot : atRoot table = none := atRoot_eq_none.mpr fun a hmem =>
        h _ hmem (List.nil_prefix ..)
      rw [lookup_nil, hroot, Option.none_or]
  | cons b address ih =>
      have hroot : atRoot table = none := atRoot_eq_none.mpr fun a hmem =>
        h _ hmem (List.nil_prefix ..)
      rw [lookup_cons, hroot, Option.none_or]
      refine ih ?_ default
      rintro ⟨p, a⟩ hmem hpre
      exact h _ (mem_below.mp hmem) ((List.prefix_cons_inj b).mpr hpre)

theorem lookup_eq_of_longest {before after : PrefixTable α} {p address : List Bool}
    {a : α} (hpre : p <+: address)
    (hlongest : ∀ entry ∈ before ++ after, entry.1 <+: address →
      entry.1.length ≤ p.length)
    (hfirst : ∀ entry ∈ before, entry.1 ≠ p) (default : Option α) :
    lookup (before ++ (p, a) :: after) default address = some a := by
  induction p generalizing before after address default with
  | nil =>
      have hroot : atRoot (before ++ ([], a) :: after) = some a := by
        rw [atRoot_append, atRoot_eq_none.mpr fun a' hmem => hfirst _ hmem rfl]
        rfl
      cases address with
      | nil => rw [lookup_nil, hroot, Option.some_or]
      | cons b address =>
          rw [lookup_cons, hroot, Option.some_or]
          -- a deeper entry would have a longer prefix
          refine lookup_eq_default ?_ _
          rintro ⟨q, a'⟩ hmem hq
          rw [mem_below, List.mem_append, List.mem_cons] at hmem
          have hmem' : (b :: q, a') ∈ before ++ after := by
            obtain hmem | heq | hmem := hmem
            · exact List.mem_append_left _ hmem
            · cases heq
            · exact List.mem_append_right _ hmem
          have hle := hlongest _ hmem' ((List.prefix_cons_inj b).mpr hq)
          simp at hle
  | cons b p ih =>
      obtain ⟨address, rfl⟩ : ∃ rest, address = b :: rest := by
        obtain ⟨rest, rfl⟩ := hpre
        exact ⟨p ++ rest, rfl⟩
      rw [lookup_cons, below_append]
      simp only [below, if_true]
      refine ih ((List.prefix_cons_inj b).mp hpre) ?_ ?_ _
      · rintro ⟨q, a'⟩ hmem hq
        have hmem' : (b :: q, a') ∈ before ++ after := by
          rw [← below_append] at hmem
          exact mem_below.mp hmem
        have hle := hlongest _ hmem' ((List.prefix_cons_inj b).mpr hq)
        simpa using hle
      · rintro ⟨q, a'⟩ hmem heq
        refine hfirst _ (mem_below.mp hmem) ?_
        simpa using heq

theorem lookup_eq_of_whole {before after : PrefixTable α} {address : List Bool}
    {a : α} (hfirst : ∀ entry ∈ before, entry.1 ≠ address)
    (default : Option α) :
    lookup (before ++ (address, a) :: after) default address = some a :=
  lookup_eq_of_longest (List.prefix_refl address)
    (fun _ _ hpre => hpre.length_le) hfirst default

end PrefixTable

end Library

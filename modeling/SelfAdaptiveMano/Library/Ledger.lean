import SelfAdaptiveMano.Library.Dict
import SelfAdaptiveMano.Library.Python
import Mathlib.Algebra.BigOperators.Group.List.Basic

/-!
# Two-level ledgers

A ledger has an entry with an amount for each zone and key that something was
reserved of. Entries come into being with the first reservation. What an entry
says is compared with the list of all amounts that were reserved (and, with the
other sign, released) under it.
-/

namespace Library

abbrev Ledger (ζ κ ν : Type) := Dict ζ (Dict κ ν)

namespace Ledger

variable {ζ κ ν : Type} [DecidableEq ζ] [DecidableEq κ]

/-- `d[z][k]`, if it is there. -/
def entry (d : Ledger ζ κ ν) (z : ζ) (k : κ) : Option ν :=
  (d.get? z).bind fun entries => entries.get? k

/-- A zone that is not there is created. -/
def withZone (z : ζ) (d : Ledger ζ κ ν) : Ledger ζ κ ν :=
  if d.contains z then d else d.set z .empty

/-- `d[z][k] = v` -/
def put (z : ζ) (k : κ) (v : ν) (d : Ledger ζ κ ν) : Ledger ζ κ ν :=
  d.modify z fun entries => entries.set k v

def reserve [Add ν] (z : ζ) (k : κ) (v : ν) (d : Ledger ζ κ ν) :
    Ledger ζ κ ν :=
  let d := d.withZone z
  match d.entry z k with
  | none => d.put z k v
  | some old => d.put z k (old + v)

def release [Sub ν] (unknown : PyError) (z : ζ) (k : κ) (v : ν) :
    PyM (Ledger ζ κ ν) Unit := do
  modify (withZone z)
  match (← get).entry z k with
  | none => throw unknown
  | some old => modify (put z k (old - v))

def total [Add ν] [Zero ν] (amounts : List ν) : Option ν :=
  if amounts.isEmpty then none else some amounts.sum

section Entries

variable {d : Ledger ζ κ ν} {z z' : ζ} {k k' : κ}

@[simp] theorem entry_empty : entry (Dict.empty : Ledger ζ κ ν) z k = none := rfl

theorem entry_withZone : (d.withZone z).entry z' k = d.entry z' k := by
  rw [withZone]
  split
  · rfl
  · next hcontains =>
      have hnone : d.get? z = none := by
        simpa [Dict.contains_eq_true_iff] using hcontains
      rw [entry, entry, Dict.get?_set]
      split
      · next heq => simp [heq, hnone]
      · rfl

omit [DecidableEq κ] in
theorem get?_withZone : ∃ entries, (d.withZone z).get? z = some entries := by
  rw [withZone]
  split
  · next hcontains => exact Option.isSome_iff_exists.mp hcontains
  · exact ⟨_, Dict.get?_set_self ..⟩

theorem entry_put {v : ν} :
    ((d.withZone z).put z k v).entry z' k' =
      if z' = z ∧ k' = k then some v else d.entry z' k' := by
  obtain ⟨entries, hentries⟩ := d.get?_withZone (z := z)
  have hwith : d.entry z' k' = (d.withZone z).entry z' k' := entry_withZone.symm
  rw [hwith, entry, entry, put, Dict.get?_modify]
  by_cases hz : z' = z
  · subst hz
    by_cases hk : k' = k
    · simp [hentries, hk]
    · simp [hentries, hk, Dict.get?_set_of_ne _ _ hk]
  · simp [hz]

end Entries

section Amounts

variable [AddCommGroup ν] {d : Ledger ζ κ ν} {z : ζ} {k : κ} {v : ν}

theorem total_concat (amounts : List ν) (v : ν) :
    total (amounts ++ [v]) = some ((total amounts).getD 0 + v) := by
  cases amounts with
  | nil => simp [total]
  | cons a amounts => simp [total, add_assoc]

theorem entry_reserve (z' : ζ) (k' : κ) :
    (d.reserve z k v).entry z' k' =
      if z' = z ∧ k' = k then some ((d.entry z k).getD 0 + v)
      else d.entry z' k' := by
  rw [reserve, entry_withZone]
  cases hentry : d.entry z k with
  | none => rw [entry_put, Option.getD_none, zero_add]
  | some old => rw [entry_put, Option.getD_some]

theorem run_release {old : ν} (unknown : PyError)
    (h : d.entry z k = some old) :
    ∃ d', (release unknown z k v).run d = .ok () d' ∧ ∀ z' k', d'.entry z' k' =
      if z' = z ∧ k' = k then some (old - v) else d.entry z' k' := by
  refine ⟨(d.withZone z).put z k (old - v), ?_, fun _ _ => entry_put⟩
  have hentry : (d.withZone z).entry z k = some old := entry_withZone.trans h
  have hzone : (modify (withZone z) : PyM (Ledger ζ κ ν) PUnit).run d =
      .ok ⟨⟩ (d.withZone z) := rfl
  rw [release, PyM.run_bind_ok hzone, PyM.run_bind_get, hentry]
  rfl

def recorded (d : Ledger ζ κ ν) (z : ζ) (k : κ) : ν := (d.entry z k).getD 0

def single (z : ζ) (k : κ) (v : ν) : ζ → κ → ν := fun z' k' =>
  if z' = z ∧ k' = k then v else 0

theorem single_zero (z : ζ) (k : κ) : single z k (0 : ν) = 0 := by
  funext z' k'
  exact ite_self 0

omit [DecidableEq ζ] [DecidableEq κ] in
theorem sum_apply (amounts : List (ζ → κ → ν)) (z : ζ) (k : κ) :
    amounts.sum z k = (amounts.map fun a => a z k).sum := by
  induction amounts with
  | nil => rfl
  | cons a amounts ih =>
      rw [List.sum_cons, List.map_cons, List.sum_cons, ← ih]
      rfl

def Adds (amounts : ζ → κ → ν) (d d' : Ledger ζ κ ν) : Prop :=
  ∀ z k, d'.recorded z k = d.recorded z k + amounts z k

theorem adds_zero (d : Ledger ζ κ ν) : Adds (0 : ζ → κ → ν) d d :=
  fun _ _ => (add_zero _).symm

theorem adds_reserve (d : Ledger ζ κ ν) (z : ζ) (k : κ) (v : ν) :
    Adds (single z k v) d (d.reserve z k v) := by
  intro z' k'
  rw [recorded, recorded, entry_reserve, single]
  by_cases heq : z' = z ∧ k' = k
  · obtain ⟨rfl, rfl⟩ := heq
    simp
  · simp [heq]

theorem Adds.trans {amounts amounts' : ζ → κ → ν} {d d' d'' : Ledger ζ κ ν}
    (h : Adds amounts d d') (h' : Adds amounts' d' d'') :
    Adds (amounts + amounts') d d'' := by
  intro z k
  rw [h', h, add_assoc]
  rfl

theorem Adds.unique {amounts amounts' : ζ → κ → ν} {d d' : Ledger ζ κ ν}
    (h : Adds amounts d d') (h' : Adds amounts' d d') : amounts = amounts' := by
  funext z k
  exact add_left_cancel ((h z k).symm.trans (h' z k))

def Records (amounts : ζ → κ → List ν) (d : Ledger ζ κ ν) : Prop :=
  ∀ z k, d.entry z k = total (amounts z k)

theorem records_empty :
    Records (fun _ _ => []) (Dict.empty : Ledger ζ κ ν) := fun _ _ => rfl

theorem Records.of_entry {amounts amounts' : ζ → κ → List ν}
    {d d' : Ledger ζ κ ν} (h : Records amounts d)
    (hself : amounts' z k = amounts z k ++ [v])
    (hothers : ∀ z' k', ¬ (z' = z ∧ k' = k) → amounts' z' k' = amounts z' k')
    (hentry : ∀ z' k', d'.entry z' k' =
      if z' = z ∧ k' = k then some ((d.entry z k).getD 0 + v)
      else d.entry z' k') : Records amounts' d' := by
  intro z' k'
  rw [hentry]
  by_cases heq : z' = z ∧ k' = k
  · obtain ⟨rfl, rfl⟩ := heq
    rw [if_pos ⟨rfl, rfl⟩, hself, total_concat, h]
  · rw [if_neg heq, hothers z' k' heq, h]

theorem Records.congr {amounts amounts' : ζ → κ → List ν} (h : Records amounts d)
    (heq : ∀ z k, amounts' z k = amounts z k) : Records amounts' d := by
  intro z k
  rw [heq, h]

end Amounts

end Ledger

end Library

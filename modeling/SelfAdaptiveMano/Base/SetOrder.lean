import Mathlib.Data.Finset.Sort
import SelfAdaptiveMano.Library.Dict

/-!
# The orders of sets and dictionaries

Python lists a set in an order of its own, and Python 2 a dictionary too. Both
orders are parameters of the model.
-/

namespace SelfAdaptiveMano

structure SetOrder (α : Type) where
  list : Finset α → List α
  list_perm : ∀ s, (list s : Multiset α) = s.val

namespace SetOrder

variable {α : Type} (order : SetOrder α)

@[simp] theorem mem_list {a : α} {s : Finset α} : a ∈ order.list s ↔ a ∈ s := by
  rw [← Multiset.mem_coe, order.list_perm, Finset.mem_val]

@[simp] theorem list_singleton (a : α) : order.list {a} = [a] := by
  have hperm : ((order.list {a} : List α) : Multiset α) = ([a] : List α) :=
    order.list_perm {a}
  exact List.perm_singleton.mp (Multiset.coe_eq_coe.mp hperm)

theorem list_eq_singleton {a : α} {s : Finset α} :
    order.list s = [a] ↔ s = {a} := by
  constructor
  · intro h
    apply Finset.val_injective
    rw [← order.list_perm, h]
    rfl
  · rintro rfl
    exact order.list_singleton a

theorem nodup_list (s : Finset α) : (order.list s).Nodup := by
  rw [← Multiset.coe_nodup, order.list_perm]
  exact s.nodup

def sorted {α : Type} [LinearOrder α] : SetOrder α where
  list s := s.sort (· ≤ ·)
  list_perm s := Finset.sort_eq s (· ≤ ·)

end SetOrder

open Library

/-- The order in which a dictionary is gone through. -/
structure DictOrder where
  items : ∀ {κ ν : Type}, Dict κ ν → List (κ × ν)
  items_perm : ∀ {κ ν : Type} (d : Dict κ ν), (items d).Perm d.items

namespace DictOrder

variable (order : DictOrder) {κ ν : Type}

theorem mem_items [DecidableEq κ] {d : Dict κ ν} {k : κ} {v : ν} :
    (k, v) ∈ order.items d ↔ d.get? k = some v := by
  rw [(order.items_perm d).mem_iff, Dict.mem_items_iff]

@[simp] theorem items_eq_nil_iff {d : Dict κ ν} :
    order.items d = [] ↔ d.items = [] := by
  have hperm := order.items_perm d
  constructor
  · intro h
    exact List.nil_perm.mp (h ▸ hperm)
  · intro h
    exact List.perm_nil.mp (h ▸ hperm)

/-- `copy.deepcopy`, which stores the items in the order in which it goes through
them. -/
def copy (d : Dict κ ν) : Dict κ ν where
  items := order.items d
  nodup_keys := ((order.items_perm d).map Prod.fst).nodup_iff.mpr d.nodup_keys

@[simp] theorem get?_copy [DecidableEq κ] (d : Dict κ ν) (k : κ) :
    (order.copy d).get? k = d.get? k := by
  apply Option.ext
  intro v
  rw [← Dict.mem_items_iff]
  exact order.mem_items

def insertion : DictOrder where
  items := Dict.items
  items_perm _ := .refl _

end DictOrder

end SelfAdaptiveMano

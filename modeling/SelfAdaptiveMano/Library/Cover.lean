import SelfAdaptiveMano.Library.Dict
import Mathlib.Data.Set.Basic

/-!
# What the values of a dictionary need together

Each value of a dictionary needs some things, and things may be needed by more
than one value. `needed f d` are the things needed by some value of `d`. When a
value is set or erased, what matters is which of the things of the value under
the key are still needed by the others.
-/

namespace Library.Dict

variable {κ ν α : Type*} [DecidableEq κ] (f : ν → Set α) (d : Dict κ ν)

/-- The things that some value of `d` needs. -/
def needed : Set α :=
  {a | ∃ k v, d.get? k = some v ∧ a ∈ f v}

variable {f d} {k : κ} {v : ν} {a : α}

theorem mem_needed_of_get? (h : d.get? k = some v) (ha : a ∈ f v) :
    a ∈ needed f d := ⟨k, v, h, ha⟩

@[simp] theorem needed_empty : needed f (empty : Dict κ ν) = ∅ := by
  ext a
  simp [needed]

theorem mem_needed_erase_iff : a ∈ needed f (d.erase k) ↔
    ∃ k' v, k' ≠ k ∧ d.get? k' = some v ∧ a ∈ f v := by
  simp only [needed, Set.mem_ofPred_eq, get?_erase]
  constructor
  · rintro ⟨k', v, hv, ha⟩
    split at hv
    · cases hv
    · exact ⟨k', v, by assumption, hv, ha⟩
  · rintro ⟨k', v, hne, hv, ha⟩
    exact ⟨k', v, by rw [if_neg hne, hv], ha⟩

theorem mem_needed_iff (k : κ) : a ∈ needed f d ↔
    (∃ v, d.get? k = some v ∧ a ∈ f v) ∨ a ∈ needed f (d.erase k) := by
  rw [mem_needed_erase_iff]
  constructor
  · rintro ⟨k', v, hv, ha⟩
    by_cases hk : k' = k
    · subst hk
      exact Or.inl ⟨v, hv, ha⟩
    · exact Or.inr ⟨k', v, hk, hv, ha⟩
  · rintro (⟨v, hv, ha⟩ | ⟨k', v, -, hv, ha⟩)
    · exact ⟨k, v, hv, ha⟩
    · exact ⟨k', v, hv, ha⟩

theorem mem_needed_set_iff : a ∈ needed f (d.set k v) ↔
    a ∈ f v ∨ a ∈ needed f (d.erase k) := by
  rw [mem_needed_iff k, mem_needed_erase_iff, mem_needed_erase_iff]
  simp only [get?_set_self, Option.some.injEq, exists_eq_left']
  refine or_congr_right ?_
  refine exists_congr fun k' => exists_congr fun v' => ?_
  refine and_congr_right fun hne => ?_
  rw [get?_set_of_ne d v hne]

theorem needed_erase_of_get?_eq_none (h : d.get? k = none) :
    needed f (d.erase k) = needed f d := by
  ext a
  have hiff : a ∈ needed f d ↔ _ := mem_needed_iff k
  rw [hiff, h]
  simp

theorem needed_set_of_get?_eq_none (h : d.get? k = none) :
    needed f (d.set k v) = needed f d ∪ f v := by
  ext a
  rw [mem_needed_set_iff, needed_erase_of_get?_eq_none h, or_comm]
  exact Iff.rfl

theorem needed_erase_of_disjoint (h : d.get? k = some v)
    (hdisjoint : ∀ a ∈ f v, a ∉ needed f (d.erase k)) :
    needed f (d.erase k) = needed f d \ f v := by
  ext a
  have hiff : a ∈ needed f d ↔ _ := mem_needed_iff k
  rw [Set.mem_sdiff, hiff, h]
  constructor
  · intro ha
    exact ⟨Or.inr ha, fun hv => hdisjoint a hv ha⟩
  · rintro ⟨⟨v', hv', ha⟩ | ha, hnot⟩
    · obtain rfl := Option.some.inj hv'
      exact absurd ha hnot
    · exact ha

theorem needed_modify {g : ν → ν} (h : ∀ v, f (g v) = f v) :
    needed f (d.modify k g) = needed f d := by
  ext a
  simp only [needed, Set.mem_ofPred_eq, get?_modify]
  constructor
  · rintro ⟨k', v, hv, ha⟩
    split at hv
    · obtain ⟨w, hw, rfl⟩ := Option.map_eq_some_iff.mp hv
      exact ⟨k, w, hw, (h w).subset ha⟩
    · exact ⟨k', v, hv, ha⟩
  · rintro ⟨k', v, hv, ha⟩
    by_cases hk : k' = k
    · subst hk
      exact ⟨k', g v, by rw [if_pos rfl, hv, Option.map_some], (h v).superset ha⟩
    · exact ⟨k', v, by rw [if_neg hk, hv], ha⟩

end Library.Dict

import SelfAdaptiveMano.Mediator.Mediator
import Mathlib.Data.List.Pairwise

/-!
# When the attributes of replies can be merged

The Mediator merges the attributes of the children's replies into those of its
own reply. Values under one key are merged when both are dictionaries and must
be equal otherwise, so that merging replies succeeds exactly when any two of
them agree.
-/

namespace SelfAdaptiveMano

open Library

def AttrValue.Agrees : AttrValue → AttrValue → Prop
  | .dict _, .dict _ => True
  | .scalar value, .scalar value' => value = value'
  | _, _ => False

@[refl] theorem AttrValue.Agrees.refl (v : AttrValue) : v.Agrees v := by
  cases v <;> simp [Agrees]

theorem AttrValue.Agrees.symm {v w : AttrValue} (h : v.Agrees w) :
    w.Agrees v := by
  cases v <;> cases w <;> simp_all [Agrees]

theorem AttrValue.Agrees.trans {u v w : AttrValue} (h : u.Agrees v)
    (h' : v.Agrees w) : u.Agrees w := by
  cases u <;> cases v <;> cases w <;> simp_all [Agrees]

def CommandReply.Agrees (r r' : CommandReply) : Prop :=
  ∀ key v v', r.attributes.get? key = some v →
    r'.attributes.get? key = some v' → v.Agrees v'

namespace Mediator

def Fits (item item' : String × AttrValue) : Prop :=
  item.1 = item'.1 → item.2.Agrees item'.2

/-- `attributes` holds under every key a value like those merged so far. -/
def Merges (items : List (String × AttrValue)) (attributes : Attributes) :
    Prop :=
  (∀ item ∈ items, ∃ v, attributes.get? item.1 = some v ∧ item.2.Agrees v) ∧
    ∀ key v, attributes.get? key = some v →
      ∃ item ∈ items, item.1 = key ∧ item.2.Agrees v

section Merging

variable {items : List (String × AttrValue)} {attributes : Attributes}
  {key : String} {value old v : AttrValue}

theorem Merges.fits_of_new (h : Merges items attributes)
    (hnew : attributes.get? key = none) :
    ∀ item ∈ items, Fits item (key, value) := by
  intro item hitem hkey
  obtain ⟨w, hw, -⟩ := h.1 item hitem
  rw [hkey, hnew] at hw
  cases hw

/-- Everything that was merged under the key is like what is stored there. -/
theorem Merges.fits_iff (h : Merges items attributes)
    (hold : attributes.get? key = some old) :
    (∀ item ∈ items, Fits item (key, value)) ↔ old.Agrees value := by
  constructor
  · intro hfits
    obtain ⟨item, hitem, hkey, hagrees⟩ := h.2 key old hold
    exact hagrees.symm.trans (hfits item hitem hkey)
  · intro hagrees item hitem hkey
    obtain ⟨w, hw, hw'⟩ := h.1 item hitem
    rw [hkey, hold] at hw
    cases hw
    exact hw'.trans hagrees

/-- A value is stored that is like the one to be merged, and like what was stored
under the key before. -/
theorem Merges.set (h : Merges items attributes)
    (hold : ∀ old, attributes.get? key = some old → old.Agrees v)
    (hvalue : value.Agrees v) :
    Merges (items ++ [(key, value)]) (attributes.set key v) := by
  constructor
  · intro item hitem
    rw [Dict.get?_set]
    obtain hitem | hitem := List.mem_append.mp hitem
    · obtain ⟨w, hw, hagrees⟩ := h.1 item hitem
      by_cases hkey : item.1 = key
      · rw [hkey] at hw
        exact ⟨v, if_pos hkey, hagrees.trans (hold w hw)⟩
      · exact ⟨w, by rw [if_neg hkey, hw], hagrees⟩
    · obtain rfl := List.mem_singleton.mp hitem
      exact ⟨v, if_pos rfl, hvalue⟩
  · intro key' w hw
    rw [Dict.get?_set] at hw
    split at hw
    · next hkey =>
        cases hw
        exact ⟨(key, value), by simp, hkey.symm, hvalue⟩
    · obtain ⟨item, hitem, hkey, hagrees⟩ := h.2 key' w hw
      exact ⟨item, List.mem_append_left _ hitem, hkey, hagrees⟩

end Merging

theorem mixAttribute_spec {items : List (String × AttrValue)}
    {attributes : Attributes} (h : Merges items attributes)
    (item : String × AttrValue) :
    ((∀ item' ∈ items, Fits item' item) ∧
        ∃ attributes', mixAttribute attributes item = .ok attributes' ∧
          Merges (items ++ [item]) attributes') ∨
      ((¬ ∀ item' ∈ items, Fits item' item) ∧
        ∃ e, mixAttribute attributes item = .error e) := by
  obtain ⟨key, value⟩ := item
  cases hold : attributes.get? key with
  | none =>
      refine .inl ⟨h.fits_of_new hold, attributes.set key value,
        by simp [mixAttribute, hold], h.set ?_ (.refl value)⟩
      intro old hold'
      rw [hold] at hold'
      cases hold'
  | some old =>
      have hlike : ∀ v, old.Agrees v →
          ∀ old', attributes.get? key = some old' → old'.Agrees v := by
        intro v hv old' hold'
        obtain rfl := Option.some.inj (hold.symm.trans hold')
        exact hv
      rw [h.fits_iff hold]
      cases value with
      | dict dict1 =>
          cases old with
          | dict dict2 =>
              refine .inl ⟨trivial, _, ?_,
                h.set (hlike (.dict (dict2.update dict1)) trivial) trivial⟩
              simp [mixAttribute, hold]
          | scalar s =>
              exact .inr ⟨by simp [AttrValue.Agrees], .attributeError,
                by simp [mixAttribute, hold]⟩
      | scalar value =>
          by_cases heq : AttrValue.scalar value = old
          · subst heq
            refine .inl ⟨.refl _, attributes, by simp [mixAttribute, hold], ?_⟩
            have hset := h.set (hlike _ (.refl _)) (.refl (.scalar value))
            rwa [Dict.set_eq_self hold] at hset
          · have hdis : ¬ old.Agrees (.scalar value) := by
              cases old with
              | dict _ => simp [AttrValue.Agrees]
              | scalar s =>
                  rintro rfl
                  exact heq rfl
            exact .inr ⟨hdis, .assertionError, by
              simp [mixAttribute, hold, heq]⟩

theorem foldlM_mixAttribute_isOk_iff {items more : List (String × AttrValue)}
    {attributes : Attributes} (h : Merges items attributes)
    (hfit : items.Pairwise Fits) :
    (∃ attributes', more.foldlM mixAttribute attributes = .ok attributes') ↔
      (items ++ more).Pairwise Fits := by
  induction more generalizing items attributes with
  | nil => simp [hfit, pure, Except.pure]
  | cons item more ih =>
      have hsplit : items ++ item :: more = (items ++ [item]) ++ more := by simp
      rw [List.foldlM_cons]
      rcases mixAttribute_spec h item with
        ⟨hitem, attributes', hok, hmerges⟩ | ⟨hitem, e, herr⟩
      · have hfit' : (items ++ [item]).Pairwise Fits := by
          rw [List.pairwise_append]
          simpa using ⟨hfit, fun key v => hitem (key, v)⟩
        rw [hok, hsplit]
        exact ih hmerges hfit'
      · rw [herr, hsplit, List.pairwise_append, List.pairwise_append]
        constructor
        · rintro ⟨_, h⟩
          cases h
        · rintro ⟨⟨-, -, hall⟩, -⟩
          exact absurd (fun a ha => hall a ha item (by simp)) hitem

instance : Std.Symm Fits := ⟨fun _ _ h hkey => (h hkey.symm).symm⟩

/-- Merging replies raises unless any two of them agree. -/
theorem getMixedAttributes_isOk_iff (cCmdRplyList : List (Option CommandReply)) :
    (∃ attr, getMixedAttributes cCmdRplyList = .ok attr) ↔
      ∀ r r', some r ∈ cCmdRplyList → some r' ∈ cCmdRplyList → r.Agrees r' := by
  have hflat : ∀ (rs : List CommandReply) (attributes : Attributes),
      rs.foldlM (fun attributes cmdRply =>
        cmdRply.attributes.items.foldlM mixAttribute attributes) attributes =
          (rs.flatMap fun r => r.attributes.items).foldlM mixAttribute
            attributes := by
    intro rs
    induction rs with
    | nil => intro attributes; rfl
    | cons r rs ih =>
        intro attributes
        simp only [List.foldlM_cons, List.flatMap_cons, List.foldlM_append, ih]
  have hempty : Merges [] .empty := ⟨by simp, by simp⟩
  rw [getMixedAttributes, hflat,
    foldlM_mixAttribute_isOk_iff hempty .nil, List.nil_append]
  constructor
  · intro h r r' hr hr' key v v' hv hv'
    have hall := List.Pairwise.forall_of_forall
      (fun item _ _ => AttrValue.Agrees.refl item.2) h
    refine hall (x := (key, v)) ?_ (y := (key, v')) ?_ rfl
    · rw [List.mem_flatMap]
      exact ⟨r, by simpa using hr, Dict.mem_items_iff.mpr hv⟩
    · rw [List.mem_flatMap]
      exact ⟨r', by simpa using hr', Dict.mem_items_iff.mpr hv'⟩
  · intro h
    refine List.pairwise_of_forall_mem_list ?_
    rintro ⟨key, v⟩ hitem ⟨key', v'⟩ hitem' hkey
    rw [List.mem_flatMap] at hitem hitem'
    rcases hitem with ⟨r, hr, hv⟩
    rcases hitem' with ⟨r', hr', hv'⟩
    simp only at hkey
    subst hkey
    exact h r r' (by simpa using hr) (by simpa using hr') key v v'
      (Dict.mem_items_iff.mp hv) (Dict.mem_items_iff.mp hv')

end Mediator

end SelfAdaptiveMano

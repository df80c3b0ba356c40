import Mathlib.Data.List.Nodup
import Mathlib.Data.List.Lookmap
import Mathlib.Data.List.Induction
import Mathlib.Data.List.Range

/-!
# Insertion-ordered dictionaries

`Dict κ ν` is the dictionary of the modelled programs: a finite map that
remembers the order in which its keys were first inserted. Storing a value
under a key that is already there replaces the value and keeps the place of the
key; a new key goes to the end. `get?` reads a dictionary, `set`, `modify` and
`erase` change it, and every later proof goes through the value of `get?` after
the change rather than through the list of items.

The items are kept together with the fact that no key occurs twice, so that an
item of the list and the value found under its key are the same thing
(`mem_items_iff`).

`Grouping.group` collects the elements of a list under their keys, and a dictionary
that is `Numbering.Numbered` gives its keys consecutive numbers in the order of
asking.
-/

namespace Library

/-- A dictionary: its items in insertion order, with no key twice. -/
structure Dict (κ ν : Type*) where
  items : List (κ × ν)
  nodup_keys : (items.map Prod.fst).Nodup

namespace Dict

theorem lookup_cons_eq {κ ν : Type*} [DecidableEq κ] (k k' : κ) (v : ν)
    (l : List (κ × ν)) :
    ((k', v) :: l).lookup k = if k = k' then some v else l.lookup k := by
  by_cases h : k = k'
  · simp [h]
  · rw [List.lookup_cons, beq_eq_false_iff_ne.mpr h, if_neg h]

/-- Store `v` under `k` in a list of items: in place when the key is there,
at the end otherwise. -/
def setItems {κ ν : Type*} [DecidableEq κ] (k : κ) (v : ν) :
    List (κ × ν) → List (κ × ν)
  | [] => [(k, v)]
  | (k', v') :: l => if k' = k then (k, v) :: l else (k', v') :: setItems k v l

theorem map_fst_setItems {κ ν : Type*} [DecidableEq κ] (k : κ) (v : ν)
    (l : List (κ × ν)) :
    (setItems k v l).map Prod.fst =
      if k ∈ l.map Prod.fst then l.map Prod.fst else l.map Prod.fst ++ [k] := by
  induction l with
  | nil => simp [setItems]
  | cons e l ih =>
      obtain ⟨k', v'⟩ := e
      by_cases h : k' = k
      · simp [setItems, h]
      · have h' : ¬ k = k' := fun h'' => h h''.symm
        by_cases hk : k ∈ l.map Prod.fst
        · simp only [setItems, if_neg h, List.map_cons, ih, List.mem_cons,
            hk, or_true, if_true]
        · simp only [setItems, if_neg h, List.map_cons, ih, List.mem_cons,
            h', hk, or_self, if_false, List.cons_append]

theorem lookup_setItems {κ ν : Type*} [DecidableEq κ] (k k' : κ) (v : ν)
    (l : List (κ × ν)) :
    (setItems k v l).lookup k' = if k' = k then some v else l.lookup k' := by
  induction l with
  | nil => simp [setItems, lookup_cons_eq]
  | cons e l ih =>
      obtain ⟨k₁, v₁⟩ := e
      by_cases h : k₁ = k
      · subst h
        by_cases h' : k' = k₁ <;> simp [setItems, lookup_cons_eq, h']
      · by_cases h' : k' = k₁
        · subst h'
          simp [setItems, h]
        · simp [setItems, lookup_cons_eq, h, h', ih]

/-- `d = {}`. -/
def empty {κ ν : Type*} : Dict κ ν := ⟨[], List.nodup_nil⟩

instance {κ ν : Type*} : Inhabited (Dict κ ν) := ⟨empty⟩

instance {κ ν : Type*} [DecidableEq κ] [DecidableEq ν] :
    DecidableEq (Dict κ ν) := fun d e =>
  decidable_of_iff (d.items = e.items)
    ⟨fun h => by cases d; cases e; simpa using h, fun h => by rw [h]⟩

def get? {κ ν : Type*} [DecidableEq κ] (d : Dict κ ν) (k : κ) : Option ν :=
  d.items.lookup k

/-- `k in d`. -/
def contains {κ ν : Type*} [DecidableEq κ] (d : Dict κ ν) (k : κ) : Bool :=
  (d.get? k).isSome

def keys {κ ν : Type*} (d : Dict κ ν) : List κ := d.items.map Prod.fst

def values {κ ν : Type*} (d : Dict κ ν) : List ν := d.items.map Prod.snd

/-- `d[k] = v`. -/
def set {κ ν : Type*} [DecidableEq κ] (d : Dict κ ν) (k : κ) (v : ν) :
    Dict κ ν where
  items := setItems k v d.items
  nodup_keys := by
    rw [map_fst_setItems]
    split
    · exact d.nodup_keys
    · next h => exact List.nodup_append.mpr ⟨d.nodup_keys, by simp, by
        rintro a ha b hb rfl
        exact h ((List.mem_singleton.mp hb) ▸ ha)⟩

/-- `del d[k]`, where a missing key is left missing. -/
def erase {κ ν : Type*} [DecidableEq κ] (d : Dict κ ν) (k : κ) : Dict κ ν where
  items := d.items.filter fun e => !decide (e.1 = k)
  nodup_keys := d.nodup_keys.sublist ((List.filter_sublist).map Prod.fst)

/-- Change the value under `k` in place; nothing happens when there is none. -/
def modify {κ ν : Type*} [DecidableEq κ] (d : Dict κ ν) (k : κ) (f : ν → ν) :
    Dict κ ν :=
  match d.get? k with
  | some v => d.set k (f v)
  | none => d

def update {κ ν : Type*} [DecidableEq κ] (d e : Dict κ ν) : Dict κ ν :=
  e.items.foldl (fun d kv => d.set kv.1 kv.2) d

def mapItems {κ ν μ : Type*} (f : κ → ν → μ) (d : Dict κ ν) : Dict κ μ where
  items := d.items.map fun e => (e.1, f e.1 e.2)
  nodup_keys := by simpa [Function.comp_def] using d.nodup_keys

/-- The dictionary with the same keys and `f` applied to each value. -/
def map {κ ν μ : Type*} (f : ν → μ) (d : Dict κ ν) : Dict κ μ where
  items := d.items.map fun e => (e.1, f e.2)
  nodup_keys := by simpa [Function.comp_def] using d.nodup_keys

theorem ext_items {κ ν : Type*} {d e : Dict κ ν} (h : d.items = e.items) :
    d = e := by
  cases d
  cases e
  simpa using h

theorem mem_items_iff {κ ν : Type*} [DecidableEq κ] {d : Dict κ ν} {k : κ}
    {v : ν} :
    (k, v) ∈ d.items ↔ d.get? k = some v := by
  obtain ⟨l, hl⟩ := d
  simp only [get?]
  induction l with
  | nil => simp
  | cons e l ih =>
      obtain ⟨k', v'⟩ := e
      simp only [List.map_cons, List.nodup_cons] at hl
      by_cases h : k = k'
      · subst h
        have hk : (k, v) ∉ l := fun hm => hl.1 (List.mem_map_of_mem hm)
        simp [hk, eq_comm]
      · simp [lookup_cons_eq, h, ih hl.2]

theorem get?_eq_none_iff {κ ν : Type*} [DecidableEq κ] {d : Dict κ ν} {k : κ} :
    d.get? k = none ↔ k ∉ d.keys := by
  rw [keys, get?, List.lookup_eq_none_iff]
  simp only [List.mem_map, not_exists, not_and, bne_iff_ne, ne_eq]
  exact forall₂_congr fun _ _ => not_congr eq_comm

theorem mem_keys_iff {κ ν : Type*} [DecidableEq κ] {d : Dict κ ν} {k : κ} :
    k ∈ d.keys ↔ ∃ v, d.get? k = some v := by
  rw [← Option.ne_none_iff_exists', ne_eq, get?_eq_none_iff, not_not]

theorem contains_eq_true_iff {κ ν : Type*} [DecidableEq κ] {d : Dict κ ν}
    {k : κ} : d.contains k = true ↔ d.get? k ≠ none := by
  rw [contains, Option.isSome_iff_ne_none]

theorem mem_values_iff {κ ν : Type*} [DecidableEq κ] {d : Dict κ ν} {v : ν} :
    v ∈ d.values ↔ ∃ k, d.get? k = some v := by
  simp [values, ← mem_items_iff]

theorem nodup_values {κ ν : Type*} [DecidableEq κ] {d : Dict κ ν}
    (h : ∀ k k' v, d.get? k = some v → d.get? k' = some v → k = k') :
    d.values.Nodup := by
  have hitems : d.items.Nodup := List.Nodup.of_map Prod.fst d.nodup_keys
  refine List.Nodup.map_on ?_ hitems
  rintro ⟨k, v⟩ hk ⟨k', v'⟩ hk' (rfl : v = v')
  have heq := h k k' v (mem_items_iff.mp hk) (mem_items_iff.mp hk')
  rw [heq]

@[simp] theorem get?_empty {κ ν : Type*} [DecidableEq κ] (k : κ) :
    (empty : Dict κ ν).get? k = none := rfl

@[simp] theorem items_empty {κ ν : Type*} : (empty : Dict κ ν).items = [] := rfl

theorem get?_set {κ ν : Type*} [DecidableEq κ] (d : Dict κ ν) (k k' : κ)
    (v : ν) :
    (d.set k v).get? k' = if k' = k then some v else d.get? k' :=
  lookup_setItems k k' v d.items

@[simp] theorem get?_set_self {κ ν : Type*} [DecidableEq κ] (d : Dict κ ν)
    (k : κ) (v : ν) :
    (d.set k v).get? k = some v := by
  simp [get?_set]

theorem get?_set_of_ne {κ ν : Type*} [DecidableEq κ] (d : Dict κ ν) {k k' : κ}
    (v : ν) (h : k' ≠ k) :
    (d.set k v).get? k' = d.get? k' := by
  simp [get?_set, h]

theorem get?_erase {κ ν : Type*} [DecidableEq κ] (d : Dict κ ν) (k k' : κ) :
    (d.erase k).get? k' = if k' = k then none else d.get? k' := by
  obtain ⟨l, hl⟩ := d
  simp only [get?, erase]
  clear hl
  induction l with
  | nil => simp
  | cons e l ih =>
      obtain ⟨k₁, v₁⟩ := e
      by_cases h : k₁ = k
      · subst h
        by_cases h' : k' = k₁
        · simpa [lookup_cons_eq, h'] using ih
        · simpa [lookup_cons_eq, h'] using ih
      · by_cases h' : k' = k₁
        · subst h'
          simp [h]
        · simp [lookup_cons_eq, h, h', ih]

@[simp] theorem get?_erase_self {κ ν : Type*} [DecidableEq κ] (d : Dict κ ν)
    (k : κ) :
    (d.erase k).get? k = none := by
  simp [get?_erase]

theorem get?_modify {κ ν : Type*} [DecidableEq κ] (d : Dict κ ν) (k k' : κ)
    (f : ν → ν) :
    (d.modify k f).get? k' =
      if k' = k then (d.get? k).map f else d.get? k' := by
  cases h : d.get? k with
  | none => by_cases h' : k' = k <;> simp [modify, h, h']
  | some v => simp [modify, h, get?_set]

theorem modify_eq_set {κ ν : Type*} [DecidableEq κ] {d : Dict κ ν} {k : κ}
    {v : ν} (h : d.get? k = some v) (f : ν → ν) :
    d.modify k f = d.set k (f v) := by
  simp [modify, h]

theorem get?_map {κ ν μ : Type*} [DecidableEq κ] (f : ν → μ) (d : Dict κ ν)
    (k : κ) :
    (d.map f).get? k = (d.get? k).map f := by
  obtain ⟨l, hl⟩ := d
  simp only [get?, map]
  clear hl
  induction l with
  | nil => rfl
  | cons e l ih =>
      obtain ⟨k', v⟩ := e
      by_cases h : k = k' <;> simp [lookup_cons_eq, h, ih]

theorem get?_mapItems {κ ν μ : Type*} [DecidableEq κ] (f : κ → ν → μ)
    (d : Dict κ ν) (k : κ) : (d.mapItems f).get? k = (d.get? k).map (f k) := by
  rcases d with ⟨l, hl⟩
  rw [get?, get?, mapItems]
  dsimp only
  clear hl
  induction l with
  | nil => rfl
  | cons e l ih =>
      rcases e with ⟨k', v⟩
      rw [List.map_cons, lookup_cons_eq, lookup_cons_eq, ih]
      by_cases h : k = k'
      · subst h
        rw [if_pos rfl, if_pos rfl, Option.map_some]
      · rw [if_neg h, if_neg h]

@[simp] theorem keys_map {κ ν μ : Type*} (f : ν → μ) (d : Dict κ ν) :
    (d.map f).keys = d.keys := by
  simp [keys, map]

@[simp] theorem items_map {κ ν μ : Type*} (f : ν → μ) (d : Dict κ ν) :
    (d.map f).items = d.items.map fun e => (e.1, f e.2) := rfl

theorem lookup_eq_none_of_items {κ ν : Type*} [DecidableEq κ] {d : Dict κ ν}
    {done rest : List (κ × ν)} {k : κ} {v : ν}
    (h : d.items = done ++ (k, v) :: rest) : done.lookup k = none := by
  have hnodup := d.nodup_keys
  rw [h, List.map_append, List.map_cons, List.nodup_append] at hnodup
  rw [List.lookup_eq_none_iff]
  intro e he
  rw [bne_iff_ne]
  intro heq
  exact hnodup.2.2 _ (List.mem_map_of_mem he) k List.mem_cons_self heq.symm

theorem lookup_append_singleton {κ ν : Type*} [DecidableEq κ] {d : Dict κ ν}
    {done rest : List (κ × ν)} {k : κ} {v : ν}
    (h : d.items = done ++ (k, v) :: rest) (k' : κ) :
    (done ++ [(k, v)]).lookup k' = if k' = k then some v else done.lookup k' := by
  rw [List.lookup_append, lookup_cons_eq, List.lookup_nil]
  split
  · next heq => rw [heq, lookup_eq_none_of_items h, Option.none_or]
  · rw [Option.or_none]

theorem items_set_of_get?_eq_none {κ ν : Type*} [DecidableEq κ] {d : Dict κ ν}
    {k : κ} (h : d.get? k = none) (v : ν) :
    (d.set k v).items = d.items ++ [(k, v)] := by
  obtain ⟨l, hl⟩ := d
  simp only [get?, set] at h ⊢
  clear hl
  induction l with
  | nil => rfl
  | cons e l ih =>
      obtain ⟨k', v'⟩ := e
      by_cases hk : k = k'
      · simp [hk] at h
      · have hk' : ¬ k' = k := fun h' => hk h'.symm
        rw [lookup_cons_eq, if_neg hk] at h
        simp [setItems, hk', ih h]

/-- Storing under a key that is there keeps the order of the keys. -/
theorem items_set_of_get?_eq_some {κ ν : Type*} [DecidableEq κ] {d : Dict κ ν}
    {k : κ} {w : ν} (h : d.get? k = some w) (v : ν) :
    (d.set k v).items =
      d.items.map fun e => if e.1 = k then (k, v) else e := by
  rcases d with ⟨l, hl⟩
  simp only [get?, set] at h ⊢
  induction l with
  | nil => simp at h
  | cons e l ih =>
      obtain ⟨k', v'⟩ := e
      simp only [List.map_cons, List.nodup_cons] at hl
      by_cases hk : k' = k
      · subst hk
        have hrest : (l.map fun e => if e.1 = k' then (k', v) else e) = l := by
          conv_rhs => rw [← List.map_id l]
          apply List.map_congr_left
          intro e he
          have hne : e.1 ≠ k' := fun h' => hl.1 (h' ▸ List.mem_map_of_mem he)
          simp [hne]
        simp [setItems, hrest]
      · have hk' : ¬ k = k' := fun h' => hk h'.symm
        rw [lookup_cons_eq, if_neg hk'] at h
        simp [setItems, hk, ih hl.2 h]

theorem setItems_setItems {κ ν : Type*} [DecidableEq κ] (k : κ) (v w : ν)
    (l : List (κ × ν)) :
    setItems k w (setItems k v l) = setItems k w l := by
  induction l with
  | nil => simp [setItems]
  | cons e l ih => by_cases h : e.1 = k <;> simp [setItems, h, ih]

theorem set_set {κ ν : Type*} [DecidableEq κ] (d : Dict κ ν) (k : κ) (v w : ν) :
    (d.set k v).set k w = d.set k w :=
  ext_items (setItems_setItems k v w d.items)

theorem setItems_map {κ ν μ : Type*} [DecidableEq κ] (f : ν → μ) (k : κ) (v : ν)
    (l : List (κ × ν)) :
    setItems k (f v) (l.map fun e => (e.1, f e.2)) =
      (setItems k v l).map fun e => (e.1, f e.2) := by
  induction l with
  | nil => rfl
  | cons e l ih => by_cases h : e.1 = k <;> simp [setItems, h, ih]

theorem map_set {κ ν μ : Type*} [DecidableEq κ] (f : ν → μ) (d : Dict κ ν)
    (k : κ) (v : ν) :
    (d.set k v).map f = (d.map f).set k (f v) :=
  ext_items (setItems_map f k v d.items).symm

theorem set_eq_self {κ ν : Type*} [DecidableEq κ] {d : Dict κ ν} {k : κ} {v : ν}
    (h : d.get? k = some v) : d.set k v = d := by
  apply ext_items
  rw [items_set_of_get?_eq_some h]
  conv_rhs => rw [← List.map_id d.items]
  apply List.map_congr_left
  rintro ⟨k', v'⟩ he
  by_cases hk : k' = k
  · subst hk
    rw [mem_items_iff, h] at he
    simp [Option.some.inj he]
  · simp [hk]

theorem keys_set {κ ν : Type*} [DecidableEq κ] (d : Dict κ ν) (k : κ) (v : ν) :
    (d.set k v).keys = if k ∈ d.keys then d.keys else d.keys ++ [k] :=
  map_fst_setItems k v d.items

theorem mem_keys_set {κ ν : Type*} [DecidableEq κ] {d : Dict κ ν} {k k' : κ}
    {v : ν} : k' ∈ (d.set k v).keys ↔ k' ∈ d.keys ∨ k' = k := by
  rw [keys_set]
  split
  · next hk =>
      refine ⟨Or.inl, fun h => h.elim id ?_⟩
      rintro rfl
      exact hk
  · rw [List.mem_append, List.mem_singleton]

theorem keys_set_of_get?_eq_none {κ ν : Type*} [DecidableEq κ] {d : Dict κ ν}
    {k : κ} (h : d.get? k = none) (v : ν) : (d.set k v).keys = d.keys ++ [k] := by
  rw [keys_set, if_neg (get?_eq_none_iff.mp h)]

/-- Appending to the list under a key, where a missing key has the empty list,
appends to all the lists together. -/
theorem perm_flatten_setItems {κ ν : Type*} [DecidableEq κ] (k : κ)
    (x : List ν) (l : List (κ × List ν)) :
    ((setItems k ((l.lookup k).getD [] ++ x) l).map Prod.snd).flatten.Perm
      ((l.map Prod.snd).flatten ++ x) := by
  induction l with
  | nil => simp [setItems]
  | cons e l ih =>
      obtain ⟨k', v'⟩ := e
      by_cases h : k' = k
      · subst h
        simp only [List.lookup_cons_self, Option.getD_some, setItems, if_true,
          List.map_cons, List.flatten_cons, List.append_assoc]
        exact List.Perm.append_left v' List.perm_append_comm
      · have h' : ¬ k = k' := fun h'' => h h''.symm
        simp only [lookup_cons_eq, if_neg h', setItems, if_neg h,
          List.map_cons, List.flatten_cons, List.append_assoc]
        exact List.Perm.append_left v' ih

theorem perm_flatten_set {κ ν : Type*} [DecidableEq κ] (d : Dict κ (List ν))
    (k : κ) (x : List ν) :
    (d.set k ((d.get? k).getD [] ++ x)).values.flatten.Perm
      (d.values.flatten ++ x) :=
  perm_flatten_setItems k x d.items

theorem nodup_keys' {κ ν : Type*} (d : Dict κ ν) : d.keys.Nodup := d.nodup_keys

def filter {κ ν : Type*} (test : κ → ν → Bool) (d : Dict κ ν) : Dict κ ν where
  items := d.items.filter fun e => test e.1 e.2
  nodup_keys := d.nodup_keys.sublist (List.filter_sublist.map Prod.fst)

theorem get?_filter_eq_some {κ ν : Type*} [DecidableEq κ]
    {test : κ → ν → Bool} {d : Dict κ ν} {k : κ} {v : ν} :
    (d.filter test).get? k = some v ↔ d.get? k = some v ∧ test k v = true := by
  rw [← mem_items_iff, ← mem_items_iff, filter, List.mem_filter]

def mapKeys {κ μ ν : Type*} (f : κ → μ) (hf : Function.Injective f)
    (d : Dict κ ν) : Dict μ ν where
  items := d.items.map fun e => (f e.1, e.2)
  nodup_keys := by
    have hnodup := d.nodup_keys.map hf
    rwa [List.map_map] at hnodup ⊢

theorem get?_mapKeys_eq_some {κ μ ν : Type*} [DecidableEq κ] [DecidableEq μ]
    {f : κ → μ} {hf : Function.Injective f} {d : Dict κ ν} {k : μ} {v : ν} :
    (d.mapKeys f hf).get? k = some v ↔ ∃ k', f k' = k ∧ d.get? k' = some v := by
  rw [← mem_items_iff, mapKeys, List.mem_map]
  constructor
  · rintro ⟨⟨k', v'⟩, hmem, heq⟩
    cases heq
    exact ⟨k', rfl, mem_items_iff.mp hmem⟩
  · rintro ⟨k', rfl, hget⟩
    exact ⟨(k', v), mem_items_iff.mpr hget, rfl⟩

theorem get?_mapKeys {κ μ ν : Type*} [DecidableEq κ] [DecidableEq μ]
    {f : κ → μ} {hf : Function.Injective f} (d : Dict κ ν) (k : κ) :
    (d.mapKeys f hf).get? (f k) = d.get? k := by
  apply Option.ext
  intro v
  rw [get?_mapKeys_eq_some]
  constructor
  · rintro ⟨k', heq, hget⟩
    exact hf heq ▸ hget
  · exact fun hget => ⟨k, rfl, hget⟩

@[simp] theorem contains_modify {κ ν : Type*} [DecidableEq κ] (d : Dict κ ν)
    (k k' : κ) (f : ν → ν) :
    (d.modify k f).contains k' = d.contains k' := by
  rw [contains, contains, get?_modify]
  split
  · next h => rw [h, Option.isSome_map]
  · rfl

theorem length_set_of_get?_eq_none {κ ν : Type*} [DecidableEq κ] {d : Dict κ ν}
    {k : κ} (h : d.get? k = none) (v : ν) :
    (d.set k v).items.length = d.items.length + 1 := by
  rw [items_set_of_get?_eq_none h, List.length_append, List.length_singleton]

theorem perm_items_erase {κ ν : Type*} [DecidableEq κ] {d : Dict κ ν} {k : κ}
    {v : ν} (h : d.get? k = some v) :
    d.items.Perm ((k, v) :: (d.erase k).items) := by
  obtain ⟨l, hl⟩ := d
  simp only [get?, erase] at h ⊢
  induction l with
  | nil => simp at h
  | cons e l ih =>
      obtain ⟨k', v'⟩ := e
      simp only [List.map_cons, List.nodup_cons] at hl
      rw [lookup_cons_eq] at h
      by_cases hk : k' = k
      · subst hk
        rw [if_pos rfl] at h
        obtain rfl := Option.some.inj h
        have hrest : l.filter (fun e => !decide (e.1 = k')) = l := by
          refine List.filter_eq_self.mpr fun e he => ?_
          have hne : e.1 ≠ k' := fun h' => hl.1 (h' ▸ List.mem_map_of_mem he)
          simp [hne]
        simp [hrest]
      · rw [if_neg (Ne.symm hk)] at h
        rw [List.filter_cons_of_pos (by simpa using hk)]
        exact ((ih hl.2 h).cons _).trans (.swap ..)

theorem perm_values_erase {κ ν : Type*} [DecidableEq κ] {d : Dict κ ν} {k : κ}
    {v : ν} (h : d.get? k = some v) : d.values.Perm (v :: (d.erase k).values) :=
  (perm_items_erase h).map Prod.snd

theorem values_set_of_get?_eq_none {κ ν : Type*} [DecidableEq κ] {d : Dict κ ν}
    {k : κ} (h : d.get? k = none) (v : ν) :
    (d.set k v).values = d.values ++ [v] := by
  simp [values, items_set_of_get?_eq_none h]

theorem length_erase {κ ν : Type*} [DecidableEq κ] {d : Dict κ ν} {k : κ}
    {v : ν} (h : d.get? k = some v) :
    (d.erase k).items.length + 1 = d.items.length :=
  (perm_items_erase h).length_eq.symm

theorem get?_foldl_items {κ ν μ : Type*} [DecidableEq κ]
    {turn : Dict κ μ → κ × ν → Dict κ μ} (change : κ → ν → Option μ → Option μ)
    (hself : ∀ d k v, (turn d (k, v)).get? k = change k v (d.get? k))
    (hne : ∀ d k v k', k' ≠ k → (turn d (k, v)).get? k' = d.get? k')
    (e : Dict κ ν) (d : Dict κ μ) (k : κ) :
    (e.items.foldl turn d).get? k =
      match e.get? k with
      | some v => change k v (d.get? k)
      | none => d.get? k := by
  obtain ⟨items, hnodup⟩ := e
  show (items.foldl turn d).get? k = match items.lookup k with
    | some v => change k v (d.get? k)
    | none => d.get? k
  induction items generalizing d with
  | nil => rfl
  | cons item items ih =>
      obtain ⟨k', v⟩ := item
      rw [List.map_cons, List.nodup_cons] at hnodup
      rw [List.foldl_cons, ih _ hnodup.2, lookup_cons_eq]
      by_cases hk : k = k'
      · subst hk
        have hnone : items.lookup k = none := by
          rw [List.lookup_eq_none_iff]
          rintro ⟨k₁, v₁⟩ hmem
          rw [bne_iff_ne]
          rintro rfl
          exact hnodup.1 (List.mem_map.mpr ⟨(k, v₁), hmem, rfl⟩)
        rw [hnone, if_pos rfl, hself]
      · rw [if_neg hk, hne d k' v k hk]

theorem get?_update {κ ν : Type*} [DecidableEq κ] (d e : Dict κ ν) (k : κ) :
    (d.update e).get? k = (e.get? k).or (d.get? k) := by
  rw [update, get?_foldl_items (fun _ v _ => some v)
    (fun d k v => d.get?_set_self k v)
    fun d k v k' hk => d.get?_set_of_ne v hk]
  cases e.get? k <;> rfl

theorem update_self {κ ν : Type*} [DecidableEq κ] (d : Dict κ ν) :
    d.update d = d := by
  have hfold : ∀ items ⊆ d.items,
      items.foldl (fun d kv => d.set kv.1 kv.2) d = d := by
    intro items hitems
    induction items with
    | nil => rfl
    | cons kv items ih =>
        rw [List.cons_subset] at hitems
        rw [List.foldl_cons, set_eq_self (mem_items_iff.mp hitems.1)]
        exact ih hitems.2
  exact hfold d.items (List.Subset.refl _)

end Dict

/-! ## Grouping a list by a key

`group key l` collects the elements of each key, in their order; the keys come in
the order of their first elements. It is the loop that appends each element to
the list under its key, where a missing key starts with the empty list. -/

namespace Grouping

variable {α κ : Type*} [DecidableEq κ]

def add (key : α → κ) (d : Dict κ (List α)) (a : α) : Dict κ (List α) :=
  d.set (key a) ((d.get? (key a)).getD [] ++ [a])

def group (key : α → κ) (l : List α) : Dict κ (List α) :=
  l.foldl (add key) .empty

variable {key : α → κ} {l : List α} {a : α} {k : κ}

theorem group_append_singleton :
    group key (l ++ [a]) = add key (group key l) a := by
  rw [group, List.foldl_append]
  rfl

theorem get?_group :
    (group key l).get? k =
      if k ∈ l.map key then some (l.filter fun a => key a = k) else none := by
  induction l using List.reverseRecOn with
  | nil => rfl
  | append_singleton l a ih =>
      rw [group_append_singleton, add, Dict.get?_set, List.map_append,
        List.filter_append]
      by_cases hk : k = key a
      · subst hk
        have hget : ((group key l).get? (key a)).getD [] =
            l.filter fun b => key b = key a := by
          rw [ih]
          split
          · rfl
          next hmem =>
            rw [Option.getD_none, eq_comm, List.filter_eq_nil_iff]
            intro b hb heq
            exact hmem (of_decide_eq_true heq ▸ List.mem_map_of_mem hb)
        simp [hget]
      · have hk' : ¬ key a = k := fun heq => hk heq.symm
        rw [if_neg hk, ih]
        simp [hk, hk']

theorem keys_group_append_singleton :
    (group key (l ++ [a])).keys =
      if key a ∈ (group key l).keys then (group key l).keys
      else (group key l).keys ++ [key a] := by
  rw [group_append_singleton, add, Dict.keys_set]

theorem values_group :
    (group key l).values =
      (group key l).keys.map fun k => l.filter fun a => key a = k := by
  rw [Dict.values, Dict.keys, List.map_map]
  apply List.map_congr_left
  rintro ⟨k, as⟩ hmem
  have hget := Dict.mem_items_iff.mp hmem
  rw [get?_group] at hget
  split at hget
  · exact (Option.some.inj hget).symm
  · cases hget

end Grouping

/-! ## Numbers given in the order of asking

A dictionary numbers its keys when a key that is new gets the number after those
of the keys before it. The numbers are consecutive, so that they are different,
and they stay below a bound exactly as long as there are few enough keys. -/

namespace Numbering

variable {κ : Type*} {start : Nat} {d : Dict κ Nat} {k : κ}

/-- The keys have the numbers from `start` on, in the order of their insertion. -/
def Numbered (start : Nat) (d : Dict κ Nat) : Prop :=
  d.values = List.range' start d.keys.length

theorem numbered_empty : Numbered start (Dict.empty : Dict κ Nat) := rfl

theorem Numbered.nodup_values (hd : Numbered start d) : d.values.Nodup := by
  rw [hd]
  exact List.nodup_range'

theorem Numbered.mem_values_iff (hd : Numbered start d) {v : Nat} :
    v ∈ d.values ↔ start ≤ v ∧ v < start + d.keys.length := by
  rw [hd]
  exact List.mem_range'_1

theorem Numbered.forall_lt_iff (hd : Numbered start d) {bound : Nat}
    (hbound : start ≤ bound) :
    (∀ v ∈ d.values, v < bound) ↔ start + d.keys.length ≤ bound := by
  constructor
  · intro h
    obtain hempty | hpos := Nat.eq_zero_or_pos d.keys.length
    · omega
    · have hlast : start + d.keys.length - 1 ∈ d.values :=
        hd.mem_values_iff.mpr (by omega)
      have hlt := h _ hlast
      omega
  · intro h v hv
    have hrange := hd.mem_values_iff.mp hv
    omega

variable [DecidableEq κ]

theorem Numbered.set_next (hd : Numbered start d) (h : d.get? k = none) :
    Numbered start (d.set k (start + d.keys.length)) := by
  rw [Numbered, Dict.values, Dict.items_set_of_get?_eq_none h, List.map_append,
    Dict.keys_set_of_get?_eq_none h, List.length_append, List.length_singleton,
    List.range'_1_concat]
  exact congrArg (· ++ [start + d.keys.length]) hd

end Numbering

end Library

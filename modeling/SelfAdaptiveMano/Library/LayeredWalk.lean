import SelfAdaptiveMano.Library.Dict
import Mathlib.Data.List.Chain
import Mathlib.Data.List.Infix

/-!
# Walks in layered graphs

The nodes of a layered graph are pairs of a layer and a place. An edge stays in
its layer or leads to the next one. A walk is the list of the nodes it visits,
each connected to the next by an edge. A walk never returns to a layer it has
left, so that it goes from one layer to the next exactly once for each layer
between its ends.
-/

namespace Library

namespace LayeredWalk

variable {α : Type*}

def Layered (E : Nat × α → Nat × α → Prop) : Prop :=
  ∀ u v, E u v → v.1 = u.1 ∨ v.1 = u.1 + 1

/-- The walk goes from the layer `i` to the next one at its step `k`. -/
def CrossesAt (path : List (Nat × α)) (i k : Nat) : Prop :=
  ∃ u v, path[k]? = some u ∧ path[k + 1]? = some v ∧ u.1 = i ∧ v.1 = i + 1

variable {E : Nat × α → Nat × α → Prop} {path : List (Nat × α)}
  {u v : Nat × α} {i k k' : Nat}

theorem crossesAt_cons_succ :
    CrossesAt (u :: path) i (k + 1) ↔ CrossesAt path i k := by
  simp only [CrossesAt, List.getElem?_cons_succ]

theorem crossesAt_cons_zero :
    CrossesAt (u :: path) i 0 ↔
      ∃ v, path[0]? = some v ∧ u.1 = i ∧ v.1 = i + 1 := by
  simp [CrossesAt]

theorem le_of_mem (hE : Layered E) (hpath : (u :: path).IsChain E)
    (hv : v ∈ u :: path) : u.1 ≤ v.1 := by
  induction path generalizing u with
  | nil => rw [List.mem_singleton.mp hv]
  | cons w path ih =>
      obtain ⟨hedge, htail⟩ := List.isChain_cons_cons.mp hpath
      obtain rfl | hv := List.mem_cons.mp hv
      · exact le_rfl
      · have hle := ih htail hv
        have hstep := hE u w hedge
        omega

theorem CrossesAt.mem_left (h : CrossesAt path i k) :
    ∃ u ∈ path, u.1 = i := by
  obtain ⟨u, v, hu, -, hlayer, -⟩ := h
  exact ⟨u, List.mem_of_getElem? hu, hlayer⟩

theorem not_crossesAt_of_lt (hE : Layered E) (hpath : (u :: path).IsChain E)
    (hi : i < u.1) : ¬ CrossesAt (u :: path) i k := by
  intro hcross
  obtain ⟨v, hv, hlayer⟩ := hcross.mem_left
  have hle := le_of_mem hE hpath hv
  omega

/-- A walk that ends in a later layer goes on from each layer between, exactly
once. -/
theorem existsUnique_crossesAt (hE : Layered E)
    (hpath : (u :: path).IsChain E) (hlast : (u :: path).getLast? = some v)
    (hi : u.1 ≤ i) (hiv : i < v.1) : ∃! k, CrossesAt (u :: path) i k := by
  induction path generalizing u with
  | nil =>
      rw [List.getLast?_singleton] at hlast
      obtain rfl := Option.some.inj hlast
      omega
  | cons w path ih =>
      obtain ⟨hedge, htail⟩ := List.isChain_cons_cons.mp hpath
      rw [List.getLast?_cons_cons] at hlast
      by_cases hcross : u.1 = i ∧ w.1 = i + 1
      · refine ⟨0, crossesAt_cons_zero.mpr ⟨w, rfl, hcross⟩, ?_⟩
        rintro (_ | k) hk
        · rfl
        · have hlt : i < w.1 := by omega
          exact absurd (crossesAt_cons_succ.mp hk)
            (not_crossesAt_of_lt hE htail hlt)
      · have hw : w.1 ≤ i := by
          have hstep := hE u w hedge
          omega
        obtain ⟨k, hk, hunique⟩ := ih htail hlast hw
        refine ⟨k + 1, crossesAt_cons_succ.mpr hk, ?_⟩
        rintro (_ | k') hk'
        · obtain ⟨w', hw', hlayers⟩ := crossesAt_cons_zero.mp hk'
          obtain rfl := Option.some.inj hw'
          exact absurd hlayers hcross
        · rw [hunique k' (crossesAt_cons_succ.mp hk')]

theorem edge_of_getElem? (hpath : path.IsChain E) (hu : path[k]? = some u)
    (hv : path[k + 1]? = some v) : E u v := by
  obtain ⟨hk, rfl⟩ := List.getElem?_eq_some_iff.mp hv
  obtain ⟨hk', rfl⟩ := List.getElem?_eq_some_iff.mp hu
  exact List.isChain_iff_getElem.mp hpath k hk

/-! ## The parts of a walk in its layers -/

def layer (path : List (Nat × α)) (i : Nat) : List (Nat × α) :=
  path.filter fun u => u.1 = i

@[simp] theorem mem_layer : u ∈ layer path i ↔ u ∈ path ∧ u.1 = i := by
  simp [layer]

theorem head?_layer : (layer (u :: path) u.1).head? = some u := by
  simp [layer]

theorem getLast?_layer (h : path.getLast? = some v) :
    (layer path v.1).getLast? = some v := by
  obtain ⟨l, rfl⟩ := List.getLast?_eq_some_iff.mp h
  simp [layer]

theorem isChain_layer (hE : Layered E) (hpath : path.IsChain E) (i : Nat) :
    (layer path i).IsChain E := by
  induction path with
  | nil => exact List.isChain_nil
  | cons u path ih =>
      have ih := ih hpath.tail
      by_cases hu : u.1 = i
      · have hcons : layer (u :: path) i = u :: layer path i := by
          simp [layer, hu]
        rw [hcons]
        cases path with
        | nil => exact List.isChain_singleton u
        | cons v path =>
            obtain ⟨hedge, htail⟩ := List.isChain_cons_cons.mp hpath
            by_cases hv : v.1 = i
            · have hcons' : layer (v :: path) i = v :: layer path i := by
                simp [layer, hv]
              rw [hcons'] at ih ⊢
              exact List.isChain_cons_cons.mpr ⟨hedge, ih⟩
            · have hnone : layer (v :: path) i = [] := by
                rw [layer, List.filter_eq_nil_iff]
                intro w hw heq
                have hle := le_of_mem hE htail hw
                have hstep := hE u v hedge
                have heq := of_decide_eq_true heq
                omega
              rw [hnone]
              exact List.isChain_singleton u
      · have hskip : layer (u :: path) i = layer path i := by
          simp [layer, hu]
        rw [hskip]
        exact ih

theorem pairwise_le (hE : Layered E) (hpath : path.IsChain E) :
    path.Pairwise fun u v => u.1 ≤ v.1 := by
  have hle : path.IsChain fun u v => u.1 ≤ v.1 := by
    apply hpath.imp
    intro u v hedge
    have hstep := hE u v hedge
    omega
  have htrans : IsTrans (Nat × α) fun u v => u.1 ≤ v.1 :=
    ⟨fun _ _ _ => le_trans⟩
  exact List.isChain_iff_pairwise.mp hle

theorem eq_take_append_drop (hu : path[k]? = some u) (hv : path[k + 1]? = some v) :
    path = path.take k ++ u :: v :: path.drop (k + 2) := by
  obtain ⟨hk, rfl⟩ := List.getElem?_eq_some_iff.mp hu
  obtain ⟨hk', rfl⟩ := List.getElem?_eq_some_iff.mp hv
  rw [← List.drop_eq_getElem_cons hk', ← List.drop_eq_getElem_cons hk,
    List.take_append_drop]

/-- Where a walk goes from one layer to the next, the part in the one ends and the
part in the other begins. -/
theorem layers_of_crossesAt (hE : Layered E) (hpath : path.IsChain E)
    (hu : path[k]? = some u) (hv : path[k + 1]? = some v)
    (hlayer : v.1 = u.1 + 1) :
    (layer path u.1).getLast? = some u ∧ (layer path v.1).head? = some v := by
  have hsplit := eq_take_append_drop hu hv
  have hle := pairwise_le hE hpath
  rw [hsplit, List.pairwise_append] at hle
  obtain ⟨-, hafter, hbefore⟩ := hle
  obtain ⟨-, hafter⟩ := List.pairwise_cons.mp hafter
  obtain ⟨hafter, -⟩ := List.pairwise_cons.mp hafter
  have hnone : layer (path.drop (k + 2)) u.1 = [] := by
    rw [layer, List.filter_eq_nil_iff]
    intro w hw heq
    have hge := hafter w hw
    have heq := of_decide_eq_true heq
    omega
  have hnone' : layer (path.take k) v.1 = [] := by
    rw [layer, List.filter_eq_nil_iff]
    intro w hw heq
    have hle := hbefore w hw u List.mem_cons_self
    have heq := of_decide_eq_true heq
    omega
  have hne : ¬ v.1 = u.1 := by omega
  have hne' : ¬ u.1 = v.1 := by omega
  constructor
  · rw [hsplit]
    simp only [layer] at hnone ⊢
    simp [hne, hnone]
  · rw [hsplit]
    simp only [layer] at hnone' ⊢
    simp [hne', hnone']

/-- The nodes at which the walk leaves a layer. -/
def changes : List (Nat × α) → List (Nat × α)
  | [] => []
  | [_] => []
  | u :: v :: path =>
      if u.1 ≠ v.1 then u :: changes (v :: path) else changes (v :: path)

/-- A walk leaves each layer between its ends once, in their order. -/
theorem map_fst_changes (hE : Layered E) (hpath : (u :: path).IsChain E)
    (hlast : (u :: path).getLast? = some v) :
    (changes (u :: path)).map Prod.fst = List.range' u.1 (v.1 - u.1) := by
  induction path generalizing u with
  | nil =>
      rw [List.getLast?_singleton] at hlast
      obtain rfl := Option.some.inj hlast
      rw [Nat.sub_self]
      rfl
  | cons w path ih =>
      obtain ⟨hedge, htail⟩ := List.isChain_cons_cons.mp hpath
      rw [List.getLast?_cons_cons] at hlast
      have ih := ih htail hlast
      have hle := le_of_mem hE htail (List.mem_of_getLast? hlast)
      rw [changes]
      obtain hsame | hnext := hE u w hedge
      · rw [if_neg (not_not.mpr hsame.symm), ih, hsame]
      · have hne : u.1 ≠ w.1 := by omega
        rw [if_pos hne, List.map_cons, ih, hnext,
          show v.1 - u.1 = v.1 - (u.1 + 1) + 1 by omega, List.range'_succ]

/-- A walk visits the layers between its ends, all of them and in their order. -/
theorem keys_group_fst (hE : Layered E) (hpath : (u :: path).IsChain E)
    (hlast : (u :: path).getLast? = some v) :
    (Grouping.group Prod.fst (u :: path)).keys =
      List.range' u.1 (v.1 + 1 - u.1) := by
  induction path using List.reverseRecOn generalizing v with
  | nil =>
      rw [List.getLast?_singleton] at hlast
      obtain rfl := Option.some.inj hlast
      rw [Nat.add_sub_cancel_left]
      rfl
  | append_singleton path w ih =>
      rw [← List.cons_append, List.getLast?_concat] at hlast
      obtain rfl := Option.some.inj hlast
      rw [← List.cons_append] at hpath ⊢
      obtain ⟨v', hv'⟩ : ∃ v', (u :: path).getLast? = some v' :=
        ⟨_, List.getLast?_eq_some_getLast (List.cons_ne_nil u path)⟩
      have hbefore := hpath.left_of_append
      have hle := le_of_mem hE hbefore (List.mem_of_getLast? hv')
      have hedge : E v' w :=
        List.isChain_append.mp hpath |>.2.2 v' hv' w rfl
      have hstep := hE v' w hedge
      have hkeys := ih hbefore hv'
      rw [Grouping.keys_group_append_singleton, hkeys]
      split
      next hmem =>
        rw [List.mem_range'_1] at hmem
        congr 1
        omega
      next hnew =>
        rw [List.mem_range'_1] at hnew
        have heq : w.1 = v'.1 + 1 := by omega
        rw [heq, show v'.1 + 1 + 1 - u.1 = v'.1 + 1 - u.1 + 1 by omega,
          List.range'_1_concat]
        congr 2
        omega

end LayeredWalk

end Library

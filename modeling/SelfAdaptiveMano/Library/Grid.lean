import Mathlib.Data.List.Basic
import Mathlib.Data.List.Nodup

/-!
# Lists of lists

A place of a list of lists is a pair of indices. `mapAt` changes every item by its
place, `modifyAt` the item at one place, and `entries` lists the items with their
places, row by row. Changing the items of a list one after the other is changing
each by what was asked for its place (`modifyAt_mapAt`).
-/

namespace Library

namespace Grid

variable {α β : Type} {rows : List (List α)} {p q : Nat × Nat} {a : α}

def at? (rows : List (List α)) (p : Nat × Nat) : Option α :=
  rows[p.1]?.bind fun row => row[p.2]?

def modifyAt (rows : List (List α)) (p : Nat × Nat) (f : α → α) : List (List α) :=
  rows.modify p.1 fun row => row.modify p.2 f

def mapAt (f : Nat × Nat → α → β) (rows : List (List α)) : List (List β) :=
  rows.mapIdx fun i row => row.mapIdx fun j a => f (i, j) a

def entries (rows : List (List α)) : List ((Nat × Nat) × α) :=
  rows.zipIdx.flatMap fun (row, i) => row.zipIdx.map fun (a, j) => ((i, j), a)

theorem at?_eq_some_iff :
    at? rows p = some a ↔ ∃ row, rows[p.1]? = some row ∧ row[p.2]? = some a := by
  rw [at?, Option.bind_eq_some_iff]

theorem at?_mapAt (f : Nat × Nat → α → β) :
    at? (mapAt f rows) p = (at? rows p).map (f p) := by
  rw [at?, at?, mapAt, List.getElem?_mapIdx]
  cases rows[p.1]? with
  | none => rfl
  | some row =>
      rw [Option.map_some, Option.bind_some, List.getElem?_mapIdx]
      rfl

theorem mapAt_eq_self {f : Nat × Nat → α → α} (h : ∀ p a, f p a = a) :
    mapAt f rows = rows := by
  have hrow : ∀ (i : Nat) (row : List α), row.mapIdx (fun j a => f (i, j) a) = row := by
    intro i row
    apply List.ext_getElem?
    intro j
    rw [List.getElem?_mapIdx]
    cases row[j]? with
    | none => rfl
    | some a => rw [Option.map_some, h]
  apply List.ext_getElem?
  intro i
  rw [mapAt, List.getElem?_mapIdx]
  cases rows[i]? with
  | none => rfl
  | some row => rw [Option.map_some, hrow]

theorem mapAt_congr {f g : Nat × Nat → α → β} (h : ∀ p a, f p a = g p a) :
    mapAt f rows = mapAt g rows := by
  have hfg : f = g := by
    funext p a
    exact h p a
  rw [hfg]

theorem modifyAt_mapAt (f : Nat × Nat → α → β) (g : β → β) :
    modifyAt (mapAt f rows) p g =
      mapAt (fun q a => if q = p then g (f q a) else f q a) rows := by
  apply List.ext_getElem?
  intro i
  rw [modifyAt, List.getElem?_modify, mapAt, mapAt, List.getElem?_mapIdx,
    List.getElem?_mapIdx]
  cases rows[i]? with
  | none => rfl
  | some row =>
      simp only [Option.map_some, Option.map_eq_map]
      congr 1
      apply List.ext_getElem?
      intro j
      rw [List.getElem?_mapIdx]
      by_cases hi : p.1 = i
      · rw [if_pos hi, List.getElem?_modify, List.getElem?_mapIdx]
        cases row[j]? with
        | none => rfl
        | some a =>
            by_cases hj : p.2 = j
            · simp [Prod.ext_iff, hi, hj]
            · simp [Prod.ext_iff, hi, hj, Ne.symm hj]
      · rw [if_neg hi, List.getElem?_mapIdx]
        simp [Prod.ext_iff, Ne.symm hi]

theorem mem_entries_iff : (p, a) ∈ entries rows ↔ at? rows p = some a := by
  rw [at?_eq_some_iff]
  simp only [entries, List.mem_flatMap, List.mem_map, Prod.exists,
    List.mk_mem_zipIdx_iff_getElem?]
  constructor
  · rintro ⟨row, i, hrow, b, j, hb, heq⟩
    obtain ⟨rfl, rfl⟩ := Prod.mk.inj heq
    exact ⟨row, hrow, hb⟩
  · rintro ⟨row, hrow, ha⟩
    exact ⟨row, p.1, hrow, a, p.2, ha, rfl⟩

theorem mem_map_fst_entries_iff :
    p ∈ (entries rows).map Prod.fst ↔ at? rows p ≠ none := by
  rw [List.mem_map, Option.ne_none_iff_exists']
  constructor
  · rintro ⟨⟨q, a⟩, hmem, rfl⟩
    exact ⟨a, mem_entries_iff.mp hmem⟩
  · rintro ⟨a, ha⟩
    exact ⟨(p, a), mem_entries_iff.mpr ha, rfl⟩

theorem nodup_places : ((entries rows).map Prod.fst).Nodup := by
  rw [entries, List.map_flatMap]
  apply List.nodup_flatMap.mpr
  constructor
  · rintro ⟨row, i⟩ _
    rw [List.map_map]
    refine List.Nodup.map_on ?_ (List.Nodup.of_map Prod.snd ?_)
    · rintro ⟨a, j⟩ ha ⟨b, k⟩ hb heq
      obtain rfl : j = k := congrArg Prod.snd heq
      rw [List.mk_mem_zipIdx_iff_getElem?] at ha hb
      rw [Option.some.inj (ha.symm.trans hb)]
    · rw [List.zipIdx_map_snd]
      exact List.nodup_range'
  · have hplaces : (rows.zipIdx.map Prod.snd).Nodup := by
      rw [List.zipIdx_map_snd]
      exact List.nodup_range'
    refine (List.pairwise_map.mp hplaces).imp ?_
    rintro ⟨row, i⟩ ⟨row', i'⟩ hne
    intro q hq hq'
    simp only [List.map_map, List.mem_map, Function.comp_def] at hq hq'
    obtain ⟨_, _, rfl⟩ := hq
    obtain ⟨_, _, heq⟩ := hq'
    exact hne (congrArg Prod.fst heq).symm

end Grid

end Library

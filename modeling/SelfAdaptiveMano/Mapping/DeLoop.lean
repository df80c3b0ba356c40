import SelfAdaptiveMano.Library.Python
import Mathlib.Data.List.Nodup
import Mathlib.Data.List.Chain
import Mathlib.Data.List.Infix

/-!
# Removing the loops of a path

`deLoop` of the multi-layer graph looks for the first node of a path that comes up
again, cuts out everything up to its last occurrence, and starts over until no node
is repeated. To look from the end on it reverses a `range`, which is a list in
Python 2 only.
-/

namespace SelfAdaptiveMano.Mapping

open Library

namespace MultiLayerGraph

section DeLoop

variable {α : Type} [DecidableEq α]

def hasLoop (path : List α) : Bool := path.any fun node => decide (1 < path.count node)

/-- The loops over `index` and `indexPoint`: the new path, if a node is repeated. -/
def cutLoop (pathTmp : List α) : Option (List α) :=
  (List.range pathTmp.length).findSome? fun index =>
    ((pyRange (index + 1) pathTmp.length 1).reverse.find? fun indexPoint =>
      pathTmp[indexPoint]? = pathTmp[index]?).map fun indexPoint =>
        pathTmp.take index ++ pathTmp.drop indexPoint

/-- `fuel` bounds the turns of the loop. -/
def deLoop (py3 : Bool) : Nat → List α → Except PyError (List α)
  | 0, _ => throw (.exception "out of fuel")
  | fuel + 1, pathTmp =>
      if hasLoop pathTmp then
        -- the first `searchList` is reversed before anything is compared
        if py3 then throw .attributeError
        else
          match cutLoop pathTmp with
          | some newPathTmp => deLoop py3 fuel newPathTmp
          | none => deLoop py3 fuel pathTmp
      else
        return pathTmp

/-- The path is `path` without its loops: it has the same ends, no node is
repeated, and nodes next to each other were so before. -/
structure LoopFree (path result : List α) : Prop where
  head : result.head? = path.head?
  last : result.getLast? = path.getLast?
  nodup : result.Nodup
  adjacent : result.IsChain fun a b => [a, b] <:+: path
  unchanged : path.Nodup → result = path

/-- The call ends, with the path without its loops. -/
def DeLoops (py3 : Bool) (path : List α) : Prop :=
  ∃ result, (∀ fuel > path.length, deLoop py3 fuel path = .ok result) ∧
    LoopFree path result

variable {path : List α} {py3 : Bool} {fuel : Nat}

theorem hasLoop_eq_false_iff : hasLoop path = false ↔ path.Nodup := by
  rw [List.nodup_iff_count_le_one, hasLoop, List.any_eq_false]
  constructor
  · intro h node
    by_cases hmem : node ∈ path
    · simpa using h node hmem
    · rw [List.count_eq_zero_of_not_mem hmem]
      exact Nat.zero_le 1
  · intro h node _
    simpa using h node

theorem mem_searchList {index length indexPoint : Nat} :
    indexPoint ∈ (pyRange (index + 1) length 1).reverse ↔
      index < indexPoint ∧ indexPoint < length := by
  rw [List.mem_reverse, pyRange, Nat.sub_self, Nat.add_zero, Nat.div_one,
    List.mem_range'_1]
  omega

theorem hasLoop_of_not_nodup (h : ¬ path.Nodup) : hasLoop path = true := by
  rw [← Bool.not_eq_false, hasLoop_eq_false_iff]
  exact h

theorem cutLoop_eq_some {newPath : List α} (h : cutLoop path = some newPath) :
    ∃ front node loop back, path = front ++ node :: (loop ++ node :: back) ∧
      newPath = front ++ node :: back := by
  obtain ⟨index, hindex, h⟩ := List.exists_of_findSome?_eq_some h
  obtain ⟨indexPoint, hfind, rfl⟩ := Option.map_eq_some_iff.mp h
  obtain ⟨hless, hlt⟩ := mem_searchList.mp (List.mem_of_find?_eq_some hfind)
  have hindex' : index < path.length := List.mem_range.mp hindex
  have hsame : path[indexPoint]? = path[index]? := by
    simpa using List.find?_some hfind
  rw [List.getElem?_eq_getElem hlt, List.getElem?_eq_getElem hindex',
    Option.some.injEq] at hsame
  have hback : path.drop indexPoint = path[index] :: path.drop (indexPoint + 1) := by
    rw [List.drop_eq_getElem_cons hlt, hsame]
  refine ⟨path.take index, path[index],
    (path.drop (index + 1)).take (indexPoint - (index + 1)),
    path.drop (indexPoint + 1), ?_, by rw [hback]⟩
  have hrest : path.drop (index + 1) =
      (path.drop (index + 1)).take (indexPoint - (index + 1)) ++
        path.drop indexPoint := by
    conv_lhs => rw [← List.take_append_drop (indexPoint - (index + 1))
      (path.drop (index + 1)), List.drop_drop]
    rw [Nat.add_sub_cancel' hless]
  rw [← hback, ← hrest, ← List.drop_eq_getElem_cons hindex', List.take_append_drop]

theorem cutLoop_isSome (h : ¬ path.Nodup) : (cutLoop path).isSome = true := by
  rw [List.nodup_iff_getElem?_ne_getElem?] at h
  push Not at h
  obtain ⟨index, indexPoint, hless, hlt, hsame⟩ := h
  rw [cutLoop, List.findSome?_isSome_iff]
  refine ⟨index, List.mem_range.mpr (Nat.lt_trans hless hlt), ?_⟩
  rw [Option.isSome_map, List.find?_isSome]
  exact ⟨indexPoint, mem_searchList.mpr ⟨hless, hlt⟩, decide_eq_true hsame.symm⟩

omit [DecidableEq α] in
theorem isChain_cut {R : α → α → Prop} {front loop back : List α} {node : α}
    (h : (front ++ node :: (loop ++ node :: back)).IsChain R) :
    (front ++ node :: back).IsChain R := by
  obtain ⟨hfront, hrest⟩ := List.isChain_split.mp h
  rw [← List.cons_append] at hrest
  exact List.isChain_split.mpr ⟨hfront, (List.isChain_split.mp hrest).2⟩

omit [DecidableEq α] in
theorem isChain_steps (path : List α) :
    path.IsChain fun a b => [a, b] <:+: path := by
  rw [List.isChain_iff_getElem]
  intro i hi
  refine ⟨path.take i, path.drop (i + 1 + 1), ?_⟩
  rw [List.append_assoc, List.cons_append, List.cons_append, List.nil_append,
    ← List.drop_eq_getElem_cons hi, ← List.drop_eq_getElem_cons (Nat.lt_of_succ_lt hi),
    List.take_append_drop]

theorem deLoop_of_nodup (h : path.Nodup) (hfuel : 0 < fuel) :
    deLoop py3 fuel path = .ok path := by
  obtain ⟨fuel, rfl⟩ := Nat.exists_eq_succ_of_ne_zero (Nat.ne_of_gt hfuel)
  rw [deLoop, hasLoop_eq_false_iff.mpr h]
  rfl

/-- In Python 2 the loop ends with a path without repeated nodes. -/
theorem exists_deLoop {R : α → α → Prop} (hpath : path.IsChain R) :
    ∃ result, (∀ fuel > path.length, deLoop false fuel path = .ok result) ∧
      result.head? = path.head? ∧ result.getLast? = path.getLast? ∧
      result.Nodup ∧ result.IsChain R := by
  induction hlength : path.length using Nat.strongRecOn generalizing path with
  | ind n ih =>
      by_cases hnodup : path.Nodup
      · exact ⟨path, fun fuel hfuel => deLoop_of_nodup hnodup (Nat.zero_lt_of_lt hfuel),
          rfl, rfl, hnodup, hpath⟩
      · obtain ⟨newPath, hnew⟩ := Option.isSome_iff_exists.mp (cutLoop_isSome hnodup)
        obtain ⟨front, node, loop, back, rfl, rfl⟩ := cutLoop_eq_some hnew
        -- the node in front of the loop is cut out with it
        have hshorter : (front ++ node :: back).length < n := by
          rw [← hlength]
          simp only [List.length_append, List.length_cons]
          omega
        obtain ⟨result, hresult, hhead, hlast, hrest⟩ :=
          ih _ hshorter (isChain_cut hpath) rfl
        refine ⟨result, fun fuel hfuel => ?_, hhead.trans ?_, hlast.trans ?_, hrest⟩
        · obtain ⟨fuel, rfl⟩ :=
            Nat.exists_eq_succ_of_ne_zero (Nat.ne_of_gt (Nat.zero_lt_of_lt hfuel))
          rw [deLoop, if_pos (hasLoop_of_not_nodup hnodup), hnew]
          exact hresult fuel (Nat.lt_of_lt_of_le hshorter (Nat.le_of_lt_succ hfuel))
        · cases front with
          | nil => rfl
          | cons a front => rfl
        · rw [List.getLast?_append_cons, List.getLast?_append_cons,
            ← List.cons_append, List.getLast?_append_cons]

/-- The loops are removed exactly in Python 2, or when there are none. -/
theorem deLoops_iff (py3 : Bool) (path : List α) :
    DeLoops py3 path ↔ py3 = false ∨ path.Nodup := by
  constructor
  · rintro ⟨result, hresult, -⟩
    rw [or_iff_not_imp_right]
    intro hnot
    have hturn := hresult (path.length + 1) (Nat.lt_succ_self _)
    rw [deLoop, if_pos (hasLoop_of_not_nodup hnot)] at hturn
    cases py3 with
    | false => rfl
    | true => cases hturn
  · intro hok
    by_cases hnodup : path.Nodup
    · exact ⟨path, fun fuel hfuel => deLoop_of_nodup hnodup (Nat.zero_lt_of_lt hfuel),
        rfl, rfl, hnodup, isChain_steps path, fun _ => rfl⟩
    · obtain rfl := hok.resolve_right hnodup
      obtain ⟨result, hresult, hhead, hlast, hnodup', hchain⟩ :=
        exists_deLoop (isChain_steps path)
      exact ⟨result, hresult, hhead, hlast, hnodup', hchain, fun h => absurd h hnodup⟩

end DeLoop

/-- A path that comes back to its first node. -/
theorem not_deLoops_backToFirst :
    ¬ DeLoops true [((0 : Nat), (1 : Nat)), (0, 2), (0, 1), (0, 3)] := by
  rintro ⟨result, hresult, -⟩
  cases hresult 5 (by decide)

end MultiLayerGraph

end SelfAdaptiveMano.Mapping

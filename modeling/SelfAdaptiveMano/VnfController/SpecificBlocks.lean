import SelfAdaptiveMano.VnfController.Allocations

/-!
# Taking given blocks

`allocateSpecificSource` reads the free intervals as closed. A block is taken
exactly where it is at the front of the interval that is found for it; elsewhere the
id before the block is lost, or an interval is taken that does not have the last id,
or a block that lies in several adjacent intervals is refused.
-/

namespace SelfAdaptiveMano

open Library Library.Intervals

namespace SourceAllocator

variable {start : Int} {num : Nat} {e : Int × Int} {l l' : List (Int × Int)}

/-- What `allocateSpecificSource` returns: `start`, or `-1`. -/
def specificResult (start num : Int) (unallocatedList : List (Int × Int)) : Int :=
  match takeSpecific start num unallocatedList with
  | some _ => start
  | none => -1

def BlockFree (l : List (Int × Int)) (block : Int × Nat) : Prop :=
  ∀ x, InBlock block x → Covers l x

/-- A block whose ids are all free is taken, and no other id; otherwise the call fails,
and the same ids are free. -/
structure TakesBlock (start : Int) (num : Nat) (l : List (Int × Int)) : Prop where
  taken : BlockFree l (start, num) → specificResult start num l = start ∧
    ∀ x, Covers (allocateSpecificSource start num l) x ↔
      Covers l x ∧ ¬ InBlock (start, num) x
  refused : ¬ BlockFree l (start, num) → specificResult start num l = -1 ∧
    ∀ x, Covers (allocateSpecificSource start num l) x ↔ Covers l x

/-- The block is at the front of the interval that is found for it, or none is found
and some of its ids are not free. An empty block may also be just behind the end of
the interval, and `-1` is what a refused call returns. -/
def AtFrontOfFound (start : Int) (num : Nat) (l : List (Int × Int)) : Prop :=
  match l.find? fun e => decide (Touches start num e) with
  | some e => start = e.1 ∧ start + num ≤ e.2 ∨ num = 0 ∧ start = e.2 + 1
  | none => ¬ BlockFree l (start, num) ∨ num = 0 ∧ start = -1

/-! ## What is taken -/

theorem covers_restOf_iff (h : start = e.1 ∧ start + num ≤ e.2 ∨
    num = 0 ∧ start = e.2 + 1) (hwell : e.1 ≤ e.2) (x : Int) :
    Covers (restOf start num e) x ↔
      (e.1 ≤ x ∧ x < e.2) ∧ ¬ InBlock (start, num) x := by
  have hcovers : Covers (restOf start num e) x ↔ e.1 + num ≤ x ∧ x < e.2 ∨
      num = 0 ∧ start ≠ e.1 ∧ e.1 ≤ x ∧ x < e.2 := by
    rw [restOf]
    split_ifs
    all_goals
      simp only [covers_cons, not_covers_nil, or_false]
      omega
  rw [hcovers, InBlock]
  dsimp only
  omega

theorem not_covers_restOf (h : Touches start num e) (hlo : e.1 < start) :
    ¬ Covers (restOf start num e) (start - 1) := by
  obtain ⟨-, hend⟩ := h
  rw [restOf]
  split_ifs
  all_goals
    simp only [covers_cons, not_covers_nil, or_false]
    omega

theorem covers_allocateSpecificSource {before after : List (Int × Int)}
    (h : Ascending (before ++ e :: after)) (htouches : Touches start num e)
    (htake : takeSpecific start num (before ++ e :: after) =
      some (before ++ restOf start num e ++ after)) (x : Int) :
    Covers (allocateSpecificSource start num (before ++ e :: after)) x ↔
      Covers before x ∨ Covers (restOf start num e) x ∨ Covers after x := by
  have hrest : Ascending (before ++ restOf start num e ++ after) :=
    h.replace (ascending_restOf htouches) fun d hd =>
      ⟨(mem_restOf htouches d hd).1, (mem_restOf htouches d hd).2.2⟩
  rw [allocateSpecificSource, htake]
  dsimp only
  rw [(mergeAdjacent_spec hrest).2.1, covers_append, covers_append, or_assoc]

theorem covers_allocateSpecificSource_of_none (h : Ascending l)
    (htake : takeSpecific start num l = none) (x : Int) :
    Covers (allocateSpecificSource start num l) x ↔ Covers l x := by
  rw [allocateSpecificSource, htake]
  dsimp only
  split
  · exact (mergeAdjacent_spec h).2.1 x
  · rfl

/-- The call fails: right where some id is not free. -/
theorem takesBlock_of_none_iff (h : Ascending l)
    (hne : Covers l start → start ≠ -1) (htake : takeSpecific start num l = none) :
    TakesBlock start num l ↔
      ¬ BlockFree l (start, num) ∨ num = 0 ∧ start = -1 := by
  have hresult : specificResult start num l = -1 := by
    rw [specificResult, htake]
  have hsame := covers_allocateSpecificSource_of_none h htake
  constructor
  · intro htakes
    by_cases hfree : BlockFree l (start, num)
    · right
      obtain ⟨hstart, -⟩ := htakes.taken hfree
      rw [hresult] at hstart
      refine ⟨?_, hstart.symm⟩
      by_contra hnum
      have hcovers : Covers l start :=
        hfree start ⟨Int.le_refl _, by dsimp only; omega⟩
      exact hne hcovers hstart.symm
    · exact Or.inl hfree
  · intro hor
    refine ⟨fun hfree => ?_, fun _ => ⟨hresult, hsame⟩⟩
    rcases hor with hnot | ⟨rfl, rfl⟩
    · exact absurd hfree hnot
    · refine ⟨hresult, fun x => ?_⟩
      have hempty : ¬ InBlock (-1, 0) x := by
        intro ⟨hle, hlt⟩
        dsimp only at hle hlt
        omega
      rw [hsame, and_iff_left hempty]

/-- An interval is found: right where the block is at its front. -/
theorem takesBlock_of_touches_iff {before after : List (Int × Int)}
    (h : Ascending (before ++ e :: after)) (hne : start ≠ -1) (htouches : Touches start num e)
    (htake : takeSpecific start num (before ++ e :: after) =
      some (before ++ restOf start num e ++ after)) :
    TakesBlock start num (before ++ e :: after) ↔
      start = e.1 ∧ start + num ≤ e.2 ∨ num = 0 ∧ start = e.2 + 1 := by
  have hwell : e.1 ≤ e.2 :=
    h.wellFormed e (List.mem_append_right _ List.mem_cons_self)
  have hresult : specificResult start num (before ++ e :: after) = start := by
    rw [specificResult, htake]
  have hcovers := covers_allocateSpecificSource h htouches htake
  obtain ⟨hlo, hhi⟩ := htouches
  constructor
  · intro htakes
    have hfree : BlockFree (before ++ e :: after) (start, num) := by
      by_contra hnot
      have hrefused := (htakes.refused hnot).1
      rw [hresult] at hrefused
      exact hne hrefused
    obtain ⟨-, hexact⟩ := htakes.taken hfree
    by_contra hfront
    rw [not_or] at hfront
    by_cases hbegin : start = e.1
    · -- the last id of the block is beyond the interval
      have hlast : e.2 = start + num - 1 := by omega
      have hblock : InBlock (start, num) e.2 := by
        rw [InBlock]
        dsimp only
        omega
      have hgone : ¬ Covers (before ++ e :: after) e.2 := by
        intro hbehind
        refine ((hexact e.2).mp ((hcovers e.2).mpr ?_)).2 hblock
        rcases covers_append.mp hbehind with hbefore | hbehind
        · exact Or.inl hbefore
        · rcases covers_cons.mp hbehind with hin | hafter
          · exact absurd hin.2 (Int.lt_irrefl _)
          · exact Or.inr (Or.inr hafter)
      exact hgone (hfree e.2 hblock)
    · -- the id before the block is lost
      have hbefore : e.1 ≤ start - 1 ∧ start - 1 < e.2 := by omega
      have hkept : Covers (before ++ e :: after) (start - 1) ∧
          ¬ InBlock (start, num) (start - 1) := by
        refine ⟨covers_append.mpr (Or.inr (covers_cons.mpr (Or.inl hbefore))), ?_⟩
        intro hblock
        have hle := hblock.1
        dsimp only at hle
        omega
      obtain ⟨hnot, hnot'⟩ := h.not_covers_of_mem hbefore.1 hbefore.2
      rcases (hcovers _).mp ((hexact _).mpr hkept) with hcov | hcov | hcov
      · exact hnot hcov
      · exact not_covers_restOf ⟨hlo, hhi⟩ (by omega) hcov
      · exact hnot' hcov
  · intro hfront
    have hin : ∀ x, InBlock (start, num) x → e.1 ≤ x ∧ x < e.2 := by
      rintro x ⟨hle, hlt⟩
      dsimp only at hle hlt
      omega
    have hfree : BlockFree (before ++ e :: after) (start, num) := fun x hx =>
      covers_append.mpr (Or.inr (covers_cons.mpr (Or.inl (hin x hx))))
    refine ⟨fun _ => ⟨hresult, fun x => ?_⟩, fun hnot => absurd hfree hnot⟩
    rw [hcovers, covers_restOf_iff hfront hwell, covers_append, covers_cons]
    have hothers : Covers before x ∨ Covers after x → ¬ InBlock (start, num) x := by
      intro hother hx
      obtain ⟨hnot, hnot'⟩ := h.not_covers_of_mem (hin x hx).1 (hin x hx).2
      exact hother.elim hnot hnot'
    tauto

theorem takesBlock_of_ascending_iff (h : Ascending l)
    (hne : ∀ e ∈ l, e.1 ≤ start → start ≠ -1) (num : Nat) :
    TakesBlock start num l ↔ AtFrontOfFound start num l := by
  rw [AtFrontOfFound]
  rcases takeSpecific_eq start num l with ⟨hfind, htake⟩ |
    ⟨before, e, after, hfind, rfl, htouches, htake⟩
  · rw [hfind]
    refine takesBlock_of_none_iff h ?_ htake
    rintro ⟨e, he, hle, -⟩
    exact hne e he hle
  · rw [hfind]
    have hstart := hne e (List.mem_append_right _ List.mem_cons_self) htouches.1
    exact takesBlock_of_touches_iff h hstart htouches htake

/-! ## Calls in any order -/

inductive Call where
  | allocateSource (num : Nat)
  | allocateSpecificSource (start : Int) (num : Nat)
  | freeSource (start num : Nat)

/-- An allocator of the ids from `start` to `maxNum`, with the calls in any order. -/
def callMachine (start maxNum : Nat) : Machine (List (Int × Int)) Call where
  init l := l = [((start : Int), (maxNum : Int))]
  admits _ _ := True
  step l
    | .allocateSource num => (SourceAllocator.allocateSource num l).2
    | .allocateSpecificSource start num =>
        SourceAllocator.allocateSpecificSource start num l
    | .freeSource start num => SourceAllocator.freeSource start num l

def Sorted (l : List (Int × Int)) : Prop :=
  Ascending l ∧ ∀ e ∈ l, 0 ≤ e.1

theorem Sorted.allocateSource (h : Sorted l) (num : Nat) :
    Sorted (allocateSource num l).2 := by
  by_cases hroom : HasRoom num l
  · obtain ⟨-, hasc, -, hlower⟩ :=
      allocateSource_spec (Int.natCast_nonneg num) h.1 hroom
    exact ⟨hasc, (hlower 0 h.2).2⟩
  · rw [allocateSource_of_not_hasRoom hroom]
    exact h

theorem Sorted.mergeAdjacent (h : Sorted l) : Sorted (mergeAdjacent l) := by
  obtain ⟨hasc, -, hlower⟩ := mergeAdjacent_spec h.1
  exact ⟨hasc, hlower 0 h.2⟩

theorem Sorted.allocateSpecificSource (h : Sorted l) (start : Int) (num : Nat) :
    Sorted (allocateSpecificSource start num l) := by
  rw [SourceAllocator.allocateSpecificSource]
  rcases takeSpecific_eq start num l with ⟨-, htake⟩ |
    ⟨before, e, after, -, rfl, htouches, htake⟩
  · rw [htake]
    dsimp only
    split
    · exact h.mergeAdjacent
    · exact h
  · rw [htake]
    have hin := mem_restOf htouches
    apply Sorted.mergeAdjacent
    refine ⟨h.1.replace (ascending_restOf htouches) fun d hd =>
      ⟨(hin d hd).1, (hin d hd).2.2⟩, fun d hd => ?_⟩
    have he := h.2 e (List.mem_append_right _ List.mem_cons_self)
    rcases List.mem_append.mp hd with hd | hd
    · rcases List.mem_append.mp hd with hd | hd
      · exact h.2 d (List.mem_append_left _ hd)
      · exact Int.le_trans he (hin d hd).1
    · exact h.2 d (List.mem_append_right _ (List.mem_cons_of_mem e hd))

theorem Sorted.freeSource (h : Sorted l) (start num : Nat) :
    Sorted (freeSource start num l) :=
  ⟨(freeSource_spec (Int.natCast_nonneg num) h.1).1,
    le_of_mem_freeSource (Int.natCast_nonneg start) h.2⟩

theorem sorted_of_reachable {first maxNum : Nat} (hle : first ≤ maxNum)
    (h : (callMachine first maxNum).Reachable l) : Sorted l := by
  refine h.invariant ?_ fun l call hl _ => ?_
  · rintro _ rfl
    have hbounds : (first : Int) ≤ maxNum := Int.ofNat_le.mpr hle
    refine ⟨ascending_cons.mpr ⟨hbounds, by simp, ascending_nil⟩, ?_⟩
    intro e he
    rw [List.mem_singleton.mp he]
    exact Int.natCast_nonneg first
  · cases call with
    | allocateSource num => exact hl.allocateSource num
    | allocateSpecificSource start num => exact hl.allocateSpecificSource start num
    | freeSource start num => exact hl.freeSource start num

/-- In every state a given block is taken as it should exactly where it is at the front
of the interval that is found for it. -/
theorem takesBlock_iff {first maxNum : Nat} (hle : first ≤ maxNum)
    (h : (callMachine first maxNum).Reachable l) (start : Int) (num : Nat) :
    TakesBlock start num l ↔ AtFrontOfFound start num l := by
  obtain ⟨hasc, hlower⟩ := sorted_of_reachable hle h
  refine takesBlock_of_ascending_iff hasc (fun e he hle => ?_) num
  have hzero := hlower e he
  omega

theorem takesBlock_iff_front : TakesBlock 0 3 [(0, 8)] := by
  have hreachable : (callMachine 0 8).Reachable [(0, 8)] := .init rfl
  have hfront : AtFrontOfFound 0 3 [(0, 8)] := Or.inl ⟨rfl, by decide⟩
  exact (takesBlock_iff (by decide) hreachable 0 3).mpr hfront

/-- The id 1 is lost when 2 and 3 are taken. -/
theorem not_takesBlock_middle :
    (callMachine 0 8).Reachable [(0, 8)] ∧ ¬ TakesBlock 2 2 [(0, 8)] := by
  refine ⟨.init rfl, fun htakes => ?_⟩
  have hfree : BlockFree [(0, 8)] (2, 2) := by
    intro x ⟨hle, hlt⟩
    dsimp only at hle hlt
    exact ⟨(0, 8), List.mem_cons_self, by dsimp only; omega, by dsimp only; omega⟩
  obtain ⟨-, hexact⟩ := htakes.taken hfree
  have hcovers : Covers [(0, 8)] 1 := ⟨(0, 8), List.mem_cons_self, by decide, by decide⟩
  have hblock : ¬ InBlock (2, 2) 1 := fun hin => absurd hin.1 (by decide)
  have hnot : ¬ Covers (allocateSpecificSource 2 2 [(0, 8)]) 1 := by
    rintro ⟨e, he, hlo, hhi⟩
    have hleft : allocateSpecificSource 2 2 [(0, 8)] = [(0, 1), (4, 8)] := rfl
    rw [hleft] at he
    rcases List.mem_cons.mp he with rfl | he
    · exact absurd hhi (by decide)
    · rw [List.mem_singleton.mp he] at hlo
      exact absurd hlo (by decide)
  exact hnot ((hexact 1).mpr ⟨hcovers, hblock⟩)

end SourceAllocator

end SelfAdaptiveMano

import SelfAdaptiveMano.VnfController.SourceAllocator
import SelfAdaptiveMano.Library.Machine
import SelfAdaptiveMano.Library.Python

/-!
# Allocating and freeing

Blocks of ids are allocated, and freed in any order. The free intervals stay
sorted, and no id is allocated twice. An id can be lost, though: a block that lies
in the last gap between the free intervals is dropped when it is freed.

Cores are allocated and freed in the same way, and none is lost.
-/

namespace SelfAdaptiveMano

open Library Library.Intervals

namespace SourceAllocator

/-! ## Blocks of ids -/

/-- The free intervals, and the allocated blocks: the first id and how many. -/
structure Blocks where
  unallocatedList : List (Int × Int)
  allocated : List (Int × Nat)

inductive BlockEvent where
  | allocate (num : Nat)
  | free (block : Int × Nat)

def InBlock (block : Int × Nat) (x : Int) : Prop :=
  block.1 ≤ x ∧ x < block.1 + block.2

def Blocks.Allocated (s : Blocks) (x : Int) : Prop :=
  ∃ block ∈ s.allocated, InBlock block x

/-- An allocator of the ids from `start` to `maxNum`, which is asked for blocks and
gets them back. -/
def machine (start maxNum : Nat) : Machine Blocks BlockEvent where
  init s := s = ⟨[((start : Int), (maxNum : Int))], []⟩
  admits s
    | .allocate _ => True
    | .free block => block ∈ s.allocated
  step s
    | .allocate num =>
        let (result, unallocatedList) := allocateSource num s.unallocatedList
        if result = -1 then ⟨unallocatedList, s.allocated⟩
        else ⟨unallocatedList, s.allocated ++ [(result, num)]⟩
    | .free block =>
        ⟨freeSource block.1 block.2 s.unallocatedList, s.allocated.erase block⟩

instance (start maxNum : Nat) (s : Blocks) :
    ∀ e, Decidable ((machine start maxNum).admits s e)
  | .allocate _ => inferInstanceAs (Decidable True)
  | .free block => inferInstanceAs (Decidable (block ∈ s.allocated))

/-- The free intervals are sorted, no id is in two blocks, and what is not in a
block is free. -/
structure Exact (start maxNum : Nat) (s : Blocks) : Prop where
  sorted : Ascending s.unallocatedList
  apart : s.allocated.Pairwise fun a b => ∀ x, InBlock a x → ¬ InBlock b x
  complement : ∀ x, Covers s.unallocatedList x ↔
    (start ≤ x ∧ x < maxNum) ∧ ¬ s.Allocated x

def EventOk (s : Blocks) : BlockEvent → Prop
  | .allocate _ => True
  | .free block => block.2 = 0 ∨ Placeable block.1 block.2 s.unallocatedList

/-- What holds whether or not ids are lost. -/
structure Kept (start maxNum : Nat) (s : Blocks) : Prop where
  sorted : Ascending s.unallocatedList
  apart : s.allocated.Pairwise fun a b => ∀ x, InBlock a x → ¬ InBlock b x
  lower : ∀ e ∈ s.unallocatedList, (start : Int) ≤ e.1
  blockLower : ∀ block ∈ s.allocated, (start : Int) ≤ block.1
  blockUpper : ∀ x, s.Allocated x → x < maxNum
  free : ∀ x, Covers s.unallocatedList x → x < maxNum ∧ ¬ s.Allocated x

/-- No id is lost. -/
def Complete (start maxNum : Nat) (s : Blocks) : Prop :=
  ∀ x : Int, start ≤ x → x < maxNum → ¬ s.Allocated x →
    Covers s.unallocatedList x

section Blocks

variable {start maxNum : Nat} {s : Blocks}

theorem Kept.exact_iff (h : Kept start maxNum s) :
    Exact start maxNum s ↔ Complete start maxNum s := by
  constructor
  · intro hexact x hstart hmax hnot
    exact (hexact.complement x).mpr ⟨⟨hstart, hmax⟩, hnot⟩
  · intro hcomplete
    refine ⟨h.sorted, h.apart, fun x => ⟨fun hx => ?_, ?_⟩⟩
    · obtain ⟨hmax, hnot⟩ := h.free x hx
      exact ⟨⟨hx.le h.lower, hmax⟩, hnot⟩
    · rintro ⟨⟨hstart, hmax⟩, hnot⟩
      exact hcomplete x hstart hmax hnot

theorem kept_start (h : start ≤ maxNum) :
    Kept start maxNum ⟨[((start : Int), (maxNum : Int))], []⟩ := by
  refine ⟨ascending_cons.mpr ⟨by dsimp only; omega, by simp, ascending_nil⟩, .nil,
    by simp, by simp, ?_, ?_⟩
  · rintro x ⟨block, hblock, -⟩
    cases hblock
  · intro x hx
    obtain ⟨-, hmax⟩ | hx := covers_cons.mp hx
    · refine ⟨hmax, ?_⟩
      rintro ⟨block, hblock, -⟩
      cases hblock
    · exact absurd hx (not_covers_nil x)

/-! ### Allocating -/

theorem allocateSource_of_not_hasRoom {num : Int} {l : List (Int × Int)}
    (h : ¬ HasRoom num l) : allocateSource num l = (-1, l) := by
  induction l with
  | nil => rfl
  | cons e l ih =>
      obtain ⟨lo, hi⟩ := e
      have hless : ¬ num ≤ hi - lo := fun hle =>
        h ⟨(lo, hi), List.mem_cons_self, hle⟩
      have hrest : ¬ HasRoom num l := by
        rintro ⟨e, he, hle⟩
        exact h ⟨e, List.mem_cons_of_mem _ he, hle⟩
      rw [allocateSource, if_neg (by omega), if_neg (by omega), ih hrest]

theorem Kept.step_allocate (h : Kept start maxNum s) (num : Nat) :
    (machine start maxNum).step s (.allocate num) = s ∨
      ∃ result unallocatedList,
        (machine start maxNum).step s (.allocate num) =
          ⟨unallocatedList, s.allocated ++ [(result, num)]⟩ ∧
        (start : Int) ≤ result ∧ Ascending unallocatedList ∧
        (∀ e ∈ unallocatedList, (start : Int) ≤ e.1) ∧
        (∀ x, InBlock (result, num) x → Covers s.unallocatedList x) ∧
        ∀ x, Covers unallocatedList x ↔
          Covers s.unallocatedList x ∧ ¬ InBlock (result, num) x := by
  by_cases hroom : HasRoom (num : Int) s.unallocatedList
  · right
    obtain ⟨hfree, hasc, hcovers, hlower⟩ :=
      allocateSource_spec (Int.natCast_nonneg num) h.sorted hroom
    obtain ⟨hresult, hrest⟩ := hlower start h.lower
    refine ⟨_, _, ?_, hresult, hasc, hrest, fun x hx => hfree x hx.1 hx.2, hcovers⟩
    show (if (allocateSource num s.unallocatedList).1 = -1 then _ else _) = _
    rw [if_neg (by omega)]
  · left
    show (if (allocateSource num s.unallocatedList).1 = -1 then _ else _) = _
    rw [allocateSource_of_not_hasRoom hroom, if_pos rfl]

theorem allocated_append {result : Int} {num : Nat} {x : Int}
    {l : List (Int × Int)} :
    Blocks.Allocated ⟨l, s.allocated ++ [(result, num)]⟩ x ↔
      s.Allocated x ∨ InBlock (result, num) x := by
  simp [Blocks.Allocated, or_and_right, exists_or]

theorem Kept.allocate (h : Kept start maxNum s) (num : Nat) :
    Kept start maxNum ((machine start maxNum).step s (.allocate num)) := by
  obtain hsame | ⟨result, l, hstep, hresult, hasc, hlower, hfree, hcovers⟩ :=
    h.step_allocate num
  · rw [hsame]
    exact h
  · rw [hstep]
    refine ⟨hasc, ?_, hlower, ?_, fun x hx => ?_, fun x hx => ?_⟩
    · refine List.pairwise_append.mpr
        ⟨h.apart, List.pairwise_singleton .., fun a ha b hb x hxa hxb => ?_⟩
      obtain rfl := List.mem_singleton.mp hb
      exact (h.free x (hfree x hxb)).2 ⟨a, ha, hxa⟩
    · intro block hblock
      obtain hblock | hblock := List.mem_append.mp hblock
      · exact h.blockLower block hblock
      · rw [List.mem_singleton.mp hblock]
        exact hresult
    · obtain hx | hx := allocated_append.mp hx
      · exact h.blockUpper x hx
      · exact (h.free x (hfree x hx)).1
    · obtain ⟨hold, hnot⟩ := (hcovers x).mp hx
      obtain ⟨hmax, hother⟩ := h.free x hold
      refine ⟨hmax, fun hallocated => ?_⟩
      obtain hallocated | hnew := allocated_append.mp hallocated
      · exact hother hallocated
      · exact hnot hnew

theorem Kept.complete_allocate (h : Kept start maxNum s)
    (hcomplete : Complete start maxNum s) (num : Nat) :
    Complete start maxNum ((machine start maxNum).step s (.allocate num)) := by
  obtain hsame | ⟨result, l, hstep, -, -, -, -, hcovers⟩ := h.step_allocate num
  · rw [hsame]
    exact hcomplete
  · rw [hstep]
    intro x hstart hmax hnot
    rw [allocated_append, not_or] at hnot
    exact (hcovers x).mpr ⟨hcomplete x hstart hmax hnot.1, hnot.2⟩

/-! ### Freeing -/

theorem fst_of_mem_mergeAdjacent {l : List (Int × Int)} {e : Int × Int}
    (h : e ∈ mergeAdjacent l) : ∃ b ∈ l, b.1 = e.1 := by
  fun_induction mergeAdjacent l with
  | case1 lo hi hi' l =>
      obtain rfl | h := List.mem_cons.mp h
      · exact ⟨(lo, hi), List.mem_cons_self, rfl⟩
      · exact ⟨e, List.mem_cons_of_mem _ (List.mem_cons_of_mem _ h), rfl⟩
  | case2 lo hi lo' hi' l hne ih =>
      obtain rfl | h := List.mem_cons.mp h
      · exact ⟨(lo, hi), List.mem_cons_self, rfl⟩
      · obtain ⟨b, hb, heq⟩ := ih h
        exact ⟨b, List.mem_cons_of_mem _ hb, heq⟩
  | case3 l => exact ⟨e, h, rfl⟩

theorem of_mem_insertInGap {start num : Int} {l : List (Int × Int)}
    {e : Int × Int} (h : e ∈ insertInGap start num l) :
    e = (start, start + num) ∨ e ∈ l := by
  fun_induction insertInGap start num l with
  | case1 a b c l hfits =>
      simp only [List.mem_cons] at h ⊢
      tauto
  | case2 a b c l hnot ih =>
      obtain rfl | h := List.mem_cons.mp h
      · exact Or.inr List.mem_cons_self
      · exact (ih h).imp_right (List.mem_cons_of_mem a)
  | case3 l => exact Or.inr h

theorem le_of_mem_freeSource {start num lo : Int} {l : List (Int × Int)}
    (hstart : lo ≤ start) (hlo : ∀ e ∈ l, lo ≤ e.1) :
    ∀ e ∈ freeSource start num l, lo ≤ e.1 := by
  intro e he
  simp only [freeSource] at he
  generalize hlist : (if l = [] then [(start, start + num)] else l) = l' at he
  have hlo' : ∀ e ∈ l', lo ≤ e.1 := by
    intro e he
    rw [← hlist] at he
    split at he
    · rw [List.mem_singleton.mp he]
      exact hstart
    · exact hlo e he
  obtain ⟨b, hb, heq⟩ := fst_of_mem_mergeAdjacent he
  rw [← heq]
  split at hb
  · obtain rfl | hb := List.mem_cons.mp hb
    · exact hstart
    · exact hlo' b hb
  · split at hb
    · obtain hb | hb := List.mem_append.mp hb
      · exact hlo' b hb
      · rw [List.mem_singleton.mp hb]
        exact hstart
    · obtain rfl | hb := of_mem_insertInGap hb
      · exact hstart
      · exact hlo' b hb

/-- The ids of the other blocks are those that are not in the block. -/
theorem Kept.allocated_erase (h : Kept start maxNum s) {block : Int × Nat}
    (hblock : block ∈ s.allocated) (l : List (Int × Int)) (x : Int) :
    Blocks.Allocated ⟨l, s.allocated.erase block⟩ x ↔
      s.Allocated x ∧ ¬ InBlock block x := by
  have hperm := List.perm_cons_erase hblock
  have hapart := (hperm.pairwise_iff fun {a b} hab x hb ha => hab x ha hb).mp
    h.apart
  obtain ⟨hothers, -⟩ := List.pairwise_cons.mp hapart
  constructor
  · rintro ⟨b, hb, hx⟩
    exact ⟨⟨b, List.mem_of_mem_erase hb, hx⟩, fun hin => hothers b hb x hin hx⟩
  · rintro ⟨⟨b, hb, hx⟩, hnot⟩
    have hne : b ≠ block := fun heq => hnot (heq ▸ hx)
    exact ⟨b, (List.mem_erase_of_ne hne).mpr hb, hx⟩

theorem Kept.free_step (h : Kept start maxNum s) {block : Int × Nat}
    (hblock : block ∈ s.allocated) :
    Kept start maxNum ((machine start maxNum).step s (.free block)) := by
  obtain ⟨hasc, hcovers⟩ := @freeSource_spec block.1 block.2
    (Int.natCast_nonneg block.2) _ h.sorted
  refine ⟨hasc, h.apart.sublist List.erase_sublist,
    le_of_mem_freeSource (h.blockLower block hblock) h.lower,
    fun b hb => h.blockLower b (List.mem_of_mem_erase hb), fun x hx => ?_,
    fun x hx => ?_⟩
  · exact h.blockUpper x ((h.allocated_erase hblock _ x).mp hx).1
  · rw [machine, h.allocated_erase hblock]
    obtain hx | ⟨-, hin⟩ := (hcovers x).mp hx
    · obtain ⟨hmax, hnot⟩ := h.free x hx
      exact ⟨hmax, fun hboth => hnot hboth.1⟩
    · exact ⟨h.blockUpper x ⟨block, hblock, hin⟩, fun hboth => hboth.2 hin⟩

/-- No id is lost exactly when the block can be put back. -/
theorem Kept.complete_free_iff (h : Kept start maxNum s)
    (hcomplete : Complete start maxNum s) {block : Int × Nat}
    (hblock : block ∈ s.allocated) :
    Complete start maxNum ((machine start maxNum).step s (.free block)) ↔
      EventOk s (.free block) := by
  obtain ⟨-, hcovers⟩ := @freeSource_spec block.1 block.2
    (Int.natCast_nonneg block.2) _ h.sorted
  constructor
  · intro hafter
    rw [EventOk, or_iff_not_imp_left]
    intro hne
    have hin : InBlock block block.1 := ⟨le_rfl, by omega⟩
    have hallocated : s.Allocated block.1 := ⟨block, hblock, hin⟩
    have hfree := hafter block.1 (h.blockLower block hblock)
      (h.blockUpper _ hallocated) fun hboth =>
        ((h.allocated_erase hblock _ _).mp hboth).2 hin
    obtain hold | ⟨hplaceable, -⟩ := (hcovers block.1).mp hfree
    · exact absurd hallocated (h.free _ hold).2
    · exact hplaceable
  · intro hok x hstart hmax hnot
    refine (hcovers x).mpr ?_
    by_cases hin : InBlock block x
    · right
      obtain hzero | hplaceable := hok
      · have hin := hin
        rw [InBlock, hzero] at hin
        omega
      · exact ⟨hplaceable, hin⟩
    · left
      apply hcomplete x hstart hmax
      intro hallocated
      exact hnot ((h.allocated_erase hblock _ x).mpr ⟨hallocated, hin⟩)

theorem kept_of_reachable (hle : start ≤ maxNum)
    (h : (machine start maxNum).Reachable s) : Kept start maxNum s := by
  refine h.invariant (P := Kept start maxNum) ?_ ?_
  · rintro s rfl
    exact kept_start hle
  · rintro s (num | block) hs hadmits
    · exact hs.allocate num
    · exact hs.free_step hadmits

/-- In a run, the free intervals are always exactly what is not allocated if and
only if each block can be put back when it is freed. -/
theorem exact_of_run_iff {τ : List (Blocks × BlockEvent)} (hle : start ≤ maxNum)
    (h : (machine start maxNum).Run τ s) :
    ((∀ e ∈ τ, Exact start maxNum e.1) ∧ Exact start maxNum s) ↔
      ∀ e ∈ τ, EventOk e.1 e.2 := by
  refine h.all_iff_meets (P := Exact start maxNum) (C := EventOk) ?_ ?_
  · rintro s rfl
    refine (kept_start hle).exact_iff.mpr fun x hstart hmax _ => ?_
    exact covers_cons.mpr (Or.inl ⟨hstart, hmax⟩)
  · intro s e hreachable hexact hadmits
    have hs := kept_of_reachable hle hreachable
    have hcomplete := hs.exact_iff.mp hexact
    rw [(kept_of_reachable hle (hreachable.step hadmits)).exact_iff]
    cases e with
    | allocate num => exact iff_of_true (hs.complete_allocate hcomplete num) trivial
    | free block => exact hs.complete_free_iff hcomplete hadmits

theorem run_of_arrive (events : List BlockEvent)
    (h : (machine 0 65536).Arrive ⟨[(0, 65536)], []⟩ events) :
    (machine 0 65536).Run ((machine 0 65536).trace ⟨[(0, 65536)], []⟩ events)
      (events.foldl (machine 0 65536).step ⟨[(0, 65536)], []⟩) :=
  Machine.Run.arrive (.start rfl) h

theorem exact_of_run_iff_once : ∃ τ s, (machine 0 65536).Run τ s ∧
    τ.length = 2 ∧ Exact 0 65536 s := by
  have hrun := run_of_arrive [.allocate 2, .free (0, 2)] (by decide)
  refine ⟨_, _, hrun, rfl, ((exact_of_run_iff (by decide) hrun).mpr ?_).2⟩
  intro e he
  obtain rfl | he := List.mem_cons.mp he
  · trivial
  · obtain rfl := List.mem_singleton.mp he
    exact Or.inr (Or.inr (Or.inl ⟨(2, 65536), rfl, by decide⟩))

/-- The third of four blocks is freed after the first. -/
theorem not_exact_thirdBlock : ∃ τ s, (machine 0 65536).Run τ s ∧
    ¬ Exact 0 65536 s := by
  refine ⟨_, _, run_of_arrive [.allocate 2, .allocate 2, .allocate 2, .allocate 2,
    .free (0, 2), .free (4, 2)] (by decide), fun hexact => ?_⟩
  have hfree : Covers [(0, 2), (8, 65536)] 4 := by
    refine (hexact.complement 4).mpr ⟨by decide, ?_⟩
    show ¬ ∃ block ∈ [((2 : Int), 2), (6, 2)], InBlock block 4
    simp [InBlock]
  simp [Covers] at hfree

end Blocks

end SourceAllocator

namespace CPUAllocator

/-! ## Cores -/

/-- The second loop of `allocateCPU`: the cores taken from each socket, those left,
and how many are missing when all sockets were visited. -/
def visitSockets (num : Nat) :
    List (List Nat) → List (List Nat) × List (List Nat) × Option Nat
  | [] => ([], [], some num)
  | coreInSocket :: rest =>
      if coreInSocket.length < num then
        let (resCpu, rest, missing) :=
          visitSockets (num - coreInSocket.length) rest
        (coreInSocket :: resCpu, [] :: rest, missing)
      else (coreInSocket.take num :: rest.map fun _ => [],
        coreInSocket.drop num :: rest, none)

/-- `allocateCPU` with what it does when there are not enough cores; `none` stands
for `(None, None)`. -/
def allocateOrRestore (num : Nat) (coreInSocketList : List (List Nat)) :
    Except PyError (Option (List (List Nat))) × List (List Nat) :=
  match takeFromOne num coreInSocketList with
  | some (resCpu, rest) => (.ok (some resCpu), rest)
  | none =>
      match visitSockets num coreInSocketList with
      | (resCpu, rest, none) => (.ok (some resCpu), rest)
      | (resCpu, rest, some missing) =>
          if 0 < missing then (.ok none, freeCPU resCpu rest)
          else (.error .assertionError, rest)

theorem visitSockets_of_takeAcross {num : Nat} {l resCpu rest : List (List Nat)}
    (h : takeAcross num l = some (resCpu, rest)) :
    visitSockets num l = (resCpu, rest, none) := by
  induction l generalizing num resCpu rest with
  | nil => cases h
  | cons core l ih =>
      rw [takeAcross] at h
      rw [visitSockets]
      split_ifs at h ⊢ with hlt
      · obtain ⟨⟨res, rest'⟩, hrest, heq⟩ := Option.map_eq_some_iff.mp h
        cases heq
        rw [ih hrest]
      · cases h
        rfl

/-- Without enough cores all of them are taken. -/
theorem visitSockets_of_takeAcross_eq_none {num : Nat} {l : List (List Nat)}
    (h : takeAcross num l = none) :
    ∃ missing, visitSockets num l = (l, l.map fun _ => [], some missing) ∧
      (missing = 0 → l = []) := by
  induction l generalizing num with
  | nil => exact ⟨num, rfl, fun _ => rfl⟩
  | cons core l ih =>
      rw [takeAcross] at h
      split_ifs at h with hlt
      obtain ⟨missing, hvisit, hzero⟩ := ih (Option.map_eq_none_iff.mp h)
      refine ⟨missing, ?_, fun hmissing => ?_⟩
      · rw [visitSockets, if_pos hlt, hvisit]
        rfl
      · obtain rfl := hzero hmissing
        obtain rfl : num - core.length = missing := by
          simpa [visitSockets] using hvisit
        omega

theorem freeCPU_map_nil (l : List (List Nat)) :
    freeCPU l (l.map fun _ => []) = l := by
  induction l with
  | nil => rfl
  | cons core l ih => rw [List.map_cons, freeCPU, ih, List.nil_append]

/-- An allocation succeeds as `allocateCPU` says, or everything is as before. -/
theorem allocateOrRestore_cases (num : Nat) (l : List (List Nat)) :
    (∃ resCpu rest, allocateCPU num l = some (resCpu, rest) ∧
      allocateOrRestore num l = (.ok (some resCpu), rest)) ∨
    (allocateCPU num l = none ∧
      (allocateOrRestore num l = (.ok none, l) ∨
        allocateOrRestore num l = (.error .assertionError, l))) := by
  rw [allocateCPU, allocateOrRestore]
  cases hone : takeFromOne num l with
  | some taken =>
      left
      exact ⟨taken.1, taken.2, rfl, rfl⟩
  | none =>
      cases hacross : takeAcross num l with
      | some taken =>
          left
          refine ⟨taken.1, taken.2, rfl, ?_⟩
          rw [visitSockets_of_takeAcross hacross]
      | none =>
          right
          refine ⟨rfl, ?_⟩
          obtain ⟨missing, hvisit, hzero⟩ :=
            visitSockets_of_takeAcross_eq_none hacross
          rw [hvisit]
          by_cases hmissing : 0 < missing
          · left
            simp only [hmissing, if_true, freeCPU_map_nil]
          · right
            obtain rfl := hzero (by omega)
            simp only [hmissing, if_false, List.map_nil]

/-! ### How many cores are taken -/

theorem length_takeFromOne {num : Nat} {l resCpu rest : List (List Nat)}
    (h : takeFromOne num l = some (resCpu, rest)) : resCpu.flatten.length = num := by
  induction l generalizing resCpu rest with
  | nil => cases h
  | cons core l ih =>
      rw [takeFromOne] at h
      split_ifs at h with hle
      · cases h
        simp [Nat.min_eq_left hle]
      · obtain ⟨⟨res, rest'⟩, hrest, heq⟩ := Option.map_eq_some_iff.mp h
        cases heq
        rw [List.flatten_cons, List.nil_append]
        exact ih hrest

theorem length_takeAcross {num : Nat} {l resCpu rest : List (List Nat)}
    (h : takeAcross num l = some (resCpu, rest)) : resCpu.flatten.length = num := by
  induction l generalizing num resCpu rest with
  | nil => cases h
  | cons core l ih =>
      rw [takeAcross] at h
      split_ifs at h with hlt
      · obtain ⟨⟨res, rest'⟩, hrest, heq⟩ := Option.map_eq_some_iff.mp h
        cases heq
        rw [List.flatten_cons, List.length_append, ih hrest]
        omega
      · cases h
        simp [Nat.min_eq_left (Nat.le_of_not_lt hlt)]

theorem length_allocateCPU {num : Nat} {l resCpu rest : List (List Nat)}
    (h : allocateCPU num l = some (resCpu, rest)) : resCpu.flatten.length = num := by
  obtain h | ⟨-, h⟩ := Option.or_eq_some_iff.mp h
  · exact length_takeFromOne h
  · exact length_takeAcross h

/-! ### The cores that are available -/

theorem mem_flatten_removeCore {core core' : Nat} {l : List (List Nat)}
    (h : l.flatten.Nodup) :
    core' ∈ (removeCore core l).flatten ↔ core' ∈ l.flatten ∧ core' ≠ core := by
  induction l with
  | nil => simp [removeCore]
  | cons coreInSocket l ih =>
      rw [List.flatten_cons] at h
      obtain ⟨hsocket, hrest, hapart⟩ := List.nodup_append.mp h
      rw [removeCore]
      split_ifs with hmem
      · have hnot : core ∉ l.flatten := fun hin => hapart core hmem core hin rfl
        rw [List.flatten_cons, List.flatten_cons, List.mem_append, List.mem_append,
          hsocket.mem_erase_iff]
        constructor
        · rintro (⟨hne, hin⟩ | hin)
          · exact ⟨Or.inl hin, hne⟩
          · exact ⟨Or.inr hin, fun heq => hnot (heq ▸ hin)⟩
        · rintro ⟨hin | hin, hne⟩
          · exact Or.inl ⟨hne, hin⟩
          · exact Or.inr hin
      · rw [List.flatten_cons, List.flatten_cons, List.mem_append, List.mem_append,
          ih hrest]
        constructor
        · rintro (hin | ⟨hin, hne⟩)
          · exact ⟨Or.inl hin, fun heq => hmem (heq ▸ hin)⟩
          · exact ⟨Or.inr hin, hne⟩
        · rintro ⟨hin | hin, hne⟩
          · exact Or.inl hin
          · exact Or.inr ⟨hin, hne⟩

theorem mem_flatten_rmNotAvaiCPU {core : Nat} {l : List (List Nat)}
    {notAvaiCPU : List Nat} (h : l.flatten.Nodup) :
    core ∈ (rmNotAvaiCPUFromCoreInSocketList l notAvaiCPU).flatten ↔
      core ∈ l.flatten ∧ core ∉ notAvaiCPU := by
  induction notAvaiCPU generalizing l with
  | nil => simp [rmNotAvaiCPUFromCoreInSocketList]
  | cons core' notAvaiCPU ih =>
      have hrest := h.sublist (flatten_removeCore_sublist core' l)
      have hcons : rmNotAvaiCPUFromCoreInSocketList l (core' :: notAvaiCPU) =
          rmNotAvaiCPUFromCoreInSocketList (removeCore core' l) notAvaiCPU := rfl
      rw [hcons, ih hrest, mem_flatten_removeCore h, List.mem_cons, not_or,
        and_assoc]

/-! ### Runs -/

structure Cores where
  coreInSocketList : List (List Nat)
  allocated : List (List (List Nat))

inductive CoreEvent where
  | allocate (num : Nat)
  | free (cpus : List (List Nat))

/-- An allocator of the cores but for those that are not available. -/
def machine (coreInSocketList : List (List Nat)) (notAvaiCPU : List Nat) :
    Machine Cores CoreEvent where
  init s :=
    s = ⟨rmNotAvaiCPUFromCoreInSocketList coreInSocketList notAvaiCPU, []⟩
  admits s
    | .allocate _ => True
    | .free cpus => cpus ∈ s.allocated
  step s
    | .allocate num =>
        match allocateOrRestore num s.coreInSocketList with
        | (.ok (some cpus), rest) => ⟨rest, s.allocated ++ [cpus]⟩
        | (_, rest) => ⟨rest, s.allocated⟩
    | .free cpus => ⟨freeCPU cpus s.coreInSocketList, s.allocated.erase cpus⟩

def Cores.all (s : Cores) : List Nat :=
  s.coreInSocketList.flatten ++ s.allocated.flatten.flatten

/-- The cores are those of the start, and each allocation has its sockets. -/
structure Conserved (coreInSocketList : List (List Nat)) (s : Cores) : Prop where
  perm : s.all.Perm coreInSocketList.flatten
  sockets : ∀ cpus ∈ s.allocated, cpus.length = s.coreInSocketList.length

section Runs

variable {l l' : List (List Nat)} {notAvaiCPU : List Nat} {s : Cores}

theorem Conserved.allocate (h : Conserved l s) (num : Nat) :
    Conserved l ((machine l' notAvaiCPU).step s (.allocate num)) := by
  obtain ⟨resCpu, rest, halloc, heq⟩ | ⟨-, heq | heq⟩ :=
    allocateOrRestore_cases num s.coreInSocketList
  · obtain ⟨hperm, hlength, hlength'⟩ := allocateCPU_spec halloc
    have hstep : (machine l' notAvaiCPU).step s (.allocate num) =
        ⟨rest, s.allocated ++ [resCpu]⟩ := by
      simp only [machine, heq]
    rw [hstep]
    refine ⟨?_, fun cpus hcpus => ?_⟩
    · refine List.Perm.trans ?_ h.perm
      simp only [Cores.all, List.flatten_append, List.flatten_singleton,
        ← List.append_assoc]
      refine List.perm_append_comm.trans ?_
      rw [← List.append_assoc]
      exact hperm.append_right _
    · rw [hlength']
      obtain hcpus | hcpus := List.mem_append.mp hcpus
      · exact h.sockets cpus hcpus
      · rw [List.mem_singleton.mp hcpus]
        exact hlength
  · have hstep : (machine l' notAvaiCPU).step s (.allocate num) = s := by
      simp only [machine, heq]
    rw [hstep]
    exact h
  · have hstep : (machine l' notAvaiCPU).step s (.allocate num) = s := by
      simp only [machine, heq]
    rw [hstep]
    exact h

theorem Conserved.free (h : Conserved l s) {cpus : List (List Nat)}
    (hcpus : cpus ∈ s.allocated) :
    Conserved l ((machine l' notAvaiCPU).step s (.free cpus)) := by
  refine ⟨?_, fun cpus' hcpus' => ?_⟩
  · refine List.Perm.trans ?_ h.perm
    have hfree := freeCPU_perm (Nat.le_of_eq (h.sockets cpus hcpus))
    have hrest := ((List.perm_cons_erase hcpus).flatten).flatten
    rw [List.flatten_cons, List.flatten_append] at hrest
    refine (hfree.append_right _).trans ?_
    rw [List.append_assoc]
    exact hrest.symm.append_left _
  · show cpus'.length = (freeCPU cpus s.coreInSocketList).length
    rw [length_freeCPU]
    exact h.sockets cpus' (List.mem_of_mem_erase hcpus')

theorem conserved_of_reachable (h : (machine l notAvaiCPU).Reachable s) :
    Conserved (rmNotAvaiCPUFromCoreInSocketList l notAvaiCPU) s := by
  refine h.invariant
    (P := Conserved (rmNotAvaiCPUFromCoreInSocketList l notAvaiCPU)) ?_ ?_
  · rintro s rfl
    refine ⟨?_, fun cpus hcpus => by cases hcpus⟩
    rw [Cores.all, List.flatten_nil, List.flatten_nil, List.append_nil]
  · rintro s (num | cpus) hs hadmits
    · exact hs.allocate num
    · exact hs.free hadmits

/-- At any time each available core is free or allocated, once. An allocation takes
the cores that were asked for, or the free ones stay as they are. -/
theorem available_once (hnodup : l.flatten.Nodup)
    (h : (machine l notAvaiCPU).Reachable s) :
    s.all.Nodup ∧
    (∀ core, core ∈ s.all ↔ core ∈ l.flatten ∧ core ∉ notAvaiCPU) ∧
    ∀ num, match allocateOrRestore num s.coreInSocketList with
      | (.ok (some cpus), _) => cpus.flatten.length = num ∧ cpus.flatten.Nodup
      | (_, rest) => rest = s.coreInSocketList := by
  have hperm := (conserved_of_reachable h).perm
  have hall : s.all.Nodup :=
    hperm.nodup_iff.mpr (hnodup.sublist (flatten_rmNotAvaiCPU_sublist l notAvaiCPU))
  refine ⟨hall, fun core => ?_, fun num => ?_⟩
  · rw [hperm.mem_iff, mem_flatten_rmNotAvaiCPU hnodup]
  · obtain ⟨resCpu, rest, halloc, heq⟩ | ⟨-, heq | heq⟩ :=
      allocateOrRestore_cases num s.coreInSocketList
    · have hfree : s.coreInSocketList.flatten.Nodup :=
        (List.nodup_append.mp hall).1
      rw [← (allocateCPU_spec halloc).1.nodup_iff] at hfree
      simp only [heq]
      exact ⟨length_allocateCPU halloc, (List.nodup_append.mp hfree).1⟩
    · simp only [heq]
    · simp only [heq]

def fourAllocated : Cores :=
  (machine [[0, 2, 4], [1, 3, 5]] [0]).step ⟨[[2, 4], [1, 3, 5]], []⟩ (.allocate 4)

theorem available_once_fourAllocated :
    fourAllocated.allocated = [[[2, 4], [1, 3]]] ∧ fourAllocated.all.Nodup ∧
      ∀ core, core ∈ fourAllocated.all ↔
        core ∈ [[0, 2, 4], [1, 3, 5]].flatten ∧ core ∉ [0] := by
  have hstart : (machine [[0, 2, 4], [1, 3, 5]] [0]).Reachable
      ⟨[[2, 4], [1, 3, 5]], []⟩ := .init rfl
  have hadmits : (machine [[0, 2, 4], [1, 3, 5]] [0]).admits
      ⟨[[2, 4], [1, 3, 5]], []⟩ (.allocate 4) := trivial
  have hspec := available_once (by decide) (hstart.step hadmits)
  exact ⟨rfl, hspec.1, hspec.2.1⟩

end Runs

end CPUAllocator

end SelfAdaptiveMano

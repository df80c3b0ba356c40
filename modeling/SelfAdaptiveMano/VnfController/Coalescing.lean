import SelfAdaptiveMano.VnfController.Returns

/-!
# Coalescing the free intervals

`freeSource` merges one pair of adjacent intervals. A block that closes the gap
between two free intervals would need two merges, so that afterwards a run of free
ids lies in two intervals, in which `allocateSource` does not find it. As long as
no block does so, and none is dropped, the free intervals are the maximal runs of
free ids.
-/

namespace SelfAdaptiveMano

open Library Library.Intervals

namespace SourceAllocator

/-- An interval that is put into the list is adjacent to one interval of it at
most, and if it is empty to exactly one. -/
def Coalesces (e : Int × Int) (l : List (Int × Int)) : Prop :=
  (e.1 < e.2 ∨ (∃ a ∈ l, a.2 = e.1) ∨ ∃ b ∈ l, e.2 = b.1) ∧
    ¬ ((∃ a ∈ l, a.2 = e.1) ∧ ∃ b ∈ l, e.2 = b.1)

section Intervals

variable {start num : Int} {l before after : List (Int × Int)} {e : Int × Int}

/-! ## Merging -/

theorem mergeAdjacent_of_coalesced (h : Coalesced l) : mergeAdjacent l = l := by
  fun_induction mergeAdjacent l with
  | case1 lo hi hi' l =>
      have hless := (coalesced_cons.mp h).2.1 (hi, hi') List.mem_cons_self
      exact absurd hless (Int.lt_irrefl hi)
  | case2 lo hi lo' hi' l hne ih => rw [ih (coalesced_cons.mp h).2.2]
  | case3 l => rfl

theorem mergeAdjacent_cons_of_lt (h : ∀ b ∈ l, e.2 < b.1) :
    mergeAdjacent (e :: l) = e :: mergeAdjacent l := by
  cases l with
  | nil => rfl
  | cons b l => exact if_neg (Int.ne_of_lt (h b List.mem_cons_self))

theorem coalesced_cons_mergeAdjacent_iff (hne : e.1 < e.2)
    (h : ∀ b ∈ l, e.2 < b.1) :
    Coalesced (mergeAdjacent (e :: l)) ↔ Coalesced (mergeAdjacent l) := by
  have hbeyond : ∀ b ∈ mergeAdjacent l, e.2 < b.1 := by
    intro b hb
    rcases fst_of_mem_mergeAdjacent hb with ⟨a, ha, heq⟩
    rw [← heq]
    exact h a ha
  rw [mergeAdjacent_cons_of_lt h, coalesced_cons]
  exact ⟨fun hall => hall.2.2, fun hrest => ⟨hne, hbeyond, hrest⟩⟩

theorem coalesced_mergeAdjacent_cons_iff (h : Coalesced l) (hwell : e.1 ≤ e.2)
    (hafter : ∀ b ∈ l, e.2 ≤ b.1) :
    Coalesced (mergeAdjacent (e :: l)) ↔ e.1 < e.2 ∨ ∃ b ∈ l, e.2 = b.1 := by
  by_cases hadjacent : ∃ b ∈ l, e.2 = b.1
  · refine iff_of_true ?_ (Or.inr hadjacent)
    rcases hadjacent with ⟨b, hb, heq⟩
    cases l with
    | nil => cases hb
    | cons c l =>
        obtain ⟨hc, hhead, hl⟩ := coalesced_cons.mp h
        have hfirst : e.2 = c.1 := by
          rcases List.mem_cons.mp hb with rfl | hb
          · exact heq
          · have hle := hafter c List.mem_cons_self
            have hless := hhead b hb
            omega
        rw [mergeAdjacent, if_pos hfirst]
        exact coalesced_cons.mpr ⟨by dsimp only; omega, hhead, hl⟩
  · have hbeyond : ∀ b ∈ l, e.2 < b.1 := fun b hb =>
      lt_of_le_of_ne (hafter b hb) fun heq => hadjacent ⟨b, hb, heq⟩
    rw [mergeAdjacent_cons_of_lt hbeyond, mergeAdjacent_of_coalesced h,
      coalesced_cons, or_iff_left hadjacent]
    exact and_iff_left ⟨hbeyond, h⟩

/-- The list stays coalesced when an interval is put into a gap, if one merge is
enough. -/
theorem coalesced_mergeAdjacent_iff (h : Coalesced (before ++ after))
    (hwell : e.1 ≤ e.2) (hbefore : ∀ a ∈ before, a.2 ≤ e.1)
    (hafter : ∀ b ∈ after, e.2 ≤ b.1) :
    Coalesced (mergeAdjacent (before ++ e :: after)) ↔
      (e.1 < e.2 ∨ (∃ a ∈ before, a.2 = e.1) ∨ ∃ b ∈ after, e.2 = b.1) ∧
        ¬ ((∃ a ∈ before, a.2 = e.1) ∧ ∃ b ∈ after, e.2 = b.1) := by
  induction before with
  | nil =>
      rw [List.nil_append] at h ⊢
      rw [coalesced_mergeAdjacent_cons_iff h hwell hafter]
      simp
  | cons a before ih =>
      obtain ⟨ha, hhead, hrest⟩ := coalesced_cons.mp h
      have hbefore' : ∀ a' ∈ before, a'.2 ≤ e.1 := fun a' ha' =>
        hbefore a' (List.mem_cons_of_mem a ha')
      rcases lt_or_eq_of_le (hbefore a List.mem_cons_self) with hless | heq
      · -- the interval is not adjacent to the first one
        have hbeyond : ∀ b ∈ before ++ e :: after, a.2 < b.1 := by
          intro b hb
          rcases List.mem_append.mp hb with hb | hb
          · exact hhead b (List.mem_append_left _ hb)
          · rcases List.mem_cons.mp hb with rfl | hb
            · exact hless
            · exact hhead b (List.mem_append_right _ hb)
        have hsame : (∃ a' ∈ a :: before, a'.2 = e.1) ↔
            ∃ a' ∈ before, a'.2 = e.1 := by
          rw [List.exists_mem_cons_iff]
          exact or_iff_right (Int.ne_of_lt hless)
        rw [List.cons_append, coalesced_cons_mergeAdjacent_iff ha hbeyond, hsame]
        exact ih hrest hbefore'
      · -- it is, and so there is none between them
        have hnil : before = [] := by
          refine List.eq_nil_iff_forall_not_mem.mpr fun a' ha' => ?_
          have hless := hhead a' (List.mem_append_left _ ha')
          have hne := hrest.nonempty a' (List.mem_append_left _ ha')
          have hle := hbefore' a' ha'
          omega
        subst hnil
        have hone : ∃ a' ∈ [a], a'.2 = e.1 := ⟨a, List.mem_cons_self, heq⟩
        have hmerge : mergeAdjacent ([a] ++ e :: after) = (a.1, e.2) :: after :=
          if_pos heq
        rw [hmerge, coalesced_cons]
        constructor
        · rintro ⟨-, hbeyond, -⟩
          refine ⟨Or.inr (Or.inl hone), ?_⟩
          rintro ⟨-, b, hb, heq'⟩
          exact Int.ne_of_lt (hbeyond b hb) heq'
        · rintro ⟨-, hnone⟩
          refine ⟨by dsimp only; omega, fun b hb => ?_, hrest⟩
          exact lt_of_le_of_ne (hafter b hb) fun heq' => hnone ⟨hone, b, hb, heq'⟩

/-! ## Putting a block back -/

theorem insertInGap_of_fitsInGap (h : Ascending l)
    (hfits : FitsInGap start num l) : ∃ before after, l = before ++ after ∧
      (∀ a ∈ before, a.2 ≤ start) ∧ (∀ b ∈ after, start + num ≤ b.1) ∧
      insertInGap start num l = before ++ (start, start + num) :: after := by
  fun_induction insertInGap start num l with
  | case1 a b c l hgap =>
      obtain ⟨-, -, hrest⟩ := ascending_cons.mp h
      have hwell := hrest.wellFormed b List.mem_cons_self
      refine ⟨[a], b :: c :: l, rfl, ?_, fun b' hb' => ?_, rfl⟩
      · intro a' ha'
        rw [List.mem_singleton.mp ha']
        exact hgap.1
      · rcases List.mem_cons.mp hb' with rfl | hb'
        · exact hgap.2
        · have hle := hrest.le_of_mem hb'
          omega
  | case2 a b c l hnot ih =>
      have hrest : FitsInGap start num (b :: c :: l) := hfits.resolve_left hnot
      obtain ⟨before, after, heq, hbefore, hafter, hinsert⟩ := ih h.tail hrest
      refine ⟨a :: before, after, by rw [heq, List.cons_append], ?_, hafter, ?_⟩
      · intro a' ha'
        rcases List.mem_cons.mp ha' with rfl | ha'
        · obtain ⟨b', hb', hle⟩ := exists_le_of_fitsInGap hrest
          have hless := h.le_of_mem hb'
          have hwell := h.tail.wellFormed b' hb'
          omega
        · exact hbefore a' ha'
      · rw [hinsert, List.cons_append]
  | case3 l hshort =>
      rcases l with _ | ⟨a, _ | ⟨b, _ | ⟨c, l⟩⟩⟩
      · cases hfits
      · cases hfits
      · cases hfits
      · exact absurd rfl (hshort a b c l)

/-- A block that can be put back comes between the intervals below and above
it. -/
theorem freeSource_of_placeable (h : Ascending l) (hnil : l ≠ [])
    (hplaceable : Placeable start num l) : ∃ before after, l = before ++ after ∧
      (∀ a ∈ before, a.2 ≤ start) ∧ (∀ b ∈ after, start + num ≤ b.1) ∧
      freeSource start num l =
        mergeAdjacent (before ++ (start, start + num) :: after) := by
  simp only [freeSource, if_neg hnil]
  split
  · next hfirst =>
      obtain ⟨first, hmem, hle⟩ := hfirst
      cases l with
      | nil => cases hmem
      | cons e l =>
          obtain rfl := Option.some.inj hmem
          refine ⟨[], e :: l, rfl, by simp, fun b hb => ?_, rfl⟩
          rcases List.mem_cons.mp hb with rfl | hb
          · exact hle
          · have hless := h.le_of_mem hb
            have hwell := h.wellFormed e List.mem_cons_self
            omega
  · next hfirst =>
      split
      · next hlast =>
          obtain ⟨last, hmem, hle⟩ := hlast
          exact ⟨l, [], (List.append_nil l).symm, le_of_getLast h hmem hle, by simp,
            rfl⟩
      · next hlast =>
          have hfits : FitsInGap start num l :=
            ((hplaceable.resolve_left hnil).resolve_left hfirst).resolve_left hlast
          obtain ⟨before, after, heq, hbefore, hafter, hinsert⟩ :=
            insertInGap_of_fitsInGap h hfits
          exact ⟨before, after, heq, hbefore, hafter, by rw [hinsert]⟩

theorem freeSource_of_not_placeable (h : Coalesced l)
    (hplaceable : ¬ Placeable start num l) : freeSource start num l = l := by
  rw [Placeable, not_or, not_or, not_or] at hplaceable
  obtain ⟨hnil, hfirst, hlast, hfits⟩ := hplaceable
  rw [freeSource, if_neg hnil, if_neg hfirst, if_neg hlast,
    insertInGap_of_not_fitsInGap hfits, mergeAdjacent_of_coalesced h]

theorem coalesced_freeSource_iff (hnum : 0 ≤ num) (h : Coalesced l) :
    Coalesced (freeSource start num l) ↔
      (Placeable start num l → Coalesces (start, start + num) l) := by
  by_cases hplaceable : Placeable start num l
  · rw [iff_true_intro hplaceable, true_imp_iff]
    by_cases hnil : l = []
    · subst hnil
      by_cases hzero : num = 0
      · subst hzero
        simp [freeSource, mergeAdjacent, Coalesces, coalesced_cons]
      · have hpos : start < start + num := by omega
        simp [freeSource, insertInGap, mergeAdjacent, Coalesces, coalesced_cons,
          coalesced_nil, hpos, Int.not_le.mpr hpos]
    · obtain ⟨before, after, rfl, hbefore, hafter, hfree⟩ :=
        freeSource_of_placeable h.ascending hnil hplaceable
      have hbelow : (∃ a ∈ before ++ after, a.2 = start) ↔
          ∃ a ∈ before, a.2 = start := by
        constructor
        · rintro ⟨a, ha, heq⟩
          have hne := h.nonempty a ha
          rcases List.mem_append.mp ha with ha | ha
          · exact ⟨a, ha, heq⟩
          · have hle := hafter a ha
            omega
        · rintro ⟨a, ha, heq⟩
          exact ⟨a, List.mem_append_left _ ha, heq⟩
      have habove : (∃ b ∈ before ++ after, start + num = b.1) ↔
          ∃ b ∈ after, start + num = b.1 := by
        constructor
        · rintro ⟨b, hb, heq⟩
          have hne := h.nonempty b hb
          rcases List.mem_append.mp hb with hb | hb
          · have hle := hbefore b hb
            omega
          · exact ⟨b, hb, heq⟩
        · rintro ⟨b, hb, heq⟩
          exact ⟨b, List.mem_append_right _ hb, heq⟩
      rw [hfree, coalesced_mergeAdjacent_iff h (by dsimp only; omega) hbefore hafter,
        Coalesces, hbelow, habove]
  · rw [freeSource_of_not_placeable h hplaceable]
    exact iff_of_true h fun hplaceable' => absurd hplaceable' hplaceable

/-! ## Taking a block -/

theorem coalesced_allocateSource (hnum : 0 ≤ num) (h : Coalesced l) :
    Coalesced (allocateSource num l).2 := by
  by_cases hroom : HasRoom num l
  · obtain ⟨before, e, after, rfl, hle, hbefore⟩ := exists_first_of_hasRoom hroom
    rw [allocateSource_append hle hbefore]
    split
    · next hlt =>
        have hsame : ∀ b ∈ before ++ (e.1 + num, e.2) :: after,
            b ∈ before ++ e :: after ∨ b = (e.1 + num, e.2) := by
          intro b hb
          simp only [List.mem_append, List.mem_cons] at hb ⊢
          tauto
        refine ⟨fun b hb => ?_, ?_⟩
        · rcases hsame b hb with hb | rfl
          · exact h.nonempty b hb
          · dsimp only
            omega
        · obtain ⟨hfirst, hrest, hcross⟩ := List.pairwise_append.mp h.separated
          refine List.pairwise_append.mpr ⟨hfirst, ?_, fun a ha b hb => ?_⟩
          · exact List.pairwise_cons.mpr (List.pairwise_cons.mp hrest)
          · have hless := hcross a ha
            rcases List.mem_cons.mp hb with rfl | hb
            · have := hless e List.mem_cons_self
              dsimp only
              omega
            · exact hless b (List.mem_cons_of_mem e hb)
    · have hsub : (before ++ after).Sublist (before ++ e :: after) :=
        (List.sublist_cons_self e after).append_left before
      exact ⟨fun b hb => h.nonempty b (hsub.subset hb), h.separated.sublist hsub⟩
  · rw [allocateSource_of_not_hasRoom hroom]
    exact h

theorem hasRoom_iff (h : Coalesced l) :
    HasRoom num l ↔ ∃ x, Covers l x ∧ ∀ y, x ≤ y → y < x + num → Covers l y := by
  constructor
  · rintro ⟨e, he, hle⟩
    exact ⟨e.1, ⟨e, he, le_rfl, h.nonempty e he⟩, fun y hy hy' =>
      ⟨e, he, hy, by omega⟩⟩
  · rintro ⟨x, hx, hrun⟩
    obtain ⟨e, he, hle, -, hge⟩ := h.exists_of_run hx hrun
    exact ⟨e, he, by omega⟩

end Intervals

/-! ## Runs -/

/-- The id is in the allocator, and not in an allocated block. -/
def Blocks.Free (start maxNum : Nat) (s : Blocks) (x : Int) : Prop :=
  (start ≤ x ∧ x < maxNum) ∧ ¬ s.Allocated x

/-- There are `num` free ids in a row, from some free id on. -/
def Blocks.FreeRun (start maxNum : Nat) (s : Blocks) (num : Nat) : Prop :=
  ∃ x, s.Free start maxNum x ∧ ∀ y, x ≤ y → y < x + num → s.Free start maxNum y

/-- An allocation fails only when there is no run of free ids that is long enough,
and without allocated blocks the list is the one of the start. -/
structure Serves (start maxNum : Nat) (s : Blocks) : Prop where
  fails_iff : ∀ num : Nat, (allocateSource num s.unallocatedList).1 = -1 ↔
    ¬ s.FreeRun start maxNum num
  restored : s.allocated = [] →
    s.unallocatedList = [((start : Int), (maxNum : Int))]

/-- The free intervals are the maximal runs of free ids. -/
structure Maximal (start maxNum : Nat) (s : Blocks) : Prop where
  exact : Exact start maxNum s
  coalesced : Coalesced s.unallocatedList

def MergeOk (s : Blocks) : BlockEvent → Prop
  | .allocate _ => True
  | .free block => EventOk s (.free block) ∧
      (Placeable block.1 block.2 s.unallocatedList →
        Coalesces (block.1, block.1 + block.2) s.unallocatedList)

instance decidableFitsInGap (start num : Int) :
    ∀ l, Decidable (FitsInGap start num l)
  | [] | [_] | [_, _] => inferInstanceAs (Decidable False)
  | a :: b :: c :: l =>
      have := decidableFitsInGap start num (b :: c :: l)
      inferInstanceAs (Decidable ((a.2 ≤ start ∧ start + num ≤ b.1) ∨
        FitsInGap start num (b :: c :: l)))

instance (start num : Int) (l : List (Int × Int)) :
    Decidable (Placeable start num l) :=
  inferInstanceAs (Decidable (_ ∨ _))

instance (e : Int × Int) (l : List (Int × Int)) : Decidable (Coalesces e l) :=
  inferInstanceAs (Decidable (_ ∧ _))

instance (s : Blocks) : ∀ e, Decidable (MergeOk s e)
  | .allocate _ => inferInstanceAs (Decidable True)
  | .free block => inferInstanceAs (Decidable ((block.2 = 0 ∨ Placeable ..) ∧
      (Placeable block.1 block.2 s.unallocatedList → Coalesces _ _)))

section Runs

variable {start maxNum : Nat} {s : Blocks}

theorem Maximal.serves (h : Maximal start maxNum s) (hlt : start < maxNum)
    (hkept : Kept start maxNum s) : Serves start maxNum s where
  fails_iff := by
    intro num
    have hcovers : ∀ x, s.Free start maxNum x ↔ Covers s.unallocatedList x :=
      fun x => (h.exact.complement x).symm
    simp only [Blocks.FreeRun, hcovers]
    rw [← hasRoom_iff h.coalesced]
    constructor
    · intro hfails hroom
      obtain ⟨-, -, -, hlower⟩ :=
        allocateSource_spec (Int.natCast_nonneg num) hkept.sorted hroom
      have hstart := (hlower start hkept.lower).1
      omega
    · intro hroom
      rw [allocateSource_of_not_hasRoom hroom]
  restored := by
    intro hnone
    have hcovers : ∀ x, Covers s.unallocatedList x ↔ start ≤ x ∧ x < maxNum := by
      intro x
      have hfree : ¬ s.Allocated x := by
        rintro ⟨block, hblock, -⟩
        rw [hnone] at hblock
        cases hblock
      rw [h.exact.complement, and_iff_left hfree]
    exact h.coalesced.eq_singleton (Int.ofNat_lt.mpr hlt) hcovers

/-- In a run, the free intervals are always the maximal runs of free ids if and
only if each block can be put back with one merge when it is freed. -/
theorem maximal_of_run_iff {τ : List (Blocks × BlockEvent)} (hlt : start < maxNum)
    (h : (machine start maxNum).Run τ s) :
    ((∀ e ∈ τ, Maximal start maxNum e.1) ∧ Maximal start maxNum s) ↔
      ∀ e ∈ τ, MergeOk e.1 e.2 := by
  have hle := Nat.le_of_lt hlt
  refine h.all_iff_meets (P := Maximal start maxNum) (C := MergeOk) ?_ ?_
  · rintro s rfl
    refine ⟨(kept_start hle).exact_iff.mpr fun x hstart hmax _ => ?_, ?_⟩
    · exact covers_cons.mpr (Or.inl ⟨hstart, hmax⟩)
    · exact coalesced_cons.mpr ⟨Int.ofNat_lt.mpr hlt, by simp, coalesced_nil⟩
  · intro s e hreachable hs hadmits
    have hkept := kept_of_reachable hle hreachable
    have hkept' := kept_of_reachable hle (hreachable.step hadmits)
    have hcomplete := hkept.exact_iff.mp hs.exact
    cases e with
    | allocate num =>
        refine iff_of_true ?_ trivial
        refine ⟨hkept'.exact_iff.mpr (hkept.complete_allocate hcomplete num), ?_⟩
        have hrest :=
          coalesced_allocateSource (Int.natCast_nonneg num) hs.coalesced
        simp only [machine]
        split
        · exact hrest
        · exact hrest
    | free block =>
        have hfree := hkept.complete_free_iff hcomplete hadmits
        have hmerge := @coalesced_freeSource_iff block.1 _ _
          (Int.natCast_nonneg block.2) hs.coalesced
        constructor
        · intro hafter
          exact ⟨hfree.mp (hkept'.exact_iff.mp hafter.exact),
            hmerge.mp hafter.coalesced⟩
        · rintro ⟨hok, hone⟩
          exact ⟨hkept'.exact_iff.mpr (hfree.mpr hok), hmerge.mpr hone⟩

/-- When each block can be put back with one merge, no allocation fails for which
there are enough free ids in a row, and what is freed makes up one interval. -/
theorem serves_of_run {τ : List (Blocks × BlockEvent)} (hlt : start < maxNum)
    (h : (machine start maxNum).Run τ s) (hok : ∀ e ∈ τ, MergeOk e.1 e.2) :
    (∀ e ∈ τ, Serves start maxNum e.1) ∧ Serves start maxNum s := by
  have hle := Nat.le_of_lt hlt
  obtain ⟨hbefore, hend⟩ := (maximal_of_run_iff hlt h).mpr hok
  refine ⟨fun e he => ?_, ?_⟩
  · exact (hbefore e he).serves hlt (kept_of_reachable hle (h.reachable_of_mem he))
  · exact hend.serves hlt (kept_of_reachable hle h.reachable)

/-- Two blocks are freed, the second one first. -/
theorem serves_of_run_twoBlocks : ∃ τ s, (machine 0 65536).Run τ s ∧
    τ.length = 4 ∧ s.unallocatedList = [(0, 65536)] := by
  have hrun := run_of_arrive [.allocate 2, .allocate 3, .free (2, 3), .free (0, 2)]
    (by decide)
  exact ⟨_, _, hrun, rfl,
    (serves_of_run (by decide) hrun (by decide)).2.restored (by decide)⟩

/-- Of six blocks the fifth and the third are freed, and the first and the second
in front of them. The second closes a gap. -/
theorem not_serves_closedGap : ∃ τ s, (machine 0 65536).Run τ s ∧
    ¬ Serves 0 65536 s := by
  refine ⟨_, _, run_of_arrive [.allocate 2, .allocate 2, .allocate 2, .allocate 2,
    .allocate 2, .allocate 65526, .free (8, 2), .free (4, 2), .free (0, 2),
    .free (2, 2)] (by decide), fun hserves => ?_⟩
  have hfails := (hserves.fails_iff 6).mp (by decide)
  have hfree : ∀ y : Int, 0 ≤ y → y < 6 →
      Blocks.Free 0 65536 ⟨[(0, 4), (4, 6), (8, 10)], [(6, 2), (10, 65526)]⟩ y := by
    intro y hy hy'
    refine ⟨⟨hy, by omega⟩, ?_⟩
    rintro ⟨block, hblock, hle, -⟩
    rcases List.mem_cons.mp hblock with rfl | hblock
    · dsimp only at hle
      omega
    · rw [List.mem_singleton.mp hblock] at hle
      dsimp only at hle
      omega
  exact hfails ⟨0, hfree 0 (by decide) (by decide), hfree⟩

end Runs

end SourceAllocator

end SelfAdaptiveMano

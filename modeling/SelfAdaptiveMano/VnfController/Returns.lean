import SelfAdaptiveMano.VnfController.SpecificBlocks

/-!
# Taking and giving back at once

What is taken for a container is given back when the container cannot be started.
For cores this always restores what was free; a block of virtio ids can be lost,
and when there was none, ids are given back that nobody took. A port is taken
without its neighbours only at the front of a free interval.
-/

namespace SelfAdaptiveMano

open Library Library.Intervals

namespace SourceAllocator

variable {start num : Int} {l : List (Int × Int)}

/-! ## Blocks -/

/-- The first interval with room for the block is not such that the block lies in
the last gap once it is taken. -/
def PutsBack (num : Int) (l : List (Int × Int)) : Prop :=
  ∃ before e after, l = before ++ e :: after ∧ num ≤ e.2 - e.1 ∧
    (∀ b ∈ before, ¬ num ≤ b.2 - b.1) ∧
    (before = [] ∨ if num < e.2 - e.1 then after ≠ [] else after.length ≠ 1)

theorem exists_first_of_hasRoom (h : HasRoom num l) :
    ∃ before e after, l = before ++ e :: after ∧ num ≤ e.2 - e.1 ∧
      ∀ b ∈ before, ¬ num ≤ b.2 - b.1 := by
  induction l with
  | nil =>
      obtain ⟨e, he, -⟩ := h
      cases he
  | cons e l ih =>
      by_cases hroom : num ≤ e.2 - e.1
      · exact ⟨[], e, l, rfl, hroom, by simp⟩
      · have hrest : HasRoom num l := by
          obtain ⟨b, hb, hle⟩ := h
          obtain rfl | hb := List.mem_cons.mp hb
          · exact absurd hle hroom
          · exact ⟨b, hb, hle⟩
        obtain ⟨before, b, after, rfl, hle, hbefore⟩ := ih hrest
        refine ⟨e :: before, b, after, rfl, hle, fun a ha => ?_⟩
        obtain rfl | ha := List.mem_cons.mp ha
        · exact hroom
        · exact hbefore a ha

theorem allocateSource_append {before after : List (Int × Int)} {e : Int × Int}
    (hroom : num ≤ e.2 - e.1) (hbefore : ∀ b ∈ before, ¬ num ≤ b.2 - b.1) :
    allocateSource num (before ++ e :: after) =
      (e.1, before ++
        if num < e.2 - e.1 then (e.1 + num, e.2) :: after else after) := by
  induction before with
  | nil =>
      rw [List.nil_append, List.nil_append, allocateSource]
      split
      next => rfl
      next => rw [if_pos (by omega)]
  | cons b before ih =>
      have hless := hbefore b List.mem_cons_self
      have hrest := ih fun a ha => hbefore a (List.mem_cons_of_mem b ha)
      rw [List.cons_append, allocateSource, if_neg (by omega), if_neg (by omega),
        hrest]
      rfl

/-- A block between two parts of a list fits into a gap when both parts have an
interval and the second has another one. -/
theorem fitsInGap_append {before after : List (Int × Int)} {b : Int × Int}
    (hnum : 0 < num) (h : Ascending (before ++ b :: after))
    (hbefore : ∀ a ∈ before, a.2 ≤ start) (hb : start + num ≤ b.1) :
    FitsInGap start num (before ++ b :: after) ↔ before ≠ [] ∧ after ≠ [] := by
  have hnot : ∀ a l, start + num ≤ a.1 → Ascending (a :: l) →
      ¬ FitsInGap start num (a :: l) := by
    intro a l
    induction l generalizing a with
    | nil => exact fun _ _ hfits => hfits
    | cons a' l ih =>
        intro ha hasc hfits
        obtain ⟨hwell, hle, hrest⟩ := ascending_cons.mp hasc
        have ha' := hle a' List.mem_cons_self
        cases l with
        | nil => exact hfits
        | cons a'' l =>
            obtain ⟨hend, -⟩ | hfits := hfits
            · omega
            · exact ih a' (by omega) hrest hfits
  induction before with
  | nil => simpa using hnot b after hb h
  | cons a before ih =>
      have ha := hbefore a List.mem_cons_self
      have hrest : ∀ a' ∈ before, a'.2 ≤ start := fun a' ha' =>
        hbefore a' (List.mem_cons_of_mem a ha')
      obtain ⟨hwell, -, hasc⟩ := ascending_cons.mp h
      cases before with
      | nil =>
          cases after with
          | nil => simp [FitsInGap]
          | cons c after => simp [FitsInGap, ha, hb]
      | cons a' before =>
          have hwell' := hasc.wellFormed a' List.mem_cons_self
          have ha' := hrest a' List.mem_cons_self
          have hstep : FitsInGap start num (a :: a' :: before ++ b :: after) ↔
              FitsInGap start num (a' :: before ++ b :: after) := by
            cases before with
            | nil =>
                simp only [List.cons_append, List.nil_append, FitsInGap]
                exact or_iff_right fun hfit => by omega
            | cons a'' before =>
                simp only [List.cons_append, FitsInGap]
                exact or_iff_right fun hfit => by omega
          refine hstep.trans ((ih hasc hrest).trans ?_)
          simp

theorem placeable_append {before after : List (Int × Int)} {b : Int × Int}
    (hnum : 0 < num) (h : Ascending (before ++ b :: after))
    (hbefore : ∀ a ∈ before, a.2 ≤ start) (hb : start + num ≤ b.1) :
    Placeable start num (before ++ b :: after) ↔ before = [] ∨ after ≠ [] := by
  have hlast : ¬ ∃ last ∈ (before ++ b :: after).getLast?, last.2 ≤ start := by
    rintro ⟨last, hmem, hle⟩
    have hwell := h.wellFormed b (by simp)
    have hend := le_of_getLast h hmem hle b (by simp)
    omega
  have hfits := fitsInGap_append hnum h hbefore hb
  cases before with
  | nil => simp [Placeable, hb]
  | cons a before =>
      have ha := hbefore a List.mem_cons_self
      have hwell := h.wellFormed a (by simp)
      have hfirst : ¬ ∃ first ∈ (a :: before ++ b :: after).head?,
          start + num ≤ first.1 := by
        rintro ⟨first, hmem, hle⟩
        obtain rfl := Option.some.inj hmem
        omega
      rw [Placeable, or_iff_right (by simp), or_iff_right hfirst,
        or_iff_right hlast, hfits]
      simp

theorem placeable_allocateSource_append {before after : List (Int × Int)}
    {e : Int × Int} (hnum : 0 < num) (h : Ascending (before ++ e :: after))
    (hroom : num ≤ e.2 - e.1) (hbefore : ∀ b ∈ before, ¬ num ≤ b.2 - b.1) :
    Placeable (allocateSource num (before ++ e :: after)).1 num
        (allocateSource num (before ++ e :: after)).2 ↔
      (before = [] ∨ if num < e.2 - e.1 then after ≠ [] else after.length ≠ 1) := by
  have hends : ∀ a ∈ before, a.2 ≤ e.1 := fun a ha =>
    (List.pairwise_append.mp h.ordered).2.2 a ha e List.mem_cons_self
  have hasc := (allocateSource_spec (Int.le_of_lt hnum) h
    ⟨e, by simp, hroom⟩).2.1
  rw [allocateSource_append hroom hbefore] at hasc ⊢
  dsimp only at hasc ⊢
  split at hasc
  next hlt =>
    rw [if_pos hlt, if_pos hlt]
    exact placeable_append hnum hasc hends le_rfl
  next hlt =>
    rw [if_neg hlt, if_neg hlt]
    cases after with
    | nil =>
        rw [List.append_nil] at hasc ⊢
        refine iff_of_true ?_ (Or.inr (by simp))
        cases hlast : before.getLast? with
        | none => exact Or.inl (List.getLast?_eq_none_iff.mp hlast)
        | some last =>
            exact Or.inr (Or.inr (Or.inl
              ⟨last, hlast, hends last (List.mem_of_getLast? hlast)⟩))
    | cons b after =>
        have hb : e.2 ≤ b.1 := by
          have hsecond := (List.pairwise_append.mp h.ordered).2.1
          exact (List.pairwise_cons.mp hsecond).1 b List.mem_cons_self
        rw [placeable_append hnum hasc hends (by omega)]
        simp

theorem placeable_allocateSource_iff (hnum : 0 < num) (h : Ascending l)
    (hroom : HasRoom num l) :
    Placeable (allocateSource num l).1 num (allocateSource num l).2 ↔
      PutsBack num l := by
  constructor
  · intro hplaceable
    obtain ⟨before, e, after, rfl, hle, hbefore⟩ := exists_first_of_hasRoom hroom
    exact ⟨before, e, after, rfl, hle, hbefore,
      (placeable_allocateSource_append hnum h hle hbefore).mp hplaceable⟩
  · rintro ⟨before, e, after, rfl, hle, hbefore, hputs⟩
    exact (placeable_allocateSource_append hnum h hle hbefore).mpr hputs

theorem covers_freeSource_allocateSource_iff (hnum : 0 < num) (h : Ascending l)
    (hroom : HasRoom num l) :
    (∀ x, Covers (freeSource (allocateSource num l).1 num
        (allocateSource num l).2) x ↔ Covers l x) ↔ PutsBack num l := by
  obtain ⟨hfree, hasc, hcovers, -⟩ :=
    allocateSource_spec (Int.le_of_lt hnum) h hroom
  obtain ⟨-, hfreed⟩ := @freeSource_spec (allocateSource num l).1 num
    (Int.le_of_lt hnum) _ hasc
  rw [← placeable_allocateSource_iff hnum h hroom]
  constructor
  · intro hsame
    have hstart := hfree _ le_rfl (by omega)
    obtain hold | ⟨hplaceable, -⟩ := (hfreed _).mp ((hsame _).mpr hstart)
    · exact absurd ⟨le_rfl, by omega⟩ ((hcovers _).mp hold).2
    · exact hplaceable
  · intro hplaceable x
    rw [hfreed, hcovers]
    simp only [hplaceable, true_and]
    constructor
    · rintro (⟨hx, -⟩ | hx)
      · exact hx
      · exact hfree x hx.1 hx.2
    · intro hx
      by_cases hin : (allocateSource num l).1 ≤ x ∧ x < (allocateSource num l).1 + num
      · exact Or.inr hin
      · exact Or.inl ⟨hx, hin⟩

theorem exists_le_of_fitsInGap (h : FitsInGap start num l) :
    ∃ a ∈ l, a.2 ≤ start := by
  induction l with
  | nil => cases h
  | cons a l ih =>
      match l, h with
      | b :: c :: l, .inl hfit => exact ⟨a, List.mem_cons_self, hfit.1⟩
      | b :: c :: l, .inr hrest =>
          obtain ⟨a', ha', hle⟩ := ih hrest
          exact ⟨a', List.mem_cons_of_mem a ha', hle⟩

theorem insertInGap_of_not_fitsInGap (h : ¬ FitsInGap start num l) :
    insertInGap start num l = l := by
  fun_induction insertInGap start num l with
  | case1 a b c l hfits => exact absurd (Or.inl hfits) h
  | case2 a b c l hnot ih =>
      rw [ih fun hfits => h (Or.inr hfits)]
  | case3 l => rfl

theorem fst_of_mem_freeSource {e : Int × Int} (h : ¬ Placeable start num l)
    (he : e ∈ freeSource start num l) : ∃ b ∈ l, b.1 = e.1 := by
  rw [Placeable, not_or, not_or, not_or] at h
  obtain ⟨hnil, hfirst, hlast, hfits⟩ := h
  rw [freeSource, if_neg hnil, if_neg hfirst, if_neg hlast,
    insertInGap_of_not_fitsInGap hfits] at he
  exact fst_of_mem_mergeAdjacent he

theorem placeable_neg_one_iff (h : Ascending l) (hlo : ∀ e ∈ l, 0 ≤ e.1) :
    Placeable (-1) 2 l ↔ ¬ ∃ first ∈ l.head?, first.1 = 0 := by
  have hends : ∀ e ∈ l, ¬ e.2 ≤ -1 := by
    intro e he hle
    have hwell := h.wellFormed e he
    have hstart := hlo e he
    omega
  have hlast : ¬ ∃ last ∈ l.getLast?, last.2 ≤ -1 := by
    rintro ⟨last, hmem, hle⟩
    exact hends last (List.mem_of_getLast? hmem) hle
  have hfits : ¬ FitsInGap (-1) 2 l := by
    intro hfits
    obtain ⟨a, ha, hle⟩ := exists_le_of_fitsInGap hfits
    exact hends a ha hle
  cases l with
  | nil => simp [Placeable]
  | cons e l =>
      have hstart := hlo e List.mem_cons_self
      rw [Placeable, or_iff_right (by simp), or_iff_left (not_or.mpr ⟨hlast, hfits⟩)]
      simp only [List.head?_cons, Option.mem_def, Option.some.injEq,
        exists_eq_left']
      omega

/-- Without a block, something is taken only by mistake when it is given back: the
ids before the first one of all. -/
theorem covers_freeSource_none_iff (h : Ascending l) (hlo : ∀ e ∈ l, 0 ≤ e.1) :
    (∀ x, Covers (freeSource (-1) 2 l) x ↔ Covers l x) ↔
      ∃ first ∈ l.head?, first.1 = 0 := by
  obtain ⟨-, hfreed⟩ := @freeSource_spec (-1) 2 (by decide) _ h
  have hnot : ¬ Covers l (-1) := fun hx => by
    have hle := hx.le hlo
    omega
  have hsame : (∀ x, Covers (freeSource (-1) 2 l) x ↔ Covers l x) ↔
      ¬ Placeable (-1) 2 l := by
    constructor
    · intro hsame hplaceable
      exact hnot ((hsame _).mp ((hfreed _).mpr
        (Or.inr ⟨hplaceable, by decide, by decide⟩)))
    · intro hplaceable x
      simp [hfreed, hplaceable]
  rw [hsame, placeable_neg_one_iff h hlo, not_not]

/-! ## Ports -/

/-- The port is the first of a free interval, and no interval ends at it. -/
def AtFront (port : Int) (l : List (Int × Int)) : Prop :=
  (∃ e ∈ l, e.1 = port ∧ port < e.2) ∧ ∀ e ∈ l, e.2 ≠ port

/-- The port was free, and is the only one that is taken. -/
def TakesOnly (port : Int) (l l' : List (Int × Int)) : Prop :=
  Covers l port ∧ ∀ x, Covers l' x ↔ Covers l x ∧ x ≠ port

theorem inBlock_one_iff {port x : Int} : InBlock (port, 1) x ↔ x = port := by
  rw [InBlock]
  dsimp only
  omega

theorem blockFree_one_iff {port : Int} : BlockFree l (port, 1) ↔ Covers l port := by
  simp only [BlockFree, inBlock_one_iff, forall_eq]

theorem takesOnly_iff_takesBlock {port : Int} (h : Ascending l) :
    TakesOnly port l (allocateSpecificSource port 1 l) ↔
      Covers l port ∧ TakesBlock port 1 l := by
  refine and_congr_right fun hport => ?_
  have hfree := blockFree_one_iff.mpr hport
  constructor
  · intro hcovers
    refine ⟨fun _ => ⟨?_, fun x => ?_⟩, fun hnot => absurd hfree hnot⟩
    · cases htake : takeSpecific port (1 : Nat) l with
      | some rest => rw [specificResult, htake]
      | none =>
          have hsame := covers_allocateSpecificSource_of_none h htake port
          exact absurd rfl ((hcovers port).mp (hsame.mpr hport)).2
    · rw [inBlock_one_iff]
      exact hcovers x
  · intro htakes x
    have hcovers := (htakes.taken hfree).2 x
    rw [inBlock_one_iff] at hcovers
    exact hcovers

theorem atFrontOfFound_one_iff {port : Int} (h : Ascending l) :
    Covers l port ∧ AtFrontOfFound port 1 l ↔ AtFront port l := by
  rw [AtFrontOfFound]
  cases hfind : l.find? fun e => decide (Touches port (1 : Nat) e) with
  | none =>
      apply iff_of_false
      · rintro ⟨hport, hnot | ⟨hzero, -⟩⟩
        · exact hnot (blockFree_one_iff.mpr hport)
        · cases hzero
      · rintro ⟨⟨e, he, heq, hlt⟩, -⟩
        have hnot := of_decide_eq_false (Bool.eq_false_iff.mpr
          (List.find?_eq_none.mp hfind e he))
        exact hnot ⟨Int.le_of_eq heq, by omega⟩
  | some e =>
      obtain ⟨-, before, after, rfl, hbefore⟩ := List.find?_eq_some_iff_append.mp hfind
      have htouches : Touches port (1 : Nat) e := by
        simpa using List.find?_some hfind
      have hfirst : ∀ b ∈ before, ¬ Touches port (1 : Nat) b := by
        intro b hb
        simpa using hbefore b hb
      have hwell := h.wellFormed
      have hhead := (ascending_cons.mp (ascending_append.mp h).2.1).2.1
      have he : e ∈ before ++ e :: after := List.mem_append_right _ List.mem_cons_self
      obtain ⟨hlo, hhi⟩ := htouches
      dsimp only
      constructor
      · rintro ⟨-, ⟨heq, hle⟩ | ⟨hzero, -⟩⟩
        · refine ⟨⟨e, he, heq.symm, by omega⟩, fun b hb hend => ?_⟩
          have hb' := hwell b hb
          rcases List.mem_append.mp hb with hb | hb
          · exact hfirst b hb ⟨by omega, by omega⟩
          · rcases List.mem_cons.mp hb with rfl | hb
            · omega
            · have hbegin := hhead b hb
              omega
        · cases hzero
      · rintro ⟨⟨b, hb, heq, hlt⟩, hends⟩
        refine ⟨⟨b, hb, Int.le_of_eq heq, hlt⟩, Or.inl ?_⟩
        rcases List.mem_append.mp hb with hb | hb
        · exact absurd ⟨Int.le_of_eq heq, by omega⟩ (hfirst b hb)
        · rcases List.mem_cons.mp hb with rfl | hb
          · exact ⟨heq.symm, by omega⟩
          · -- the interval that is found ends at the port
            have hbegin := hhead b hb
            exact absurd (by omega) (hends e he)

theorem takesOnly_allocateSpecificSource_iff {port : Nat} (h : Ascending l) :
    TakesOnly port l (allocateSpecificSource port 1 l) ↔ AtFront port l := by
  rw [takesOnly_iff_takesBlock h, ← atFrontOfFound_one_iff h]
  refine and_congr_right fun _ => takesBlock_of_ascending_iff h (fun _ _ _ => ?_) 1
  omega

end SourceAllocator

namespace CPUAllocator

variable {num : Nat} {l cpus resCpu rest : List (List Nat)}

/-! ## Cores -/

def InSocket (l : List (List Nat)) (socket core : Nat) : Prop :=
  ∃ cores, l[socket]? = some cores ∧ core ∈ cores

theorem zipWith_nil_append (l : List (List Nat)) :
    List.zipWith (· ++ ·) (l.map fun _ => []) l = l := by
  induction l with
  | nil => rfl
  | cons core l ih => rw [List.map_cons, List.zipWith_cons_cons, ih, List.nil_append]

theorem zipWith_takeFromOne (h : takeFromOne num l = some (resCpu, rest)) :
    List.zipWith (· ++ ·) resCpu rest = l := by
  induction l generalizing resCpu rest with
  | nil => cases h
  | cons core l ih =>
      rw [takeFromOne] at h
      split_ifs at h with hle
      · cases h
        rw [List.zipWith_cons_cons, List.take_append_drop, zipWith_nil_append]
      · obtain ⟨⟨res, rest'⟩, hrest, heq⟩ := Option.map_eq_some_iff.mp h
        cases heq
        rw [List.zipWith_cons_cons, List.nil_append, ih hrest]

theorem zipWith_takeAcross (h : takeAcross num l = some (resCpu, rest)) :
    List.zipWith (· ++ ·) resCpu rest = l := by
  induction l generalizing num resCpu rest with
  | nil => cases h
  | cons core l ih =>
      rw [takeAcross] at h
      split_ifs at h with hlt
      · obtain ⟨⟨res, rest'⟩, hrest, heq⟩ := Option.map_eq_some_iff.mp h
        cases heq
        rw [List.zipWith_cons_cons, List.append_nil, ih hrest]
      · cases h
        rw [List.zipWith_cons_cons, List.take_append_drop, zipWith_nil_append]

theorem zipWith_allocateCPU (h : allocateCPU num l = some (resCpu, rest)) :
    List.zipWith (· ++ ·) resCpu rest = l := by
  obtain h | ⟨-, h⟩ := Option.or_eq_some_iff.mp h
  · exact zipWith_takeFromOne h
  · exact zipWith_takeAcross h

theorem freeCPU_eq_zipWith (h : cpus.length = l.length) :
    freeCPU cpus l = List.zipWith (· ++ ·) l cpus := by
  induction cpus generalizing l with
  | nil =>
      obtain rfl := List.length_eq_zero_iff.mp h.symm
      rfl
  | cons each cpus ih =>
      cases l with
      | nil => cases h
      | cons core l =>
          rw [freeCPU, List.zipWith_cons_cons, ih (Nat.succ.inj h)]

theorem inSocket_zipWith {l l' : List (List Nat)} (h : l.length = l'.length)
    (socket core : Nat) : InSocket (List.zipWith (· ++ ·) l l') socket core ↔
      InSocket l socket core ∨ InSocket l' socket core := by
  simp only [InSocket, List.getElem?_zipWith]
  by_cases hlt : socket < l.length
  · have hlt' : socket < l'.length := h ▸ hlt
    simp [List.getElem?_eq_getElem hlt, List.getElem?_eq_getElem hlt']
  · have hle' : l'.length ≤ socket := by omega
    simp [List.getElem?_eq_none (Nat.le_of_not_lt hlt),
      List.getElem?_eq_none hle']

theorem inSocket_freeCPU (h : cpus.length = l.length) (socket core : Nat) :
    InSocket (freeCPU cpus l) socket core ↔
      InSocket l socket core ∨ InSocket cpus socket core := by
  rw [freeCPU_eq_zipWith h, inSocket_zipWith h.symm]

theorem inSocket_allocateCPU (h : allocateCPU num l = some (resCpu, rest))
    (socket core : Nat) : InSocket l socket core ↔
      InSocket resCpu socket core ∨ InSocket rest socket core := by
  obtain ⟨-, hlength, hlength'⟩ := allocateCPU_spec h
  rw [← zipWith_allocateCPU h]
  exact inSocket_zipWith (hlength.trans hlength'.symm) socket core

theorem not_inSocket_of_taken (h : allocateCPU num l = some (resCpu, rest))
    (hnodup : ∀ cores ∈ l, cores.Nodup) {socket core : Nat}
    (htaken : InSocket resCpu socket core) : ¬ InSocket rest socket core := by
  rintro ⟨left, hleft, hcore⟩
  obtain ⟨taken, htaken, hcore'⟩ := htaken
  have hboth : l[socket]? = some (taken ++ left) := by
    rw [← zipWith_allocateCPU h, List.getElem?_zipWith, htaken, hleft]
  have happend := hnodup _ (List.mem_of_getElem? hboth)
  exact (List.nodup_append.mp happend).2.2 core hcore' core hcore rfl

theorem nodup_of_allocateCPU (h : allocateCPU num l = some (resCpu, rest))
    (hnodup : ∀ cores ∈ l, cores.Nodup) :
    (∀ cores ∈ resCpu, cores.Nodup) ∧ ∀ cores ∈ rest, cores.Nodup := by
  obtain ⟨-, hlength, hlength'⟩ := allocateCPU_spec h
  have hsocket : ∀ (socket : Nat) taken left, resCpu[socket]? = some taken →
      rest[socket]? = some left → taken.Nodup ∧ left.Nodup := by
    intro socket taken left htaken hleft
    have hboth : l[socket]? = some (taken ++ left) := by
      rw [← zipWith_allocateCPU h, List.getElem?_zipWith, htaken, hleft]
    have happend := List.nodup_append.mp (hnodup _ (List.mem_of_getElem? hboth))
    exact ⟨happend.1, happend.2.1⟩
  constructor
  · intro cores hmem
    obtain ⟨socket, hlt, rfl⟩ := List.getElem_of_mem hmem
    exact (hsocket socket _ _ (List.getElem?_eq_getElem hlt)
      (List.getElem?_eq_getElem (by omega))).1
  · intro cores hmem
    obtain ⟨socket, hlt, rfl⟩ := List.getElem_of_mem hmem
    exact (hsocket socket _ _ (List.getElem?_eq_getElem (by omega))
      (List.getElem?_eq_getElem hlt)).2

theorem nodup_freeCPU (h : cpus.length = l.length)
    (hnodup : ∀ cores ∈ l, cores.Nodup) (hnodup' : ∀ cores ∈ cpus, cores.Nodup)
    (hapart : ∀ socket core, InSocket cpus socket core → ¬ InSocket l socket core) :
    ∀ cores ∈ freeCPU cpus l, cores.Nodup := by
  rw [freeCPU_eq_zipWith h]
  intro cores hmem
  obtain ⟨socket, hlt, rfl⟩ := List.getElem_of_mem hmem
  rw [List.length_zipWith] at hlt
  have hl : l[socket]? = some l[socket] := List.getElem?_eq_getElem (by omega)
  have hcpus : cpus[socket]? = some cpus[socket] :=
    List.getElem?_eq_getElem (by omega)
  rw [List.getElem_zipWith]
  refine List.nodup_append.mpr ⟨hnodup _ (List.getElem_mem _),
    hnodup' _ (List.getElem_mem _), fun core hcore core' hcore' heq => ?_⟩
  subst heq
  exact hapart socket core ⟨_, hcpus, hcore'⟩ ⟨_, hl, hcore⟩

end CPUAllocator

end SelfAdaptiveMano

import SelfAdaptiveMano.Library.Intervals
import Mathlib.Data.List.Perm.Basic

/-!
# The resource allocators of a server

The virtio ids and the socket ports of a server are kept as a list of free
intervals, the CPUs as a list of free cores for each NUMA node.

The intervals are half-open where a number of ids is taken and given back, and
closed where a given port is taken, so that the port before it is lost as well.
An interval that is given back has its place in front of the list, behind it or
in a gap, but the last gap is never looked at.
-/

namespace SelfAdaptiveMano

open Library Library.Intervals

namespace SourceAllocator

/-- `allocateSource`: the start of the ids taken, `-1` when there are none, and
the free intervals left. -/
def allocateSource (num : Int) :
    List (Int × Int) → Int × List (Int × Int)
  | [] => (-1, [])
  | (lo, hi) :: unallocatedList =>
      if num < hi - lo then (lo, (lo + num, hi) :: unallocatedList)
      else if hi - lo = num then (lo, unallocatedList)
      else
        let (result, rest) := allocateSource num unallocatedList
        (result, (lo, hi) :: rest)

def mergeAdjacent : List (Int × Int) → List (Int × Int)
  | (lo, hi) :: (lo', hi') :: unallocatedList =>
      if hi = lo' then (lo, hi') :: unallocatedList
      else (lo, hi) :: mergeAdjacent ((lo', hi') :: unallocatedList)
  | unallocatedList => unallocatedList

/-- Take given ids out of the first interval that has them, read as closed. -/
def takeSpecific (start num : Int) :
    List (Int × Int) → Option (List (Int × Int))
  | [] => none
  | (lo, hi) :: unallocatedList =>
      if start = lo ∧ start + num - 1 = hi then some unallocatedList
      else if start = lo ∧ start + num - 1 < hi then
        some ((lo + num, hi) :: unallocatedList)
      else if lo < start ∧ start + num - 1 = hi then
        some ((lo, hi - num) :: unallocatedList)
      else if lo < start ∧ start + num - 1 < hi then
        some ((lo, start - 1) :: (start + num, hi) :: unallocatedList)
      else (takeSpecific start num unallocatedList).map ((lo, hi) :: ·)

def allocateSpecificSource (start num : Int)
    (unallocatedList : List (Int × Int)) : List (Int × Int) :=
  match takeSpecific start num unallocatedList with
  | some rest => mergeAdjacent rest
  | none => if start = -1 then mergeAdjacent unallocatedList else unallocatedList

/-- Put an interval into the first gap in which it fits; the gap before the last
interval is not looked at. -/
def insertInGap (start num : Int) : List (Int × Int) → List (Int × Int)
  | a :: b :: c :: unallocatedList =>
      if a.2 ≤ start ∧ start + num ≤ b.1 then
        a :: (start, start + num) :: b :: c :: unallocatedList
      else a :: insertInGap start num (b :: c :: unallocatedList)
  | unallocatedList => unallocatedList

def freeSource (start num : Int) (unallocatedList : List (Int × Int)) :
    List (Int × Int) :=
  let unallocatedList :=
    if unallocatedList = [] then [(start, start + num)] else unallocatedList
  mergeAdjacent <|
    if ∃ first ∈ unallocatedList.head?, start + num ≤ first.1 then
      (start, start + num) :: unallocatedList
    else if ∃ last ∈ unallocatedList.getLast?, last.2 ≤ start then
      unallocatedList ++ [(start, start + num)]
    else insertInGap start num unallocatedList

/-- There is an interval with enough ids. -/
def HasRoom (num : Int) (l : List (Int × Int)) : Prop :=
  ∃ e ∈ l, num ≤ e.2 - e.1

def FitsInGap (start num : Int) : List (Int × Int) → Prop
  | a :: b :: c :: l =>
      (a.2 ≤ start ∧ start + num ≤ b.1) ∨ FitsInGap start num (b :: c :: l)
  | _ => False

/-- The interval can be given back. -/
def Placeable (start num : Int) (l : List (Int × Int)) : Prop :=
  l = [] ∨ (∃ first ∈ l.head?, start + num ≤ first.1) ∨
    (∃ last ∈ l.getLast?, last.2 ≤ start) ∨ FitsInGap start num l

/-- No interval starts where another one ends at `x`. -/
def Clear (x : Int) (l : List (Int × Int)) : Prop :=
  ∀ a ∈ l, a.2 = x → ∀ b ∈ l, b.1 = x → b.2 = x

/-- The ids that are taken were free, and no other one is touched. -/
theorem allocateSource_spec {num : Int} (hnum : 0 ≤ num)
    {l : List (Int × Int)} (h : Ascending l) (hroom : HasRoom num l) :
    let (start, l') := allocateSource num l
    (∀ x, start ≤ x → x < start + num → Covers l x) ∧ Ascending l' ∧
      (∀ x, Covers l' x ↔ Covers l x ∧ ¬ (start ≤ x ∧ x < start + num)) ∧
      ∀ lo, (∀ b ∈ l, lo ≤ b.1) → lo ≤ start ∧ ∀ b ∈ l', lo ≤ b.1 := by
  induction l with
  | nil =>
      obtain ⟨e, he, -⟩ := hroom
      cases he
  | cons e l ih =>
      obtain ⟨lo, hi⟩ := e
      obtain ⟨hwell, hhead, hl⟩ := ascending_cons.mp h
      dsimp only at hwell hhead
      have hbeyond : ∀ x, Covers l x → hi ≤ x := fun x hx => hx.le hhead
      simp only [allocateSource]
      split
      · next hlt =>
          refine ⟨fun x h1 h2 => covers_cons.mpr (.inl ⟨h1, by dsimp only; omega⟩),
            ascending_cons.mpr ⟨by dsimp only; omega, hhead, hl⟩, fun x => ?_,
            fun lo' hlo' => ⟨hlo' _ List.mem_cons_self, ?_⟩⟩
          · have := hbeyond x
            simp only [covers_cons]
            grind
          · intro b hb
            obtain rfl | hb := List.mem_cons.mp hb
            · have := hlo' _ List.mem_cons_self
              dsimp only at this ⊢
              omega
            · exact hlo' b (List.mem_cons_of_mem _ hb)
      · split
        · next heq =>
            refine ⟨fun x h1 h2 =>
              covers_cons.mpr (.inl ⟨h1, by dsimp only; omega⟩), hl, fun x => ?_,
              fun lo' hlo' => ⟨hlo' _ List.mem_cons_self,
                fun b hb => hlo' b (List.mem_cons_of_mem _ hb)⟩⟩
            have := hbeyond x
            simp only [covers_cons]
            grind
        · next hnot hne =>
            have hroom' : HasRoom num l := by
              obtain ⟨b, hb, hle⟩ := hroom
              obtain rfl | hb := List.mem_cons.mp hb
              · dsimp only at hle
                omega
              · exact ⟨b, hb, hle⟩
            obtain ⟨hfree, hasc, hcovers, hlower⟩ := ih hl hroom'
            obtain ⟨hstart, hafter⟩ := hlower hi hhead
            refine ⟨fun x h1 h2 => covers_cons.mpr (.inr (hfree x h1 h2)),
              ascending_cons.mpr ⟨hwell, hafter, hasc⟩, fun x => ?_,
              fun lo' hlo' => ?_⟩
            · rw [covers_cons, covers_cons, hcovers]
              grind
            · obtain ⟨h1, h2⟩ := hlower lo' fun b hb =>
                hlo' b (List.mem_cons_of_mem _ hb)
              refine ⟨h1, fun b hb => ?_⟩
              obtain rfl | hb := List.mem_cons.mp hb
              · exact hlo' _ List.mem_cons_self
              · exact h2 b hb

/-- Merging changes neither what is covered nor the order. -/
theorem mergeAdjacent_spec {l : List (Int × Int)} (h : Ascending l) :
    Ascending (mergeAdjacent l) ∧
      (∀ x, Covers (mergeAdjacent l) x ↔ Covers l x) ∧
      ∀ lo, (∀ b ∈ l, lo ≤ b.1) → ∀ b ∈ mergeAdjacent l, lo ≤ b.1 := by
  fun_induction mergeAdjacent l with
  | case1 lo hi hi' l =>
      obtain ⟨hwell, hhead, hrest⟩ := ascending_cons.mp h
      obtain ⟨hwell', hhead', hl⟩ := ascending_cons.mp hrest
      dsimp only at hwell hwell' hhead'
      refine ⟨ascending_cons.mpr ⟨by dsimp only; omega, hhead', hl⟩,
        fun x => ?_, fun lo' hlo' b hb => ?_⟩
      · simp only [covers_cons]
        grind
      · obtain rfl | hb := List.mem_cons.mp hb
        · exact hlo' (lo, hi) List.mem_cons_self
        · exact hlo' b (List.mem_cons_of_mem _ (List.mem_cons_of_mem _ hb))
  | case2 lo hi lo' hi' l hne ih =>
      obtain ⟨hwell, hhead, hrest⟩ := ascending_cons.mp h
      obtain ⟨hasc, hcovers, hlower⟩ := ih hrest
      refine ⟨ascending_cons.mpr ⟨hwell, hlower _ hhead, hasc⟩, fun x => ?_,
        fun lo'' hlo'' b hb => ?_⟩
      · rw [covers_cons, covers_cons, hcovers]
      · obtain rfl | hb := List.mem_cons.mp hb
        · exact hlo'' (lo, hi) List.mem_cons_self
        · exact hlower lo'' (fun b hb => hlo'' b (List.mem_cons_of_mem _ hb)) b hb
  | case3 l => exact ⟨h, fun x => Iff.rfl, fun lo hlo => hlo⟩

theorem insertInGap_spec {start num : Int} (hnum : 0 ≤ num)
    {l : List (Int × Int)} (h : Ascending l) :
    Ascending (insertInGap start num l) ∧
      (∀ x, Covers (insertInGap start num l) x ↔
        Covers l x ∨ (FitsInGap start num l ∧ start ≤ x ∧ x < start + num)) ∧
      ∀ lo, (∀ b ∈ l, lo ≤ b.1) → ∀ b ∈ insertInGap start num l, lo ≤ b.1 := by
  fun_induction insertInGap start num l with
  | case1 a b c l hfits =>
      obtain ⟨hwell, hhead, hrest⟩ := ascending_cons.mp h
      obtain ⟨hwell', hhead', hl⟩ := ascending_cons.mp hrest
      have hmiddle : Ascending ((start, start + num) :: b :: c :: l) := by
        refine ascending_cons.mpr ⟨by dsimp only; omega, fun e he => ?_, hrest⟩
        obtain rfl | he := List.mem_cons.mp he
        · exact hfits.2
        · exact Int.le_trans (Int.le_trans hfits.2 hwell') (hhead' e he)
      refine ⟨ascending_cons.mpr ⟨hwell, fun e he => ?_, hmiddle⟩, fun x => ?_,
        fun lo hlo e he => ?_⟩
      · obtain rfl | he := List.mem_cons.mp he
        · exact hfits.1
        · exact hhead e he
      · simp only [covers_cons, FitsInGap, hfits, and_self, true_or, true_and]
        grind
      · obtain rfl | he := List.mem_cons.mp he
        · exact hlo e List.mem_cons_self
        · obtain rfl | he := List.mem_cons.mp he
          · exact Int.le_trans (hlo a List.mem_cons_self)
              (Int.le_trans hwell hfits.1)
          · exact hlo e (List.mem_cons_of_mem _ he)
  | case2 a b c l hnot ih =>
      obtain ⟨hwell, hhead, hrest⟩ := ascending_cons.mp h
      obtain ⟨hasc, hcovers, hlower⟩ := ih hrest
      refine ⟨ascending_cons.mpr ⟨hwell, hlower _ hhead, hasc⟩, fun x => ?_,
        fun lo hlo e he => ?_⟩
      · rw [covers_cons, hcovers, covers_cons (e := a), FitsInGap]
        simp only [hnot, false_or, or_assoc]
      · obtain rfl | he := List.mem_cons.mp he
        · exact hlo e List.mem_cons_self
        · exact hlower lo (fun b hb => hlo b (List.mem_cons_of_mem _ hb)) e he
  | case3 l hshort =>
      have hnot : ¬ FitsInGap start num l := by
        intro hfits
        match l, hshort with
        | [], _ => exact hfits
        | [_], _ => exact hfits
        | [_, _], _ => exact hfits
        | a :: b :: c :: l, hshort => exact hshort a b c l rfl
      exact ⟨h, by simp [hnot], fun lo hlo => hlo⟩

theorem le_of_getLast {l : List (Int × Int)} (h : Ascending l)
    {last : Int × Int} (hlast : last ∈ l.getLast?) {start : Int}
    (hle : last.2 ≤ start) : ∀ b ∈ l, b.2 ≤ start := by
  obtain ⟨l, rfl⟩ := List.getLast?_eq_some_iff.mp hlast
  intro b hb
  obtain hb | hb := List.mem_append.mp hb
  · have hbefore : b.2 ≤ last.1 :=
      (List.pairwise_append.mp h.ordered).2.2 b hb last List.mem_cons_self
    have := h.wellFormed last (by simp)
    omega
  · obtain rfl := List.mem_singleton.mp hb
    exact hle

/-- An interval that can be given back is free afterwards; otherwise it is
lost. -/
theorem freeSource_spec {start num : Int} (hnum : 0 ≤ num)
    {l : List (Int × Int)} (h : Ascending l) :
    Ascending (freeSource start num l) ∧
      ∀ x, Covers (freeSource start num l) x ↔
        Covers l x ∨ (Placeable start num l ∧ start ≤ x ∧ x < start + num) := by
  by_cases hnil : l = []
  · subst hnil
    have hplaceable : Placeable start num [] := .inl rfl
    by_cases hzero : num = 0
    · subst hzero
      have hfree : freeSource start 0 [] = [(start, start)] := by
        simp [freeSource, mergeAdjacent]
      rw [hfree]
      refine ⟨ascending_cons.mpr ⟨by simp, by simp, ascending_nil⟩, fun x => ?_⟩
      simp [covers_cons, not_covers_nil, hplaceable]
    · have hfirst : ¬ start + num ≤ start := by omega
      have hlast : ¬ start + num ≤ start := by omega
      simp only [freeSource, if_pos, List.head?_cons, Option.mem_def,
        Option.some.injEq, exists_eq_left', hfirst, if_false,
        List.getLast?_singleton, insertInGap, mergeAdjacent]
      refine ⟨ascending_cons.mpr ⟨by dsimp only; omega, by simp, ascending_nil⟩,
        fun x => ?_⟩
      simp [covers_cons, not_covers_nil, hplaceable]
  -- the interval goes in front, behind, or into a gap
  have hcovered : ∀ {l' : List (Int × Int)}, Ascending l' →
      (∀ x, Covers l' x ↔
        Covers l x ∨ (Placeable start num l ∧ start ≤ x ∧ x < start + num)) →
      Ascending (mergeAdjacent l') ∧ ∀ x, Covers (mergeAdjacent l') x ↔
        Covers l x ∨ (Placeable start num l ∧ start ≤ x ∧ x < start + num) := by
    intro l' hl' hcovers
    obtain ⟨hasc, hsame, -⟩ := mergeAdjacent_spec hl'
    exact ⟨hasc, fun x => (hsame x).trans (hcovers x)⟩
  simp only [freeSource, if_neg hnil]
  split
  · next hfirst =>
      obtain ⟨first, hmem, hle⟩ := hfirst
      obtain ⟨l, rfl⟩ : ∃ l', l = first :: l' := by
        cases l with
        | nil => cases hmem
        | cons e l =>
            obtain rfl := Option.some.inj hmem
            exact ⟨l, rfl⟩
      have hplaceable : Placeable start num (first :: l) :=
        .inr (.inl ⟨first, rfl, hle⟩)
      refine hcovered (ascending_cons.mpr ⟨by dsimp only; omega,
        fun b hb => ?_, h⟩) fun x => ?_
      · obtain rfl | hb := List.mem_cons.mp hb
        · exact hle
        · have := h.le_of_mem hb
          have := h.wellFormed first List.mem_cons_self
          dsimp only
          omega
      · simp only [covers_cons (e := (start, start + num)), hplaceable, true_and,
          or_comm]
  · next hfirst =>
      split
      · next hlast =>
          obtain ⟨last, hmem, hle⟩ := hlast
          have hbehind := le_of_getLast h hmem hle
          have hplaceable : Placeable start num l :=
            .inr (.inr (.inl ⟨last, hmem, hle⟩))
          refine hcovered ⟨fun b hb => ?_, List.pairwise_append.mpr
            ⟨h.ordered, List.pairwise_singleton .., fun b hb b' hb' => ?_⟩⟩
            fun x => ?_
          · obtain hb | hb := List.mem_append.mp hb
            · exact h.wellFormed b hb
            · obtain rfl := List.mem_singleton.mp hb
              dsimp only
              omega
          · obtain rfl := List.mem_singleton.mp hb'
            exact hbehind b hb
          · simp [covers_append, covers_cons, not_covers_nil, hplaceable]
      · next hlast =>
          obtain ⟨hasc, hcovers, -⟩ :=
            @insertInGap_spec start num hnum l h
          have hplaceable : Placeable start num l ↔ FitsInGap start num l := by
            simp only [Placeable, hnil, hfirst, hlast, false_or]
          exact hcovered hasc fun x => by rw [hcovers, hplaceable]

/-! ## Taking given ids -/

section Specific

variable {start : Int} {num : Nat} {e : Int × Int} {l l' : List (Int × Int)}

/-- The interval has the ids, if its end counts. -/
def Touches (start num : Int) (e : Int × Int) : Prop :=
  e.1 ≤ start ∧ start + num - 1 ≤ e.2

instance (start num : Int) (e : Int × Int) : Decidable (Touches start num e) :=
  inferInstanceAs (Decidable (_ ∧ _))

/-- What is left of an interval that is found. -/
def restOf (start num : Int) (e : Int × Int) : List (Int × Int) :=
  if start = e.1 ∧ start + num - 1 = e.2 then []
  else if start = e.1 then [(e.1 + num, e.2)]
  else if start + num - 1 = e.2 then [(e.1, e.2 - num)]
  else [(e.1, start - 1), (start + num, e.2)]

theorem takeSpecific_cons_of_touches (h : Touches start num e) :
    takeSpecific start num (e :: l) = some (restOf start num e ++ l) := by
  obtain ⟨lo, hi⟩ := e
  obtain ⟨hlo, hhi⟩ := h
  dsimp only at hlo hhi
  rw [takeSpecific, restOf]
  split_ifs
  all_goals first | rfl | (exfalso; omega)

theorem takeSpecific_cons_of_not_touches (h : ¬ Touches start num e) :
    takeSpecific start num (e :: l) = (takeSpecific start num l).map (e :: ·) := by
  obtain ⟨lo, hi⟩ := e
  rw [Touches] at h
  dsimp only at h
  rw [takeSpecific, if_neg, if_neg, if_neg, if_neg]
  all_goals omega

/-- The first interval that has the ids is replaced. -/
theorem takeSpecific_eq (start : Int) (num : Nat) (l : List (Int × Int)) :
    (l.find? (fun e => decide (Touches start num e)) = none ∧
      takeSpecific start num l = none) ∨
    ∃ before e after, l.find? (fun e => decide (Touches start num e)) = some e ∧
      l = before ++ e :: after ∧ Touches start num e ∧
      takeSpecific start num l = some (before ++ restOf start num e ++ after) := by
  induction l with
  | nil => exact Or.inl ⟨rfl, rfl⟩
  | cons e l ih =>
      by_cases htouches : Touches start num e
      · refine Or.inr ⟨[], e, l, ?_, rfl, htouches,
          takeSpecific_cons_of_touches htouches⟩
        exact List.find?_cons_of_pos (decide_eq_true htouches)
      · have hfind : (e :: l).find? (fun e => decide (Touches start num e)) =
            l.find? fun e => decide (Touches start num e) := by
          apply List.find?_cons_of_neg
          simpa using htouches
        rw [hfind, takeSpecific_cons_of_not_touches htouches]
        rcases ih with ⟨hnone, htake⟩ | ⟨before, b, after, hsome, rfl, hb, htake⟩
        · exact Or.inl ⟨hnone, by rw [htake]; rfl⟩
        · exact Or.inr ⟨e :: before, b, after, hsome, rfl, hb, by rw [htake]; rfl⟩

theorem mem_restOf (h : Touches start num e) :
    ∀ d ∈ restOf start num e, e.1 ≤ d.1 ∧ d.1 ≤ d.2 ∧ d.2 ≤ e.2 := by
  obtain ⟨hlo, hhi⟩ := h
  intro d hd
  rw [restOf] at hd
  split_ifs at hd with hall hfront hend
  · cases hd
  · rw [List.mem_singleton.mp hd]
    dsimp only
    omega
  · rw [List.mem_singleton.mp hd]
    dsimp only
    omega
  · rcases List.mem_cons.mp hd with rfl | hd
    · dsimp only
      omega
    · rw [List.mem_singleton.mp hd]
      dsimp only
      omega

theorem ascending_restOf (h : Touches start num e) :
    Ascending (restOf start num e) := by
  refine ⟨fun d hd => (mem_restOf h d hd).2.1, ?_⟩
  rw [restOf]
  split_ifs
  · exact .nil
  · exact List.pairwise_singleton _ _
  · exact List.pairwise_singleton _ _
  · refine List.pairwise_pair.mpr ?_
    dsimp only
    omega

/-- What is left when ids are taken is part of what was free. -/
theorem of_takeSpecific (h : Ascending l)
    (htake : takeSpecific start num l = some l') :
    Ascending l' ∧ ∀ x, Covers l' x → Covers l x := by
  rcases takeSpecific_eq start num l with ⟨-, hnone⟩ |
    ⟨before, e, after, -, rfl, htouches, hsome⟩
  · cases hnone.symm.trans htake
  · obtain rfl := Option.some.inj (hsome.symm.trans htake)
    have hin := mem_restOf htouches
    refine ⟨h.replace (ascending_restOf htouches) fun d hd =>
      ⟨(hin d hd).1, (hin d hd).2.2⟩, fun x hx => ?_⟩
    rw [covers_append, covers_append] at hx
    rw [covers_append, covers_cons]
    rcases hx with (hx | ⟨d, hd, hlo, hhi⟩) | hx
    · exact Or.inl hx
    · obtain ⟨hle, -, hle'⟩ := hin d hd
      exact Or.inr (Or.inl ⟨by omega, by omega⟩)
    · exact Or.inr (Or.inr hx)

/-- A port that is taken is no longer free, if it was free in one interval. -/
theorem not_covers_of_takeSpecific_some (h : Ascending l) (hclear : Clear start l)
    (htake : takeSpecific start (1 : Nat) l = some l') : ¬ Covers l' start := by
  rcases takeSpecific_eq start 1 l with ⟨-, hnone⟩ |
    ⟨before, e, after, -, rfl, ⟨hlo, hhi⟩, hsome⟩
  · cases hnone.symm.trans htake
  · obtain rfl := Option.some.inj (hsome.symm.trans htake)
    obtain ⟨-, hrest, hcross⟩ := ascending_append.mp h
    have hhead := (ascending_cons.mp hrest).2.1
    rw [covers_append, covers_append]
    rintro ((⟨b, hb, -, hlt⟩ | hin) | ⟨b, hb, hle, hlt⟩)
    · have hend := hcross b hb e List.mem_cons_self
      omega
    · rw [restOf] at hin
      split_ifs at hin
      · exact not_covers_nil start hin
      all_goals
        simp only [covers_cons, not_covers_nil, or_false] at hin
        omega
    · -- the next interval starts where this one ends
      have hbegin := hhead b hb
      have hsame := hclear e (List.mem_append_right _ List.mem_cons_self) (by omega)
        b (List.mem_append_right _ (List.mem_cons_of_mem e hb)) (by omega)
      omega

theorem not_covers_of_takeSpecific_none
    (htake : takeSpecific start (1 : Nat) l = none) : ¬ Covers l start := by
  rcases takeSpecific_eq start 1 l with ⟨hfind, -⟩ | ⟨_, _, _, -, -, -, hsome⟩
  · rintro ⟨e, he, hle, hlt⟩
    have hnot := of_decide_eq_false (Bool.eq_false_iff.mpr
      (List.find?_eq_none.mp hfind e he))
    exact hnot ⟨hle, by omega⟩
  · cases hsome.symm.trans htake

/-- Taking a port frees no other one. -/
theorem allocateSpecificSource_spec {start : Int} {l : List (Int × Int)}
    (h : Ascending l) :
    Ascending (allocateSpecificSource start 1 l) ∧
      (∀ x, Covers (allocateSpecificSource start 1 l) x → Covers l x) ∧
      (Clear start l → ¬ Covers (allocateSpecificSource start 1 l) start) := by
  unfold allocateSpecificSource
  cases htake : takeSpecific start (1 : Nat) l with
  | some rest =>
      obtain ⟨hasc, hcovers⟩ := of_takeSpecific h htake
      obtain ⟨hasc', hsame, -⟩ := mergeAdjacent_spec hasc
      exact ⟨hasc', fun x hx => hcovers x ((hsame x).mp hx), fun hclear hx =>
        not_covers_of_takeSpecific_some h hclear htake ((hsame start).mp hx)⟩
  | none =>
      have hnot := not_covers_of_takeSpecific_none htake
      dsimp only
      split
      · obtain ⟨hasc', hsame, -⟩ := mergeAdjacent_spec h
        exact ⟨hasc', fun x => (hsame x).mp, fun _ hx => hnot ((hsame start).mp hx)⟩
      · exact ⟨h, fun x => id, fun _ => hnot⟩

end Specific

end SourceAllocator

namespace CPUAllocator

def takeFromOne (num : Nat) :
    List (List Nat) → Option (List (List Nat) × List (List Nat))
  | [] => none
  | coreInSocket :: rest =>
      if num ≤ coreInSocket.length then
        some (coreInSocket.take num :: rest.map fun _ => [],
          coreInSocket.drop num :: rest)
      else (takeFromOne num rest).map fun (resCpu, rest) =>
        ([] :: resCpu, coreInSocket :: rest)

def takeAcross (num : Nat) :
    List (List Nat) → Option (List (List Nat) × List (List Nat))
  | [] => none
  | coreInSocket :: rest =>
      if coreInSocket.length < num then
        (takeAcross (num - coreInSocket.length) rest).map fun (resCpu, rest) =>
          (coreInSocket :: resCpu, [] :: rest)
      else some (coreInSocket.take num :: rest.map fun _ => [],
        coreInSocket.drop num :: rest)

/-- `allocateCPU`: the cores taken from each node and the cores left, `none` for
`(None, None)`. Without enough cores all of them are taken and given back. -/
def allocateCPU (num : Nat) (coreInSocketList : List (List Nat)) :
    Option (List (List Nat) × List (List Nat)) :=
  (takeFromOne num coreInSocketList).or (takeAcross num coreInSocketList)

/-- `freeCPU`: a node gets back the cores that were taken from it. -/
def freeCPU : List (List Nat) → List (List Nat) → List (List Nat)
  | each :: cpus, coreInSocket :: rest =>
      (coreInSocket ++ each) :: freeCPU cpus rest
  | _, coreInSocketList => coreInSocketList

def removeCore (core : Nat) : List (List Nat) → List (List Nat)
  | [] => []
  | coreInSocket :: rest =>
      if core ∈ coreInSocket then coreInSocket.erase core :: rest
      else coreInSocket :: removeCore core rest

def rmNotAvaiCPUFromCoreInSocketList (coreInSocketList : List (List Nat))
    (notAvaiCPU : List Nat) : List (List Nat) :=
  notAvaiCPU.foldl (fun l core => removeCore core l) coreInSocketList

def HasCores (num : Nat) (coreInSocketList : List (List Nat)) : Prop :=
  coreInSocketList ≠ [] ∧ num ≤ coreInSocketList.flatten.length

/-- What is taken and what is left make up what there was. -/
theorem takeFromOne_spec {num : Nat} {l resCpu l' : List (List Nat)}
    (h : takeFromOne num l = some (resCpu, l')) :
    (resCpu.flatten ++ l'.flatten).Perm l.flatten ∧
      resCpu.length = l.length ∧ l'.length = l.length := by
  induction l generalizing resCpu l' with
  | nil => cases h
  | cons core l ih =>
      rw [takeFromOne] at h
      split_ifs at h with hle
      · cases h
        simp [← List.append_assoc]
      · obtain ⟨⟨res, rest⟩, hrest, heq⟩ := Option.map_eq_some_iff.mp h
        cases heq
        obtain ⟨hperm, hlen, hlen'⟩ := ih hrest
        refine ⟨?_, by simp [hlen], by simp [hlen']⟩
        simp only [List.flatten_cons, List.nil_append]
        exact (List.perm_append_comm_assoc ..).trans (hperm.append_left core)

theorem takeAcross_spec {num : Nat} {l resCpu l' : List (List Nat)}
    (h : takeAcross num l = some (resCpu, l')) :
    (resCpu.flatten ++ l'.flatten).Perm l.flatten ∧
      resCpu.length = l.length ∧ l'.length = l.length := by
  induction l generalizing num resCpu l' with
  | nil => cases h
  | cons core l ih =>
      rw [takeAcross] at h
      split_ifs at h with hlt
      · obtain ⟨⟨res, rest⟩, hrest, heq⟩ := Option.map_eq_some_iff.mp h
        cases heq
        obtain ⟨hperm, hlen, hlen'⟩ := ih hrest
        refine ⟨?_, by simp [hlen], by simp [hlen']⟩
        simp only [List.flatten_cons, List.nil_append, List.append_assoc]
        exact hperm.append_left core
      · cases h
        simp [← List.append_assoc]

theorem allocateCPU_spec {num : Nat} {l resCpu l' : List (List Nat)}
    (h : allocateCPU num l = some (resCpu, l')) :
    (resCpu.flatten ++ l'.flatten).Perm l.flatten ∧
      resCpu.length = l.length ∧ l'.length = l.length := by
  obtain h | ⟨-, h⟩ := Option.or_eq_some_iff.mp h
  · exact takeFromOne_spec h
  · exact takeAcross_spec h

theorem takeAcross_isSome {num : Nat} {l : List (List Nat)} :
    (takeAcross num l).isSome ↔ HasCores num l := by
  induction l generalizing num with
  | nil => simp [takeAcross, HasCores]
  | cons core l ih =>
      rw [takeAcross]
      split_ifs with hlt
      · rw [Option.isSome_map, ih]
        by_cases hnil : l = []
        · subst hnil
          simp [HasCores]
          omega
        · simp [HasCores, hnil]
          omega
      · simp [HasCores]
        omega

theorem takeFromOne_hasCores {num : Nat} {l : List (List Nat)}
    (h : (takeFromOne num l).isSome) : HasCores num l := by
  induction l with
  | nil => cases h
  | cons core l ih =>
      rw [takeFromOne] at h
      split_ifs at h with hle
      · simp [HasCores]
        omega
      · rw [Option.isSome_map] at h
        have := ih h
        simp only [HasCores, List.flatten_cons, List.length_append] at this ⊢
        exact ⟨by simp, by omega⟩

theorem allocateCPU_isSome {num : Nat} {l : List (List Nat)} :
    (allocateCPU num l).isSome ↔ HasCores num l := by
  rw [allocateCPU, Option.isSome_or, Bool.or_eq_true, takeAcross_isSome]
  constructor
  · rintro (h | h)
    · exact takeFromOne_hasCores h
    · exact h
  · exact .inr

theorem freeCPU_perm {cpus l : List (List Nat)} (h : cpus.length ≤ l.length) :
    (freeCPU cpus l).flatten.Perm (l.flatten ++ cpus.flatten) := by
  induction cpus generalizing l with
  | nil => simp [freeCPU]
  | cons each cpus ih =>
      cases l with
      | nil => simp at h
      | cons core l =>
          have ih' := ih (Nat.le_of_succ_le_succ h)
          simp only [freeCPU, List.flatten_cons, List.append_assoc]
          refine List.Perm.append_left core ?_
          refine (ih'.append_left each).trans ?_
          exact List.perm_append_comm_assoc ..

theorem length_freeCPU (cpus l : List (List Nat)) :
    (freeCPU cpus l).length = l.length := by
  induction cpus generalizing l with
  | nil => cases l <;> rfl
  | cons each cpus ih =>
      cases l with
      | nil => rfl
      | cons core l => simp [freeCPU, ih]

theorem flatten_removeCore_sublist (core : Nat) (l : List (List Nat)) :
    (removeCore core l).flatten.Sublist l.flatten := by
  induction l with
  | nil => exact List.Sublist.refl _
  | cons coreInSocket l ih =>
      rw [removeCore]
      split
      · exact List.erase_sublist.append (.refl _)
      · exact (List.Sublist.refl _).append ih

theorem flatten_rmNotAvaiCPU_sublist (l : List (List Nat))
    (notAvaiCPU : List Nat) :
    (rmNotAvaiCPUFromCoreInSocketList l notAvaiCPU).flatten.Sublist
      l.flatten := by
  induction notAvaiCPU generalizing l with
  | nil => exact List.Sublist.refl _
  | cons core notAvaiCPU ih =>
      exact (ih (removeCore core l)).trans (flatten_removeCore_sublist core l)

end CPUAllocator

end SelfAdaptiveMano

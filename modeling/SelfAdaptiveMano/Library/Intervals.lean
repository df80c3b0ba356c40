import Mathlib.Data.List.Basic
import Mathlib.Order.Defs.PartialOrder
import Mathlib.Data.Int.Order.Basic

/-!
# Ascending lists of intervals

A set of integers given as a list of half-open intervals `[lo, hi)`. In an
ascending list no interval starts before the one in front of it has ended, so
that what an interval covers is covered by no other one. In a coalesced list there
are ids between any two intervals that neither covers, so that each run of what
the list covers lies in one interval.
-/

namespace Library

namespace Intervals

/-- Some interval of the list contains `x`. -/
def Covers (l : List (Int × Int)) (x : Int) : Prop :=
  ∃ e ∈ l, e.1 ≤ x ∧ x < e.2

/-- Each interval is well formed and ends before the next ones start. -/
structure Ascending (l : List (Int × Int)) : Prop where
  wellFormed : ∀ e ∈ l, e.1 ≤ e.2
  ordered : l.Pairwise fun a b => a.2 ≤ b.1

/-- No interval is empty, and none starts where another one ends. -/
structure Coalesced (l : List (Int × Int)) : Prop where
  nonempty : ∀ e ∈ l, e.1 < e.2
  separated : l.Pairwise fun a b => a.2 < b.1

theorem not_covers_nil (x : Int) : ¬ Covers [] x := by
  rintro ⟨e, he, -⟩
  cases he

theorem covers_cons {e : Int × Int} {l : List (Int × Int)} {x : Int} :
    Covers (e :: l) x ↔ (e.1 ≤ x ∧ x < e.2) ∨ Covers l x := by
  simp [Covers]

theorem covers_append {l l' : List (Int × Int)} {x : Int} :
    Covers (l ++ l') x ↔ Covers l x ∨ Covers l' x := by
  simp [Covers, or_and_right, exists_or]

theorem ascending_nil : Ascending [] := ⟨by simp, .nil⟩

theorem ascending_cons {e : Int × Int} {l : List (Int × Int)} :
    Ascending (e :: l) ↔ e.1 ≤ e.2 ∧ (∀ b ∈ l, e.2 ≤ b.1) ∧ Ascending l := by
  constructor
  · rintro ⟨hwell, hordered⟩
    obtain ⟨hhead, htail⟩ := List.pairwise_cons.mp hordered
    exact ⟨hwell e List.mem_cons_self, hhead,
      fun b hb => hwell b (List.mem_cons_of_mem e hb), htail⟩
  · rintro ⟨he, hhead, hwell, hordered⟩
    refine ⟨?_, List.pairwise_cons.mpr ⟨hhead, hordered⟩⟩
    intro b hb
    obtain rfl | hb := List.mem_cons.mp hb
    · exact he
    · exact hwell b hb

theorem Ascending.tail {e : Int × Int} {l : List (Int × Int)}
    (h : Ascending (e :: l)) : Ascending l := (ascending_cons.mp h).2.2

theorem ascending_append {l l' : List (Int × Int)} :
    Ascending (l ++ l') ↔
      Ascending l ∧ Ascending l' ∧ ∀ a ∈ l, ∀ b ∈ l', a.2 ≤ b.1 := by
  constructor
  · intro h
    obtain ⟨hl, hl', hcross⟩ := List.pairwise_append.mp h.ordered
    exact ⟨⟨fun e he => h.wellFormed e (List.mem_append_left _ he), hl⟩,
      ⟨fun e he => h.wellFormed e (List.mem_append_right _ he), hl'⟩, hcross⟩
  · intro ⟨h, h', hcross⟩
    refine ⟨fun e he => ?_, List.pairwise_append.mpr ⟨h.ordered, h'.ordered, hcross⟩⟩
    rcases List.mem_append.mp he with he | he
    · exact h.wellFormed e he
    · exact h'.wellFormed e he

theorem Ascending.replace {l c l' : List (Int × Int)} {e : Int × Int}
    (h : Ascending (l ++ e :: l')) (hc : Ascending c)
    (hin : ∀ d ∈ c, e.1 ≤ d.1 ∧ d.2 ≤ e.2) : Ascending (l ++ c ++ l') := by
  obtain ⟨hl, hrest, hcross⟩ := ascending_append.mp h
  obtain ⟨-, hhead, hl'⟩ := ascending_cons.mp hrest
  refine ascending_append.mpr ⟨ascending_append.mpr ⟨hl, hc, ?_⟩, hl', ?_⟩
  · intro a ha d hd
    exact Int.le_trans (hcross a ha e List.mem_cons_self) (hin d hd).1
  · intro a ha b hb
    rcases List.mem_append.mp ha with ha | hd
    · exact hcross a ha b (List.mem_cons_of_mem e hb)
    · exact Int.le_trans (hin a hd).2 (hhead b hb)

theorem Covers.le {l : List (Int × Int)} {x lo : Int} (h : Covers l x)
    (hlo : ∀ b ∈ l, lo ≤ b.1) : lo ≤ x := by
  obtain ⟨b, hb, hle, -⟩ := h
  exact Int.le_trans (hlo b hb) hle

theorem Ascending.not_covers_of_mem {l l' : List (Int × Int)} {e : Int × Int}
    (h : Ascending (l ++ e :: l')) {x : Int} (hlo : e.1 ≤ x) (hhi : x < e.2) :
    ¬ Covers l x ∧ ¬ Covers l' x := by
  obtain ⟨-, hrest, hcross⟩ := ascending_append.mp h
  obtain ⟨-, hhead, -⟩ := ascending_cons.mp hrest
  constructor
  · intro ⟨a, ha, _, hlt⟩
    have hend := hcross a ha e List.mem_cons_self
    omega
  · intro hcovers
    have hle : e.2 ≤ x := Covers.le hcovers hhead
    omega

theorem Ascending.le_of_mem {e b : Int × Int} {l : List (Int × Int)}
    (h : Ascending (e :: l)) (hb : b ∈ l) : e.2 ≤ b.1 :=
  (ascending_cons.mp h).2.1 b hb

/-! ## Coalesced lists -/

theorem coalesced_nil : Coalesced [] := ⟨by simp, .nil⟩

theorem coalesced_cons {e : Int × Int} {l : List (Int × Int)} :
    Coalesced (e :: l) ↔ e.1 < e.2 ∧ (∀ b ∈ l, e.2 < b.1) ∧ Coalesced l := by
  constructor
  · intro h
    obtain ⟨hhead, htail⟩ := List.pairwise_cons.mp h.separated
    exact ⟨h.nonempty e List.mem_cons_self, hhead,
      fun b hb => h.nonempty b (List.mem_cons_of_mem e hb), htail⟩
  · intro ⟨he, hhead, h⟩
    refine ⟨?_, List.pairwise_cons.mpr ⟨hhead, h.separated⟩⟩
    intro b hb
    obtain rfl | hb := List.mem_cons.mp hb
    · exact he
    · exact h.nonempty b hb

theorem Coalesced.ascending {l : List (Int × Int)} (h : Coalesced l) :
    Ascending l where
  wellFormed := fun e he => Int.le_of_lt (h.nonempty e he)
  ordered := h.separated.imp Int.le_of_lt

theorem Coalesced.exists_of_run {l : List (Int × Int)} (h : Coalesced l)
    {x y : Int} (hx : Covers l x) (hrun : ∀ z, x ≤ z → z < y → Covers l z) :
    ∃ e ∈ l, e.1 ≤ x ∧ x < e.2 ∧ y ≤ e.2 := by
  induction l with
  | nil => exact absurd hx (not_covers_nil x)
  | cons e l ih =>
      obtain ⟨he, hhead, hl⟩ := coalesced_cons.mp h
      have hbeyond : ∀ z, Covers l z → e.2 < z := fun z hz =>
        Int.lt_of_add_one_le (hz.le hhead)
      obtain ⟨hle, hlt⟩ | hx := covers_cons.mp hx
      · refine ⟨e, List.mem_cons_self, hle, hlt, ?_⟩
        by_contra hshort
        obtain ⟨-, hlt'⟩ | hend := covers_cons.mp
          (hrun e.2 (Int.le_of_lt hlt) (Int.lt_of_not_ge hshort))
        · exact Int.lt_irrefl _ hlt'
        · exact Int.lt_irrefl _ (hbeyond _ hend)
      · have hafter := hbeyond x hx
        obtain ⟨b, hb, hrest⟩ := ih hl hx fun z hz hlt => by
          obtain ⟨-, hlt'⟩ | hz' := covers_cons.mp (hrun z hz hlt)
          · omega
          · exact hz'
        exact ⟨b, List.mem_cons_of_mem e hb, hrest⟩

theorem Coalesced.eq_singleton {l : List (Int × Int)} (h : Coalesced l)
    {lo hi : Int} (hlt : lo < hi) (hcovers : ∀ x, Covers l x ↔ lo ≤ x ∧ x < hi) :
    l = [(lo, hi)] := by
  obtain ⟨e, he, hle, -, hge⟩ := h.exists_of_run ((hcovers lo).mpr ⟨le_rfl, hlt⟩)
    fun z hz hz' => (hcovers z).mpr ⟨hz, hz'⟩
  have hbounds : ∀ b ∈ l, lo ≤ b.1 ∧ b.2 ≤ hi := by
    intro b hb
    have hne := h.nonempty b hb
    have hfirst := (hcovers b.1).mp ⟨b, hb, le_rfl, hne⟩
    have hlast := (hcovers (b.2 - 1)).mp ⟨b, hb, by omega, by omega⟩
    omega
  obtain ⟨before, after, rfl⟩ := List.append_of_mem he
  obtain ⟨-, hafter, hcross⟩ := List.pairwise_append.mp h.separated
  have hends := hbounds e he
  have hbefore : before = [] := by
    refine List.eq_nil_iff_forall_not_mem.mpr fun b hb => ?_
    have hb' := hbounds b (List.mem_append_left _ hb)
    have hne := h.nonempty b (List.mem_append_left _ hb)
    have hless := hcross b hb e List.mem_cons_self
    omega
  have hnone : after = [] := by
    refine List.eq_nil_iff_forall_not_mem.mpr fun b hb => ?_
    have hmem := List.mem_append_right before (List.mem_cons_of_mem e hb)
    have hb' := hbounds b hmem
    have hne := h.nonempty b hmem
    have hless := (List.pairwise_cons.mp hafter).1 b hb
    omega
  rw [hbefore, hnone, List.nil_append]
  exact congrArg (fun e => [e]) (Prod.ext (Int.le_antisymm hle hends.1)
    (Int.le_antisymm hends.2 hge))

end Intervals

end Library

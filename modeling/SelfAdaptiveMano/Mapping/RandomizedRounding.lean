import SelfAdaptiveMano.Library.Dict
import SelfAdaptiveMano.Library.Python
import SelfAdaptiveMano.Mapping.MultiLayerGraph
import Mathlib.Data.Prod.Lex
import Mathlib.Data.List.Count
import Mathlib.Algebra.Order.Ring.Rat
import Mathlib.Order.Bounds.Basic
import Mathlib.Logic.Relation
import Mathlib.Tactic.Linarith
import Mathlib.Tactic.Ring

/-!
# Randomized rounding

A solution gives each joint link of a request a value. The rounding takes one positive
link after the other, adds the candidate path over it with the value as its weight, and
subtracts the value from all positive links of the request. `min` on pairs of a link
and its value returns the pair with the first link, whatever the values.
-/

namespace SelfAdaptiveMano.Mapping

open Library

/-- `(rIndex, i, j, u, v)`. For a partial path the first component is its index. -/
structure JointLink where
  rIndex : Int
  i : Int
  j : Int
  u : Int
  v : Int

namespace JointLink

def tuple (jointLink : JointLink) : Int ×ₗ (Int ×ₗ (Int ×ₗ (Int ×ₗ Int))) :=
  toLex (jointLink.rIndex,
    toLex (jointLink.i, toLex (jointLink.j, toLex (jointLink.u, jointLink.v))))

theorem tuple_injective : Function.Injective tuple := by
  rintro ⟨rIndex, i, j, u, v⟩ ⟨rIndex', i', j', u', v'⟩ h
  simpa [tuple] using h

/-- Joint links compare as tuples. -/
instance : LinearOrder JointLink := LinearOrder.lift' tuple tuple_injective

end JointLink

structure OPRandomizedRoundingAlgorithm where
  jointLink : Dict JointLink ℚ
  candidatePathSet : Dict (JointLink × ℚ) (List LayerNode)

namespace OPRandomizedRoundingAlgorithm

section Loop

variable (rIndex : Int)
  (findCandidatePath : JointLink → Except PyError (List LayerNode))
  (s : OPRandomizedRoundingAlgorithm)

/-- `value > 0 and rIndex == self._rIndexInRRA`. -/
def isPositive (item : JointLink × ℚ) : Bool := decide (0 < item.2 ∧ item.1.rIndex = rIndex)

def existJointLinkLeq0 : Bool := s.jointLink.items.any (isPositive rIndex)

/-- `min` of the positive links of the request, each with its value. -/
def selectJointLink : Except PyError (JointLink × ℚ) :=
  match ((s.jointLink.items.filter (isPositive rIndex)).map toLex).min? with
  | some jointLink => return ofLex jointLink
  | none => throw (.valueError "min() arg is an empty sequence")

def addCandidatePath (jointLink : JointLink × ℚ) (path : List LayerNode) :
    OPRandomizedRoundingAlgorithm :=
  { s with candidatePathSet := s.candidatePathSet.set jointLink path }

def updateJointLinkValue (jointLink : JointLink × ℚ) :
    Except PyError OPRandomizedRoundingAlgorithm :=
  match s.jointLink.get? jointLink.1 with
  | none => throw .keyError
  | some minusValue => return { s with
      jointLink := s.jointLink.mapItems fun jointLink value =>
        if isPositive rIndex (jointLink, value) then value - minusValue else value }

def turn : Except PyError OPRandomizedRoundingAlgorithm := do
  let jointLink ← s.selectJointLink rIndex
  let path ← findCandidatePath jointLink.1
  (s.addCandidatePath jointLink path).updateJointLinkValue rIndex jointLink

/-- The loop of `randomizedRoundingAlgorithm`; `fuel` bounds its turns. -/
def loop : Nat → OPRandomizedRoundingAlgorithm →
    Except PyError OPRandomizedRoundingAlgorithm
  | 0, _ => throw (.exception "out of fuel")
  | fuel + 1, s =>
      if s.existJointLinkLeq0 rIndex then do
        loop fuel (← s.turn rIndex findCandidatePath)
      else
        return s

def probabilityList : List ℚ := s.candidatePathSet.keys.map Prod.snd

end Loop

/-! ## What the rounding is for -/

section Spec

variable (rIndex : Int)
  (findCandidatePath : JointLink → Except PyError (List LayerNode))

def Has (s : OPRandomizedRoundingAlgorithm) (jointLink : JointLink) (value : ℚ) : Prop :=
  s.jointLink.get? jointLink = some value ∧ jointLink.rIndex = rIndex

def Turns (s s' : OPRandomizedRoundingAlgorithm) : Prop :=
  s.existJointLinkLeq0 rIndex = true ∧ s.turn rIndex findCandidatePath = .ok s'

/-- The link selected has the smallest positive value, and no value is negative. -/
structure Smallest (s : OPRandomizedRoundingAlgorithm) : Prop where
  selected : ∀ jointLink, s.selectJointLink rIndex = .ok jointLink →
    ∀ other value, Has rIndex s other value → 0 < value → jointLink.2 ≤ value
  nonneg : ∀ jointLink value, Has rIndex s jointLink value → 0 ≤ value

/-- All links of the request are zero in the end, the weights of the candidates sum up to
the largest value of before, and other links are as before. -/
structure Rounded (s s' : OPRandomizedRoundingAlgorithm) : Prop where
  zero : ∀ jointLink value, Has rIndex s' jointLink value → value = 0
  weights : IsGreatest {value | value = 0 ∨ ∃ jointLink, Has rIndex s jointLink value}
    s'.probabilityList.sum
  others : ∀ jointLink : JointLink, jointLink.rIndex ≠ rIndex →
    s'.jointLink.get? jointLink = s.jointLink.get? jointLink

/-- The loop ends, selects the smallest positive value in each turn, and rounds. -/
def RoundsOff (s : OPRandomizedRoundingAlgorithm) : Prop :=
  ∃ s', (∀ fuel > s.jointLink.items.length,
      loop rIndex findCandidatePath fuel s = .ok s') ∧
    (∀ t, Relation.ReflTransGen (Turns rIndex findCandidatePath) s t →
      Smallest rIndex t) ∧
    Rounded rIndex s s'

def FirstOfValue (s : OPRandomizedRoundingAlgorithm) (jointLink : JointLink)
    (value : ℚ) : Prop :=
  Has rIndex s jointLink value ∧ 0 < value ∧
    ∀ before, before < jointLink → ¬ Has rIndex s before value

def Ascends (s : OPRandomizedRoundingAlgorithm) : Prop :=
  ∀ jointLink value next value', FirstOfValue rIndex s jointLink value →
    FirstOfValue rIndex s next value' → jointLink < next → value < value'

def Found (s : OPRandomizedRoundingAlgorithm) : Prop :=
  ∀ jointLink value, FirstOfValue rIndex s jointLink value →
    ∃ path, findCandidatePath jointLink = .ok path

end Spec

section Turn

variable {rIndex : Int} {findCandidatePath : JointLink → Except PyError (List LayerNode)}
  {s s' : OPRandomizedRoundingAlgorithm} {jointLink : JointLink} {value : ℚ}

theorem isPositive_iff {item : JointLink × ℚ} :
    isPositive rIndex item = true ↔ 0 < item.2 ∧ item.1.rIndex = rIndex :=
  decide_eq_true_iff

theorem mem_positive_iff :
    (jointLink, value) ∈ s.jointLink.items.filter (isPositive rIndex) ↔
      Has rIndex s jointLink value ∧ 0 < value := by
  rw [List.mem_filter, isPositive_iff, Dict.mem_items_iff, Has]
  tauto

theorem existJointLinkLeq0_iff :
    s.existJointLinkLeq0 rIndex = true ↔
      ∃ jointLink value, Has rIndex s jointLink value ∧ 0 < value := by
  rw [existJointLinkLeq0, List.any_eq_true]
  constructor
  · rintro ⟨⟨jointLink, value⟩, hitem, hpositive⟩
    exact ⟨jointLink, value, mem_positive_iff.mp (List.mem_filter.mpr ⟨hitem, hpositive⟩)⟩
  · rintro ⟨jointLink, value, h⟩
    have hmem := List.mem_filter.mp (mem_positive_iff.mpr h)
    exact ⟨(jointLink, value), hmem⟩

theorem min?_eq_some_iff :
    ((s.jointLink.items.filter (isPositive rIndex)).map toLex).min? =
        some (toLex (jointLink, value)) ↔
      (Has rIndex s jointLink value ∧ 0 < value) ∧
        ∀ other value', Has rIndex s other value' → 0 < value' → jointLink ≤ other := by
  rw [List.min?_eq_some_iff, List.mem_map_of_injective toLex.injective, mem_positive_iff]
  apply and_congr_right
  rintro ⟨hhas, -⟩
  constructor
  · intro hmin other value' hother hpositive
    have hmem := List.mem_map_of_mem (f := toLex) (mem_positive_iff.mpr ⟨hother, hpositive⟩)
    rcases Prod.Lex.le_iff.mp (hmin _ hmem) with hlt | ⟨heq, -⟩
    · exact le_of_lt hlt
    · exact le_of_eq heq
  · intro hmin item hitem
    rcases List.mem_map.mp hitem with ⟨⟨other, value'⟩, hmem, rfl⟩
    rcases mem_positive_iff.mp hmem with ⟨hother, hpositive⟩
    rw [Prod.Lex.le_iff]
    rcases lt_or_eq_of_le (hmin other value' hother hpositive) with hlt | rfl
    · exact Or.inl hlt
    · right
      have hsame := hhas.1.symm.trans hother.1
      exact ⟨rfl, le_of_eq (Option.some.inj hsame)⟩

/-- The positive link that comes first is selected, whatever its value. -/
theorem selectJointLink_eq_ok_iff :
    s.selectJointLink rIndex = .ok (jointLink, value) ↔
      (Has rIndex s jointLink value ∧ 0 < value) ∧
        ∀ other value', Has rIndex s other value' → 0 < value' → jointLink ≤ other := by
  rw [← min?_eq_some_iff, selectJointLink]
  cases ((s.jointLink.items.filter (isPositive rIndex)).map toLex).min? with
  | none => exact iff_of_false nofun nofun
  | some item =>
      constructor
      · intro h
        exact congrArg (fun item => some (toLex item)) (Except.ok.inj h)
      · intro h
        exact congrArg (fun item => Except.ok (ofLex item)) (Option.some.inj h)

theorem exists_selectJointLink (h : s.existJointLinkLeq0 rIndex = true) :
    ∃ jointLink value, s.selectJointLink rIndex = .ok (jointLink, value) := by
  rcases existJointLinkLeq0_iff.mp h with ⟨jointLink, value, hpositive⟩
  have hmem := List.mem_map_of_mem (f := toLex) (mem_positive_iff.mpr hpositive)
  rw [selectJointLink]
  cases hmin : ((s.jointLink.items.filter (isPositive rIndex)).map toLex).min? with
  | none =>
      rw [List.min?_eq_none_iff.mp hmin] at hmem
      cases hmem
  | some item => exact ⟨(ofLex item).1, (ofLex item).2, rfl⟩

def afterTurn (rIndex : Int) (s : OPRandomizedRoundingAlgorithm) (jointLink : JointLink)
    (value : ℚ) (path : List LayerNode) : OPRandomizedRoundingAlgorithm where
  jointLink := s.jointLink.mapItems fun jointLink value' =>
    if isPositive rIndex (jointLink, value') then value' - value else value'
  candidatePathSet := s.candidatePathSet.set (jointLink, value) path

theorem turn_eq (h : s.selectJointLink rIndex = .ok (jointLink, value)) :
    s.turn rIndex findCandidatePath =
      (findCandidatePath jointLink).map (afterTurn rIndex s jointLink value) := by
  have hget := (selectJointLink_eq_ok_iff.mp h).1.1.1
  rw [turn, h]
  cases hpath : findCandidatePath jointLink with
  | error e => simp only [bind, Except.bind, hpath, Except.map]
  | ok path =>
      simp only [bind, Except.bind, hpath, Except.map, updateJointLinkValue,
        addCandidatePath, hget]
      rfl

theorem has_afterTurn_iff {path : List LayerNode} {other : JointLink} {value' : ℚ} :
    Has rIndex (afterTurn rIndex s jointLink value path) other value' ↔
      ∃ before, Has rIndex s other before ∧
        value' = if 0 < before then before - value else before := by
  rw [Has, afterTurn, Dict.get?_mapItems, Option.map_eq_some_iff]
  constructor
  · rintro ⟨⟨before, hget, rfl⟩, hindex⟩
    refine ⟨before, ⟨hget, hindex⟩, ?_⟩
    simp only [isPositive_iff, hindex, and_true]
  · rintro ⟨before, ⟨hget, hindex⟩, rfl⟩
    refine ⟨⟨before, hget, ?_⟩, hindex⟩
    simp only [isPositive_iff, hindex, and_true]

theorem get?_afterTurn_of_ne {path : List LayerNode} {other : JointLink}
    (h : other.rIndex ≠ rIndex) :
    (afterTurn rIndex s jointLink value path).jointLink.get? other =
      s.jointLink.get? other := by
  rw [afterTurn, Dict.get?_mapItems]
  have hnot : ∀ before, ¬ isPositive rIndex (other, before) = true :=
    fun before hpositive => h (isPositive_iff.mp hpositive).2
  simp only [hnot, Bool.false_eq_true, if_false, Option.map_id']

section Selected

variable {path : List LayerNode} {other : JointLink} {value' : ℚ}
  (h : s.selectJointLink rIndex = .ok (jointLink, value))

include h

theorem pos_of_selected : 0 < value := (selectJointLink_eq_ok_iff.mp h).1.2

/-- The positive values after a turn are those before, less the value selected. -/
theorem has_afterTurn_iff_of_pos (hpositive : 0 < value') :
    Has rIndex (afterTurn rIndex s jointLink value path) other value' ↔
      Has rIndex s other (value' + value) := by
  have hvalue := pos_of_selected h
  rw [has_afterTurn_iff]
  constructor
  · rintro ⟨before, hbefore, rfl⟩
    split at hpositive
    · rwa [if_pos ‹_›, sub_add_cancel]
    · contradiction
  · intro hbefore
    refine ⟨value' + value, hbefore, ?_⟩
    rw [if_pos (add_pos hpositive hvalue), add_sub_cancel_right]

theorem firstOfValue_afterTurn_iff (hpositive : 0 < value') :
    FirstOfValue rIndex (afterTurn rIndex s jointLink value path) other value' ↔
      FirstOfValue rIndex s other (value' + value) := by
  simp only [FirstOfValue, has_afterTurn_iff_of_pos h hpositive, hpositive,
    add_pos hpositive (pos_of_selected h)]

theorem firstOfValue_selected : FirstOfValue rIndex s jointLink value := by
  rcases selectJointLink_eq_ok_iff.mp h with ⟨⟨hhas, hpositive⟩, hfirst⟩
  refine ⟨hhas, hpositive, ?_⟩
  intro before hlt hbefore
  exact absurd (hfirst before value hbefore hpositive) (not_le_of_gt hlt)

theorem eq_of_firstOfValue (hfirst : FirstOfValue rIndex s other value) :
    other = jointLink := by
  rcases selectJointLink_eq_ok_iff.mp h with ⟨⟨hhas, hpositive⟩, hmin⟩
  apply le_antisymm
  · apply le_of_not_gt
    intro hlt
    exact hfirst.2.2 jointLink hlt hhas
  · exact hmin other value hfirst.1 hpositive

end Selected

theorem exists_firstOfValue (hhas : Has rIndex s jointLink value) (hpositive : 0 < value) :
    ∃ first, FirstOfValue rIndex s first value := by
  have hmem : ∀ other, other ∈ s.jointLink.keys.filter (fun key =>
      s.jointLink.get? key = some value ∧ key.rIndex = rIndex) ↔
        Has rIndex s other value := by
    intro other
    rw [List.mem_filter, decide_eq_true_iff, Dict.mem_keys_iff]
    exact and_iff_right_of_imp fun hother => ⟨value, hother.1⟩
  cases hmin : (s.jointLink.keys.filter fun key =>
      s.jointLink.get? key = some value ∧ key.rIndex = rIndex).min? with
  | none =>
      have hnone := (hmem jointLink).mpr hhas
      rw [List.min?_eq_none_iff.mp hmin] at hnone
      cases hnone
  | some first =>
      rcases List.min?_eq_some_iff.mp hmin with ⟨hfirst, hle⟩
      refine ⟨first, (hmem first).mp hfirst, hpositive, ?_⟩
      intro before hlt hbefore
      exact absurd (hle before ((hmem before).mpr hbefore)) (not_le_of_gt hlt)

section Conditions

variable (path : List LayerNode) (h : s.selectJointLink rIndex = .ok (jointLink, value))

include h

theorem ascends_iff :
    Ascends rIndex s ↔
      (∀ other value', Has rIndex s other value' → 0 < value' → value ≤ value') ∧
        Ascends rIndex (afterTurn rIndex s jointLink value path) := by
  have hselected := firstOfValue_selected h
  have hfirst := (selectJointLink_eq_ok_iff.mp h).2
  constructor
  · intro hascends
    constructor
    · intro other value' hother hpositive
      rcases exists_firstOfValue hother hpositive with ⟨first, hfirst'⟩
      rcases lt_or_eq_of_le (hfirst first value' hfirst'.1 hpositive) with hlt | rfl
      · exact le_of_lt (hascends _ _ _ _ hselected hfirst' hlt)
      · exact le_of_eq (Option.some.inj (hselected.1.1.symm.trans hfirst'.1.1))
    · intro other other' next next' hother hnext hlt
      rw [firstOfValue_afterTurn_iff h hother.2.1] at hother
      rw [firstOfValue_afterTurn_iff h hnext.2.1] at hnext
      exact lt_of_add_lt_add_right (hascends _ _ _ _ hother hnext hlt)
  · rintro ⟨hsmallest, hascends⟩ other value' next next' hother hnext hlt
    have hle := hsmallest other value' hother.1 hother.2.1
    rcases lt_or_eq_of_le (hsmallest next next' hnext.1 hnext.2.1) with hless' | rfl
    · rcases lt_or_eq_of_le hle with hless | rfl
      · have hafter : ∀ first value', FirstOfValue rIndex s first value' → value < value' →
            FirstOfValue rIndex (afterTurn rIndex s jointLink value path) first
              (value' - value) := by
          intro first value' hfirst hless
          rwa [firstOfValue_afterTurn_iff h (sub_pos.mpr hless), sub_add_cancel]
        have hother' := hafter other value' hother hless
        have hnext' := hafter next next' hnext hless'
        exact (sub_lt_sub_iff_right value).mp (hascends _ _ _ _ hother' hnext' hlt)
      · exact hless'
    · -- the only first link with the value selected comes before all others
      rw [eq_of_firstOfValue h hnext] at hlt
      exact absurd (hfirst other value' hother.1 hother.2.1) (not_le_of_gt hlt)

theorem found_iff
    (hsmallest : ∀ other value', Has rIndex s other value' → 0 < value' → value ≤ value') :
    Found rIndex findCandidatePath s ↔
      (∃ path, findCandidatePath jointLink = .ok path) ∧
        Found rIndex findCandidatePath (afterTurn rIndex s jointLink value path) := by
  constructor
  · intro hfound
    refine ⟨hfound _ _ (firstOfValue_selected h), ?_⟩
    intro other value' hother
    exact hfound _ _ ((firstOfValue_afterTurn_iff h hother.2.1).mp hother)
  · rintro ⟨hpath, hfound⟩ other value' hother
    rcases lt_or_eq_of_le (hsmallest other value' hother.1 hother.2.1) with hless | rfl
    · apply hfound other (value' - value)
      rw [firstOfValue_afterTurn_iff h (sub_pos.mpr hless), sub_add_cancel]
      exact hother
    · rwa [eq_of_firstOfValue h hother]

theorem countP_afterTurn_lt :
    (afterTurn rIndex s jointLink value path).jointLink.items.countP (isPositive rIndex) <
      s.jointLink.items.countP (isPositive rIndex) := by
  have hselected := (selectJointLink_eq_ok_iff.mp h).1
  have hmem := (List.mem_filter.mp (mem_positive_iff.mpr hselected))
  rcases List.append_of_mem hmem.1 with ⟨front, back, hitems⟩
  have hless : ∀ items : List (JointLink × ℚ),
      items.countP (isPositive rIndex ∘ fun item =>
        (item.1, if isPositive rIndex (item.1, item.2) then item.2 - value else item.2)) ≤
          items.countP (isPositive rIndex) := by
    intro items
    apply List.countP_mono_left
    intro item _ hafter
    by_contra hnot
    simp only [Function.comp, if_neg hnot] at hafter
    exact hnot hafter
  have hzero : ¬ isPositive rIndex (jointLink, value - value) = true := by
    rw [isPositive_iff, sub_self]
    exact fun hpositive => lt_irrefl 0 hpositive.1
  have hfront := hless front
  have hback := hless back
  rw [afterTurn, Dict.mapItems]
  dsimp only
  rw [List.countP_map, hitems, List.countP_append, List.countP_append,
    List.countP_cons_of_pos hmem.2, List.countP_cons_of_neg (by simpa only [Function.comp, if_pos hmem.2] using hzero)]
  omega

end Conditions

/-! ## The turns together -/

def UsedUp (rIndex : Int) (s : OPRandomizedRoundingAlgorithm) : Prop :=
  ∀ key ∈ s.candidatePathSet.keys, ∀ value, Has rIndex s key.1 value → value ≤ 0

theorem nonneg_afterTurn {path : List LayerNode}
    (hnonneg : ∀ other value', Has rIndex s other value' → 0 ≤ value')
    (hsmallest : ∀ other value', Has rIndex s other value' → 0 < value' → value ≤ value')
    {other : JointLink} {value' : ℚ}
    (hvalue' : Has rIndex (afterTurn rIndex s jointLink value path) other value') : 0 ≤ value' := by
  rcases has_afterTurn_iff.mp hvalue' with ⟨before, hbefore, rfl⟩
  split
  · exact sub_nonneg.mpr (hsmallest other before hbefore ‹_›)
  · exact hnonneg other before hbefore

section Kept

variable {path : List LayerNode} (h : s.selectJointLink rIndex = .ok (jointLink, value))

include h

theorem UsedUp.afterTurn (husedUp : UsedUp rIndex s) :
    UsedUp rIndex (afterTurn rIndex s jointLink value path) := by
  intro key hkey value' hvalue'
  rcases has_afterTurn_iff.mp hvalue' with ⟨before, hbefore, rfl⟩
  rcases Dict.mem_keys_set.mp hkey with hkey | rfl
  · have hle := husedUp key hkey before hbefore
    rwa [if_neg (not_lt_of_ge hle)]
  · have hselected := (selectJointLink_eq_ok_iff.mp h).1
    have hsame := Option.some.inj (hbefore.1.symm.trans hselected.1.1)
    rw [hsame, if_pos hselected.2, sub_self]

theorem sum_probabilityList_afterTurn (husedUp : UsedUp rIndex s) :
    (afterTurn rIndex s jointLink value path).probabilityList.sum =
      s.probabilityList.sum + value := by
  have hselected := (selectJointLink_eq_ok_iff.mp h).1
  have hnew : s.candidatePathSet.get? (jointLink, value) = none := by
    rw [Dict.get?_eq_none_iff]
    intro hkey
    exact absurd (husedUp _ hkey value hselected.1) (not_le_of_gt hselected.2)
  rw [probabilityList, probabilityList, afterTurn,
    Dict.keys_set_of_get?_eq_none hnew, List.map_append, List.sum_append]
  simp

/-- The largest value of before is the value selected and the largest of after. -/
theorem isGreatest_of_afterTurn {sum : ℚ}
    (hnonneg : ∀ other value', Has rIndex s other value' → 0 ≤ value')
    (hgreatest : IsGreatest {value' | value' = 0 ∨ ∃ other,
      Has rIndex (afterTurn rIndex s jointLink value path) other value'} sum) :
    IsGreatest {value' | value' = 0 ∨ ∃ other, Has rIndex s other value'} (value + sum) := by
  rcases selectJointLink_eq_ok_iff.mp h with ⟨⟨hhas, hpositive⟩, -⟩
  rcases hgreatest with ⟨hsum, hupper⟩
  have hsum_nonneg : 0 ≤ sum := hupper (Or.inl rfl)
  constructor
  · rcases hsum with rfl | ⟨other, hother⟩
    · rw [add_zero]
      exact Or.inr ⟨jointLink, hhas⟩
    · rcases lt_or_eq_of_le hsum_nonneg with hlt | rfl
      · rw [add_comm]
        exact Or.inr ⟨other, (has_afterTurn_iff_of_pos h hlt).mp hother⟩
      · rw [add_zero]
        exact Or.inr ⟨jointLink, hhas⟩
  · rintro value' (rfl | ⟨other, hother⟩)
    · exact add_nonneg (le_of_lt hpositive) hsum_nonneg
    · have hafter := hupper (Or.inr ⟨other, has_afterTurn_iff.mpr ⟨value', hother, rfl⟩⟩)
      split at hafter
      · linarith
      · have hle := hnonneg other value' hother
        linarith

end Kept

theorem has_nonpos (hdone : s.existJointLinkLeq0 rIndex = false)
    (hhas : Has rIndex s jointLink value) : value ≤ 0 := by
  apply le_of_not_gt
  intro hpositive
  have hexists := existJointLinkLeq0_iff.mpr ⟨jointLink, value, hhas, hpositive⟩
  rw [hdone] at hexists
  cases hexists

theorem smallest_of_done (hdone : s.existJointLinkLeq0 rIndex = false)
    (hnonneg : ∀ other value', Has rIndex s other value' → 0 ≤ value') :
    Smallest rIndex s := by
  refine ⟨?_, hnonneg⟩
  intro _ _ other value' hother hpositive
  exact absurd (has_nonpos hdone hother) (not_le_of_gt hpositive)

theorem loop_succ (hexists : s.existJointLinkLeq0 rIndex = true)
    (hturn : s.turn rIndex findCandidatePath = .ok s') (fuel : Nat) :
    loop rIndex findCandidatePath (fuel + 1) s = loop rIndex findCandidatePath fuel s' := by
  rw [loop, if_pos hexists, hturn]
  rfl

theorem loop_done (hdone : s.existJointLinkLeq0 rIndex = false) (fuel : Nat) :
    loop rIndex findCandidatePath (fuel + 1) s = .ok s := by
  rw [loop, hdone]
  rfl

variable (rIndex findCandidatePath) in
/-- The turns from `s` to `s'`, with the weights that they add. -/
structure Rounds (s s' : OPRandomizedRoundingAlgorithm) : Prop where
  turns : ∀ t, Relation.ReflTransGen (Turns rIndex findCandidatePath) s t →
    Smallest rIndex t
  zero : ∀ jointLink value, Has rIndex s' jointLink value → value = 0
  weights : IsGreatest {value | value = 0 ∨ ∃ jointLink, Has rIndex s jointLink value}
    (s'.probabilityList.sum - s.probabilityList.sum)
  others : ∀ jointLink : JointLink, jointLink.rIndex ≠ rIndex →
    s'.jointLink.get? jointLink = s.jointLink.get? jointLink

theorem rounds_of_done (hdone : s.existJointLinkLeq0 rIndex = false)
    (hnonneg : ∀ other value', Has rIndex s other value' → 0 ≤ value') :
    Rounds rIndex findCandidatePath s s := by
  refine ⟨?_, ?_, ?_, fun _ _ => rfl⟩
  · intro t hreach
    rcases hreach.cases_head with rfl | ⟨t', ⟨hexists, -⟩, -⟩
    · exact smallest_of_done hdone hnonneg
    · rw [hdone] at hexists
      cases hexists
  · intro jointLink value hhas
    exact le_antisymm (has_nonpos hdone hhas) (hnonneg jointLink value hhas)
  · rw [sub_self]
    refine ⟨Or.inl rfl, ?_⟩
    rintro value (rfl | ⟨jointLink, hhas⟩)
    · exact le_rfl
    · exact has_nonpos hdone hhas

theorem Rounds.of_turn {path : List LayerNode}
    (hselect : s.selectJointLink rIndex = .ok (jointLink, value))
    (hturn : s.turn rIndex findCandidatePath = .ok (afterTurn rIndex s jointLink value path))
    (hnonneg : ∀ other value', Has rIndex s other value' → 0 ≤ value')
    (hsmallest : ∀ other value', Has rIndex s other value' → 0 < value' → value ≤ value')
    (husedUp : UsedUp rIndex s)
    (h : Rounds rIndex findCandidatePath (afterTurn rIndex s jointLink value path) s') :
    Rounds rIndex findCandidatePath s s' := by
  refine ⟨?_, h.zero, ?_, ?_⟩
  · intro t hreach
    rcases hreach.cases_head with rfl | ⟨t', ⟨-, hturn'⟩, hreach⟩
    · refine ⟨?_, hnonneg⟩
      intro jointLink' hselect'
      rw [hselect, Except.ok.injEq] at hselect'
      rw [← hselect']
      exact hsmallest
    · rw [hturn, Except.ok.injEq] at hturn'
      exact h.turns t (hturn' ▸ hreach)
  · have hgreatest := isGreatest_of_afterTurn hselect hnonneg h.weights
    have hsum : value + (s'.probabilityList.sum - (s.probabilityList.sum + value)) =
        s'.probabilityList.sum - s.probabilityList.sum := by ring
    rwa [sum_probabilityList_afterTurn hselect husedUp, hsum] at hgreatest
  · intro other hother
    rw [h.others other hother, get?_afterTurn_of_ne hother]

theorem exists_rounds {n : Nat} (hcount : s.jointLink.items.countP (isPositive rIndex) < n)
    (hnonneg : ∀ other value', Has rIndex s other value' → 0 ≤ value')
    (husedUp : UsedUp rIndex s) (hascends : Ascends rIndex s)
    (hfound : Found rIndex findCandidatePath s) :
    ∃ s', (∀ fuel ≥ n, loop rIndex findCandidatePath fuel s = .ok s') ∧
      Rounds rIndex findCandidatePath s s' := by
  induction n generalizing s with
  | zero => exact absurd hcount (Nat.not_lt_zero _)
  | succ n ih =>
      cases hexists : s.existJointLinkLeq0 rIndex with
      | false =>
          refine ⟨s, ?_, rounds_of_done hexists hnonneg⟩
          intro fuel hfuel
          rcases Nat.exists_eq_add_of_lt hfuel with ⟨k, rfl⟩
          exact loop_done hexists _
      | true =>
          rcases exists_selectJointLink hexists with ⟨jointLink, value, hselect⟩
          rcases hfound _ _ (firstOfValue_selected hselect) with ⟨path, hpath⟩
          have hturn : s.turn rIndex findCandidatePath =
              .ok (afterTurn rIndex s jointLink value path) := by
            rw [turn_eq hselect, hpath]
            rfl
          rcases (ascends_iff path hselect).mp hascends with ⟨hsmallest, hascends'⟩
          have hfound' := ((found_iff path hselect hsmallest).mp hfound).2
          have hcount' := countP_afterTurn_lt path hselect
          rcases ih (by omega) (fun _ _ => nonneg_afterTurn hnonneg hsmallest)
            (husedUp.afterTurn hselect) hascends' hfound' with ⟨s', hloop, hrounds⟩
          refine ⟨s', ?_, hrounds.of_turn hselect hturn hnonneg hsmallest husedUp⟩
          intro fuel hfuel
          rcases Nat.exists_eq_add_of_lt hfuel with ⟨k, rfl⟩
          rw [loop_succ hexists hturn]
          exact hloop _ (Nat.le_add_right n k)

theorem of_smallest {fuel : Nat} (hloop : loop rIndex findCandidatePath fuel s = .ok s')
    (hsmallest : ∀ t, Relation.ReflTransGen (Turns rIndex findCandidatePath) s t →
      Smallest rIndex t) :
    Ascends rIndex s ∧ Found rIndex findCandidatePath s := by
  induction fuel generalizing s with
  | zero => cases hloop
  | succ fuel ih =>
      cases hexists : s.existJointLinkLeq0 rIndex with
      | false =>
          have hnone : ∀ jointLink value, ¬ FirstOfValue rIndex s jointLink value := by
            intro jointLink value hfirst
            exact absurd (has_nonpos hexists hfirst.1) (not_le_of_gt hfirst.2.1)
          constructor
          · intro jointLink value next value' hfirst
            exact absurd hfirst (hnone jointLink value)
          · intro jointLink value hfirst
            exact absurd hfirst (hnone jointLink value)
      | true =>
          rcases exists_selectJointLink hexists with ⟨jointLink, value, hselect⟩
          have hturn : s.turn rIndex findCandidatePath = _ := turn_eq hselect
          cases hpath : findCandidatePath jointLink with
          | error e =>
              rw [loop, if_pos hexists, hturn, hpath] at hloop
              cases hloop
          | ok path =>
              rw [hpath] at hturn
              rw [loop_succ hexists hturn] at hloop
              have hleast := (hsmallest s .refl).selected _ hselect
              rcases ih hloop fun t hreach =>
                hsmallest t (.head ⟨hexists, hturn⟩ hreach) with ⟨hascends, hfound⟩
              exact ⟨(ascends_iff path hselect).mpr ⟨hleast, hascends⟩,
                (found_iff path hselect hleast).mpr ⟨⟨path, hpath⟩, hfound⟩⟩

/-- The rounding is as it should be exactly when the values, in the order of the links,
come up for the first time in ascending order, and each of those links has a candidate
path. -/
theorem roundsOff_iff (hempty : s.candidatePathSet = .empty)
    (hnonneg : ∀ jointLink value, Has rIndex s jointLink value → 0 ≤ value) :
    RoundsOff rIndex findCandidatePath s ↔
      Ascends rIndex s ∧ Found rIndex findCandidatePath s := by
  constructor
  · rintro ⟨s', hloop, hturns, -⟩
    exact of_smallest (hloop _ (Nat.lt_succ_self _)) hturns
  · rintro ⟨hascends, hfound⟩
    have husedUp : UsedUp rIndex s := by
      intro key hkey
      rw [hempty] at hkey
      cases hkey
    have hcount := Nat.lt_succ_of_le
      (List.countP_le_length (p := isPositive rIndex) (l := s.jointLink.items))
    rcases exists_rounds hcount hnonneg husedUp hascends hfound with ⟨s', hloop, hrounds⟩
    refine ⟨s', hloop, hrounds.turns, hrounds.zero, ?_, hrounds.others⟩
    have hweights := hrounds.weights
    have hnone : s.probabilityList.sum = 0 := by
      rw [probabilityList, hempty]
      rfl
    rwa [hnone, sub_zero] at hweights

def twoLinks (value value' : ℚ) : OPRandomizedRoundingAlgorithm where
  jointLink := (Dict.empty.set ⟨0, 0, 3, 1, 2⟩ value).set ⟨0, 0, 3, 2, 4⟩ value'
  candidatePathSet := .empty

def onePath (_ : JointLink) : Except PyError (List LayerNode) :=
  .ok [(0, 1), (0, 2), (0, 4), (1, 4)]

theorem has_twoLinks_iff {value' : ℚ} {other : JointLink} {value₀ : ℚ} :
    Has 0 (twoLinks value value') other value₀ ↔
      (other = ⟨0, 0, 3, 1, 2⟩ ∧ value₀ = value) ∨
        (other = ⟨0, 0, 3, 2, 4⟩ ∧ value₀ = value') := by
  rw [Has, twoLinks, Dict.get?_set, Dict.get?_set, Dict.get?_empty]
  constructor
  · rintro ⟨hget, -⟩
    split at hget
    · exact Or.inr ⟨‹_›, (Option.some.inj hget).symm⟩
    · split at hget
      · exact Or.inl ⟨‹_›, (Option.some.inj hget).symm⟩
      · cases hget
  · rintro (⟨rfl, rfl⟩ | ⟨rfl, rfl⟩)
    · exact ⟨rfl, rfl⟩
    · exact ⟨rfl, rfl⟩

theorem roundsOff_iff_twoLinks : RoundsOff 0 onePath (twoLinks 1 2) := by
  refine (roundsOff_iff rfl ?_).mpr ⟨?_, fun _ _ _ => ⟨_, rfl⟩⟩
  · intro jointLink value hhas
    rcases has_twoLinks_iff.mp hhas with ⟨-, rfl⟩ | ⟨-, rfl⟩ <;> decide
  · intro jointLink value next value' hfirst hnext hlt
    rcases has_twoLinks_iff.mp hfirst.1 with ⟨rfl, rfl⟩ | ⟨rfl, rfl⟩ <;>
      rcases has_twoLinks_iff.mp hnext.1 with ⟨rfl, rfl⟩ | ⟨rfl, rfl⟩
    · exact absurd hlt (lt_irrefl _)
    · decide
    · exact absurd hlt (by decide)
    · exact absurd hlt (lt_irrefl _)

/-- The link that comes first has the larger value, and is selected. -/
theorem not_roundsOff_largerFirst : ¬ RoundsOff 0 onePath (twoLinks 2 1) := by
  rintro ⟨s', -, hturns, -⟩
  have hselect : (twoLinks 2 1).selectJointLink 0 = .ok (⟨0, 0, 3, 1, 2⟩, 2) := by
    rw [selectJointLink_eq_ok_iff]
    refine ⟨⟨has_twoLinks_iff.mpr (Or.inl ⟨rfl, rfl⟩), by decide⟩, ?_⟩
    intro other value' hother _
    rcases has_twoLinks_iff.mp hother with ⟨rfl, -⟩ | ⟨rfl, -⟩ <;> decide
  have hle := (hturns _ .refl).selected _ hselect ⟨0, 0, 3, 2, 4⟩ 1
    (has_twoLinks_iff.mpr (Or.inr ⟨rfl, rfl⟩)) (by decide)
  exact absurd hle (by decide)

end Turn

end OPRandomizedRoundingAlgorithm

end SelfAdaptiveMano.Mapping

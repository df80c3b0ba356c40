import SelfAdaptiveMano.Library.Python
import Mathlib.Algebra.Group.Even
import Mathlib.Tactic.IntervalCases
import Mathlib.Tactic.Ring

/-!
# Sub-zones of a fat-tree

An orchestrator is in charge of an interval of the pods of a fat-tree. From the
interval it computes which switches are in its sub-zone. The `Orchestrator` does
so when it prunes its data base, and `NetPack` does so again when it builds its
graph.

The two agree on the switches of the pods. The core switches are given out by
stride in the `Orchestrator` and in consecutive shares in `NetPack`, and
`NetPack` rounds the size of a share down.
-/

namespace SelfAdaptiveMano

open Library

inductive TopoType where
  | fatTree
  | testbedSw1
  | other (name : String)
  deriving DecidableEq, Repr

/-- The pods from `minPodIdx` to `maxPodIdx` of a topology with `podNum` pods. -/
structure PodInterval (podNum : Nat) where
  minPodIdx : Nat
  maxPodIdx : Nat
  le : minPodIdx ≤ maxPodIdx
  lt : maxPodIdx < podNum

namespace PodInterval

variable {podNum : Nat}

def podNumInSubZone (I : PodInterval podNum) : Nat :=
  I.maxPodIdx - I.minPodIdx + 1

theorem podNumInSubZone_pos (I : PodInterval podNum) :
    0 < I.podNumInSubZone := Nat.succ_pos _

theorem minPodIdx_add_podNumInSubZone (I : PodInterval podNum) :
    I.minPodIdx + I.podNumInSubZone = I.maxPodIdx + 1 := by
  have hle := I.le
  rw [podNumInSubZone]
  omega

theorem podNumInSubZone_le (I : PodInterval podNum) :
    I.podNumInSubZone ≤ podNum := by
  have hlt := I.lt
  have hsum := I.minPodIdx_add_podNumInSubZone
  omega

theorem podNum_pos (I : PodInterval podNum) : 0 < podNum :=
  I.podNumInSubZone_pos.trans_le I.podNumInSubZone_le

end PodInterval

def coreSwitchNum (podNum : Nat) : Nat := (podNum / 2) ^ 2

def aggSwitchNum (podNum : Nat) : Nat := podNum * podNum / 2

def coreSwitchPerPod (podNum : Nat) : Nat := coreSwitchNum podNum / podNum

/-- The last of `num` indexes from `first` on. It is an integer, since a range
that starts at 0 may be empty. -/
def lastIdx (first num : Nat) : Int := (first : Int) + num - 1

theorem le_lastIdx_iff {first num x : Nat} :
    (x : Int) ≤ lastIdx first num ↔ x < first + num := by
  rw [lastIdx]
  omega

/-- What `_prepareSubZoneSwitchesIdxInfo` computes. -/
structure SubZoneSwitchesIdxInfo where
  minCoreSwitchIdx : Nat
  maxCoreSwitchIdx : Int
  coreSwitchIdxList : List Nat
  minAggSwitchIdx : Nat
  maxAggSwitchIdx : Int
  minTorSwitchIdx : Nat
  maxTorSwitchIdx : Int

namespace Orchestrator

/-- `_prepareSubZoneSwitchesIdxInfo` for a fat-tree. -/
def prepareSubZoneSwitchesIdxInfo {podNum : Nat} (I : PodInterval podNum) :
    SubZoneSwitchesIdxInfo :=
  let minCoreSwitchIdx := I.minPodIdx * coreSwitchPerPod podNum
  let zoneNum := podNum / I.podNumInSubZone
  let minAggSwitchIdx := coreSwitchNum podNum + I.minPodIdx * podNum / 2
  let minTorSwitchIdx :=
    coreSwitchNum podNum + aggSwitchNum podNum + I.minPodIdx * podNum / 2
  { minCoreSwitchIdx
    maxCoreSwitchIdx :=
      lastIdx minCoreSwitchIdx (coreSwitchPerPod podNum * I.podNumInSubZone)
    coreSwitchIdxList := pyRange I.minPodIdx (coreSwitchNum podNum) zoneNum
    minAggSwitchIdx
    maxAggSwitchIdx := lastIdx minAggSwitchIdx (podNum / 2 * I.podNumInSubZone)
    minTorSwitchIdx
    maxTorSwitchIdx :=
      lastIdx minTorSwitchIdx (podNum / 2 * I.podNumInSubZone) }

def isSwitchInSubTopologyZone (topoType : TopoType) {podNum : Nat}
    (I : PodInterval podNum) (switchID : Nat) : Except PyError Bool :=
  match topoType with
  | .fatTree =>
      let info := prepareSubZoneSwitchesIdxInfo I
      .ok (decide (switchID ∈ info.coreSwitchIdxList ∨
        (info.minAggSwitchIdx ≤ switchID ∧ switchID ≤ info.maxAggSwitchIdx) ∨
        (info.minTorSwitchIdx ≤ switchID ∧ switchID ≤ info.maxTorSwitchIdx)))
  | .testbedSw1 => .ok true
  | .other _ => .error (.valueError "Unimplementation topo type")

end Orchestrator

namespace NetPack

/-- A topology other than a fat-tree gets no answer, which is `None`. -/
def isSwitchInSubTopologyZone (topoType : TopoType) {podNum : Nat}
    (I : PodInterval podNum) (switchID : Nat) : Option Bool :=
  match topoType with
  | .fatTree =>
      let minCoreSwitchIdx := I.minPodIdx * coreSwitchPerPod podNum
      let maxCoreSwitchIdx :=
        lastIdx minCoreSwitchIdx (coreSwitchPerPod podNum * I.podNumInSubZone)
      let minAggSwitchIdx := coreSwitchNum podNum + I.minPodIdx * podNum / 2
      let maxAggSwitchIdx :=
        lastIdx minAggSwitchIdx (podNum / 2 * I.podNumInSubZone)
      let minTorSwitchIdx :=
        coreSwitchNum podNum + aggSwitchNum podNum + I.minPodIdx * podNum / 2
      let maxTorSwitchIdx :=
        lastIdx minTorSwitchIdx (podNum / 2 * I.podNumInSubZone)
      some (decide (
        (minCoreSwitchIdx ≤ switchID ∧ switchID ≤ maxCoreSwitchIdx) ∨
        (minAggSwitchIdx ≤ switchID ∧ switchID ≤ maxAggSwitchIdx) ∨
        (minTorSwitchIdx ≤ switchID ∧ switchID ≤ maxTorSwitchIdx)))
  | _ => none

end NetPack

/-! ## The switches of a sub-zone -/

namespace PodInterval

variable {h : Nat}

theorem coreSwitchNum_two_mul (h : Nat) : coreSwitchNum (2 * h) = h * h := by
  rw [coreSwitchNum, Nat.mul_div_cancel_left h Nat.two_pos, pow_two]

theorem aggSwitchNum_two_mul (h : Nat) :
    aggSwitchNum (2 * h) = 2 * (h * h) := by
  have hmul : 2 * h * (2 * h) = 2 * (2 * (h * h)) := by ring
  rw [aggSwitchNum, hmul, Nat.mul_div_cancel_left _ Nat.two_pos]

theorem coreSwitchPerPod_two_mul (h : Nat) :
    coreSwitchPerPod (2 * h) = h / 2 := by
  obtain rfl | hpos := Nat.eq_zero_or_pos h
  · rfl
  · rw [coreSwitchPerPod, coreSwitchNum_two_mul, Nat.mul_div_mul_right h 2 hpos]

/-- The pods of the interval have the switch in the layer of switches that
starts at the index `first`. -/
def OwnsInLayer (I : PodInterval (2 * h)) (first switchID : Nat) : Prop :=
  first + I.minPodIdx * h ≤ switchID ∧
    switchID < first + (I.maxPodIdx + 1) * h

/-- The pods of the interval have the switch among their aggregation switches or
their ToR switches. -/
def OwnsPodSwitch (I : PodInterval (2 * h)) (switchID : Nat) : Prop :=
  I.OwnsInLayer (h * h) switchID ∨ I.OwnsInLayer (h * h + 2 * (h * h)) switchID

def StridesCore (I : PodInterval (2 * h)) (switchID : Nat) : Prop :=
  switchID < h * h ∧
    ∃ i, switchID = I.minPodIdx + 2 * h / I.podNumInSubZone * i

def SharesCore (I : PodInterval (2 * h)) (switchID : Nat) : Prop :=
  I.minPodIdx * (h / 2) ≤ switchID ∧ switchID < (I.maxPodIdx + 1) * (h / 2)

theorem zoneNum_pos (I : PodInterval (2 * h)) :
    0 < 2 * h / I.podNumInSubZone :=
  Nat.div_pos I.podNumInSubZone_le I.podNumInSubZone_pos

/-- The range of the switches from `first` on that are given to the interval, at
`n` for each pod, as the code writes it. -/
theorem mem_range_iff (I : PodInterval (2 * h)) (first n switchID : Nat) :
    (first + I.minPodIdx * n ≤ switchID ∧
        (switchID : Int) ≤
          lastIdx (first + I.minPodIdx * n) (n * I.podNumInSubZone)) ↔
      first + I.minPodIdx * n ≤ switchID ∧
        switchID < first + (I.maxPodIdx + 1) * n := by
  have hend : first + I.minPodIdx * n + n * I.podNumInSubZone =
      first + (I.maxPodIdx + 1) * n := by
    rw [← I.minPodIdx_add_podNumInSubZone]
    ring
  rw [le_lastIdx_iff, hend]

theorem minPodIdx_mul_podNum_div (I : PodInterval (2 * h)) :
    I.minPodIdx * (2 * h) / 2 = I.minPodIdx * h := by
  rw [Nat.mul_left_comm, Nat.mul_div_cancel_left _ Nat.two_pos]

theorem orchestrator_eq_ok_true_iff (I : PodInterval (2 * h)) (switchID : Nat) :
    Orchestrator.isSwitchInSubTopologyZone .fatTree I switchID = .ok true ↔
      I.StridesCore switchID ∨ I.OwnsPodSwitch switchID := by
  have hcore : switchID ∈ pyRange I.minPodIdx (h * h)
      (2 * h / I.podNumInSubZone) ↔ _ := mem_pyRange I.zoneNum_pos
  have hagg := I.mem_range_iff (h * h) h switchID
  have htor := I.mem_range_iff (h * h + 2 * (h * h)) h switchID
  simp only [Orchestrator.isSwitchInSubTopologyZone,
    Orchestrator.prepareSubZoneSwitchesIdxInfo, coreSwitchNum_two_mul,
    aggSwitchNum_two_mul, minPodIdx_mul_podNum_div,
    Nat.mul_div_cancel_left h Nat.two_pos, Except.ok.injEq,
    decide_eq_true_eq]
  rw [hcore, hagg, htor]
  rfl

theorem netPack_eq_some_true_iff (I : PodInterval (2 * h)) (switchID : Nat) :
    NetPack.isSwitchInSubTopologyZone .fatTree I switchID = some true ↔
      I.SharesCore switchID ∨ I.OwnsPodSwitch switchID := by
  have hcore := I.mem_range_iff 0 (h / 2) switchID
  have hagg := I.mem_range_iff (h * h) h switchID
  have htor := I.mem_range_iff (h * h + 2 * (h * h)) h switchID
  simp only [Nat.zero_add] at hcore
  simp only [NetPack.isSwitchInSubTopologyZone, coreSwitchNum_two_mul,
    aggSwitchNum_two_mul, coreSwitchPerPod_two_mul, minPodIdx_mul_podNum_div,
    Nat.mul_div_cancel_left h Nat.two_pos, Option.some.injEq,
    decide_eq_true_eq]
  rw [hcore, hagg, htor]
  rfl

theorem OwnsPodSwitch.le {I : PodInterval (2 * h)} {switchID : Nat}
    (hI : I.OwnsPodSwitch switchID) : h * h ≤ switchID := by
  obtain ⟨hlow, -⟩ | ⟨hlow, -⟩ := hI
  · exact (Nat.le_add_right _ _).trans hlow
  · rw [Nat.add_assoc] at hlow
    exact (Nat.le_add_right _ _).trans hlow

theorem two_mul_half_le (h : Nat) : 2 * h * (h / 2) ≤ h * h := by
  have hhalf := Nat.div_mul_le_self h 2
  calc 2 * h * (h / 2) = h * (h / 2 * 2) := by ring
    _ ≤ h * h := Nat.mul_le_mul_left h hhalf

theorem SharesCore.lt {I : PodInterval (2 * h)} {switchID : Nat}
    (hI : I.SharesCore switchID) : switchID < h * h := by
  have hshare := Nat.mul_le_mul_right (h / 2) (Nat.succ_le_of_lt I.lt)
  exact hI.2.trans_le (hshare.trans (two_mul_half_le h))

/-! ## Where the two agree -/

def AnswersAgree {podNum : Nat} (I : PodInterval podNum) (switchID : Nat) :
    Prop :=
  (Orchestrator.isSwitchInSubTopologyZone .fatTree I switchID).toOption =
    NetPack.isSwitchInSubTopologyZone .fatTree I switchID

theorem answersAgree_iff (I : PodInterval (2 * h)) (switchID : Nat) :
    I.AnswersAgree switchID ↔ (I.StridesCore switchID ↔ I.SharesCore switchID) := by
  have horch := I.orchestrator_eq_ok_true_iff switchID
  have hnetPack := I.netPack_eq_some_true_iff switchID
  have hanswers : I.AnswersAgree switchID ↔
      (Orchestrator.isSwitchInSubTopologyZone .fatTree I switchID = .ok true ↔
        NetPack.isSwitchInSubTopologyZone .fatTree I switchID = some true) := by
    simp only [AnswersAgree, Orchestrator.isSwitchInSubTopologyZone,
      NetPack.isSwitchInSubTopologyZone, Except.toOption, Except.ok.injEq,
      Option.some.injEq, decide_eq_true_eq, decide_eq_decide]
  rw [hanswers, horch, hnetPack]
  by_cases hpod : I.OwnsPodSwitch switchID
  · have hle := hpod.le
    have hstride : ¬ I.StridesCore switchID := fun hcore =>
      absurd hcore.1 (Nat.not_lt_of_le hle)
    have hshare : ¬ I.SharesCore switchID := fun hcore =>
      absurd hcore.lt (Nat.not_lt_of_le hle)
    simp only [hpod, hstride, hshare, or_true]
  · simp only [hpod, or_false]

theorem stridesCore_minPodIdx (I : PodInterval (2 * h)) (hh : 2 ≤ h) :
    I.StridesCore I.minPodIdx := by
  have hsquare := Nat.mul_le_mul_right h hh
  exact ⟨(I.le.trans_lt I.lt).trans_le hsquare, 0, rfl⟩

/-- With two core switches for each pod or more, agreement on the first core
switch of the interval leaves only an interval that starts at the first pod, and
agreement on the switch after it leaves only a stride of one. -/
theorem agree_of_two_le_share (I : PodInterval (2 * h)) (hshare : 2 ≤ h / 2)
    (hagree : ∀ switchID, I.StridesCore switchID ↔ I.SharesCore switchID) :
    I.minPodIdx = 0 ∧ 2 * h / I.podNumInSubZone = 1 := by
  have hh : 4 ≤ h := by omega
  have hpods := I.minPodIdx_add_podNumInSubZone
  have hpos := I.podNumInSubZone_pos
  have hzero : I.minPodIdx = 0 := by
    have hfirst := (hagree _).mp (I.stridesCore_minPodIdx (by omega))
    have hle := (Nat.mul_le_mul_left I.minPodIdx hshare).trans hfirst.1
    omega
  have hone : I.SharesCore 1 := by
    have hle : 1 * 2 ≤ (I.maxPodIdx + 1) * (h / 2) :=
      Nat.mul_le_mul (Nat.le_add_left 1 I.maxPodIdx) hshare
    refine ⟨?_, by omega⟩
    rw [hzero]
    omega
  obtain ⟨-, i, hi⟩ := (hagree 1).mpr hone
  rw [hzero, Nat.zero_add] at hi
  exact ⟨hzero, Nat.dvd_one.mp ⟨i, hi⟩⟩

theorem agree_iff_of_stride_one (I : PodInterval (2 * h)) (hh : 0 < h)
    (hzero : I.minPodIdx = 0) (hstride : 2 * h / I.podNumInSubZone = 1) :
    (∀ switchID, I.StridesCore switchID ↔ I.SharesCore switchID) ↔
      2 ∣ h ∧ I.maxPodIdx + 1 = 2 * h := by
  have hall (switchID : Nat) : I.StridesCore switchID ↔ switchID < h * h := by
    rw [StridesCore, hzero, hstride]
    exact and_iff_left ⟨switchID, by omega⟩
  have hshare (switchID : Nat) :
      I.SharesCore switchID ↔ switchID < (I.maxPodIdx + 1) * (h / 2) := by
    rw [SharesCore, hzero, Nat.zero_mul]
    exact and_iff_right (Nat.zero_le _)
  have hsquare : 0 < h * h := Nat.mul_pos hh hh
  simp only [hall, hshare]
  constructor
  · intro hagree
    have hle : h * h ≤ (I.maxPodIdx + 1) * (h / 2) := by
      have hlast := (hagree (h * h - 1)).mp (by omega)
      omega
    have hpods : (I.maxPodIdx + 1) * (h / 2) ≤ 2 * h * (h / 2) :=
      Nat.mul_le_mul_right _ (Nat.succ_le_of_lt I.lt)
    have hcut : 2 * h * (h / 2) = h * (h / 2 * 2) := by ring
    have heven : h / 2 * 2 = h := by
      apply le_antisymm (Nat.div_mul_le_self h 2)
      apply Nat.le_of_mul_le_mul_left _ hh
      omega
    refine ⟨⟨h / 2, by omega⟩, le_antisymm (Nat.succ_le_of_lt I.lt) ?_⟩
    have hhalf : 0 < h / 2 := by omega
    apply Nat.le_of_mul_le_mul_right _ hhalf
    rw [hcut, heven]
    exact hle
  · rintro ⟨⟨m, rfl⟩, hpods⟩ switchID
    have hsize : 2 * (2 * m) * m = 2 * m * (2 * m) := by ring
    rw [hpods, Nat.mul_div_cancel_left m Nat.two_pos, hsize]

/-- With one core switch for each pod, the stride must pass over the core
switches of the other pods: a single pod strides beyond the last core switch,
and several pods own all core switches from their first one on. -/
theorem agree_iff_of_share_one (I : PodInterval (2 * h)) (hshare : h / 2 = 1) :
    (∀ switchID, I.StridesCore switchID ↔ I.SharesCore switchID) ↔
      (I.maxPodIdx = I.minPodIdx ∧ h * h ≤ I.minPodIdx + 2 * h) ∨
        (I.minPodIdx < I.maxPodIdx ∧ 2 * h / I.podNumInSubZone = 1 ∧
          I.maxPodIdx + 1 = h * h) := by
  have hle := I.le
  have hpods := I.minPodIdx_add_podNumInSubZone
  have hshared (switchID : Nat) :
      I.SharesCore switchID ↔
        I.minPodIdx ≤ switchID ∧ switchID ≤ I.maxPodIdx := by
    rw [SharesCore, hshare, Nat.mul_one, Nat.mul_one, Nat.lt_succ_iff]
  have hfirst := I.stridesCore_minPodIdx (by omega)
  constructor
  · intro hagree
    obtain heq | hlt := hle.eq_or_lt
    · refine Or.inl ⟨heq.symm, Nat.le_of_not_lt fun hlt => ?_⟩
      have hone : I.podNumInSubZone = 1 := by omega
      have hnext : I.StridesCore (I.minPodIdx + 2 * h) :=
        ⟨hlt, 1, by rw [hone, Nat.div_one, Nat.mul_one]⟩
      have hin := (hshared _).mp ((hagree _).mp hnext)
      omega
    · have hnext := (hagree (I.minPodIdx + 1)).mpr
        ((hshared _).mpr ⟨Nat.le_succ _, hlt⟩)
      obtain ⟨-, i, hi⟩ := hnext
      have hstride : 2 * h / I.podNumInSubZone = 1 :=
        Nat.dvd_one.mp ⟨i, by omega⟩
      have hmax := (hagree I.maxPodIdx).mpr ((hshared _).mpr ⟨hle, le_rfl⟩)
      have hlast : I.StridesCore (h * h - 1) := by
        have hmin := hfirst.1
        refine ⟨by omega, h * h - 1 - I.minPodIdx, ?_⟩
        rw [hstride]
        omega
      have hin := (hshared _).mp ((hagree _).mp hlast)
      have hcore := hmax.1
      exact Or.inr ⟨hlt, hstride, by omega⟩
  · rintro (⟨heq, hbeyond⟩ | ⟨-, hstride, hlast⟩) switchID
    · have hone : I.podNumInSubZone = 1 := by omega
      rw [hshared, StridesCore, hone, Nat.div_one, heq]
      constructor
      · rintro ⟨hcore, i, rfl⟩
        have hzero : i = 0 := by
          by_contra hne
          have hmul := Nat.le_mul_of_pos_right (2 * h) (Nat.pos_of_ne_zero hne)
          omega
        subst hzero
        exact ⟨le_rfl, le_rfl⟩
      · rintro ⟨hlow, hhigh⟩
        obtain rfl := le_antisymm hhigh hlow
        exact ⟨hfirst.1, 0, rfl⟩
    · rw [hshared, StridesCore, hstride]
      constructor
      · rintro ⟨hcore, i, rfl⟩
        omega
      · rintro ⟨hlow, hhigh⟩
        exact ⟨by omega, switchID - I.minPodIdx, by omega⟩

theorem agree_iff_of_share_zero (I : PodInterval (2 * 1)) :
    (∀ switchID, I.StridesCore switchID ↔ I.SharesCore switchID) ↔
      I.minPodIdx = 1 := by
  have hlt := I.lt
  have hle := I.le
  have hempty (switchID : Nat) : ¬ I.SharesCore switchID := fun hshare =>
    Nat.not_lt_zero _ hshare.2
  simp only [hempty, iff_false]
  constructor
  · intro hnone
    have hzero : I.minPodIdx ≠ 0 := fun hzero =>
      hnone 0 ⟨Nat.one_pos, 0, hzero.symm⟩
    omega
  · rintro hone switchID ⟨hcore, i, hi⟩
    omega

theorem agree_iff (I : PodInterval (2 * h)) :
    (∀ switchID, I.StridesCore switchID ↔ I.SharesCore switchID) ↔
      (h = 1 ∧ I.minPodIdx = 1) ∨
      (h = 2 ∧ (I.minPodIdx = I.maxPodIdx ∨
        (I.maxPodIdx = 3 ∧ I.minPodIdx ≤ 1))) ∨
      (h = 3 ∧ I.minPodIdx = I.maxPodIdx ∧ 3 ≤ I.minPodIdx) ∨
      (2 ∣ h ∧ I.minPodIdx = 0 ∧ I.maxPodIdx + 1 = 2 * h) := by
  have hpos := I.podNum_pos
  have hlt := I.lt
  have hle := I.le
  have hpods := I.minPodIdx_add_podNumInSubZone
  have hcases : h = 1 ∨ h = 2 ∨ h = 3 ∨ 2 ≤ h / 2 := by omega
  obtain rfl | rfl | rfl | hshare := hcases
  · rw [agree_iff_of_share_zero]
    omega
  · rw [agree_iff_of_share_one I rfl]
    have hdiv : 2 * 2 / I.podNumInSubZone = 1 ↔ 2 < I.podNumInSubZone := by
      rw [Nat.div_eq_iff I.podNumInSubZone_pos]
      omega
    rw [hdiv]
    constructor
    · rintro (⟨heq, -⟩ | ⟨-, hnum, hlast⟩)
      · exact Or.inr (Or.inl ⟨rfl, Or.inl heq.symm⟩)
      · exact Or.inr (Or.inl ⟨rfl, Or.inr ⟨by omega, by omega⟩⟩)
    · rintro (⟨hne, -⟩ | ⟨-, heq | ⟨hmax, hmin⟩⟩ | ⟨hne, -⟩ | ⟨-, hmin, hmax⟩)
      · cases hne
      · exact Or.inl ⟨heq.symm, Nat.le_add_left _ _⟩
      · exact Or.inr ⟨by omega, by omega, by omega⟩
      · cases hne
      · exact Or.inr ⟨by omega, by omega, hmax⟩
  · rw [agree_iff_of_share_one I rfl]
    constructor
    · rintro (⟨heq, hbeyond⟩ | ⟨-, -, hlast⟩)
      · exact Or.inr (Or.inr (Or.inl ⟨rfl, heq.symm, by omega⟩))
      · omega
    · rintro (⟨hne, -⟩ | ⟨hne, -⟩ | ⟨-, heq, hmin⟩ | ⟨hodd, -⟩)
      · cases hne
      · cases hne
      · exact Or.inl ⟨heq.symm, by omega⟩
      · omega
  · constructor
    · intro hagree
      obtain ⟨hzero, hstride⟩ := I.agree_of_two_le_share hshare hagree
      obtain ⟨heven, hall⟩ :=
        (I.agree_iff_of_stride_one (by omega) hzero hstride).mp hagree
      exact Or.inr (Or.inr (Or.inr ⟨heven, hzero, hall⟩))
    · rintro (⟨rfl, -⟩ | ⟨rfl, -⟩ | ⟨rfl, -⟩ | ⟨heven, hzero, hmax⟩)
      · cases hshare
      · omega
      · omega
      have hnum : I.podNumInSubZone = 2 * h := by omega
      have hstride : 2 * h / I.podNumInSubZone = 1 := by
        rw [hnum, Nat.div_self (by omega)]
      exact (I.agree_iff_of_stride_one (by omega) hzero hstride).mpr
        ⟨heven, hmax⟩

/-- For a fat-tree, the Orchestrator and NetPack put the same switches into the
sub-zone of a pod interval exactly when there is no share and the interval
leaves out the first pod, when the few core switches make the stride and the
share meet, or when the interval is all pods and no share is rounded down. -/
theorem answersAgree_forall_iff {podNum : Nat} (heven : Even podNum)
    (I : PodInterval podNum) :
    (∀ switchID,
        (Orchestrator.isSwitchInSubTopologyZone .fatTree I switchID).toOption =
          NetPack.isSwitchInSubTopologyZone .fatTree I switchID) ↔
      (podNum = 2 ∧ I.minPodIdx = 1) ∨
      (podNum = 4 ∧ (I.minPodIdx = I.maxPodIdx ∨
        (I.maxPodIdx = 3 ∧ I.minPodIdx ≤ 1))) ∨
      (podNum = 6 ∧ I.minPodIdx = I.maxPodIdx ∧ 3 ≤ I.minPodIdx) ∨
      (4 ∣ podNum ∧ I.minPodIdx = 0 ∧ I.maxPodIdx + 1 = podNum) := by
  obtain ⟨h, rfl⟩ := heven.two_dvd
  have hanswers := forall_congr' I.answersAgree_iff
  simp only [AnswersAgree] at hanswers
  have htwo : 2 * h = 2 ↔ h = 1 := by omega
  have hfour : 2 * h = 4 ↔ h = 2 := by omega
  have hsix : 2 * h = 6 ↔ h = 3 := by omega
  have hdvd : 4 ∣ 2 * h ↔ 2 ∣ h := by omega
  rw [hanswers, agree_iff, htwo, hfour, hsix, hdvd]

def middlePods : PodInterval 8 := ⟨2, 3, by decide, by decide⟩

def allPods : PodInterval 8 := ⟨0, 7, by decide, by decide⟩

theorem answersAgree_forall_iff_allPods :
    Even 8 ∧
      ((∀ switchID,
          (Orchestrator.isSwitchInSubTopologyZone .fatTree allPods
            switchID).toOption =
            NetPack.isSwitchInSubTopologyZone .fatTree allPods switchID) ↔
        (8 = 2 ∧ allPods.minPodIdx = 1) ∨
        (8 = 4 ∧ (allPods.minPodIdx = allPods.maxPodIdx ∨
          (allPods.maxPodIdx = 3 ∧ allPods.minPodIdx ≤ 1))) ∨
        (8 = 6 ∧ allPods.minPodIdx = allPods.maxPodIdx ∧
          3 ≤ allPods.minPodIdx) ∨
        (4 ∣ 8 ∧ allPods.minPodIdx = 0 ∧ allPods.maxPodIdx + 1 = 8)) :=
  ⟨by decide, answersAgree_forall_iff (by decide) allPods⟩

/-- The core switch 2 is the first of the interval's stride, and the core
switches from 4 to 7 are its share. -/
theorem answers_differ_middlePods :
    ¬ ∀ switchID,
      (Orchestrator.isSwitchInSubTopologyZone .fatTree middlePods
        switchID).toOption =
        NetPack.isSwitchInSubTopologyZone .fatTree middlePods switchID := by
  intro hagree
  have horch : Orchestrator.isSwitchInSubTopologyZone .fatTree middlePods 2 =
      .ok true := rfl
  have hnetPack : NetPack.isSwitchInSubTopologyZone .fatTree middlePods 2 =
      some false := rfl
  have htwo := hagree 2
  rw [horch, hnetPack] at htwo
  cases htwo

end PodInterval

end SelfAdaptiveMano

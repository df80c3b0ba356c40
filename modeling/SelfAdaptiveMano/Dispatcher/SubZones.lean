import SelfAdaptiveMano.Dispatcher.PodIntervals

/-!
# The sub-zones of the orchestrators

Together the orchestrators of a zone should be in charge of each switch of the
fat-tree, and no two of them of the same one. For the switches of the pods this
holds for every number of orchestrators, since the pod intervals are consecutive
shares. The stride with which an orchestrator picks its core switches comes from
the size of its own interval, and its first core switch from the interval's
first pod, so that the core switches are given out once each only when there is
one orchestrator, or one for each pod.
-/

namespace SelfAdaptiveMano

open Library

namespace OrchestratorManager

def torSwitchNum (podNum : Nat) : Nat := podNum ^ 2 / 2

/-- The orchestrator at the index `i` has the switch in its sub-zone. -/
def InSubZone {podNum : Nat} (l : List (OrchInfo podNum)) (i switchID : Nat) :
    Prop :=
  ∃ o, l[i]? = some o ∧
    Orchestrator.isSwitchInSubTopologyZone .fatTree o.interval switchID =
      .ok true

def Partition {podNum : Nat} (l : List (OrchInfo podNum)) : Prop :=
  ∀ switchID < coreSwitchNum podNum + aggSwitchNum podNum + torSwitchNum podNum,
    ∃! i, InSubZone l i switchID

section PodSwitches

variable {zoneName : String} {h n first switchID : Nat}
  {l : List (OrchInfo (2 * h))}

theorem torSwitchNum_two_mul (h : Nat) :
    torSwitchNum (2 * h) = 2 * (h * h) := by
  have hmul : (2 * h) ^ 2 = 2 * (2 * (h * h)) := by ring
  rw [torSwitchNum, hmul, Nat.mul_div_cancel_left _ Nat.two_pos]

theorem ownsInLayer_iff {i : Nat} {o : OrchInfo (2 * h)} (hh : 0 < h)
    (hl : computeOrchInstanceInfoList zoneName (2 * h) n = .ok l)
    (ho : l[i]? = some o) (hfirst : first ≤ switchID) :
    o.interval.OwnsInLayer first switchID ↔
      Shares.Owns ((List.range n).map (part (2 * h) n)) i
        ((switchID - first) / h) := by
  obtain ⟨-, hmin, hmax⟩ := infoList_getElem? hl ho
  rw [PodInterval.OwnsInLayer, Shares.Owns, hmin, hmax, firstPod, firstPod,
    Nat.le_div_iff_mul_le hh, Nat.div_lt_iff_lt_mul hh]
  omega

theorem existsUnique_ownsInLayer (hn : 0 < n) (hh : 0 < h)
    (hl : computeOrchInstanceInfoList zoneName (2 * h) n = .ok l)
    (hfirst : first ≤ switchID) (hlt : switchID < first + 2 * (h * h)) :
    ∃! i : Nat, ∃ o : OrchInfo (2 * h),
      l[i]? = some o ∧ o.interval.OwnsInLayer first switchID := by
  have hpod : (switchID - first) / h < 2 * h := by
    rw [Nat.div_lt_iff_lt_mul hh, Nat.mul_assoc]
    omega
  rw [← sum_parts (x := 2 * h) hn] at hpod
  obtain ⟨i, hi, howns⟩ := Shares.exists_owns hpod
  have hilt : i < l.length := by
    rw [infoList_length hl]
    simpa using hi
  refine ⟨i, ⟨l[i], List.getElem?_eq_getElem hilt, ?_⟩, ?_⟩
  · exact (ownsInLayer_iff hh hl (List.getElem?_eq_getElem hilt) hfirst).mpr
      howns
  · rintro j ⟨o, ho, hj⟩
    exact ((ownsInLayer_iff hh hl ho hfirst).mp hj).unique howns

theorem existsUnique_inSubZone_pod (hn : 0 < n) (hh : 0 < h)
    (hl : computeOrchInstanceInfoList zoneName (2 * h) n = .ok l)
    (hcore : h * h ≤ switchID) (hlt : switchID < h * h + 4 * (h * h)) :
    ∃! i, InSubZone l i switchID := by
  have hlayer : ∃ first, h * h ≤ first ∧ first ≤ switchID ∧
      switchID < first + 2 * (h * h) ∧
      ∀ I : PodInterval (2 * h),
        Orchestrator.isSwitchInSubTopologyZone .fatTree I switchID = .ok true ↔
          I.OwnsInLayer first switchID := by
    have hnocore (I : PodInterval (2 * h)) : ¬ I.StridesCore switchID :=
      fun hI => absurd hI.1 (Nat.not_lt_of_le hcore)
    have hwidth (I : PodInterval (2 * h)) :
        (I.maxPodIdx + 1) * h ≤ 2 * (h * h) := by
      rw [← Nat.mul_assoc]
      exact Nat.mul_le_mul_right h (Nat.succ_le_of_lt I.lt)
    by_cases hagg : switchID < h * h + 2 * (h * h)
    · refine ⟨h * h, le_rfl, hcore, hagg, fun I => ?_⟩
      have htor : ¬ I.OwnsInLayer (h * h + 2 * (h * h)) switchID := fun hI =>
        absurd ((Nat.le_add_right _ _).trans hI.1) (Nat.not_le_of_lt hagg)
      rw [I.orchestrator_eq_ok_true_iff, PodInterval.OwnsPodSwitch]
      simp only [hnocore I, htor, false_or, or_false]
    · refine ⟨h * h + 2 * (h * h), by omega, by omega, by omega, fun I => ?_⟩
      have hlow : ¬ I.OwnsInLayer (h * h) switchID := fun hI => by
        have hhigh := hI.2
        have hI := hwidth I
        omega
      rw [I.orchestrator_eq_ok_true_iff, PodInterval.OwnsPodSwitch]
      simp only [hnocore I, hlow, false_or]
  obtain ⟨first, -, hfirst, hend, hiff⟩ := hlayer
  have hunique := existsUnique_ownsInLayer hn hh hl hfirst hend
  simp only [InSubZone, hiff]
  exact hunique

end PodSwitches

/-! ## The core switches -/

section CoreSwitches

variable {zoneName : String} {h n i switchID : Nat}
  {l : List (OrchInfo (2 * h))} {o : OrchInfo (2 * h)}

theorem inSubZone_core_iff (hcore : switchID < h * h) :
    InSubZone l i switchID ↔
      ∃ o : OrchInfo (2 * h),
        l[i]? = some o ∧ o.interval.StridesCore switchID := by
  have hpod (I : PodInterval (2 * h)) : ¬ I.OwnsPodSwitch switchID := fun hI =>
    absurd hI.le (Nat.not_le_of_lt hcore)
  simp only [InSubZone, PodInterval.orchestrator_eq_ok_true_iff, hpod, or_false]

theorem existsUnique_inSubZone_one (hcore : switchID < h * h)
    (hl : computeOrchInstanceInfoList zoneName (2 * h) 1 = .ok l) :
    ∃! i, InSubZone l i switchID := by
  have hlen := infoList_length hl
  have hzero : 0 < l.length := by omega
  have ho := List.getElem?_eq_getElem hzero
  obtain ⟨-, hmin, hmax⟩ := infoList_getElem? hl ho
  have hpods := l[0].interval.minPodIdx_add_podNumInSubZone
  rw [hmax, hmin, firstPod_eq le_rfl, firstPod_eq (Nat.zero_le 1)] at hpods
  have hnum : l[0].interval.podNumInSubZone = 2 * h := by
    simpa [Nat.mod_one] using hpods
  have hstride : l[0].interval.StridesCore switchID := by
    have hdiv : 2 * h / (2 * h) = 1 :=
      Nat.div_self l[0].interval.podNum_pos
    refine ⟨hcore, switchID, ?_⟩
    rw [hmin, hnum, hdiv, firstPod, Shares.start_zero]
    omega
  refine ⟨0, (inSubZone_core_iff hcore).mpr ⟨l[0], ho, hstride⟩, ?_⟩
  rintro j ⟨o, ho, -⟩
  obtain ⟨hj, -⟩ := infoList_getElem? hl ho
  exact Nat.lt_one_iff.mp hj

/-- With an orchestrator for each pod, a core switch belongs to the pod that is
congruent to its index. -/
theorem existsUnique_inSubZone_all (hh : 0 < h) (hcore : switchID < h * h)
    (hl : computeOrchInstanceInfoList zoneName (2 * h) (2 * h) = .ok l) :
    ∃! i, InSubZone l i switchID := by
  have hpos : 0 < 2 * h := Nat.mul_pos Nat.two_pos hh
  have hfirst {i : Nat} (hi : i ≤ 2 * h) : firstPod (2 * h) (2 * h) i = i := by
    rw [firstPod_eq hi, Nat.div_self hpos, Nat.mod_self]
    omega
  have hstride {i : Nat} {o : OrchInfo (2 * h)} (ho : l[i]? = some o) :
      i < 2 * h ∧ (o.interval.StridesCore switchID ↔
        ∃ j, switchID = i + 2 * h * j) := by
    obtain ⟨hi, hmin, hmax⟩ := infoList_getElem? hl ho
    rw [hfirst hi] at hmax
    rw [hfirst hi.le] at hmin
    have hpods := o.interval.minPodIdx_add_podNumInSubZone
    have hone : o.interval.podNumInSubZone = 1 := by omega
    rw [PodInterval.StridesCore, hone, Nat.div_one, hmin]
    exact ⟨hi, and_iff_right hcore⟩
  have hlt : switchID % (2 * h) < l.length := by
    rw [infoList_length hl]
    exact Nat.mod_lt _ hpos
  have ho := List.getElem?_eq_getElem hlt
  refine ⟨switchID % (2 * h), ?_, ?_⟩
  · refine (inSubZone_core_iff hcore).mpr ⟨_, ho, (hstride ho).2.mpr ?_⟩
    exact ⟨switchID / (2 * h), (Nat.mod_add_div _ _).symm⟩
  · intro j hj
    obtain ⟨o, ho, howns⟩ := (inSubZone_core_iff hcore).mp hj
    obtain ⟨hjlt, hiff⟩ := hstride ho
    obtain ⟨k, rfl⟩ := hiff.mp howns
    rw [Nat.add_mul_mod_self_left, Nat.mod_eq_of_lt hjlt]

/-- With two pods or more for each of several orchestrators, no orchestrator has
the core switch 1: it is before the first pod of all but the first of them, and
the first one strides over it. -/
theorem not_inSubZone_one (hn : 1 < n) (hq : 2 ≤ 2 * h / n) (hcore : 1 < h * h)
    (hl : computeOrchInstanceInfoList zoneName (2 * h) n = .ok l) :
    ¬ InSubZone l i 1 := by
  intro hin
  obtain ⟨o, ho, -, k, hk⟩ := (inSubZone_core_iff hcore).mp hin
  obtain ⟨hi, hmin, hmax⟩ := infoList_getElem? hl ho
  rw [firstPod_eq hi] at hmax
  rw [firstPod_eq hi.le] at hmin
  have hpods := o.interval.minPodIdx_add_podNumInSubZone
  have hmod := Nat.mod_lt (2 * h) (Nat.zero_lt_of_lt hn)
  obtain rfl | hpos := Nat.eq_zero_or_pos i
  · have hzero : o.interval.minPodIdx = 0 := by simpa using hmin
    have hnum : o.interval.podNumInSubZone = 2 * h / n := by omega
    have hzones : 2 ≤ 2 * h / o.interval.podNumInSubZone := by
      rw [hnum, Nat.le_div_iff_mul_le (by omega), Nat.mul_comm]
      have hle := (Nat.mul_le_mul_left (2 * h / n) (Nat.succ_le_of_lt hn)).trans
        (Nat.div_mul_le_self (2 * h) n)
      exact hle
    rw [hzero, Nat.zero_add] at hk
    have hone := Nat.dvd_one.mp ⟨k, hk⟩
    omega
  · have hle := Nat.mul_le_mul hpos hq
    omega

/-- When some orchestrators have two pods and the others one, no orchestrator has
the core switch behind the first pod of the first that has two: those with one
pod stride by all pods, and those with two by half of them. -/
theorem not_inSubZone_of_uneven (hlt : n < 2 * h) (hq : 2 * h / n = 1)
    (hh : 2 ≤ h) (hcore : n - 2 * h % n + 1 < h * h)
    (hl : computeOrchInstanceInfoList zoneName (2 * h) n = .ok l) :
    ¬ InSubZone l i (n - 2 * h % n + 1) := by
  intro hin
  obtain ⟨o, ho, -, k, hk⟩ := (inSubZone_core_iff hcore).mp hin
  obtain ⟨hi, hmin, hmax⟩ := infoList_getElem? hl ho
  rw [firstPod_eq hi, hq, Nat.mul_one] at hmax
  rw [firstPod_eq hi.le, hq, Nat.mul_one] at hmin
  have hpods := o.interval.minPodIdx_add_podNumInSubZone
  have hdiv := Nat.div_add_mod (2 * h) n
  rw [hq, Nat.mul_one] at hdiv
  by_cases hone : i < n - 2 * h % n
  · have hnum : o.interval.podNumInSubZone = 1 := by omega
    rw [hnum, Nat.div_one] at hk
    obtain rfl | hpos := Nat.eq_zero_or_pos k
    · omega
    · have hle := Nat.le_mul_of_pos_right (2 * h) hpos
      omega
  · have hnum : o.interval.podNumInSubZone = 2 := by omega
    rw [hnum, Nat.mul_div_cancel_left h Nat.two_pos] at hk
    obtain rfl | hpos := Nat.eq_zero_or_pos k
    · omega
    · have hle := Nat.le_mul_of_pos_right h hpos
      omega

/-- With several orchestrators but not one for each pod, some core switch is in
no sub-zone. -/
theorem exists_not_inSubZone (hn : 1 < n) (hlt : n < 2 * h)
    (hl : computeOrchInstanceInfoList zoneName (2 * h) n = .ok l) :
    ∃ switchID < h * h, ∀ i, ¬ InSubZone l i switchID := by
  have hh : 2 ≤ h := by omega
  have hsquare := Nat.mul_le_mul_right h hh
  have hdiv : 0 < 2 * h / n := Nat.div_pos hlt.le (Nat.zero_lt_of_lt hn)
  by_cases hq : 2 ≤ 2 * h / n
  · exact ⟨1, by omega, fun i => not_inSubZone_one hn hq (by omega) hl⟩
  · have hone : 2 * h / n = 1 := by omega
    have hadd := Nat.div_add_mod (2 * h) n
    rw [hone, Nat.mul_one] at hadd
    have hcore : n - 2 * h % n + 1 < h * h := by omega
    exact ⟨_, hcore, fun i =>
      not_inSubZone_of_uneven hlt hone hh hcore hl⟩

end CoreSwitches

/-- The sub-zones of the orchestrators that the `OrchestratorManager` starts
partition the switches of a fat-tree exactly when there is one orchestrator, or
one for each pod. -/
theorem partition_iff {zoneName : String} {podNum n : Nat}
    (heven : Even podNum) (hn : 1 ≤ n) (hle : n ≤ podNum) :
    (∃ l, computeOrchInstanceInfoList zoneName podNum n = .ok l ∧
        Partition l) ↔
      n = 1 ∨ n = podNum := by
  obtain ⟨h, rfl⟩ := heven.two_dvd
  have hh : 0 < h := by omega
  have hswitches : coreSwitchNum (2 * h) + aggSwitchNum (2 * h) +
      torSwitchNum (2 * h) = h * h + 4 * (h * h) := by
    rw [PodInterval.coreSwitchNum_two_mul, PodInterval.aggSwitchNum_two_mul,
      torSwitchNum_two_mul]
    omega
  constructor
  · rintro ⟨l, hl, hpartition⟩
    by_contra hnot
    obtain ⟨switchID, hcore, hnone⟩ :=
      exists_not_inSubZone (by omega) (by omega) hl
    obtain ⟨i, hi, -⟩ := hpartition switchID (by omega)
    exact hnone i hi
  · intro hcases
    obtain ⟨l, hl⟩ := exists_infoList zoneName hn hle
    refine ⟨l, hl, fun switchID hlt => ?_⟩
    rw [hswitches] at hlt
    by_cases hcore : switchID < h * h
    · obtain rfl | rfl := hcases
      · exact existsUnique_inSubZone_one hcore hl
      · exact existsUnique_inSubZone_all hh hcore hl
    · exact existsUnique_inSubZone_pod hn hh hl (Nat.le_of_not_lt hcore) hlt

/-- An orchestrator for each of the 32 pods of the simulator's fat-tree. -/
theorem partition_iff_simulator :
    Even 32 ∧ 1 ≤ 32 ∧ 32 ≤ 32 ∧
      ((∃ l, computeOrchInstanceInfoList "SIMULATOR_ZONE" 32 32 = .ok l ∧
          Partition l) ↔
        32 = 1 ∨ 32 = 32) :=
  ⟨by decide, by decide, by decide,
    partition_iff (by decide) (by decide) (by decide)⟩

/-- Of two orchestrators of a fat-tree with four pods, neither has the core
switch 1. -/
theorem not_partition_two :
    ¬ ∃ l, computeOrchInstanceInfoList "SIMULATOR_ZONE" 4 2 = .ok l ∧
      Partition l := by
  rintro ⟨l, hl, hpartition⟩
  obtain ⟨i, hi, -⟩ := hpartition 1 (by decide)
  exact not_inSubZone_one (h := 2) (by decide) (by decide) (by decide) hl hi

end OrchestratorManager

end SelfAdaptiveMano

import SelfAdaptiveMano.Mapping.InfoBase
import Mathlib.Data.List.DropRight
import Mathlib.Order.Bounds.Basic

/-!
# How many SFCIs an SFC needs

`computeTargetSFCINum` goes through the chain and keeps the largest numbers of
cores and of memory that a VNF on servers needs. A VNF in a P4 switch needs none,
but sets the numbers kept so far back to zero, so that the result is that of the
VNFs behind the last VNF in a P4 switch.
-/

namespace SelfAdaptiveMano.Regulator

open Library Mapping

/-- The body of the loop of `computeTargetSFCINum`, on `maxExpCPU` and
`maxExpMem`. -/
def expectServerResource (sumSFCITrafficBandwidth : ℚ) (maxExp : ℚ × ℚ)
    (vnfType : Nat) (pDT : DeviceType) : Except PyError (ℚ × ℚ) :=
  match pDT with
  | .p4 => .ok (0, 0)
  | .server => do
      let expected ← PerformanceModel.getExpectedServerResource vnfType
        sumSFCITrafficBandwidth
      return (max maxExp.1 expected.cores, max maxExp.2 expected.memory)
  | .other => .ok maxExp

/-- `computeTargetSFCINum`; `math.ceil` of a quotient by zero raises. -/
def computeTargetSFCINum (sfc : Mapping.SFC) (sumSFCITrafficBandwidth : ℚ) :
    Except PyError ℤ := do
  let maxExp ← sfc.vNFTypeSequence.zipIdx.foldlM (fun maxExp (vnfType, idx) => do
    let vnf ← itemAt sfc.vnfSequence idx
    expectServerResource sumSFCITrafficBandwidth maxExp vnfType
      vnf.preferredDeviceType) ((0, 0) : ℚ × ℚ)
  match sfc.vnfiResourceQuota with
  | none => .error .typeError
  | some quota =>
      if quota.cpu = 0 ∨ quota.mem = 0 then .error .zeroDivisionError
      else .ok (max 1 (max ⌈maxExp.2 / quota.mem⌉ ⌈maxExp.1 / quota.cpu⌉))

/-! ## What is asked of the number -/

abbrev Stage := Nat × DeviceType

def stagesOf (sfc : Mapping.SFC) : List Stage :=
  sfc.vNFTypeSequence.zip (sfc.vnfSequence.map VNF.preferredDeviceType)

/-- The traffic that one instance with the quota takes. That of a VNF in a P4
switch is given by its type, with `none` for one that takes all. -/
def capacity (p4Capacity : Nat → Option ℚ) (quota : ResourceQuota) :
    Stage → Option ℚ
  | (vnfType, .p4) => p4Capacity vnfType
  | (vnfType, _) =>
      match PerformanceModel.getResourceConsumeRatioOfVNF vnfType with
      | .ok (cores, memory) => some (min (quota.cpu / cores) (quota.mem / memory))
      | .error _ => none

def instancesOf (p4Capacity : Nat → Option ℚ) (quota : ResourceQuota)
    (traffic : ℚ) (stage : Stage) : ℤ :=
  match capacity p4Capacity quota stage with
  | some c => ⌈traffic / c⌉
  | none => 0

def behindP4 (stages : List Stage) : List Stage :=
  stages.rtakeWhile fun stage => stage.2 ≠ .p4

def counted (stages : List Stage) : List Stage :=
  (behindP4 stages).filter fun stage => stage.2 = .server

/-- The VNFs that do not count. -/
def dropped (stages : List Stage) : List Stage :=
  stages.rdropWhile (fun stage => stage.2 ≠ .p4) ++
    (behindP4 stages).filter fun stage => stage.2 ≠ .server

theorem mem_iff_counted_or_dropped {stages : List Stage} {stage : Stage} :
    stage ∈ stages ↔ stage ∈ counted stages ∨ stage ∈ dropped stages := by
  conv_lhs => rw [← List.rdropWhile_append_rtakeWhile
    (l := stages) (p := fun stage => stage.2 ≠ .p4)]
  simp only [counted, dropped, behindP4, List.mem_append, List.mem_filter,
    decide_eq_true_eq]
  tauto

/-- An SFC whose VNFs are known and whose instances have a quota of whole cores
and memory. -/
structure Scalable (sfc : Mapping.SFC) (cpu mem : Nat) : Prop where
  quota : sfc.vnfiResourceQuota = some ⟨cpu, mem⟩
  cpu_pos : 0 < cpu
  mem_pos : 0 < mem
  length_le : sfc.vNFTypeSequence.length ≤ sfc.vnfSequence.length
  known : ∀ vnfType ∈ sfc.vNFTypeSequence, vnfType ≤ PerformanceModel.VNF_TYPE_MAX

/-! ## One VNF -/

section Rounding

theorem ceil_ceil_div (x : ℚ) {n : Nat} (hn : 0 < n) :
    ⌈(⌈x⌉ : ℚ) / n⌉ = ⌈x / n⌉ := by
  have hpos : (0 : ℚ) < n := Nat.cast_pos.mpr hn
  apply eq_of_forall_ge_iff
  intro z
  rw [Int.ceil_le, Int.ceil_le, div_le_iff₀ hpos, div_le_iff₀ hpos,
    show (z : ℚ) * n = ((z * n : ℤ) : ℚ) by push_cast; rfl, Int.cast_le,
    Int.ceil_le]

variable {traffic cores memory : ℚ} {cpu mem : Nat}

theorem ceil_div_min_le (hcpu : 0 < cpu) (hmem : 0 < mem) :
    ⌈traffic / min (cpu / cores) (mem / memory)⌉ ≤
      max ⌈(⌈cores * traffic⌉ : ℚ) / cpu⌉ ⌈(⌈memory * traffic⌉ : ℚ) / mem⌉ := by
  rw [ceil_ceil_div _ hcpu, ceil_ceil_div _ hmem]
  have hdiv : ∀ (q : Nat) (r : ℚ), traffic / (q / r) = r * traffic / q := by
    intro q r
    rw [div_div_eq_mul_div, mul_comm]
  obtain h | h := min_choice (cpu / cores : ℚ) (mem / memory)
  · rw [h, hdiv]
    exact le_max_left _ _
  · rw [h, hdiv]
    exact le_max_right _ _

theorem le_ceil_div_min (htraffic : 0 ≤ traffic) (hcores : 0 < cores)
    (hmemory : 0 < memory) (hcpu : 0 < cpu) (hmem : 0 < mem) :
    max ⌈(⌈cores * traffic⌉ : ℚ) / cpu⌉ ⌈(⌈memory * traffic⌉ : ℚ) / mem⌉ ≤
      ⌈traffic / min (cpu / cores) (mem / memory)⌉ := by
  have hmin : 0 < min (cpu / cores : ℚ) (mem / memory) :=
    lt_min (div_pos (Nat.cast_pos.mpr hcpu) hcores)
      (div_pos (Nat.cast_pos.mpr hmem) hmemory)
  have hdiv : ∀ (q : Nat) (r : ℚ), r * traffic / q = traffic / (q / r) := by
    intro q r
    rw [div_div_eq_mul_div, mul_comm]
  rw [ceil_ceil_div _ hcpu, ceil_ceil_div _ hmem, hdiv, hdiv]
  apply max_le
  · exact Int.ceil_mono (div_le_div_of_nonneg_left htraffic hmin (min_le_left _ _))
  · exact Int.ceil_mono (div_le_div_of_nonneg_left htraffic hmin (min_le_right _ _))

end Rounding

/-! ## The loop -/

section Loop

variable {traffic : ℚ} {stages : List Stage}

def expected (traffic : ℚ) (stage : Stage) : Resources :=
  match PerformanceModel.getExpectedServerResource stage.1 traffic with
  | .ok resources => resources
  | .error _ => .zero

theorem ratio_of_known {vnfType : Nat}
    (h : vnfType ≤ PerformanceModel.VNF_TYPE_MAX) :
    ∃ cores, 0 < cores ∧
      PerformanceModel.getResourceConsumeRatioOfVNF vnfType = .ok (cores, 1) := by
  have hlt : vnfType < PerformanceModel.coresPer1GTraffic.length :=
    Nat.lt_succ_of_le h
  have hpos : ∀ cores ∈ PerformanceModel.coresPer1GTraffic, 0 < cores := by
    decide +kernel
  refine ⟨PerformanceModel.coresPer1GTraffic[vnfType],
    hpos _ (List.getElem_mem hlt), ?_⟩
  rw [PerformanceModel.getResourceConsumeRatioOfVNF, List.getElem?_eq_getElem hlt]

theorem getExpectedServerResource_eq {vnfType : Nat} {pDT : DeviceType}
    (h : vnfType ≤ PerformanceModel.VNF_TYPE_MAX) :
    PerformanceModel.getExpectedServerResource vnfType traffic =
      .ok (expected traffic (vnfType, pDT)) := by
  obtain ⟨cores, -, hratio⟩ := ratio_of_known h
  rw [expected, PerformanceModel.getExpectedServerResource, hratio]
  rfl

theorem counted_concat (stages : List Stage) (vnfType : Nat) (pDT : DeviceType) :
    counted (stages ++ [(vnfType, pDT)]) =
      match pDT with
      | .p4 => []
      | .server => counted stages ++ [(vnfType, .server)]
      | .other => counted stages := by
  cases pDT with
  | p4 => simp [counted, behindP4]
  | server => simp [counted, behindP4]
  | other => simp [counted, behindP4]

def demands (part : Resources → ℚ) (traffic : ℚ) (stages : List Stage) : Set ℚ :=
  insert 0 {x | ∃ stage ∈ counted stages, x = part (expected traffic stage)}

theorem isGreatest_concat_server {part : Resources → ℚ} {vnfType : Nat} {m : ℚ}
    (h : IsGreatest (demands part traffic stages) m) :
    IsGreatest (demands part traffic (stages ++ [(vnfType, .server)]))
      (max m (part (expected traffic (vnfType, .server)))) := by
  have hset : demands part traffic (stages ++ [(vnfType, .server)]) =
      insert (part (expected traffic (vnfType, .server)))
        (demands part traffic stages) := by
    ext x
    simp only [demands, counted_concat, Set.mem_insert_iff, Set.mem_ofPred_eq,
      List.mem_append, List.mem_singleton]
    constructor
    · rintro (rfl | ⟨stage, hstage | rfl, rfl⟩)
      · exact Or.inr (Or.inl rfl)
      · exact Or.inr (Or.inr ⟨stage, hstage, rfl⟩)
      · exact Or.inl rfl
    · rintro (rfl | rfl | ⟨stage, hstage, rfl⟩)
      · exact Or.inr ⟨_, Or.inr rfl, rfl⟩
      · exact Or.inl rfl
      · exact Or.inr ⟨stage, Or.inl hstage, rfl⟩
  rw [hset, max_comm]
  exact h.insert _

theorem run_loop (hknown : ∀ stage ∈ stages,
    stage.1 ≤ PerformanceModel.VNF_TYPE_MAX) :
    ∃ maxExp, stages.foldlM (fun maxExp stage => expectServerResource traffic
        maxExp stage.1 stage.2) ((0, 0) : ℚ × ℚ) = .ok maxExp ∧
      IsGreatest (demands Resources.cores traffic stages) maxExp.1 ∧
      IsGreatest (demands Resources.memory traffic stages) maxExp.2 := by
  have hnone : ∀ part : Resources → ℚ, IsGreatest
      (insert 0 {x | ∃ stage ∈ [], x = part (expected traffic stage)}) 0 := by
    intro part
    simp [IsGreatest]
  induction stages using List.reverseRecOn with
  | nil => exact ⟨(0, 0), rfl, hnone _, hnone _⟩
  | append_singleton stages stage ih =>
      obtain ⟨maxExp, hrun, hcores, hmemory⟩ := ih fun stage' hstage' =>
        hknown stage' (List.mem_append_left _ hstage')
      obtain ⟨vnfType, pDT⟩ := stage
      rw [List.foldlM_append, hrun]
      cases pDT with
      | p4 =>
          refine ⟨(0, 0), rfl, ?_, ?_⟩
          · rw [demands, counted_concat]
            exact hnone _
          · rw [demands, counted_concat]
            exact hnone _
      | server =>
          have htype := hknown (vnfType, .server)
            (List.mem_append_right _ List.mem_cons_self)
          refine ⟨(max maxExp.1 (expected traffic (vnfType, .server)).cores,
              max maxExp.2 (expected traffic (vnfType, .server)).memory), ?_,
            isGreatest_concat_server hcores, isGreatest_concat_server hmemory⟩
          show (expectServerResource traffic maxExp vnfType .server >>= pure) = _
          rw [expectServerResource, getExpectedServerResource_eq htype]
          rfl
      | other =>
          refine ⟨maxExp, rfl, ?_, ?_⟩
          · rw [demands, counted_concat]
            exact hcores
          · rw [demands, counted_concat]
            exact hmemory

theorem foldlM_zipIdx_itemAt {α β γ : Type} {g : γ → α → β → Except PyError γ}
    {l : List α} {items : List β} (k : Nat) (h : l.length + k ≤ items.length)
    (c : γ) :
    (l.zipIdx k).foldlM (fun c (a, i) => do
        let b ← itemAt items i
        g c a b) c =
      (l.zip (items.drop k)).foldlM (fun c ab => g c ab.1 ab.2) c := by
  induction l generalizing k c with
  | nil => rfl
  | cons a l ih =>
      rw [List.length_cons] at h
      have hk : k < items.length := by omega
      have hitem : itemAt items k = .ok items[k] :=
        itemAt_eq_ok_iff.mpr (List.getElem?_eq_getElem hk)
      rw [List.drop_eq_getElem_cons hk, List.zipIdx_cons, List.zip_cons_cons,
        List.foldlM_cons, List.foldlM_cons]
      dsimp only
      rw [hitem]
      show (g c a items[k] >>= _) = _
      congr 1
      funext c'
      exact ih (k + 1) (by omega) c'

end Loop

/-! ## The number -/

section Number

variable {sfc : Mapping.SFC} {cpu mem : Nat} {traffic : ℚ}
  {p4Capacity : Nat → Option ℚ}

theorem mem_stagesOf {stage : Stage} (h : stage ∈ stagesOf sfc) :
    stage.1 ∈ sfc.vNFTypeSequence :=
  (List.of_mem_zip h).1

theorem server_of_counted {stages : List Stage} {stage : Stage}
    (h : stage ∈ counted stages) : stage.2 = .server := by
  simpa using (List.mem_filter.mp h).2

theorem exists_cores (h : Scalable sfc cpu mem) {stage : Stage}
    (hstage : stage ∈ counted (stagesOf sfc)) :
    ∃ cores : ℚ, 0 < cores ∧
      expected traffic stage = ⟨⌈cores * traffic⌉, ⌈1 * traffic⌉, traffic⟩ ∧
      instancesOf p4Capacity ⟨cpu, mem⟩ traffic stage =
        ⌈traffic / min (cpu / cores) (mem / 1)⌉ := by
  have hserver := server_of_counted hstage
  obtain ⟨vnfType, pDT⟩ := stage
  dsimp only at hserver
  subst hserver
  have htype := h.known _ (mem_stagesOf (mem_iff_counted_or_dropped.mpr (.inl hstage)))
  obtain ⟨cores, hcores, hratio⟩ := ratio_of_known htype
  refine ⟨cores, hcores, ?_, ?_⟩
  · rw [expected, PerformanceModel.getExpectedServerResource, hratio]
    rfl
  · rw [instancesOf, capacity, hratio]
    exact nofun

theorem instancesOf_le (h : Scalable sfc cpu mem) {stage : Stage}
    (hstage : stage ∈ counted (stagesOf sfc)) :
    instancesOf p4Capacity ⟨cpu, mem⟩ traffic stage ≤
      max ⌈(expected traffic stage).cores / cpu⌉
        ⌈(expected traffic stage).memory / mem⌉ := by
  obtain ⟨cores, -, hexpected, hinstances⟩ :=
    @exists_cores sfc cpu mem traffic p4Capacity h stage hstage
  rw [hexpected, hinstances]
  exact ceil_div_min_le h.cpu_pos h.mem_pos

theorem le_instancesOf (h : Scalable sfc cpu mem) (htraffic : 0 ≤ traffic)
    {stage : Stage} (hstage : stage ∈ counted (stagesOf sfc)) :
    max ⌈(expected traffic stage).cores / cpu⌉
        ⌈(expected traffic stage).memory / mem⌉ ≤
      instancesOf p4Capacity ⟨cpu, mem⟩ traffic stage := by
  obtain ⟨cores, hcores, hexpected, hinstances⟩ :=
    @exists_cores sfc cpu mem traffic p4Capacity h stage hstage
  rw [hexpected, hinstances]
  exact le_ceil_div_min htraffic hcores one_pos h.cpu_pos h.mem_pos

theorem expected_nonpos (h : Scalable sfc cpu mem) (htraffic : traffic < 0)
    {stage : Stage} (hstage : stage ∈ counted (stagesOf sfc)) :
    (expected traffic stage).cores ≤ 0 ∧ (expected traffic stage).memory ≤ 0 := by
  obtain ⟨cores, hcores, hexpected, -⟩ :=
    @exists_cores sfc cpu mem traffic (fun _ => none) h stage hstage
  have hceil : ∀ r : ℚ, 0 < r → (⌈r * traffic⌉ : ℚ) ≤ 0 := by
    intro r hr
    exact_mod_cast Int.ceil_le.mpr
      (by exact_mod_cast (mul_neg_of_pos_of_neg hr htraffic).le)
  rw [hexpected]
  exact ⟨hceil cores hcores, hceil 1 one_pos⟩

theorem exists_counted_of_one_lt {part : Resources → ℚ} {quota : Nat} {m : ℚ}
    (hm : m ∈ demands part traffic (stagesOf sfc))
    (hle : 0 ≤ traffic → ∀ stage ∈ counted (stagesOf sfc),
      ⌈part (expected traffic stage) / quota⌉ ≤
        instancesOf p4Capacity ⟨cpu, mem⟩ traffic stage)
    (hneg : traffic < 0 → ∀ stage ∈ counted (stagesOf sfc),
      part (expected traffic stage) ≤ 0)
    (hlt : 1 < ⌈m / quota⌉) :
    ∃ stage ∈ counted (stagesOf sfc),
      ⌈m / quota⌉ ≤ instancesOf p4Capacity ⟨cpu, mem⟩ traffic stage := by
  have hpos : 0 < m := by
    by_contra hnot
    have hdiv : m / quota ≤ 0 :=
      div_nonpos_of_nonpos_of_nonneg (not_lt.mp hnot) (Nat.cast_nonneg _)
    have hceil : ⌈m / quota⌉ ≤ 0 := Int.ceil_le.mpr (by exact_mod_cast hdiv)
    omega
  obtain rfl | ⟨stage, hstage, rfl⟩ := hm
  · exact absurd hpos (lt_irrefl 0)
  · refine ⟨stage, hstage, hle ?_ stage hstage⟩
    by_contra htraffic
    exact absurd hpos (not_lt.mpr (hneg (not_le.mp htraffic) stage hstage))

theorem loop_eq (h : Scalable sfc cpu mem) :
    sfc.vNFTypeSequence.zipIdx.foldlM (fun maxExp (vnfType, idx) => do
        let vnf ← itemAt sfc.vnfSequence idx
        expectServerResource traffic maxExp vnfType vnf.preferredDeviceType)
        ((0, 0) : ℚ × ℚ) =
      (stagesOf sfc).foldlM (fun maxExp stage => expectServerResource traffic
        maxExp stage.1 stage.2) ((0, 0) : ℚ × ℚ) := by
  have hzip := foldlM_zipIdx_itemAt (g := fun maxExp vnfType (vnf : Mapping.VNF) =>
      expectServerResource traffic maxExp vnfType vnf.preferredDeviceType)
    0 h.length_le ((0, 0) : ℚ × ℚ)
  rw [hzip, List.drop_zero, stagesOf, List.zip_map_right, List.foldlM_map]
  rfl

/-- The number is one, or what the VNF that counts and needs most needs. -/
theorem isGreatest_computeTargetSFCINum (h : Scalable sfc cpu mem) :
    ∃ n, computeTargetSFCINum sfc traffic = .ok n ∧
      IsGreatest (insert 1 {z | ∃ stage ∈ counted (stagesOf sfc),
        z = instancesOf p4Capacity ⟨cpu, mem⟩ traffic stage}) n := by
  have hknown : ∀ stage ∈ stagesOf sfc, stage.1 ≤ PerformanceModel.VNF_TYPE_MAX :=
    fun stage hstage => h.known _ (mem_stagesOf hstage)
  obtain ⟨maxExp, hrun, hcores, hmemory⟩ := @run_loop traffic _ hknown
  have hcpu : (0 : ℚ) < cpu := Nat.cast_pos.mpr h.cpu_pos
  have hmem : (0 : ℚ) < mem := Nat.cast_pos.mpr h.mem_pos
  have hquota : ¬ ((cpu : ℚ) = 0 ∨ (mem : ℚ) = 0) := by
    rintro (h | h)
    · exact hcpu.ne' h
    · exact hmem.ne' h
  have hupper : ∀ stage ∈ counted (stagesOf sfc),
      instancesOf p4Capacity ⟨cpu, mem⟩ traffic stage ≤
        max ⌈maxExp.2 / mem⌉ ⌈maxExp.1 / cpu⌉ := by
    intro stage hstage
    have hcores' := hcores.2 (Or.inr ⟨stage, hstage, rfl⟩)
    have hmemory' := hmemory.2 (Or.inr ⟨stage, hstage, rfl⟩)
    refine (instancesOf_le h hstage).trans ?_
    rw [max_comm]
    apply max_le_max
    · exact Int.ceil_mono (div_le_div_of_nonneg_right hmemory' hmem.le)
    · exact Int.ceil_mono (div_le_div_of_nonneg_right hcores' hcpu.le)
  have hfrom : 1 < max ⌈maxExp.2 / mem⌉ ⌈maxExp.1 / cpu⌉ →
      ∃ stage ∈ counted (stagesOf sfc), max ⌈maxExp.2 / mem⌉ ⌈maxExp.1 / cpu⌉ ≤
        instancesOf p4Capacity ⟨cpu, mem⟩ traffic stage := by
    intro hlt
    obtain hmax | hmax := max_choice ⌈maxExp.2 / mem⌉ ⌈maxExp.1 / cpu⌉
    · rw [hmax] at hlt ⊢
      refine exists_counted_of_one_lt hmemory.1 ?_ ?_ hlt
      · intro htraffic stage hstage
        exact (le_max_right _ _).trans (le_instancesOf h htraffic hstage)
      · exact fun htraffic stage hstage => (expected_nonpos h htraffic hstage).2
    · rw [hmax] at hlt ⊢
      refine exists_counted_of_one_lt hcores.1 ?_ ?_ hlt
      · intro htraffic stage hstage
        exact (le_max_left _ _).trans (le_instancesOf h htraffic hstage)
      · exact fun htraffic stage hstage => (expected_nonpos h htraffic hstage).1
  refine ⟨max 1 (max ⌈maxExp.2 / mem⌉ ⌈maxExp.1 / cpu⌉), ?_, ?_, ?_⟩
  · rw [computeTargetSFCINum, loop_eq h, hrun, h.quota]
    exact if_neg hquota
  · obtain hone | hlt := le_or_gt (max ⌈maxExp.2 / mem⌉ ⌈maxExp.1 / cpu⌉) 1
    · exact Or.inl (max_eq_left hone)
    · obtain ⟨stage, hstage, hle⟩ := hfrom hlt
      rw [max_eq_right hlt.le]
      exact Or.inr ⟨stage, hstage, hle.antisymm (hupper stage hstage)⟩
  · rintro z (rfl | ⟨stage, hstage, rfl⟩)
    · exact le_max_left _ _
    · exact le_max_of_le_right (hupper stage hstage)

def Suffices (p4Capacity : Nat → Option ℚ) (quota : ResourceQuota)
    (sfc : Mapping.SFC) (traffic : ℚ) : Prop :=
  ∃ n, computeTargetSFCINum sfc traffic = .ok n ∧
    ∀ stage ∈ stagesOf sfc, instancesOf p4Capacity quota traffic stage ≤ n

/-- The number is enough exactly if no VNF that does not count needs more than one
instance and than every VNF that counts. -/
theorem suffices_iff (h : Scalable sfc cpu mem) :
    Suffices p4Capacity ⟨cpu, mem⟩ sfc traffic ↔
      ∀ stage ∈ dropped (stagesOf sfc),
        instancesOf p4Capacity ⟨cpu, mem⟩ traffic stage ≤ 1 ∨
          ∃ stage' ∈ counted (stagesOf sfc),
            instancesOf p4Capacity ⟨cpu, mem⟩ traffic stage ≤
              instancesOf p4Capacity ⟨cpu, mem⟩ traffic stage' := by
  obtain ⟨n, hrun, hn⟩ := @isGreatest_computeTargetSFCINum sfc cpu mem traffic
    p4Capacity h
  constructor
  · rintro ⟨n', hrun', hle⟩ stage hstage
    obtain rfl := Except.ok.inj (hrun.symm.trans hrun')
    have hstage' := hle stage (mem_iff_counted_or_dropped.mpr (.inr hstage))
    obtain rfl | ⟨stage', hcounted, rfl⟩ := hn.1
    · exact Or.inl hstage'
    · exact Or.inr ⟨stage', hcounted, hstage'⟩
  · intro hdropped
    refine ⟨n, hrun, fun stage hstage => ?_⟩
    obtain hcounted | hstage := mem_iff_counted_or_dropped.mp hstage
    · exact hn.2 (Or.inr ⟨stage, hcounted, rfl⟩)
    · obtain hone | ⟨stage', hcounted, hle⟩ := hdropped stage hstage
      · exact hone.trans (hn.2 (Or.inl rfl))
      · exact hle.trans (hn.2 (Or.inr ⟨stage', hcounted, rfl⟩))

/-- A chain of VNFs of the types and devices, with one core and one GB for each
instance. -/
def sfcOf (stages : List Stage) : Mapping.SFC where
  vNFTypeSequence := stages.map Prod.fst
  vnfSequence := stages.map fun stage => ⟨stage.1, none, stage.2⟩
  throughput := 0
  vnfiResourceQuota := some ⟨1, 1⟩

/-- A rate limiter in a P4 switch, and an IDS on servers behind it. -/
theorem suffices_p4First : Scalable (sfcOf [(6, .p4), (3, .server)]) 1 1 ∧
    Suffices (fun _ => none) ⟨(1 : Nat), (1 : Nat)⟩
      (sfcOf [(6, .p4), (3, .server)]) 2 := by
  have hscalable : Scalable (sfcOf [(6, .p4), (3, .server)]) 1 1 :=
    ⟨by norm_num [sfcOf], Nat.one_pos, Nat.one_pos, by decide, by decide⟩
  refine ⟨hscalable, (suffices_iff hscalable).mpr ?_⟩
  intro stage hstage
  have hp4 : stage = (6, .p4) := by
    have hdropped : dropped (stagesOf (sfcOf [(6, .p4), (3, .server)])) =
        [(6, .p4)] := by decide
    simpa [hdropped] using hstage
  rw [hp4]
  exact Or.inl (by decide)

/-- An IDS on servers, and a rate limiter in a P4 switch behind it: 2 Gbps need
seven instances of the IDS. -/
theorem not_suffices_p4Last : ¬ ∀ (sfc : Mapping.SFC) (cpu mem : Nat) (traffic : ℚ),
    Scalable sfc cpu mem → 0 ≤ traffic →
      Suffices (fun _ => none) ⟨cpu, mem⟩ sfc traffic := by
  intro h
  obtain ⟨n, hrun, hle⟩ := h (sfcOf [(3, .server), (6, .p4)]) 1 1 2
    ⟨by norm_num [sfcOf], Nat.one_pos, Nat.one_pos, by decide, by decide⟩ (by norm_num)
  have hn : n = 1 := by
    have hone : computeTargetSFCINum (sfcOf [(3, .server), (6, .p4)]) 2 = .ok 1 := by
      decide +kernel
    exact Except.ok.inj (hrun.symm.trans hone)
  have hids := hle (3, .server) (by decide)
  have hseven : instancesOf (fun _ => none) ⟨(1 : Nat), (1 : Nat)⟩ 2 (3, .server) =
      7 := by
    decide +kernel
  omega

end Number

end SelfAdaptiveMano.Regulator

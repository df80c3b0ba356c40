import SelfAdaptiveMano.Orchestration.SubZone
import SelfAdaptiveMano.Library.Shares
import Mathlib.Algebra.BigOperators.Group.List.Lemmas

/-!
# The pod intervals of the orchestrators

The `OrchestratorManager` splits the pods of its zone evenly between its
orchestrators: the sizes of two pod intervals differ by one at most, and the
larger intervals come last.
-/

namespace SelfAdaptiveMano

open Library

namespace OrchestratorManager

/-- `x` as a sum of `n` numbers that differ by one at most. -/
def splitInteger (x n : Nat) : Except PyError (List Nat) :=
  if x < n then .error (.valueError "X < N")
  else if n = 0 then .error .zeroDivisionError
  else if x % n = 0 then .ok (List.replicate n (x / n))
  else
    let zp := n - x % n
    let pp := x / n
    .ok ((List.range n).map fun i => if zp ≤ i then pp + 1 else pp)

/-- The number at the index `i` of `splitInteger`. -/
def part (x n i : Nat) : Nat :=
  if n - x % n ≤ i then x / n + 1 else x / n

theorem splitInteger_eq {x n : Nat} (hn : 0 < n) (hle : n ≤ x) :
    splitInteger x n = .ok ((List.range n).map (part x n)) := by
  rw [splitInteger, if_neg (Nat.not_lt_of_le hle),
    if_neg (Nat.pos_iff_ne_zero.mp hn)]
  split
  · next hmod =>
      have hconst : ∀ i ∈ List.range n, part x n i = x / n := by
        intro i hi
        have hlt := List.mem_range.mp hi
        rw [part, if_neg (by omega)]
      rw [List.map_congr_left hconst, List.map_const', List.length_range]
  · rfl

theorem splitInteger_eq_ok {x n : Nat} {l : List Nat}
    (h : splitInteger x n = .ok l) :
    0 < n ∧ n ≤ x ∧ l = (List.range n).map (part x n) := by
  by_cases hle : n ≤ x
  · obtain rfl | hn := Nat.eq_zero_or_pos n
    · simp [splitInteger] at h
    · rw [splitInteger_eq hn hle] at h
      exact ⟨hn, hle, (Except.ok.inj h).symm⟩
  · rw [splitInteger, if_pos (Nat.lt_of_not_le hle)] at h
    cases h

/-- The pods of the orchestrators before the one at the index `i`. -/
theorem start_parts {x n i : Nat} (hi : i ≤ n) :
    Shares.start ((List.range n).map (part x n)) i =
      i * (x / n) + (i - (n - x % n)) := by
  induction i with
  | zero => simp
  | succ i ih =>
      have hpart : ((List.range n).map (part x n))[i]? = some (part x n i) := by
        rw [List.getElem?_map, List.getElem?_range hi, Option.map_some]
      rw [Shares.start_succ hpart, ih (Nat.le_of_succ_le hi), part,
        Nat.succ_mul]
      split
      · omega
      · omega

theorem sum_parts {x n : Nat} (hn : 0 < n) :
    ((List.range n).map (part x n)).sum = x := by
  have hstart := start_parts (x := x) (le_refl n)
  have hall : ((List.range n).map (part x n)).take n =
      (List.range n).map (part x n) := by
    apply List.take_of_length_le
    simp
  have hmod := Nat.mod_lt x hn
  have hdiv := Nat.div_add_mod x n
  rw [Shares.start, hall] at hstart
  rw [hstart]
  omega

theorem part_pos {x n : Nat} (hn : 0 < n) (hle : n ≤ x) (i : Nat) :
    0 < part x n i := by
  have hdiv := Nat.div_pos hle hn
  rw [part]
  split
  · omega
  · exact hdiv

structure OrchInfo (podNum : Nat) where
  name : String
  interval : PodInterval podNum

/-- The pods of the orchestrator at the index `idx`. -/
def podInterval {podNum : Nat} (oPodNumList : List Nat)
    (hsum : oPodNumList.sum = podNum) (hpos : ∀ n ∈ oPodNumList, 0 < n)
    (idx : Fin oPodNumList.length) : PodInterval podNum where
  minPodIdx := Shares.start oPodNumList idx
  maxPodIdx := Shares.start oPodNumList idx + oPodNumList[idx.val] - 1
  le := by
    have hmem := hpos _ (List.getElem_mem idx.isLt)
    exact Nat.le_sub_one_of_lt (Nat.lt_add_of_pos_right hmem)
  lt := by
    have hmem := hpos _ (List.getElem_mem idx.isLt)
    have hnext := Shares.start_succ (List.getElem?_eq_getElem idx.isLt)
    have hle := Shares.start_le_sum oPodNumList (idx + 1)
    rw [hsum] at hle
    omega

theorem splitInteger_sum {x n : Nat} {l : List Nat}
    (h : splitInteger x n = .ok l) : l.sum = x := by
  obtain ⟨hn, -, rfl⟩ := splitInteger_eq_ok h
  exact sum_parts hn

theorem splitInteger_pos {x n : Nat} {l : List Nat}
    (h : splitInteger x n = .ok l) : ∀ p ∈ l, 0 < p := by
  obtain ⟨hn, hle, rfl⟩ := splitInteger_eq_ok h
  intro p hp
  obtain ⟨i, -, rfl⟩ := List.mem_map.mp hp
  exact part_pos hn hle i

def orchName (zoneName : String) (minPodIdx maxPodIdx : Nat) : String :=
  zoneName ++ "_" ++ toString minPodIdx ++ "_" ++ toString maxPodIdx

/-- `_computeOrchInstanceInfoList`, which splits the pods between
`minOrchNum` orchestrators. -/
def computeOrchInstanceInfoList (zoneName : String) (podNum minOrchNum : Nat) :
    Except PyError (List (OrchInfo podNum)) :=
  match h : splitInteger podNum minOrchNum with
  | .error e => .error e
  | .ok oPodNumList =>
      .ok (List.ofFn fun idx =>
        let I := podInterval oPodNumList (splitInteger_sum h)
          (splitInteger_pos h) idx
        ⟨orchName zoneName I.minPodIdx I.maxPodIdx, I⟩)

/-- The first pod of the orchestrator at the index `i`. -/
def firstPod (podNum n i : Nat) : Nat :=
  Shares.start ((List.range n).map (part podNum n)) i

theorem firstPod_eq {podNum n i : Nat} (hi : i ≤ n) :
    firstPod podNum n i = i * (podNum / n) + (i - (n - podNum % n)) :=
  start_parts hi

section InfoList

variable {zoneName : String} {podNum n i : Nat} {l : List (OrchInfo podNum)}
  {o : OrchInfo podNum}

theorem exists_infoList (zoneName : String) (hn : 0 < n) (hle : n ≤ podNum) :
    ∃ l, computeOrchInstanceInfoList zoneName podNum n = .ok l := by
  have hsplit := splitInteger_eq hn hle
  rw [computeOrchInstanceInfoList]
  split
  · next heq =>
      rw [hsplit] at heq
      cases heq
  · exact ⟨_, rfl⟩

theorem infoList_eq_ok (h : computeOrchInstanceInfoList zoneName podNum n = .ok l) :
    ∃ (oPodNumList : List Nat) (hsum : oPodNumList.sum = podNum)
      (hpos : ∀ p ∈ oPodNumList, 0 < p),
      oPodNumList = (List.range n).map (part podNum n) ∧
        l = List.ofFn fun idx =>
          let I := podInterval oPodNumList hsum hpos idx
          ⟨orchName zoneName I.minPodIdx I.maxPodIdx, I⟩ := by
  rw [computeOrchInstanceInfoList] at h
  split at h
  · cases h
  · next oPodNumList hsplit =>
      obtain ⟨-, -, hparts⟩ := splitInteger_eq_ok hsplit
      exact ⟨oPodNumList, splitInteger_sum hsplit, splitInteger_pos hsplit,
        hparts, (Except.ok.inj h).symm⟩

theorem infoList_length
    (h : computeOrchInstanceInfoList zoneName podNum n = .ok l) :
    l.length = n := by
  obtain ⟨oPodNumList, hsum, hpos, hparts, rfl⟩ := infoList_eq_ok h
  simp [hparts]

theorem infoList_getElem?
    (h : computeOrchInstanceInfoList zoneName podNum n = .ok l)
    (ho : l[i]? = some o) :
    i < n ∧ o.interval.minPodIdx = firstPod podNum n i ∧
      o.interval.maxPodIdx + 1 = firstPod podNum n (i + 1) := by
  have hlen := infoList_length h
  obtain ⟨hi, rfl⟩ := List.getElem?_eq_some_iff.mp ho
  have hin : i < n := hlen ▸ hi
  obtain ⟨oPodNumList, hsum, hpos, hparts, rfl⟩ := infoList_eq_ok h
  have hlt : i < oPodNumList.length := by
    rw [hparts, List.length_map, List.length_range]
    exact hin
  have hmem := hpos _ (List.getElem_mem hlt)
  have hnext := Shares.start_succ (List.getElem?_eq_getElem hlt)
  rw [firstPod, firstPod, ← hparts, hnext]
  refine ⟨hin, ?_, ?_⟩
  · rw [List.getElem_ofFn]
    rfl
  · rw [List.getElem_ofFn]
    show Shares.start oPodNumList i + oPodNumList[i] - 1 + 1 = _
    omega

/-! ## The pods of the zone -/

def OrchInfo.Has (o : OrchInfo podNum) (pod : Nat) : Prop :=
  o.interval.minPodIdx ≤ pod ∧ pod ≤ o.interval.maxPodIdx

/-- `n` positive numbers that sum to `x` and differ by one at most. -/
structure EvenSplit (x n : Nat) (parts : List Nat) : Prop where
  length : parts.length = n
  pos : ∀ p ∈ parts, 0 < p
  sum : parts.sum = x
  even : ∀ p ∈ parts, ∀ q ∈ parts, p ≤ q + 1

/-- The intervals follow one another from the first pod to the last, no pod is in
two of them, and together they have the pods `0` to `podNum - 1`. -/
structure Tiles (l : List (OrchInfo podNum)) : Prop where
  first : ∀ o, l.head? = some o → o.interval.minPodIdx = 0
  consecutive : ∀ (i : Nat) (o o' : OrchInfo podNum), l[i]? = some o →
    l[i + 1]? = some o' → o'.interval.minPodIdx = o.interval.maxPodIdx + 1
  last : ∀ o, l.getLast? = some o → o.interval.maxPodIdx + 1 = podNum
  disjoint : ∀ (i j : Nat) (o o' : OrchInfo podNum) (pod : Nat), l[i]? = some o →
    l[j]? = some o' → o.Has pod → o'.Has pod → i = j
  cover : ∀ pod, (∃ o ∈ l, o.Has pod) ↔ pod < podNum

theorem evenSplit_parts {x : Nat} (hn : 0 < n) (hle : n ≤ x) :
    EvenSplit x n ((List.range n).map (part x n)) where
  length := by rw [List.length_map, List.length_range]
  pos p hp := by
    obtain ⟨i, -, rfl⟩ := List.mem_map.mp hp
    exact part_pos hn hle i
  sum := sum_parts hn
  even p hp q hq := by
    obtain ⟨i, -, rfl⟩ := List.mem_map.mp hp
    obtain ⟨j, -, rfl⟩ := List.mem_map.mp hq
    rw [part, part]
    split <;> split <;> omega

theorem firstPod_length (hn : 0 < n) : firstPod podNum n n = podNum := by
  rw [firstPod, Shares.start, List.take_of_length_le (by simp), sum_parts hn]

theorem has_iff_owns (h : computeOrchInstanceInfoList zoneName podNum n = .ok l)
    (ho : l[i]? = some o) (pod : Nat) :
    o.Has pod ↔ Shares.Owns ((List.range n).map (part podNum n)) i pod := by
  obtain ⟨-, hmin, hmax⟩ := infoList_getElem? h ho
  have hmax' : pod ≤ o.interval.maxPodIdx ↔ pod < firstPod podNum n (i + 1) := by
    rw [← hmax, Nat.lt_succ_iff]
  rw [OrchInfo.Has, Shares.Owns, hmin, hmax', firstPod, firstPod]

theorem tiles_infoList (hn : 0 < n)
    (h : computeOrchInstanceInfoList zoneName podNum n = .ok l) : Tiles l where
  first o ho := by
    rw [List.head?_eq_getElem?] at ho
    obtain ⟨-, hmin, -⟩ := infoList_getElem? h ho
    rw [hmin, firstPod, Shares.start_zero]
  consecutive i o o' ho ho' := by
    obtain ⟨-, -, hmax⟩ := infoList_getElem? h ho
    obtain ⟨-, hmin, -⟩ := infoList_getElem? h ho'
    rw [hmin, hmax]
  last o ho := by
    rw [List.getLast?_eq_getElem?, infoList_length h] at ho
    obtain ⟨-, -, hmax⟩ := infoList_getElem? h ho
    rw [hmax, Nat.sub_add_cancel hn, firstPod_length hn]
  disjoint i j o o' pod ho ho' hi hj := by
    have howns := (has_iff_owns h ho pod).mp hi
    exact howns.unique ((has_iff_owns h ho' pod).mp hj)
  cover pod := by
    constructor
    · rintro ⟨o, -, -, hle⟩
      exact hle.trans_lt o.interval.lt
    · intro hpod
      have hsum : pod < ((List.range n).map (part podNum n)).sum := by
        rwa [sum_parts hn]
      obtain ⟨i, hi, howns⟩ := Shares.exists_owns hsum
      have hlt : i < l.length := by
        rw [infoList_length h]
        simpa using hi
      refine ⟨l[i], List.getElem_mem hlt, ?_⟩
      exact (has_iff_owns h (List.getElem?_eq_getElem hlt) pod).mpr howns

/-- The pods are split evenly, and the pod intervals made of the parts tile the
zone. -/
theorem evenSplit_and_tiles (zoneName : String) {x n : Nat} (hn : 1 ≤ n)
    (hle : n ≤ x) :
    ∃ (parts : List Nat) (l : List (OrchInfo x)),
      splitInteger x n = .ok parts ∧ EvenSplit x n parts ∧
        computeOrchInstanceInfoList zoneName x n = .ok l ∧ Tiles l ∧
          l.map (fun o => o.interval.podNumInSubZone) = parts := by
  obtain ⟨l, hl⟩ := exists_infoList zoneName hn hle
  refine ⟨_, l, splitInteger_eq hn hle, evenSplit_parts hn hle, hl,
    tiles_infoList hn hl, ?_⟩
  apply List.ext_getElem?
  intro i
  rw [List.getElem?_map, List.getElem?_map]
  by_cases hi : i < n
  · have hlt : i < l.length := (infoList_length hl).symm ▸ hi
    obtain ⟨-, hmin, hmax⟩ := infoList_getElem? hl (List.getElem?_eq_getElem hlt)
    have hsize := l[i].interval.minPodIdx_add_podNumInSubZone
    rw [hmax, hmin, firstPod, firstPod,
      Shares.start_succ (l := (List.range n).map (part x n)) (n := part x n i)
        (by simp [hi])] at hsize
    rw [List.getElem?_eq_getElem hlt, List.getElem?_range hi]
    exact congrArg some (Nat.add_left_cancel hsize)
  · rw [List.getElem?_eq_none (by rw [infoList_length hl]; omega),
      List.getElem?_eq_none (by rw [List.length_range]; omega)]
    rfl

/-- Seven pods for three orchestrators. -/
theorem evenSplit_and_tiles_seven :
    ∃ (parts : List Nat) (l : List (OrchInfo 7)),
      splitInteger 7 3 = .ok parts ∧ EvenSplit 7 3 parts ∧
        computeOrchInstanceInfoList "" 7 3 = .ok l ∧ Tiles l ∧
          l.map (fun o => o.interval.podNumInSubZone) = parts :=
  evenSplit_and_tiles "" (by decide) (by decide)

end InfoList

end OrchestratorManager

end SelfAdaptiveMano

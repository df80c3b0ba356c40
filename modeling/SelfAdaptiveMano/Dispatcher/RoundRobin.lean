import SelfAdaptiveMano.Dispatcher.OrchestratorManager

/-!
# Choosing orchestrators in turn

The loop of `selectOrchInRoundRobin` has no condition: it ends when it has found a
valid orchestrator, or has made more turns than there are orchestrators. `Returns`
is the loop as it is written. The choices that follow one another go through all valid
orchestrators before one of them is chosen again, whatever else is done to the
orchestrators in the meantime, as long as the set of the valid ones stays the same.
-/

namespace SelfAdaptiveMano

open Library

namespace OrchestratorManager

/-! ## The loop -/

/-- A turn of the loop, after `cnt` turns: the value that the method returns, unless
the loop goes on. -/
def roundRobinTurn (candidateOrchList : List String) (cnt : Nat) :
    PyM OrchestratorManager (Option (Option String)) := do
  let oM ← get
  let orchName ← PyM.ofExcept (itemAt candidateOrchList
    (oM.roundRobinCounter % candidateOrchList.length))
  set { oM with
    roundRobinCounter := (oM.roundRobinCounter + 1) % oM.getOrchInstanceNum }
  if ← isOrchestratorValidRuntimeState orchName then
    return some (some orchName)
  else if oM.getOrchInstanceNum < cnt + 1 then
    return some none
  else
    return none

/-- After `cnt` turns, the loop comes to an end with a result. -/
inductive Returns (candidateOrchList : List String) :
    Nat → OrchestratorManager → Option String → OrchestratorManager → Prop
  | ret {cnt : Nat} {oM oM' : OrchestratorManager} {result : Option String}
      (h : (roundRobinTurn candidateOrchList cnt).run oM = .ok (some result) oM') :
      Returns candidateOrchList cnt oM result oM'
  | next {cnt : Nat} {oM oM' oM'' : OrchestratorManager} {result : Option String}
      (h : (roundRobinTurn candidateOrchList cnt).run oM = .ok none oM')
      (hrest : Returns candidateOrchList (cnt + 1) oM' result oM'') :
      Returns candidateOrchList cnt oM result oM''

variable {oM oM' : OrchestratorManager} {result : Option String}
  {orchName : String}

theorem run_roundRobinTurn {rest : List String} (cnt : Nat)
    (h : oM.candidateOrchList.rotate oM.roundRobinCounter = orchName :: rest) :
    (roundRobinTurn oM.candidateOrchList cnt).run oM =
      (if oM.isValid orchName = true then pure (some (some orchName))
        else if oM.getOrchInstanceNum < cnt + 1 then pure (some none)
        else pure none : PyM OrchestratorManager (Option (Option String))).run
          (oM.withCounter ((oM.roundRobinCounter + 1) % oM.getOrchInstanceNum)) := by
  rw [roundRobinTurn, PyM.run_bind_get, itemAt_candidateOrchList h]
  exact PyM.run_bind_ok (run_isOrchestratorValidRuntimeState_withCounter h _) _

theorem returns_of_valid {rest : List String} {cnt left : Nat}
    (h : oM.candidateOrchList.rotate oM.roundRobinCounter = orchName :: rest)
    (hvalid : oM.isValid orchName = true)
    (hrun : (roundRobinLoop oM.candidateOrchList (left + 1)).run oM =
      .ok result oM') :
    Returns oM.candidateOrchList cnt oM result oM' := by
  have hturn := run_roundRobinTurn cnt h
  rw [if_pos hvalid] at hturn
  rw [run_roundRobinLoop_succ h, if_pos hvalid] at hrun
  cases hrun
  exact .ret hturn

theorem returns_of_run_roundRobinLoop {cnt left : Nat}
    (hpos : 0 < oM.getOrchInstanceNum)
    (hleft : cnt + (left + 1) = oM.getOrchInstanceNum + 1)
    (hrun : (roundRobinLoop oM.candidateOrchList (left + 1)).run oM =
      .ok result oM') :
    Returns oM.candidateOrchList cnt oM result oM' := by
  induction left generalizing oM cnt with
  | zero =>
      obtain ⟨orchName, rest, h⟩ := exists_rotate hpos
      by_cases hvalid : oM.isValid orchName = true
      · exact returns_of_valid h hvalid hrun
      · have hlast : oM.getOrchInstanceNum < cnt + 1 := by omega
        have hturn := run_roundRobinTurn cnt h
        rw [if_neg hvalid, if_pos hlast] at hturn
        rw [run_roundRobinLoop_succ h, if_neg hvalid] at hrun
        cases hrun
        exact .ret hturn
  | succ left ih =>
      obtain ⟨orchName, rest, h⟩ := exists_rotate hpos
      by_cases hvalid : oM.isValid orchName = true
      · exact returns_of_valid h hvalid hrun
      · have hmore : ¬ oM.getOrchInstanceNum < cnt + 1 := by omega
        have hturn := run_roundRobinTurn cnt h
        rw [if_neg hvalid, if_neg hmore] at hturn
        rw [run_roundRobinLoop_succ h, if_neg hvalid] at hrun
        have hnext : cnt + 1 + (left + 1) = oM.getOrchInstanceNum + 1 := by omega
        exact .next hturn (@ih (oM.withCounter
          ((oM.roundRobinCounter + 1) % oM.getOrchInstanceNum)) (cnt + 1) hpos
            hnext hrun)

/-- The loop ends, and `selectOrchInRoundRobin` returns what it ends with. -/
theorem returns_of_run_selectOrchInRoundRobin (hpos : 0 < oM.getOrchInstanceNum)
    (hrun : selectOrchInRoundRobin.run oM = .ok result oM') :
    Returns oM.candidateOrchList 0 oM result oM' := by
  rw [run_selectOrchInRoundRobin_eq hpos] at hrun
  exact returns_of_run_roundRobinLoop hpos (Nat.zero_add _) hrun

/-! ## Successive choices -/

/-- There are the same orchestrators, the same of them are valid, and the counter is
the same. -/
structure SameTurns (oM oM' : OrchestratorManager) : Prop where
  counter : oM'.roundRobinCounter = oM.roundRobinCounter
  names : ∀ name, oM'.info? name = none ↔ oM.info? name = none
  valid : ∀ name, oM'.Valid name ↔ oM.Valid name

/-- `chosen` are the choices that are made one after the other, each in the next of
the states; between two of them neither the orchestrators nor the valid ones
change. -/
def Chooses (state : Nat → OrchestratorManager)
    (chosen : Nat → Option String) : Prop :=
  ∀ i, ∃ oM', selectOrchInRoundRobin.run (state i) = .ok (chosen i) oM' ∧
    SameTurns oM' (state (i + 1))

theorem SameTurns.candidateOrchList_eq (h : SameTurns oM oM') :
    oM'.candidateOrchList = oM.candidateOrchList := by
  have hperm : oM'.candidateOrchList.Perm oM.candidateOrchList := by
    rw [List.perm_ext_iff_of_nodup oM'.nodup_candidateOrchList
      oM.nodup_candidateOrchList]
    intro name
    have hnames := not_congr (h.names name)
    rw [mem_candidateOrchList, mem_candidateOrchList]
    rwa [← ne_eq, ← ne_eq, Option.ne_none_iff_exists', Option.ne_none_iff_exists']
      at hnames
  exact hperm.eq_of_pairwise' (List.pairwise_insertionSort _ _)
    (List.pairwise_insertionSort _ _)

theorem SameTurns.order_eq (h : SameTurns oM oM') : oM'.order = oM.order := by
  have hvalid : oM'.isValid = oM.isValid := by
    funext name
    rw [Bool.eq_iff_iff, isValid_eq_true_iff, isValid_eq_true_iff, h.valid name]
  rw [order, order, hvalid, h.candidateOrchList_eq, h.counter]

theorem SameTurns.getOrchInstanceNum_eq (h : SameTurns oM oM') :
    oM'.getOrchInstanceNum = oM.getOrchInstanceNum := by
  rw [← length_candidateOrchList, h.candidateOrchList_eq, length_candidateOrchList]

theorem nodup_order (oM : OrchestratorManager) : oM.order.Nodup :=
  RoundRobin.nodup_able oM.nodup_candidateOrchList

theorem length_order_le (oM : OrchestratorManager) :
    oM.order.length ≤ oM.getOrchInstanceNum := by
  rw [← length_candidateOrchList,
    ← List.length_rotate oM.candidateOrchList oM.roundRobinCounter]
  exact List.length_filter_le _ _

variable {state : Nat → OrchestratorManager} {chosen : Nat → Option String}

theorem Chooses.getOrchInstanceNum_eq (h : Chooses state chosen)
    (hpos : 0 < (state 0).getOrchInstanceNum) (i : Nat) :
    (state i).getOrchInstanceNum = (state 0).getOrchInstanceNum := by
  induction i with
  | zero => rfl
  | succ i ih =>
      obtain ⟨oM', hrun, hsame⟩ := h i
      rw [← ih] at hpos
      obtain ⟨counter, hrun', -⟩ := run_selectOrchInRoundRobin_pos hpos
      rw [hrun', EStateM.Result.ok.injEq] at hrun
      obtain ⟨-, rfl⟩ := hrun
      rw [hsame.getOrchInstanceNum_eq, ← ih]
      rfl

theorem Chooses.turns (h : Chooses state chosen)
    (hpos : 0 < (state 0).getOrchInstanceNum) :
    RoundRobin.Turns (fun i => (state i).order) chosen := by
  have hstep (i : Nat) : chosen i = (state i).order.head? ∧
      (state (i + 1)).order = (state i).order.rotate 1 := by
    obtain ⟨oM', hrun, hsame⟩ := h i
    rw [← h.getOrchInstanceNum_eq hpos i] at hpos
    obtain ⟨counter, hrun', hnext⟩ := run_selectOrchInRoundRobin_pos hpos
    rw [hrun', EStateM.Result.ok.injEq] at hrun
    obtain ⟨hchosen, rfl⟩ := hrun
    exact ⟨hchosen.symm, hsame.order_eq.trans hnext⟩
  exact ⟨fun i => (hstep i).1, fun i => (hstep i).2⟩

/-- Where there are orchestrators, the loop ends and a valid one is chosen if there is
one; while the valid ones stay the same, each of them is chosen again and again, and
all of them before one is chosen twice. -/
theorem selectOrchInRoundRobin_fair (oM : OrchestratorManager)
    (hpos : 0 < oM.getOrchInstanceNum) :
    (∃ result oM', Returns oM.candidateOrchList 0 oM result oM' ∧
      selectOrchInRoundRobin.run oM = .ok result oM' ∧
      (∀ name, result = some name → oM.Valid name) ∧
      (result = none → ∀ name, ¬ oM.Valid name)) ∧
    ∀ state chosen, state 0 = oM → Chooses state chosen →
      ∀ name, oM.Valid name →
        (∀ i, ∃ m, i ≤ m ∧ m < i + oM.getOrchInstanceNum ∧
          chosen m = some name) ∧
        ∀ i j, i < j → chosen i = chosen j →
          ∃ m, i ≤ m ∧ m < j ∧ chosen m = some name := by
  constructor
  · obtain ⟨herror, -⟩ | ⟨counter, result, hrun, hsome, hnone⟩ :=
      run_selectOrchInRoundRobin oM
    · obtain ⟨counter, hrun, -⟩ := run_selectOrchInRoundRobin_pos hpos
      rw [herror] at hrun
      cases hrun
    · exact ⟨result, _, returns_of_run_selectOrchInRoundRobin hpos hrun, hrun, hsome,
        hnone⟩
  · rintro state chosen rfl h name hvalid
    have hturns := h.turns hpos
    have hmem := mem_order.mpr hvalid
    refine ⟨fun i => ?_, fun i j hij heq => ?_⟩
    · obtain ⟨m, him, hm, hchosen⟩ := hturns.exists_chosen i hmem
      have hle := (state 0).length_order_le
      exact ⟨m, him, hm.trans_le (Nat.add_le_add_left hle i), hchosen⟩
    · exact hturns.before_again (state 0).nodup_order hij heq hmem

def oneValid : OrchestratorManager :=
  ⟨(Dict.empty.set "0_0" ⟨⟨true, false, false⟩, .empty, .empty⟩).set "1_1"
    ⟨.initial, .empty, .empty⟩, 5⟩

theorem selectOrchInRoundRobin_fair_oneValid :
    (∃ result oM', Returns oneValid.candidateOrchList 0 oneValid result oM' ∧
      selectOrchInRoundRobin.run oneValid = .ok result oM' ∧
      (∀ name, result = some name → oneValid.Valid name) ∧
      (result = none → ∀ name, ¬ oneValid.Valid name)) ∧
    ∀ state chosen, state 0 = oneValid → Chooses state chosen →
      ∀ name, oneValid.Valid name →
        (∀ i, ∃ m, i ≤ m ∧ m < i + oneValid.getOrchInstanceNum ∧
          chosen m = some name) ∧
        ∀ i j, i < j → chosen i = chosen j →
          ∃ m, i ≤ m ∧ m < j ∧ chosen m = some name :=
  selectOrchInRoundRobin_fair oneValid (by decide)

/-- With no orchestrator at all, nothing is returned. -/
theorem selectOrchInRoundRobin_ne_ok_empty :
    ¬ ∃ result oM', selectOrchInRoundRobin.run ⟨Dict.empty, 0⟩ = .ok result oM' := by
  rintro ⟨result, oM', hrun⟩
  rw [run_selectOrchInRoundRobin_zero rfl] at hrun
  cases hrun

end OrchestratorManager

end SelfAdaptiveMano

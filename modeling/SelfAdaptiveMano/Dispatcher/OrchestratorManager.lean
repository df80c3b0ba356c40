import SelfAdaptiveMano.Base.Sfc
import SelfAdaptiveMano.Library.Dict
import SelfAdaptiveMano.Library.Python
import SelfAdaptiveMano.Library.RoundRobin
import Mathlib.Data.List.Sort

/-!
# The OrchestratorManager

For each orchestrator of its zone the `OrchestratorManager` keeps the runtime
state that the orchestrator last reported, the SFCs that are assigned to it and
the SFCIs that it was asked to add. An SFC that is assigned to no orchestrator
gets the next one, in round robin, whose runtime state is valid.
-/

namespace SelfAdaptiveMano

open Library

structure RuntimeState where
  disconnection : Bool
  classifierUnavailable : Bool
  resourceExceedWateLine : Bool
  deriving DecidableEq, Repr

namespace RuntimeState

/-- `RuntimeState()`. -/
def initial : RuntimeState := ⟨false, false, false⟩

def isValidRuntimeState (state : RuntimeState) : Bool :=
  state.disconnection == false && state.classifierUnavailable == false &&
    state.resourceExceedWateLine == false

end RuntimeState

structure OrchestratorInfoMaintainer where
  runtimeState : RuntimeState
  sfcDict : Dict UUID SFC
  sfciDict : Dict UUID (Dict Nat SFCI)

structure OrchestratorManager where
  oInfoMaintainerDict : Dict String OrchestratorInfoMaintainer
  roundRobinCounter : Nat

namespace OrchestratorManager

def info? (oM : OrchestratorManager) (orchName : String) :
    Option OrchestratorInfoMaintainer :=
  oM.oInfoMaintainerDict.get? orchName

def getOrchInstanceNum (oM : OrchestratorManager) : Nat :=
  oM.oInfoMaintainerDict.items.length

def isOrchestratorValidRuntimeState (orchName : String) :
    PyM OrchestratorManager Bool := do
  let info ← PyM.ofOption .keyError ((← get).info? orchName)
  return info.runtimeState.isValidRuntimeState

/-- The turns of the loop of `selectOrchInRoundRobin`, of which `left` are
left. -/
def roundRobinLoop (candidateOrchList : List String) :
    Nat → PyM OrchestratorManager (Option String)
  | 0 => pure none
  | left + 1 => do
      let oM ← get
      let orchName ← PyM.ofExcept (itemAt candidateOrchList
        (oM.roundRobinCounter % candidateOrchList.length))
      set { oM with
        roundRobinCounter :=
          (oM.roundRobinCounter + 1) % oM.getOrchInstanceNum }
      if ← isOrchestratorValidRuntimeState orchName then
        return some orchName
      else
        roundRobinLoop candidateOrchList left

def selectOrchInRoundRobin : PyM OrchestratorManager (Option String) := do
  let oM ← get
  let candidateOrchList :=
    oM.oInfoMaintainerDict.keys.insertionSort (· ≤ ·)
  if candidateOrchList.length = 0 then throw .zeroDivisionError
  -- the loop gives up when it has made more turns than there are orchestrators
  roundRobinLoop candidateOrchList (oM.getOrchInstanceNum + 1)

def getOrchestratorNameBySFC (oM : OrchestratorManager) (sfc : SFC) :
    Option String :=
  (oM.oInfoMaintainerDict.items.find? fun e =>
    e.2.sfcDict.contains sfc.sfcUUID).map Prod.fst

/-- Change what is known about an orchestrator, in place. -/
def modifyInfo (orchName : String)
    (f : OrchestratorInfoMaintainer → OrchestratorInfoMaintainer) :
    PyM OrchestratorManager Unit := do
  let oM ← get
  let info ← PyM.ofOption .keyError (oM.info? orchName)
  set { oM with
    oInfoMaintainerDict := oM.oInfoMaintainerDict.set orchName (f info) }

def setOrchestratorRuntimeState (orchName : String)
    (runtimeState : RuntimeState) : PyM OrchestratorManager Unit :=
  modifyInfo orchName fun info => { info with runtimeState }

/-- `del` of a key that is there, and nothing otherwise. -/
def removeSFCFromOrchestrator (orchName : String) (sfcUUID : UUID) :
    PyM OrchestratorManager Unit :=
  modifyInfo orchName fun info =>
    { info with sfcDict := info.sfcDict.erase sfcUUID }

def assignSFC2Orchestrator (sfc : SFC) (orchName : String) :
    PyM OrchestratorManager Unit :=
  modifyInfo orchName fun info =>
    { info with sfcDict := info.sfcDict.set sfc.sfcUUID sfc }

def assignSFCI2Orchestrator (sfcUUID : UUID) (sfci : SFCI) (orchName : String) :
    PyM OrchestratorManager Unit :=
  modifyInfo orchName fun info =>
    let sfcis := (info.sfciDict.get? sfcUUID).getD Dict.empty
    { info with
      sfciDict := info.sfciDict.set sfcUUID (sfcis.set sfci.sfciID sfci) }

/-- `sfciState` is what the information base says about an SFCI. -/
def isAllSFCIsOfASFCAreDeletedOrInitFailed
    (sfciState : Nat → Option SFCState) (orchName : String) (sfcUUID : UUID) :
    PyM OrchestratorManager Bool := do
  let info ← PyM.ofOption .keyError ((← get).info? orchName)
  let sfcis ← PyM.ofOption .keyError (info.sfciDict.get? sfcUUID)
  return sfcis.keys.all fun sfciID =>
    decide (sfciState sfciID ∈ [some .deleted, some .initFailed])

/-! ## What the methods do -/

variable {oM : OrchestratorManager} {orchName : String}
  {info : OrchestratorInfoMaintainer}

def Valid (oM : OrchestratorManager) (orchName : String) : Prop :=
  ∃ info, oM.info? orchName = some info ∧
    info.runtimeState.isValidRuntimeState = true

theorem run_isOrchestratorValidRuntimeState (h : oM.info? orchName = some info) :
    (isOrchestratorValidRuntimeState orchName).run oM =
      .ok info.runtimeState.isValidRuntimeState oM := by
  rw [isOrchestratorValidRuntimeState, PyM.run_bind_get,
    PyM.run_bind_ofOption h]
  rfl

def withInfo (oM : OrchestratorManager) (orchName : String)
    (info : OrchestratorInfoMaintainer) : OrchestratorManager :=
  { oM with oInfoMaintainerDict := oM.oInfoMaintainerDict.set orchName info }

theorem info?_withInfo {name : String} :
    (oM.withInfo orchName info).info? name =
      if name = orchName then some info else oM.info? name := by
  rw [info?, withInfo, Dict.get?_set]
  rfl

theorem run_modifyInfo {f : OrchestratorInfoMaintainer → OrchestratorInfoMaintainer}
    (h : oM.info? orchName = some info) :
    (modifyInfo orchName f).run oM = .ok () (oM.withInfo orchName (f info)) := by
  rw [modifyInfo, PyM.run_bind_get, PyM.run_bind_ofOption h]
  rfl

theorem run_modifyInfo_none
    {f : OrchestratorInfoMaintainer → OrchestratorInfoMaintainer}
    (h : oM.info? orchName = none) :
    (modifyInfo orchName f).run oM = .error .keyError oM := by
  rw [modifyInfo, PyM.run_bind_get, h]
  rfl

theorem run_isAllSFCIsOfASFCAreDeletedOrInitFailed
    (sfciState : Nat → Option SFCState) {sfcUUID : UUID} {sfcis : Dict Nat SFCI}
    (h : oM.info? orchName = some info)
    (hsfcis : info.sfciDict.get? sfcUUID = some sfcis) :
    (isAllSFCIsOfASFCAreDeletedOrInitFailed sfciState orchName sfcUUID).run oM =
      .ok (sfcis.keys.all fun sfciID =>
        decide (sfciState sfciID ∈ [some .deleted, some .initFailed])) oM := by
  rw [isAllSFCIsOfASFCAreDeletedOrInitFailed, PyM.run_bind_get,
    PyM.run_bind_ofOption h, PyM.run_bind_ofOption hsfcis]
  rfl

theorem run_isAllSFCIsOfASFCAreDeletedOrInitFailed_none
    (sfciState : Nat → Option SFCState) {sfcUUID : UUID}
    (h : oM.info? orchName = some info)
    (hsfcis : info.sfciDict.get? sfcUUID = none) :
    (isAllSFCIsOfASFCAreDeletedOrInitFailed sfciState orchName sfcUUID).run oM =
      .error .keyError oM := by
  rw [isAllSFCIsOfASFCAreDeletedOrInitFailed, PyM.run_bind_get,
    PyM.run_bind_ofOption h, hsfcis]
  rfl

theorem getOrchestratorNameBySFC_eq_none_iff {sfc : SFC} :
    oM.getOrchestratorNameBySFC sfc = none ↔
      ∀ name info, oM.info? name = some info →
        info.sfcDict.get? sfc.sfcUUID = none := by
  rw [getOrchestratorNameBySFC, Option.map_eq_none_iff, List.find?_eq_none]
  constructor
  · intro hnone name info hinfo
    have hmem := hnone (name, info) (Dict.mem_items_iff.mpr hinfo)
    by_contra hne
    exact hmem (Dict.contains_eq_true_iff.mpr hne)
  · rintro hnone ⟨name, info⟩ hmem hcontains
    exact Dict.contains_eq_true_iff.mp hcontains
      (hnone name info (Dict.mem_items_iff.mp hmem))

theorem getOrchestratorNameBySFC_eq_some {sfc : SFC}
    (h : oM.getOrchestratorNameBySFC sfc = some orchName) :
    ∃ info, oM.info? orchName = some info ∧
      info.sfcDict.get? sfc.sfcUUID ≠ none := by
  obtain ⟨⟨name, info⟩, hfind, rfl⟩ := Option.map_eq_some_iff.mp h
  have hcontains := List.find?_some hfind
  have hmem := Dict.mem_items_iff.mp (List.mem_of_find?_eq_some hfind)
  exact ⟨info, hmem, Dict.contains_eq_true_iff.mp hcontains⟩

/-! ## The choice of an orchestrator -/

def candidateOrchList (oM : OrchestratorManager) : List String :=
  oM.oInfoMaintainerDict.keys.insertionSort (· ≤ ·)

def isValid (oM : OrchestratorManager) (orchName : String) : Bool :=
  (oM.info? orchName).any fun info => info.runtimeState.isValidRuntimeState

def withCounter (oM : OrchestratorManager) (counter : Nat) :
    OrchestratorManager :=
  { oM with roundRobinCounter := counter }

theorem isValid_eq_true_iff : oM.isValid orchName = true ↔ oM.Valid orchName := by
  rw [isValid, Option.any_eq_true]
  rfl

theorem perm_candidateOrchList (oM : OrchestratorManager) :
    oM.candidateOrchList.Perm oM.oInfoMaintainerDict.keys :=
  List.perm_insertionSort _ _

theorem mem_candidateOrchList :
    orchName ∈ oM.candidateOrchList ↔ ∃ info, oM.info? orchName = some info := by
  rw [oM.perm_candidateOrchList.mem_iff, Dict.mem_keys_iff]
  rfl

theorem nodup_candidateOrchList (oM : OrchestratorManager) :
    oM.candidateOrchList.Nodup :=
  oM.perm_candidateOrchList.nodup_iff.mpr (Dict.nodup_keys' _)

theorem length_candidateOrchList (oM : OrchestratorManager) :
    oM.candidateOrchList.length = oM.getOrchInstanceNum := by
  rw [oM.perm_candidateOrchList.length_eq, Dict.keys, List.length_map]
  rfl

def order (oM : OrchestratorManager) : List String :=
  RoundRobin.able oM.isValid oM.candidateOrchList oM.roundRobinCounter

theorem mem_order : orchName ∈ oM.order ↔ oM.Valid orchName := by
  rw [order, RoundRobin.mem_able, isValid_eq_true_iff, mem_candidateOrchList]
  exact and_iff_right_of_imp fun ⟨info, hinfo, _⟩ => ⟨info, hinfo⟩

theorem exists_rotate (hpos : 0 < oM.getOrchInstanceNum) :
    ∃ orchName rest,
      oM.candidateOrchList.rotate oM.roundRobinCounter = orchName :: rest := by
  apply List.exists_cons_of_length_pos
  rw [List.length_rotate, length_candidateOrchList]
  exact hpos

section Turn

variable {rest : List String}
  (h : oM.candidateOrchList.rotate oM.roundRobinCounter = orchName :: rest)
include h

theorem mem_candidateOrchList_of_rotate : orchName ∈ oM.candidateOrchList := by
  rw [← List.mem_rotate (n := oM.roundRobinCounter), h]
  exact List.mem_cons_self

theorem itemAt_candidateOrchList :
    itemAt oM.candidateOrchList
      (oM.roundRobinCounter % oM.candidateOrchList.length) = .ok orchName := by
  have hpos := List.length_pos_of_mem (mem_candidateOrchList_of_rotate h)
  rw [itemAt_eq_ok_iff, ← List.head?_rotate (Nat.mod_lt _ hpos), List.rotate_mod, h]
  rfl

theorem run_isOrchestratorValidRuntimeState_withCounter (counter : Nat) :
    (isOrchestratorValidRuntimeState orchName).run (oM.withCounter counter) =
      .ok (oM.isValid orchName) (oM.withCounter counter) := by
  obtain ⟨info, hinfo⟩ :=
    mem_candidateOrchList.mp (mem_candidateOrchList_of_rotate h)
  have hvalid : oM.isValid orchName = info.runtimeState.isValidRuntimeState := by
    rw [isValid, hinfo, Option.any_some]
  have hinfo' : (oM.withCounter counter).info? orchName = some info := hinfo
  rw [hvalid]
  exact run_isOrchestratorValidRuntimeState hinfo'

/-- One turn of the loop: the candidate whose turn it is is chosen, or the next turn
follows. -/
theorem run_roundRobinLoop_succ (left : Nat) :
    (roundRobinLoop oM.candidateOrchList (left + 1)).run oM =
      (if oM.isValid orchName = true then pure (some orchName)
        else roundRobinLoop oM.candidateOrchList left).run
          (oM.withCounter ((oM.roundRobinCounter + 1) % oM.getOrchInstanceNum)) := by
  rw [roundRobinLoop, PyM.run_bind_get, itemAt_candidateOrchList h]
  exact PyM.run_bind_ok (run_isOrchestratorValidRuntimeState_withCounter h _) _

end Turn

theorem run_roundRobinLoop_of_split {pre post : List String} {left : Nat}
    (h : oM.candidateOrchList.rotate oM.roundRobinCounter =
      pre ++ orchName :: post)
    (hpre : ∀ name ∈ pre, oM.isValid name = false)
    (hvalid : oM.isValid orchName = true) (hleft : pre.length < left) :
    (roundRobinLoop oM.candidateOrchList left).run oM =
      .ok (some orchName) (oM.withCounter
        ((oM.roundRobinCounter + (pre.length + 1)) % oM.getOrchInstanceNum)) := by
  obtain ⟨left, rfl⟩ : ∃ n, left = n + 1 := ⟨left - 1, by omega⟩
  induction pre generalizing oM post left with
  | nil =>
      rw [run_roundRobinLoop_succ h left, if_pos hvalid]
      rfl
  | cons name pre ih =>
      rw [run_roundRobinLoop_succ h left, hpre name List.mem_cons_self,
        if_neg Bool.false_ne_true]
      obtain ⟨left, rfl⟩ : ∃ n, left = n + 1 := ⟨left - 1, by
        rw [List.length_cons] at hleft
        omega⟩
      let oM' := oM.withCounter ((oM.roundRobinCounter + 1) % oM.getOrchInstanceNum)
      have hnext : oM'.candidateOrchList.rotate oM'.roundRobinCounter =
          pre ++ orchName :: (post ++ [name]) := by
        show oM.candidateOrchList.rotate
          ((oM.roundRobinCounter + 1) % oM.getOrchInstanceNum) = _
        rw [← length_candidateOrchList, List.rotate_mod, ← List.rotate_rotate, h]
        simp
      have hpre' : ∀ name' ∈ pre, oM'.isValid name' = false :=
        fun name' h' => hpre name' (List.mem_cons_of_mem name h')
      have hrun := @ih oM' _ hnext hpre' hvalid left
        (Nat.lt_of_succ_lt_succ hleft)
      have hcounter : (oM'.roundRobinCounter + (pre.length + 1)) %
          oM'.getOrchInstanceNum =
          (oM.roundRobinCounter + ((name :: pre).length + 1)) %
            oM.getOrchInstanceNum := by
        show ((oM.roundRobinCounter + 1) % oM.getOrchInstanceNum +
          (pre.length + 1)) % oM.getOrchInstanceNum = _
        rw [Nat.mod_add_mod, List.length_cons, Nat.add_assoc, Nat.add_comm 1]
      rw [hcounter] at hrun
      exact hrun

theorem run_roundRobinLoop_none (hpos : 0 < oM.getOrchInstanceNum)
    (hinvalid : ∀ name ∈ oM.candidateOrchList, oM.isValid name = false)
    (left : Nat) :
    ∃ counter, (roundRobinLoop oM.candidateOrchList left).run oM =
      .ok none (oM.withCounter counter) := by
  induction left generalizing oM with
  | zero => exact ⟨oM.roundRobinCounter, rfl⟩
  | succ left ih =>
      obtain ⟨name, rest, hrotate⟩ := exists_rotate hpos
      have hmem := mem_candidateOrchList_of_rotate hrotate
      rw [run_roundRobinLoop_succ hrotate left, hinvalid name hmem,
        if_neg Bool.false_ne_true]
      exact @ih (oM.withCounter
        ((oM.roundRobinCounter + 1) % oM.getOrchInstanceNum)) hpos hinvalid

theorem run_selectOrchInRoundRobin_eq (hpos : 0 < oM.getOrchInstanceNum) :
    selectOrchInRoundRobin.run oM =
      (roundRobinLoop oM.candidateOrchList (oM.getOrchInstanceNum + 1)).run oM := by
  have hne : oM.candidateOrchList.length ≠ 0 := by
    rw [length_candidateOrchList]
    exact hpos.ne'
  rw [selectOrchInRoundRobin, PyM.run_bind_get]
  exact congrArg (EStateM.run · oM) (if_neg hne)

theorem run_selectOrchInRoundRobin_zero (h : oM.getOrchInstanceNum = 0) :
    selectOrchInRoundRobin.run oM = .error .zeroDivisionError oM := by
  have hzero : oM.candidateOrchList.length = 0 :=
    oM.length_candidateOrchList.trans h
  rw [selectOrchInRoundRobin, PyM.run_bind_get]
  exact congrArg (EStateM.run · oM) (if_pos hzero)

/-- The choice is the valid orchestrator whose turn comes first, and its next turn
comes last. -/
theorem run_selectOrchInRoundRobin_pos (hpos : 0 < oM.getOrchInstanceNum) :
    ∃ counter,
      selectOrchInRoundRobin.run oM = .ok oM.order.head? (oM.withCounter counter) ∧
        (oM.withCounter counter).order = oM.order.rotate 1 := by
  rw [run_selectOrchInRoundRobin_eq hpos]
  obtain hinvalid | ⟨pre, name, post, hsplit, hpre, hvalid⟩ :=
    RoundRobin.able_eq_nil_or_split oM.isValid oM.candidateOrchList
      oM.roundRobinCounter
  · obtain ⟨counter, hrun⟩ := run_roundRobinLoop_none hpos hinvalid
      (oM.getOrchInstanceNum + 1)
    have hnone (counter : Nat) : (oM.withCounter counter).order = [] := by
      rw [List.eq_nil_iff_forall_not_mem]
      intro name hname
      obtain ⟨hmem, hvalid⟩ := RoundRobin.mem_able.mp hname
      exact Bool.false_ne_true ((hinvalid name hmem).symm.trans hvalid)
    have horder : oM.order = [] := hnone oM.roundRobinCounter
    refine ⟨counter, ?_, ?_⟩
    · rw [horder, hrun]
      rfl
    · rw [hnone, horder, List.rotate_nil]
  · have hleft : pre.length < oM.getOrchInstanceNum + 1 := by
      have hlength := congrArg List.length hsplit
      rw [List.length_rotate, length_candidateOrchList, List.length_append]
        at hlength
      omega
    obtain ⟨hhead, hnext⟩ := RoundRobin.able_of_split hsplit hpre hvalid
    have hrun := run_roundRobinLoop_of_split hsplit hpre hvalid hleft
    rw [order, hhead]
    refine ⟨_, hrun, ?_⟩
    rw [← hnext, ← length_candidateOrchList]
    exact RoundRobin.able_mod

/-- With no orchestrator there is nothing to choose from; otherwise the choice
leaves all but the counter alone, is valid, and fails only when no orchestrator
is. -/
theorem run_selectOrchInRoundRobin (oM : OrchestratorManager) :
    selectOrchInRoundRobin.run oM = .error .zeroDivisionError oM ∧
        (∀ name, ¬ oM.Valid name) ∨
      ∃ counter result,
        selectOrchInRoundRobin.run oM =
          .ok result { oM with roundRobinCounter := counter } ∧
        (∀ name, result = some name → oM.Valid name) ∧
        (result = none → ∀ name, ¬ oM.Valid name) := by
  obtain hzero | hpos := Nat.eq_zero_or_pos oM.getOrchInstanceNum
  · refine Or.inl ⟨run_selectOrchInRoundRobin_zero hzero, ?_⟩
    rintro name ⟨info, hinfo, -⟩
    have hmem := mem_candidateOrchList.mpr ⟨info, hinfo⟩
    rw [← length_candidateOrchList, List.length_eq_zero_iff] at hzero
    rw [hzero] at hmem
    cases hmem
  · obtain ⟨counter, hrun, -⟩ := run_selectOrchInRoundRobin_pos hpos
    refine Or.inr ⟨counter, _, hrun, ?_, ?_⟩
    · intro name hname
      exact mem_order.mp (List.mem_of_mem_head? hname)
    · intro hnone name hname
      rw [List.head?_eq_none_iff] at hnone
      have hmem := mem_order.mpr hname
      rw [hnone] at hmem
      cases hmem

end OrchestratorManager

end SelfAdaptiveMano

import SelfAdaptiveMano.Base.Sfc
import SelfAdaptiveMano.Library.Dict
import SelfAdaptiveMano.Library.Grid
import SelfAdaptiveMano.Library.Python
import Mathlib.Data.Rat.Defs
import Mathlib.Algebra.Order.Ring.Rat
import Mathlib.Tactic.Linarith

/-!
# Reports about SFCIs

The measurer keeps the SFCIs of each zone. A report about an SFCI that is known
gives its VNFIs the values that it has, and the SFCI's throughput and drop rate
are computed anew from the traffic of its first and its last stage. The traffic
is summed behind a comparison of a type with `typing.Dict`, which is the type of
no value, so that the sums are always zero.
-/

namespace SelfAdaptiveMano.Measurement

open Library

/-! ## The information base -/

/-- A traffic record: by direction, or one number. -/
inductive Amount where
  | dict (amounts : Dict Nat ℚ)
  | number (amount : ℚ)

/-- `VNFIStatus`; the `state` of a VNFI is only passed on. -/
structure VNFIStatus (ρ : Type) where
  inputTrafficAmount : Option Amount
  inputPacketAmount : Option Amount
  outputTrafficAmount : Option Amount
  outputPacketAmount : Option Amount
  state : Option ρ

/-- A VNFI, with `none` for a status that is no `VNFIStatus`. -/
structure VNFI (ρ : Type) where
  vnfiID : UUID
  vnfiStatus : Option (VNFIStatus ρ)

structure SLO where
  availability : Option ℚ
  latency : Option ℚ
  throughput : Option ℚ
  dropRate : Option ℚ
  connections : Option ℚ
  deriving DecidableEq

structure SFCI (ρ : Type) where
  sfciID : Nat
  vnfiSequence : List (List (VNFI ρ))
  sloRealTimeValue : Option SLO
  forwardingPathSet : Option ρ
  routingMorphic : Option ρ

/-- `SFCIInfoBaseMaintainer._sfcis`. -/
abbrev Sfcis (ρ : Type) := Dict Zone (Dict Nat (SFCI ρ))

variable {ρ : Type}

/-- `VNFIStatus()`. -/
def VNFIStatus.empty : VNFIStatus ρ := ⟨none, none, none, none, none⟩

/-- `_updateVNFIStatus`: the fields that the new status has. -/
def updateVNFIStatus (oldVNFIStatus newVNFIStatus : VNFIStatus ρ) :
    VNFIStatus ρ where
  inputTrafficAmount :=
    if newVNFIStatus.inputTrafficAmount.isSome then
      newVNFIStatus.inputTrafficAmount
    else oldVNFIStatus.inputTrafficAmount
  inputPacketAmount :=
    if newVNFIStatus.inputPacketAmount.isSome then newVNFIStatus.inputPacketAmount
    else oldVNFIStatus.inputPacketAmount
  outputTrafficAmount :=
    if newVNFIStatus.outputTrafficAmount.isSome then
      newVNFIStatus.outputTrafficAmount
    else oldVNFIStatus.outputTrafficAmount
  outputPacketAmount :=
    if newVNFIStatus.outputPacketAmount.isSome then
      newVNFIStatus.outputPacketAmount
    else oldVNFIStatus.outputPacketAmount
  state :=
    if newVNFIStatus.state.isSome then newVNFIStatus.state
    else oldVNFIStatus.state

/-- `type(amount) == Dict`: the name is that of `typing.Dict`, which is not the
type of a dictionary. -/
def isTypingDict : Amount → Bool
  | .dict _ => false
  | .number _ => false

def directionSum (amounts : Dict Nat ℚ) : ℚ :=
  (amounts.get? 0).getD 0 + (amounts.get? 1).getD 0

/-- What the loops of `_getSFCIInputTrafficSum` and `_getSFCIOutputTrafficSum` add
for a record. -/
def addedTraffic (amount : Option Amount) : ℚ :=
  match amount with
  | none => 0
  | some amount =>
      if isTypingDict amount then
        match amount with
        | .dict amounts => directionSum amounts
        | .number _ => 0
      else 0

/-- The loops of `_getSFCIInputTrafficSum` and `_getSFCIOutputTrafficSum`. -/
def trafficSum (record : VNFIStatus ρ → Option Amount) (vnfis : List (VNFI ρ)) :
    ℚ :=
  vnfis.foldl (fun sum vnfi =>
    match vnfi.vnfiStatus with
    | some vnfiStatus => sum + addedTraffic (record vnfiStatus)
    | none => sum + 0) 0

def computeDropRate (inputTrafficSum outputTrafficSum : ℚ) : ℚ :=
  max 0 (min
    (if inputTrafficSum = 0 then 0
      else (inputTrafficSum - outputTrafficSum) / inputTrafficSum * 100) 100)

def updateSFCISLO : PyM (SFCI ρ) Unit := do
  let sfci ← get
  let firstStage ← PyM.ofExcept (itemAt sfci.vnfiSequence 0)
  let lastStage ← PyM.ofExcept (itemFromEnd sfci.vnfiSequence 1)
  let inputTrafficSum := trafficSum VNFIStatus.inputTrafficAmount firstStage
  let outputTrafficSum := trafficSum VNFIStatus.outputTrafficAmount lastStage
  let slo ← PyM.ofOption .attributeError sfci.sloRealTimeValue
  set { sfci with
    sloRealTimeValue := some { slo with
      throughput := some outputTrafficSum
      dropRate := some (computeDropRate inputTrafficSum outputTrafficSum) } }

/-- The body of the inner loop of `updatePartialSFCIsByZone`, for the VNFI of the
report at a place. -/
def updateVNFI (vnfiSeqIdx vnfiIdx : Nat) (vnfi : VNFI ρ) : PyM (SFCI ρ) Unit :=
  match vnfi.vnfiStatus with
  | none => pure ()
  | some newVNFIStatus => do
      let oldSFCI ← get
      let _oldVNFI ← PyM.ofExcept (do
        let vnfis ← itemAt oldSFCI.vnfiSequence vnfiSeqIdx
        itemAt vnfis vnfiIdx)
      set { oldSFCI with
        vnfiSequence := Grid.modifyAt oldSFCI.vnfiSequence (vnfiSeqIdx, vnfiIdx)
          fun oldVNFI => { oldVNFI with
            vnfiStatus := some (updateVNFIStatus
              (oldVNFI.vnfiStatus.getD .empty) newVNFIStatus) } }

/-- What `updatePartialSFCIsByZone` does to an SFCI that is known. -/
def updateSFCI (sfci : SFCI ρ) : PyM (SFCI ρ) Unit := do
  sfci.vnfiSequence.zipIdx.forM fun (vnfis, vnfiSeqIdx) =>
    vnfis.zipIdx.forM fun (vnfi, vnfiIdx) => updateVNFI vnfiSeqIdx vnfiIdx vnfi
  updateSFCISLO
  modify fun oldSFCI => { oldSFCI with
    forwardingPathSet := sfci.forwardingPathSet
    routingMorphic := sfci.routingMorphic }

/-- The body of the outer loop. -/
def updateStored (zoneName : Zone) (sfciID : Nat) (sfci : SFCI ρ) :
    PyM (Sfcis ρ) Unit := do
  let sfcis ← get
  let stored ← PyM.ofOption .keyError (sfcis.get? zoneName)
  match stored.get? sfciID with
  | none => set (sfcis.set zoneName (stored.set sfciID sfci))
  | some oldSFCI =>
      PyM.zoom (fun _ => oldSFCI)
        (fun after sfcis => sfcis.set zoneName (stored.set sfciID after))
        (updateSFCI sfci)

def updatePartialSFCIsByZone (sfcisDict : Dict Nat (SFCI ρ)) (zoneName : Zone) :
    PyM (Sfcis ρ) Unit := do
  let sfcis ← get
  if sfcis.contains zoneName then pure ()
  else set (sfcis.set zoneName Dict.empty)
  sfcisDict.items.forM fun (sfciID, sfci) => updateStored zoneName sfciID sfci

/-! ## What is asked of an update -/

def VNFIStatus.mergedWith (old new : VNFIStatus ρ) : VNFIStatus ρ where
  inputTrafficAmount := new.inputTrafficAmount <|> old.inputTrafficAmount
  inputPacketAmount := new.inputPacketAmount <|> old.inputPacketAmount
  outputTrafficAmount := new.outputTrafficAmount <|> old.outputTrafficAmount
  outputPacketAmount := new.outputPacketAmount <|> old.outputPacketAmount
  state := new.state <|> old.state

def VNFI.mergedWith (old : VNFI ρ) (reported : Option (VNFI ρ)) : VNFI ρ :=
  match reported.bind VNFI.vnfiStatus with
  | none => old
  | some new => { old with
      vnfiStatus := some ((old.vnfiStatus.getD .empty).mergedWith new) }

namespace SFCI

def mergedSequence (old sfci : SFCI ρ) : List (List (VNFI ρ)) :=
  Grid.mapAt (fun p vnfi => vnfi.mergedWith (Grid.at? sfci.vnfiSequence p))
    old.vnfiSequence

end SFCI

def Amount.traffic : Amount → ℚ
  | .dict amounts => directionSum amounts
  | .number amount => amount

def stageTraffic (record : VNFIStatus ρ → Option Amount) (vnfis : List (VNFI ρ)) :
    ℚ :=
  (vnfis.map fun vnfi =>
    ((vnfi.vnfiStatus.bind record).map Amount.traffic).getD 0).sum

def lossRate (input output : ℚ) : ℚ :=
  if input = 0 then 0 else max 0 (min ((input - output) / input * 100) 100)

def inputOf (stages : List (List (VNFI ρ))) : ℚ :=
  stageTraffic VNFIStatus.inputTrafficAmount (stages.head?.getD [])

def outputOf (stages : List (List (VNFI ρ))) : ℚ :=
  stageTraffic VNFIStatus.outputTrafficAmount (stages.getLast?.getD [])

/-- The VNFIs have what the report has for them, and the throughput and the drop
rate are those of the VNFIs. -/
structure RightAfter (old sfci after : SFCI ρ) : Prop where
  merged : after.vnfiSequence = old.mergedSequence sfci
  slo : ∃ slo dropRate, after.sloRealTimeValue = some slo ∧
    slo.throughput = some (outputOf after.vnfiSequence) ∧
    slo.dropRate = some dropRate ∧
    dropRate = lossRate (inputOf after.vnfiSequence) (outputOf after.vnfiSequence) ∧
    0 ≤ dropRate ∧ dropRate ≤ 100

def stored? (sfcis : Sfcis ρ) (zoneName : Zone) (sfciID : Nat) : Option (SFCI ρ) :=
  (sfcis.get? zoneName).bind fun stored => stored.get? sfciID

/-- The report is taken over, and right for every SFCI that was stored. -/
def TakenOver (sfcis : Sfcis ρ) (sfcisDict : Dict Nat (SFCI ρ)) (zoneName : Zone) :
    Prop :=
  ∃ sfcis', (updatePartialSFCIsByZone sfcisDict zoneName).run sfcis = .ok () sfcis' ∧
    ∀ sfciID old sfci, stored? sfcis zoneName sfciID = some old →
      sfcisDict.get? sfciID = some sfci →
        ∃ after, stored? sfcis' zoneName sfciID = some after ∧
          RightAfter old sfci after

/-- The report has a status only for VNFIs that are stored, and the SFCI has
stages and an SLO. -/
structure Updatable (old sfci : SFCI ρ) : Prop where
  places : ∀ p vnfi, Grid.at? sfci.vnfiSequence p = some vnfi →
    vnfi.vnfiStatus ≠ none → Grid.at? old.vnfiSequence p ≠ none
  stages : old.vnfiSequence ≠ []
  slo : old.sloRealTimeValue ≠ none

/-- There is no traffic into the first stage and out of the last one. -/
structure Idle (old sfci : SFCI ρ) : Prop where
  input : inputOf (old.mergedSequence sfci) = 0
  output : outputOf (old.mergedSequence sfci) = 0

/-! ## The traffic -/

theorem trafficSum_eq_zero (record : VNFIStatus ρ → Option Amount)
    (vnfis : List (VNFI ρ)) : trafficSum record vnfis = 0 := by
  have hadded : ∀ amount : Option Amount, addedTraffic amount = 0 := by
    intro amount
    cases amount with
    | none => rfl
    | some amount => cases amount <;> rfl
  induction vnfis with
  | nil => rfl
  | cons vnfi vnfis ih =>
      rw [trafficSum, List.foldl_cons]
      cases vnfi.vnfiStatus with
      | none =>
          dsimp only
          rw [add_zero]
          exact ih
      | some vnfiStatus =>
          dsimp only
          rw [hadded, add_zero]
          exact ih

theorem lossRate_zero_eq_zero_iff {input : ℚ} : lossRate input 0 = 0 ↔ input = 0 := by
  rw [lossRate]
  constructor
  · intro h
    by_contra hne
    rw [if_neg hne, sub_zero, div_self hne] at h
    norm_num at h
  · intro h
    rw [if_pos h]

/-! ## One SFCI -/

theorem updateVNFIStatus_eq (old new : VNFIStatus ρ) :
    updateVNFIStatus old new = old.mergedWith new := by
  have hfield : ∀ {α : Type} (o n : Option α),
      (if n.isSome then n else o) = (n <|> o) := by
    intro α o n
    cases n <;> rfl
  simp only [updateVNFIStatus, VNFIStatus.mergedWith, hfield]

def mergeAt (sfci : SFCI ρ) (places : List (Nat × Nat)) (p : Nat × Nat)
    (vnfi : VNFI ρ) : VNFI ρ :=
  if p ∈ places then vnfi.mergedWith (Grid.at? sfci.vnfiSequence p) else vnfi

def mergedAt (old sfci : SFCI ρ) (places : List (Nat × Nat)) : SFCI ρ :=
  { old with vnfiSequence := Grid.mapAt (mergeAt sfci places) old.vnfiSequence }

theorem mergedAt_nil (old sfci : SFCI ρ) : mergedAt old sfci [] = old := by
  have hsame : Grid.mapAt (mergeAt sfci []) old.vnfiSequence = old.vnfiSequence :=
    Grid.mapAt_eq_self fun p vnfi => if_neg List.not_mem_nil
  rw [mergedAt, hsame]

/-- The VNFIs of a report without a status are not looked for. -/
def Missing (old : SFCI ρ) (e : (Nat × Nat) × VNFI ρ) : Prop :=
  e.2.vnfiStatus ≠ none ∧ Grid.at? old.vnfiSequence e.1 = none

theorem itemAt_itemAt_eq {α : Type} (rows : List (List α)) (i j : Nat) :
    (do let row ← itemAt rows i
        itemAt row j) =
      match Grid.at? rows (i, j) with
      | some a => .ok a
      | none => .error .indexError := by
  rw [itemAt, Grid.at?]
  cases rows[i]? with
  | none => rfl
  | some row => rfl

theorem at?_mergedAt {old sfci : SFCI ρ} {places : List (Nat × Nat)}
    {p : Nat × Nat} :
    Grid.at? (mergedAt old sfci places).vnfiSequence p =
      (Grid.at? old.vnfiSequence p).map (mergeAt sfci places p) :=
  Grid.at?_mapAt (mergeAt sfci places)

theorem mergedAt_append {old sfci : SFCI ρ} {places : List (Nat × Nat)}
    {p : Nat × Nat} (hnew : p ∉ places) :
    mergedAt old sfci (places ++ [p]) =
      { mergedAt old sfci places with
        vnfiSequence := Grid.modifyAt (mergedAt old sfci places).vnfiSequence p
          fun vnfi => vnfi.mergedWith (Grid.at? sfci.vnfiSequence p) } := by
  simp only [mergedAt, Grid.modifyAt_mapAt]
  congr 1
  apply Grid.mapAt_congr
  intro q vnfi
  by_cases hq : q = p
  · rw [hq, mergeAt, mergeAt, if_pos (by simp), if_pos rfl, if_neg hnew]
  · simp [mergeAt, hq]

theorem mergedWith_of_none {old : VNFI ρ} {reported : Option (VNFI ρ)}
    (h : reported.bind VNFI.vnfiStatus = none) : old.mergedWith reported = old := by
  rw [VNFI.mergedWith, h]

theorem mergedWith_of_some {old : VNFI ρ} {reported : Option (VNFI ρ)}
    {new : VNFIStatus ρ} (h : reported.bind VNFI.vnfiStatus = some new) :
    old.mergedWith reported = { old with
      vnfiStatus := some (updateVNFIStatus (old.vnfiStatus.getD .empty) new) } := by
  rw [VNFI.mergedWith, h, updateVNFIStatus_eq]

theorem run_updateVNFI {old sfci : SFCI ρ} {places : List (Nat × Nat)}
    {p : Nat × Nat} {vnfi : VNFI ρ} (hp : Grid.at? sfci.vnfiSequence p = some vnfi)
    (hnew : p ∉ places) :
    (∃ s', (updateVNFI p.1 p.2 vnfi).run (mergedAt old sfci places) = .ok () s' ∧
        ¬ Missing old (p, vnfi) ∧ s' = mergedAt old sfci (places ++ [p])) ∨
      (Missing old (p, vnfi) ∧ ∃ e s', (updateVNFI p.1 p.2 vnfi).run
        (mergedAt old sfci places) = .error e s') := by
  have hstatus : (Grid.at? sfci.vnfiSequence p).bind VNFI.vnfiStatus =
      vnfi.vnfiStatus := by rw [hp, Option.bind_some]
  rw [updateVNFI]
  cases hvnfi : vnfi.vnfiStatus with
  | none =>
      rw [hvnfi] at hstatus
      refine Or.inl ⟨_, rfl, fun hmissing => hmissing.1 hvnfi, ?_⟩
      rw [mergedAt, mergedAt]
      congr 1
      apply Grid.mapAt_congr
      intro q old
      by_cases hq : q = p
      · rw [hq, mergeAt, mergeAt, if_neg hnew, mergedWith_of_none hstatus,
          ite_self]
      · simp [mergeAt, hq]
  | some new =>
      rw [hvnfi] at hstatus
      simp only [mergedAt_append hnew, mergedWith_of_some hstatus]
      rw [PyM.run_bind_get, itemAt_itemAt_eq, Prod.mk.eta, at?_mergedAt]
      cases hold : Grid.at? old.vnfiSequence p with
      | none =>
          refine Or.inr ⟨⟨?_, hold⟩, _, _, rfl⟩
          rw [hvnfi]
          exact Option.some_ne_none new
      | some oldVNFI =>
          refine Or.inl ⟨_, rfl, fun hmissing => ?_, rfl⟩
          rw [hmissing.2] at hold
          cases hold

theorem loop_eq (sfci : SFCI ρ) :
    (sfci.vnfiSequence.zipIdx.forM fun (vnfis, vnfiSeqIdx) =>
      vnfis.zipIdx.forM fun (vnfi, vnfiIdx) => updateVNFI vnfiSeqIdx vnfiIdx vnfi) =
      (Grid.entries sfci.vnfiSequence).forM fun e =>
        updateVNFI e.1.1 e.1.2 e.2 := by
  rw [Grid.entries, ← PyM.forM_flatMap]
  apply PyM.forM_congr
  rintro ⟨vnfis, vnfiSeqIdx⟩ _
  exact (PyM.forM_map vnfis.zipIdx (fun (vnfi, vnfiIdx) =>
    ((vnfiSeqIdx, vnfiIdx), vnfi)) fun e => updateVNFI e.1.1 e.1.2 e.2).symm

theorem fst_notMem_of_nodup {κ ν : Type} {l done rest : List (κ × ν)} {e : κ × ν}
    (hnodup : (l.map Prod.fst).Nodup) (hl : l = done ++ e :: rest) :
    e.1 ∉ done.map Prod.fst := by
  rw [hl, List.map_append, List.map_cons] at hnodup
  intro hmem
  exact (List.nodup_append.mp hnodup).2.2 e.1 hmem e.1 List.mem_cons_self rfl

/-- The VNFIs are merged, or the report has a status for one that is not stored. -/
theorem run_loop (old sfci : SFCI ρ) :
    (∃ s', ((Grid.entries sfci.vnfiSequence).forM fun e =>
          updateVNFI e.1.1 e.1.2 e.2).run old = .ok () s' ∧
        (∀ e ∈ Grid.entries sfci.vnfiSequence, ¬ Missing old e) ∧
        s' = mergedAt old sfci ((Grid.entries sfci.vnfiSequence).map Prod.fst)) ∨
      ((∃ e ∈ Grid.entries sfci.vnfiSequence, Missing old e) ∧
        ∃ e s', ((Grid.entries sfci.vnfiSequence).forM fun e =>
          updateVNFI e.1.1 e.1.2 e.2).run old = .error e s') := by
  apply PyM.run_forM_or (B := Missing old)
    (R := fun done s => s = mergedAt old sfci (done.map Prod.fst))
  · exact (mergedAt_nil old sfci).symm
  · rintro done ⟨p, vnfi⟩ rest s hentries rfl
    have hp : Grid.at? sfci.vnfiSequence p = some vnfi := by
      rw [← Grid.mem_entries_iff, hentries]
      exact List.mem_append_right _ List.mem_cons_self
    have hnew : p ∉ done.map Prod.fst :=
      fst_notMem_of_nodup Grid.nodup_places hentries
    rw [List.map_append]
    exact run_updateVNFI hp hnew

theorem mergedAt_entries (old sfci : SFCI ρ) :
    mergedAt old sfci ((Grid.entries sfci.vnfiSequence).map Prod.fst) =
      { old with vnfiSequence := old.mergedSequence sfci } := by
  rw [mergedAt]
  congr 1
  apply Grid.mapAt_congr
  intro p vnfi
  rw [mergeAt]
  split
  · rfl
  · next hnot =>
      have hnone : Grid.at? sfci.vnfiSequence p = none :=
        not_not.mp (mt Grid.mem_map_fst_entries_iff.mpr hnot)
      rw [hnone, mergedWith_of_none rfl]

theorem mergedSequence_eq_nil_iff {old sfci : SFCI ρ} :
    old.mergedSequence sfci = [] ↔ old.vnfiSequence = [] :=
  List.mapIdx_eq_nil_iff

def updatedSFCI (old sfci : SFCI ρ) (slo : SLO) : SFCI ρ :=
  { sfciID := old.sfciID
    vnfiSequence := old.mergedSequence sfci
    sloRealTimeValue := some { slo with throughput := some 0, dropRate := some 0 }
    forwardingPathSet := sfci.forwardingPathSet
    routingMorphic := sfci.routingMorphic }

theorem run_updateSFCISLO_of_nil (sfci : SFCI ρ) (h : sfci.vnfiSequence = []) :
    updateSFCISLO.run sfci = .error .indexError sfci := by
  rw [updateSFCISLO, PyM.run_bind_get, h]
  rfl

theorem run_updateSFCISLO (sfci : SFCI ρ) (hstages : sfci.vnfiSequence ≠ []) :
    updateSFCISLO.run sfci =
      match sfci.sloRealTimeValue with
      | none => .error .attributeError sfci
      | some slo => .ok () { sfci with
          sloRealTimeValue := some { slo with
            throughput := some 0
            dropRate := some 0 } } := by
  have hfirst : itemAt sfci.vnfiSequence 0 =
      .ok (sfci.vnfiSequence.head hstages) :=
    itemAt_zero_eq_ok_iff.mpr (List.head?_eq_some_head hstages)
  have hlast : itemFromEnd sfci.vnfiSequence 1 =
      .ok (sfci.vnfiSequence.getLast hstages) :=
    itemFromEnd_one_eq_ok_iff.mpr (List.getLast?_eq_some_getLast hstages)
  rw [updateSFCISLO, PyM.run_bind_get, hfirst, hlast]
  simp only [trafficSum_eq_zero]
  cases sfci.sloRealTimeValue with
  | none => rfl
  | some slo => rfl

theorem run_updateSFCI (old sfci : SFCI ρ) :
    (∃ slo, old.sloRealTimeValue = some slo ∧ Updatable old sfci ∧
        (updateSFCI sfci).run old = .ok () (updatedSFCI old sfci slo)) ∨
      (¬ Updatable old sfci ∧ ∃ e s', (updateSFCI sfci).run old = .error e s') := by
  rw [updateSFCI, loop_eq]
  obtain ⟨s', hrun, hplaces, rfl⟩ | ⟨⟨⟨p, vnfi⟩, hmem, hmissing⟩, e, s', hrun⟩ :=
    run_loop old sfci
  · rw [PyM.run_bind_ok hrun, mergedAt_entries]
    by_cases hstages : old.vnfiSequence = []
    · have hslo := run_updateSFCISLO_of_nil
        { old with vnfiSequence := old.mergedSequence sfci }
        (mergedSequence_eq_nil_iff.mpr hstages)
      exact Or.inr ⟨fun h => h.stages hstages, _, _, PyM.run_bind_error hslo _⟩
    · have hrunSLO := run_updateSFCISLO
        { old with vnfiSequence := old.mergedSequence sfci }
        (mt mergedSequence_eq_nil_iff.mp hstages)
      cases hslo : old.sloRealTimeValue with
      | none =>
          rw [hslo] at hrunSLO
          exact Or.inr ⟨fun h => h.slo hslo, _, _, PyM.run_bind_error hrunSLO _⟩
      | some slo =>
          rw [hslo] at hrunSLO
          refine Or.inl ⟨slo, rfl, ⟨?_, hstages, ?_⟩, ?_⟩
          · intro p vnfi hp hstatus hnone
            exact hplaces (p, vnfi) (Grid.mem_entries_iff.mpr hp) ⟨hstatus, hnone⟩
          · rw [hslo]
            exact Option.some_ne_none slo
          · rw [PyM.run_bind_ok hrunSLO]
            rfl
  · refine Or.inr ⟨fun h => ?_, e, s', PyM.run_bind_error hrun _⟩
    exact h.places p vnfi (Grid.mem_entries_iff.mp hmem) hmissing.1 hmissing.2

/-! ## The report of a zone -/

section Report

variable {sfcis s : Sfcis ρ} {zoneName : Zone} {stored : Dict Nat (SFCI ρ)}
  {sfciID : Nat} {sfci : SFCI ρ} {done : List (Nat × SFCI ρ)}

theorem stored?_set (hstored : s.get? zoneName = some stored) (after : SFCI ρ)
    (sfciID' : Nat) :
    stored? (s.set zoneName (stored.set sfciID after)) zoneName sfciID' =
      if sfciID' = sfciID then some after else stored? s zoneName sfciID' := by
  rw [stored?, stored?, Dict.get?_set_self, Option.bind_some, Dict.get?_set,
    hstored, Option.bind_some]

/-- The SFCIs of a part of the report have been taken over. -/
structure Reached (sfcis : Sfcis ρ) (zoneName : Zone) (done : List (Nat × SFCI ρ))
    (s : Sfcis ρ) : Prop where
  zone : s.get? zoneName ≠ none
  others : ∀ sfciID, sfciID ∉ done.map Prod.fst →
    stored? s zoneName sfciID = stored? sfcis zoneName sfciID
  taken : ∀ sfciID sfci old, (sfciID, sfci) ∈ done →
    stored? sfcis zoneName sfciID = some old →
      ∃ slo, stored? s zoneName sfciID = some (updatedSFCI old sfci slo)

theorem Reached.set (h : Reached sfcis zoneName done s)
    (hstored : s.get? zoneName = some stored) (hnew : sfciID ∉ done.map Prod.fst)
    {after : SFCI ρ}
    (hafter : ∀ old, stored? sfcis zoneName sfciID = some old →
      ∃ slo, after = updatedSFCI old sfci slo) :
    Reached sfcis zoneName (done ++ [(sfciID, sfci)])
      (s.set zoneName (stored.set sfciID after)) where
  zone := by
    rw [Dict.get?_set_self]
    exact Option.some_ne_none _
  others := by
    intro sfciID' hnot
    rw [List.map_append, List.mem_append, not_or] at hnot
    rw [stored?_set hstored, if_neg, h.others sfciID' hnot.1]
    exact fun heq => hnot.2 (List.mem_singleton.mpr heq)
  taken := by
    intro sfciID' sfci' old hmem hold
    rw [stored?_set hstored]
    obtain hdone | hlast := List.mem_append.mp hmem
    · rw [if_neg]
      · exact h.taken sfciID' sfci' old hdone hold
      · rintro rfl
        exact hnew (List.mem_map_of_mem hdone)
    · obtain ⟨rfl, rfl⟩ := Prod.mk.inj (List.mem_singleton.mp hlast)
      obtain ⟨slo, rfl⟩ := hafter old hold
      exact ⟨slo, if_pos rfl⟩

def Fails (sfcis : Sfcis ρ) (zoneName : Zone) (e : Nat × SFCI ρ) : Prop :=
  ∃ old, stored? sfcis zoneName e.1 = some old ∧ ¬ Updatable old e.2

theorem run_updateStored (h : Reached sfcis zoneName done s)
    (hnew : sfciID ∉ done.map Prod.fst) :
    (∃ s', (updateStored zoneName sfciID sfci).run s = .ok () s' ∧
        ¬ Fails sfcis zoneName (sfciID, sfci) ∧
        Reached sfcis zoneName (done ++ [(sfciID, sfci)]) s') ∨
      (Fails sfcis zoneName (sfciID, sfci) ∧
        ∃ e s', (updateStored zoneName sfciID sfci).run s = .error e s') := by
  obtain ⟨stored, hstored⟩ := Option.ne_none_iff_exists'.mp h.zone
  have hold := h.others sfciID hnew
  rw [stored?, hstored, Option.bind_some] at hold
  rw [updateStored, PyM.run_bind_get, PyM.run_bind_ofOption hstored]
  cases hget : stored.get? sfciID with
  | none =>
      rw [hget] at hold
      refine Or.inl ⟨_, rfl, ?_, h.set hstored hnew ?_⟩
      · rintro ⟨old, hsome, -⟩
        rw [← hold] at hsome
        cases hsome
      · intro old hsome
        rw [← hold] at hsome
        cases hsome
  | some old =>
      rw [hget] at hold
      obtain ⟨slo, -, hupdatable, hrun⟩ | ⟨hnot, e, s', hrun⟩ :=
        run_updateSFCI old sfci
      · refine Or.inl ⟨_, PyM.run_zoom_ok hrun, ?_, h.set hstored hnew ?_⟩
        · rintro ⟨old', hsome, hnot⟩
          obtain rfl := Option.some.inj (hold.trans hsome)
          exact hnot hupdatable
        · intro old' hsome
          obtain rfl := Option.some.inj (hold.trans hsome)
          exact ⟨slo, rfl⟩
      · exact Or.inr ⟨⟨old, hold.symm, hnot⟩, e, _, PyM.run_zoom_error hrun⟩

theorem run_updatePartialSFCIsByZone (sfcis : Sfcis ρ)
    (sfcisDict : Dict Nat (SFCI ρ)) (zoneName : Zone) :
    (∃ s', (updatePartialSFCIsByZone sfcisDict zoneName).run sfcis = .ok () s' ∧
        (∀ e ∈ sfcisDict.items, ¬ Fails sfcis zoneName e) ∧
        Reached sfcis zoneName sfcisDict.items s') ∨
      ((∃ e ∈ sfcisDict.items, Fails sfcis zoneName e) ∧
        ∃ e s', (updatePartialSFCIsByZone sfcisDict zoneName).run sfcis =
          .error e s') := by
  have hloop : ∀ s, s.get? zoneName ≠ none →
      (∀ sfciID, stored? s zoneName sfciID = stored? sfcis zoneName sfciID) →
      (∃ s', (sfcisDict.items.forM fun (sfciID, sfci) =>
          updateStored zoneName sfciID sfci).run s = .ok () s' ∧
        (∀ e ∈ sfcisDict.items, ¬ Fails sfcis zoneName e) ∧
        Reached sfcis zoneName sfcisDict.items s') ∨
      ((∃ e ∈ sfcisDict.items, Fails sfcis zoneName e) ∧
        ∃ e s', (sfcisDict.items.forM fun (sfciID, sfci) =>
          updateStored zoneName sfciID sfci).run s = .error e s') := by
    intro s hzone hsame
    apply PyM.run_forM_or
    · exact ⟨hzone, fun sfciID _ => hsame sfciID, fun _ _ _ => nofun⟩
    · rintro done ⟨sfciID, sfci⟩ rest s hitems hreached
      exact run_updateStored hreached (fst_notMem_of_nodup sfcisDict.nodup_keys hitems)
  rw [updatePartialSFCIsByZone, PyM.run_bind_get]
  cases hzone : sfcis.contains zoneName with
  | true =>
      exact hloop sfcis (Dict.contains_eq_true_iff.mp hzone) fun _ => rfl
  | false =>
      have hnone : sfcis.get? zoneName = none := by
        rw [Dict.contains] at hzone
        exact Option.not_isSome_iff_eq_none.mp (by simp [hzone])
      refine hloop (sfcis.set zoneName Dict.empty) ?_ fun sfciID => ?_
      · rw [Dict.get?_set_self]
        exact Option.some_ne_none _
      · rw [stored?, stored?, Dict.get?_set_self, hnone]
        rfl

theorem rightAfter_iff {old : SFCI ρ} {slo : SLO} :
    RightAfter old sfci (updatedSFCI old sfci slo) ↔ Idle old sfci := by
  constructor
  · rintro ⟨-, slo', dropRate, hslo, hthroughput, hdropRate, hloss, -⟩
    obtain rfl := Option.some.inj hslo
    obtain rfl := Option.some.inj hdropRate
    have houtput : outputOf (old.mergedSequence sfci) = 0 :=
      (Option.some.inj hthroughput).symm
    refine ⟨?_, houtput⟩
    have hzero : lossRate (inputOf (old.mergedSequence sfci))
        (outputOf (old.mergedSequence sfci)) = 0 := hloss.symm
    rw [houtput] at hzero
    exact lossRate_zero_eq_zero_iff.mp hzero
  · intro h
    refine ⟨rfl, _, 0, rfl, congrArg some h.output.symm, rfl, ?_, le_rfl,
      by norm_num⟩
    show 0 = lossRate (inputOf (old.mergedSequence sfci))
      (outputOf (old.mergedSequence sfci))
    rw [h.input, h.output]
    exact (lossRate_zero_eq_zero_iff.mpr rfl).symm

/-- A report is taken over rightly exactly if it can be taken over and no SFCI of
it that is stored has traffic at its ends. -/
theorem takenOver_iff (sfcis : Sfcis ρ) (sfcisDict : Dict Nat (SFCI ρ))
    (zoneName : Zone) :
    TakenOver sfcis sfcisDict zoneName ↔
      ∀ sfciID old sfci, stored? sfcis zoneName sfciID = some old →
        sfcisDict.get? sfciID = some sfci →
          Updatable old sfci ∧ Idle old sfci := by
  obtain ⟨s', hrun, hgood, hreached⟩ | ⟨⟨⟨sfciID, sfci⟩, hmem, old, hold, hnot⟩,
    e, s', hrun⟩ := run_updatePartialSFCIsByZone sfcis sfcisDict zoneName
  · constructor
    · rintro ⟨s'', hrun', hright⟩ sfciID old sfci hold hsfci
      obtain rfl : s' = s'' := by
        rw [hrun] at hrun'
        cases hrun'
        rfl
      have hmem := Dict.mem_items_iff.mpr hsfci
      obtain ⟨slo, hafter⟩ := hreached.taken sfciID sfci old hmem hold
      obtain ⟨after, hafter', hrightAfter⟩ := hright sfciID old sfci hold hsfci
      obtain rfl := Option.some.inj (hafter.symm.trans hafter')
      refine ⟨?_, rightAfter_iff.mp hrightAfter⟩
      by_contra hnot
      exact hgood (sfciID, sfci) hmem ⟨old, hold, hnot⟩
    · intro h
      refine ⟨s', hrun, fun sfciID old sfci hold hsfci => ?_⟩
      obtain ⟨slo, hafter⟩ := hreached.taken sfciID sfci old
        (Dict.mem_items_iff.mpr hsfci) hold
      exact ⟨_, hafter, rightAfter_iff.mpr (h sfciID old sfci hold hsfci).2⟩
  · apply iff_of_false
    · rintro ⟨s'', hrun', -⟩
      rw [hrun] at hrun'
      cases hrun'
    · intro h
      exact hnot (h sfciID old sfci hold (Dict.mem_items_iff.mp hmem)).1

def sfciOf (outputTrafficAmount : Option Amount) (slo : Option SLO) : SFCI Unit where
  sfciID := 1
  vnfiSequence := [[⟨⟨0, 1⟩, some
    ⟨none, none, outputTrafficAmount, none, none⟩⟩]]
  sloRealTimeValue := slo
  forwardingPathSet := none
  routingMorphic := none

/-- A stored SFCI of which nothing is known but an SLO. -/
def storedSfcis : Sfcis Unit :=
  Dict.empty.set .turbonet (Dict.empty.set 1
    (sfciOf none (some ⟨none, none, none, none, none⟩)))

def sentReport : Dict Nat (SFCI Unit) :=
  Dict.empty.set 1 (sfciOf (some (.dict (Dict.empty.set 0 100))) none)

theorem updatable_sentReport (sfciID : Nat) (old sfci : SFCI Unit)
    (hold : stored? storedSfcis .turbonet sfciID = some old)
    (hsfci : sentReport.get? sfciID = some sfci) : Updatable old sfci := by
  rw [sentReport, Dict.get?_set] at hsfci
  split at hsfci
  · next heq =>
      subst heq
      obtain rfl := Option.some.inj hold
      obtain rfl := Option.some.inj hsfci
      refine ⟨?_, List.cons_ne_nil _ _, Option.some_ne_none _⟩
      rintro ⟨_ | i, _ | j⟩ vnfi hp _
      · exact Option.some_ne_none _
      · cases hp
      · cases hp
      · cases hp
  · cases hsfci

/-- The VNFI of a stored SFCI is reported to have sent 100 bytes, and the throughput
of the SFCI is zero. -/
theorem not_takenOver_sent : ¬ ∀ (sfcis : Sfcis Unit)
    (sfcisDict : Dict Nat (SFCI Unit)) (zoneName : Zone),
    (∀ sfciID old sfci, stored? sfcis zoneName sfciID = some old →
      sfcisDict.get? sfciID = some sfci → Updatable old sfci) →
        TakenOver sfcis sfcisDict zoneName := by
  intro h
  obtain ⟨s', hrun, hright⟩ := h storedSfcis sentReport .turbonet updatable_sentReport
  obtain ⟨after, hafter, hrightAfter⟩ := hright 1 _ _ rfl rfl
  obtain ⟨s'', hrun', -, hreached⟩ | ⟨-, e, s'', hrun'⟩ :=
    run_updatePartialSFCIsByZone storedSfcis sentReport .turbonet
  · rw [hrun] at hrun'
    cases hrun'
    obtain ⟨slo, htaken⟩ := hreached.taken 1 _ _ List.mem_cons_self rfl
    obtain rfl := Option.some.inj (htaken.symm.trans hafter)
    have hidle := (rightAfter_iff.mp hrightAfter).output
    revert hidle
    decide +kernel
  · rw [hrun] at hrun'
    cases hrun'

end Report

end SelfAdaptiveMano.Measurement

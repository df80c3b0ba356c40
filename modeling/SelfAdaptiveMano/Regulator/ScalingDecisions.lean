import SelfAdaptiveMano.Regulator.ScalingTasks
import Mathlib.Data.List.Sort

/-!
# What a scaling decision asks for

A decision counts the SFCIs of the SFC that are there, and asks for as many more
as the target needs, or for the deletion of those that are too many. Since the
target is bounded by the maximal number of the SFC, scaling out never asks for
too many.

For scaling in, the SFCIs to delete are taken from the sorted list of all
identifiers that the SFC was ever given. The list keeps the identifiers of
SFCIs that are deleted, and the smallest of them are the oldest.
-/

namespace SelfAdaptiveMano.Regulator.SFCScalingProcessor

open Library

section Ranks

variable {α : Type*} [LinearOrder α]

/-- Among the first `k` of a sorted list are those with fewer than `k` smaller
ones. -/
theorem mem_take_iff_countP_lt {l : List α} (hl : l.Pairwise (· ≤ ·)) {a : α}
    (ha : a ∈ l) (k : Nat) : a ∈ l.take k ↔ l.countP (· < a) < k := by
  induction l generalizing k with
  | nil => cases ha
  | cons b l ih =>
      obtain ⟨hb, hl⟩ := List.pairwise_cons.mp hl
      cases k with
      | zero => simp
      | succ k =>
          rw [List.take_succ_cons, List.countP_cons]
          by_cases hlt : b < a
          · have hmem : a ∈ l := (List.mem_cons.mp ha).resolve_left hlt.ne'
            rw [if_pos (decide_eq_true hlt), Nat.add_lt_add_iff_right,
              ← ih hl hmem, List.mem_cons]
            exact or_iff_right hlt.ne'
          · -- nothing in the list is smaller, and `a` is its head
            have hle : a ≤ b := not_lt.mp hlt
            have hhead : a = b := by
              obtain heq | hmem := List.mem_cons.mp ha
              · exact heq
              · exact le_antisymm hle (hb a hmem)
            have hnone : l.countP (· < a) = 0 := by
              rw [List.countP_eq_zero]
              intro c hc hca
              exact absurd (hle.trans (hb c hc))
                (not_le.mpr (of_decide_eq_true hca))
            have hfirst : a ∈ b :: l.take k := List.mem_cons.mpr (Or.inl hhead)
            simp [hfirst, hnone, hlt]

end Ranks

variable {s : SFCScalingProcessor} {sfcUUID : UUID} {row : ScalingRow}
  {needed : Nat}

def currentNum (s : SFCScalingProcessor) (row : ScalingRow) : Nat :=
  s.oib.getCurrentValidSFCINum row.sfciIDList

def targetNum (row : ScalingRow) (needed : Nat) : Nat :=
  max (min (max 1 needed) row.maxScalingInstanceNumber) 1

/-- The load of the SFC that `updateSFCLoad` stores. -/
def MeasuredLoad (s : SFCScalingProcessor) (sfcUUID : UUID) (row : ScalingRow)
    (needed : Nat) (load : SFCLoad) : Prop :=
  (s.updateSFCLoad sfcUUID row.sfciIDList needed).sfcLoadStateDict.get?
    sfcUUID = some load

def ScalesOut (s : SFCScalingProcessor) (sfcUUID : UUID) (row : ScalingRow)
    (needed : Nat) : Prop :=
  ∃ load, MeasuredLoad s sfcUUID row needed load ∧
    isOverLoadCondition row load = true

def ScalesIn (s : SFCScalingProcessor) (sfcUUID : UUID) (row : ScalingRow)
    (needed : Nat) : Prop :=
  ∃ load, MeasuredLoad s sfcUUID row needed load ∧
    isOverLoadCondition row load = false ∧ isUnderLoadCondition row load = true

def requests (requestType : RequestType) (sfcUUID : UUID) (row : ScalingRow)
    (ids : List Int) : List ScalingRequest :=
  ids.map fun sfciID => ⟨requestType, sfcUUID, sfciID, some row.zoneName⟩

/-- Scaling in asks for the deletion of `ACTIVE` SFCIs, as many as there are
more than the target and never all of them; with the SFCIs that scaling out asks
for there are not more than the maximal number. -/
structure DecisionRight (s : SFCScalingProcessor) (sfcUUID : UUID)
    (row : ScalingRow) (needed : Nat) : Prop where
  scalesIn : ScalesIn s sfcUUID row needed →
    ∃ ids, (s.scalingHandler sfcUUID needed).sent =
        s.sent ++ requests .delSFCI sfcUUID row ids ∧
      ids.Nodup ∧ (∀ sfciID ∈ ids, sfciID ∈ row.sfciIDList ∧
        s.oib.getSFCIState sfciID = some .active) ∧
      ids.length + targetNum row needed = currentNum s row ∧
      ids.length < currentNum s row
  scalesOut : ScalesOut s sfcUUID row needed →
    ∃ ids, (s.scalingHandler sfcUUID needed).sent =
        s.sent ++ requests .addSFCI sfcUUID row ids ∧
      currentNum s row + ids.length ≤ row.maxScalingInstanceNumber

/-- Each SFCI of the SFC that is not `ACTIVE` comes after as many of its
identifiers as there are SFCIs too many. -/
def OthersLater (s : SFCScalingProcessor) (row : ScalingRow) (needed : Nat) :
    Prop :=
  ∀ sfciID ∈ row.sfciIDList, s.oib.getSFCIState sfciID ≠ some .active →
    currentNum s row - targetNum row needed ≤
      row.sfciIDList.countP (· < sfciID)

section Requests

theorem sent_foldl {α : Type} {f : SFCScalingProcessor → α → SFCScalingProcessor}
    {requestType : RequestType}
    (hf : ∀ s' a, s'.oib.getSFCZone4DB sfcUUID = some row.zoneName →
      (f s' a).oib = s'.oib ∧ ∃ sfciID, (f s' a).sent =
        s'.sent ++ requests requestType sfcUUID row [sfciID])
    (l : List α) (hzone : s.oib.getSFCZone4DB sfcUUID = some row.zoneName) :
    ∃ ids, ids.length = l.length ∧ (l.foldl f s).sent =
      s.sent ++ requests requestType sfcUUID row ids := by
  induction l generalizing s with
  | nil => exact ⟨[], rfl, (List.append_nil _).symm⟩
  | cons a l ih =>
      obtain ⟨hoib, sfciID, hsent⟩ := hf s a hzone
      obtain ⟨ids, hlength, hrest⟩ := ih (s := f s a) (hoib ▸ hzone)
      refine ⟨sfciID :: ids, congrArg Nat.succ hlength, ?_⟩
      rw [List.foldl_cons, hrest, hsent, List.append_assoc]
      rfl

theorem sent_scalingOutSFC (load : SFCLoad)
    (hzone : s.oib.getSFCZone4DB sfcUUID = some row.zoneName) :
    ∃ ids, ids.length = (getDeltaSFCINum row load).natAbs ∧
      (s.scalingOutSFC sfcUUID row load).sent =
        s.sent ++ requests .addSFCI sfcUUID row ids := by
  let sfciIDList := s.oib.getDeletedOrInitFailedStateSFCIIDList sfcUUID
  have hturn : ∀ (s' : SFCScalingProcessor) (idx : Nat),
      s'.oib.getSFCZone4DB sfcUUID = some row.zoneName →
        (addOne sfcUUID sfciIDList s' idx).oib = s'.oib ∧
        ∃ sfciID, (addOne sfcUUID sfciIDList s' idx).sent =
          s'.sent ++ requests .addSFCI sfcUUID row [sfciID] := by
    intro s' idx hzone'
    refine ⟨rfl, ?_⟩
    unfold addOne
    rw [hzone']
    exact ⟨_, rfl⟩
  obtain ⟨ids, hlength, hsent⟩ := sent_foldl (s := s.forget sfcUUID) hturn
    (List.range (getDeltaSFCINum row load).natAbs) hzone
  exact ⟨ids, hlength.trans List.length_range, hsent⟩

theorem sent_scalingInSFC (load : SFCLoad)
    (hzone : s.oib.getSFCZone4DB sfcUUID = some row.zoneName) :
    (s.scalingInSFC sfcUUID row load).sent = s.sent ++
      requests .delSFCI sfcUUID row
        (((s.oib.getSFCIIDListOfASFC4DB sfcUUID).mergeSort
          fun a b => a ≤ b).take (getDeltaSFCINum row load).natAbs) := by
  rw [scalingInSFC, hzone]
  generalize ((s.oib.getSFCIIDListOfASFC4DB sfcUUID).mergeSort
    fun a b => a ≤ b).take (getDeltaSFCINum row load).natAbs = ids
  change (ids.foldl (deleteOne sfcUUID (some row.zoneName))
    (s.forget sfcUUID)).sent = (s.forget sfcUUID).sent ++ _
  generalize s.forget sfcUUID = s'
  induction ids generalizing s' with
  | nil => exact (List.append_nil _).symm
  | cons sfciID ids ih =>
      rw [List.foldl_cons, ih, deleteOne, List.append_assoc]
      rfl

end Requests

section Decided

theorem MeasuredLoad.measured {load : SFCLoad}
    (h : MeasuredLoad s sfcUUID row needed load) :
    Measured s.oib row.sfciIDList load ∧
      load.targetSFCINum = max 1 needed := by
  obtain ⟨load', hload', hmeasured⟩ :=
    updateSFCLoad_spec s sfcUUID row.sfciIDList needed
  obtain rfl := Option.some.inj (h.symm.trans hload')
  refine ⟨hmeasured, ?_⟩
  obtain rfl := Option.some.inj ((Dict.get?_set_self ..).symm.trans h)
  rfl

theorem scalingHandler_of_measured {load : SFCLoad}
    (hrow : s.oib.sfcTable.get? sfcUUID = some row)
    (hload : MeasuredLoad s sfcUUID row needed load) :
    s.scalingHandler sfcUUID needed =
      (s.updateSFCLoad sfcUUID row.sfciIDList needed).processAbnormalLoadSFC
        sfcUUID row load := by
  rw [MeasuredLoad] at hload
  simp only [scalingHandler, hrow, hload]

theorem getSFCZone4DB_updateSFCState (oib : ScalingBase) (sfcUUID' : UUID)
    (state : SFCState) (sfcUUID : UUID) :
    (oib.updateSFCState sfcUUID' state).getSFCZone4DB sfcUUID =
      oib.getSFCZone4DB sfcUUID := by
  simp only [ScalingBase.getSFCZone4DB, ScalingBase.updateSFCState,
    Dict.get?_modify]
  split
  · next heq =>
      rw [heq, Option.map_map]
      rfl
  · rfl

theorem getSFCIIDListOfASFC4DB_updateSFCState (oib : ScalingBase)
    (sfcUUID' : UUID) (state : SFCState) (sfcUUID : UUID) :
    (oib.updateSFCState sfcUUID' state).getSFCIIDListOfASFC4DB sfcUUID =
      oib.getSFCIIDListOfASFC4DB sfcUUID := by
  simp only [ScalingBase.getSFCIIDListOfASFC4DB, ScalingBase.updateSFCState,
    Dict.get?_modify]
  split
  · next heq =>
      rw [heq]
      cases oib.sfcTable.get? sfcUUID' <;> rfl
  · rfl

theorem getSFCZone4DB_of_row (hrow : s.oib.sfcTable.get? sfcUUID = some row) :
    s.oib.getSFCZone4DB sfcUUID = some row.zoneName := by
  rw [ScalingBase.getSFCZone4DB, hrow]
  rfl

theorem sent_of_scalesOut (hrow : s.oib.sfcTable.get? sfcUUID = some row)
    (hout : ScalesOut s sfcUUID row needed) :
    ∃ ids, (s.scalingHandler sfcUUID needed).sent =
        s.sent ++ requests .addSFCI sfcUUID row ids ∧
      currentNum s row + ids.length = targetNum row needed ∧
      currentNum s row < row.maxScalingInstanceNumber := by
  obtain ⟨load, hload, hover⟩ := hout
  obtain ⟨hmeasured, htarget⟩ := hload.measured
  obtain ⟨hmax, hneeds⟩ := hmeasured.lt_of_overload hover
  have hcurrent : load.currentValidSFCINum = currentNum s row :=
    hmeasured.current
  rw [scalingHandler_of_measured hrow hload, processAbnormalLoadSFC,
    if_pos hover]
  obtain ⟨ids, hlength, hsent⟩ := sent_scalingOutSFC
    (s := { s.updateSFCLoad sfcUUID row.sfciIDList needed with
      oib := s.oib.updateSFCState sfcUUID .scalingOutMode })
    load ((getSFCZone4DB_updateSFCState ..).trans (getSFCZone4DB_of_row hrow))
  refine ⟨ids, hsent, ?_, hcurrent ▸ hmax⟩
  rw [getDeltaSFCINum] at hlength
  rw [targetNum, ← htarget]
  omega

theorem sent_of_scalesIn (hrow : s.oib.sfcTable.get? sfcUUID = some row)
    (hin : ScalesIn s sfcUUID row needed) :
    (s.scalingHandler sfcUUID needed).sent = s.sent ++
        requests .delSFCI sfcUUID row
          ((row.sfciIDList.mergeSort fun a b => a ≤ b).take
            (currentNum s row - targetNum row needed)) ∧
      targetNum row needed < currentNum s row := by
  obtain ⟨load, hload, hover, hunder⟩ := hin
  obtain ⟨hmeasured, htarget⟩ := hload.measured
  have hneeds := hmeasured.lt_of_underload hunder
  have hcurrent : load.currentValidSFCINum = currentNum s row :=
    hmeasured.current
  have hpos := hmeasured.target
  have htoo : targetNum row needed < currentNum s row := by
    rw [targetNum, ← htarget]
    omega
  have hdelta : (getDeltaSFCINum row load).natAbs =
      currentNum s row - targetNum row needed := by
    rw [getDeltaSFCINum, htarget]
    rw [targetNum] at htoo ⊢
    omega
  refine ⟨?_, htoo⟩
  rw [scalingHandler_of_measured hrow hload, processAbnormalLoadSFC,
    if_neg (Bool.not_eq_true _ ▸ hover), if_pos hunder, sent_scalingInSFC load
      ((getSFCZone4DB_updateSFCState ..).trans (getSFCZone4DB_of_row hrow)),
    hdelta, getSFCIIDListOfASFC4DB_updateSFCState]
  simp only [ScalingBase.getSFCIIDListOfASFC4DB, updateSFCLoad, hrow,
    Option.elim_some]

end Decided

theorem requests_injective (requestType : RequestType) (sfcUUID : UUID)
    (row : ScalingRow) :
    Function.Injective (requests requestType sfcUUID row) := by
  refine List.map_injective_iff.mpr fun a b h => ?_
  exact congrArg ScalingRequest.sfciID h

theorem othersLater_iff_take :
    OthersLater s row needed ↔
      ∀ sfciID ∈ (row.sfciIDList.mergeSort fun a b => a ≤ b).take
          (currentNum s row - targetNum row needed),
        s.oib.getSFCIState sfciID = some .active := by
  have hsorted : (row.sfciIDList.mergeSort fun a b => a ≤ b).Pairwise
      (· ≤ ·) := List.pairwise_mergeSort' (· ≤ ·) row.sfciIDList
  have htake : ∀ sfciID ∈ row.sfciIDList,
      sfciID ∈ (row.sfciIDList.mergeSort fun a b => a ≤ b).take
          (currentNum s row - targetNum row needed) ↔
        row.sfciIDList.countP (· < sfciID) <
          currentNum s row - targetNum row needed := by
    intro sfciID hmem
    rw [mem_take_iff_countP_lt hsorted (List.mem_mergeSort.mpr hmem),
      (List.mergeSort_perm ..).countP_eq]
  constructor
  · intro hlater sfciID htaken
    have hmem := List.mem_mergeSort.mp (List.mem_of_mem_take htaken)
    by_contra hinactive
    exact absurd ((htake sfciID hmem).mp htaken)
      (not_lt.mpr (hlater sfciID hmem hinactive))
  · intro h sfciID hmem hinactive
    refine not_lt.mp fun hlt => hinactive ?_
    exact h sfciID ((htake sfciID hmem).mpr hlt)

theorem DecisionRight.othersLater
    (hrow : s.oib.sfcTable.get? sfcUUID = some row)
    (hright : DecisionRight s sfcUUID row needed)
    (hin : ScalesIn s sfcUUID row needed) : OthersLater s row needed := by
  obtain ⟨hsent, -⟩ := sent_of_scalesIn hrow hin
  obtain ⟨ids, hids, -, hactive, -⟩ := hright.scalesIn hin
  have heq := requests_injective _ _ _
    (List.append_cancel_left (hids.symm.trans hsent))
  rw [othersLater_iff_take]
  intro sfciID hmem
  exact (hactive sfciID (heq ▸ hmem)).2

/-- A decision is right exactly if, when it is to scale in, the SFCIs that are
not `ACTIVE` come after as many others as are too many. -/
theorem decisionRight_iff (hrow : s.oib.sfcTable.get? sfcUUID = some row)
    (hnodup : row.sfciIDList.Nodup) :
    DecisionRight s sfcUUID row needed ↔
      (ScalesIn s sfcUUID row needed → OthersLater s row needed) := by
  refine ⟨fun hright => hright.othersLater hrow, fun h => ⟨?_, ?_⟩⟩
  · intro hin
    obtain ⟨hsent, htoo⟩ := sent_of_scalesIn hrow hin
    have hmany : currentNum s row ≤ row.sfciIDList.length :=
      List.countP_le_length
    have hpos : 1 ≤ targetNum row needed := Nat.le_max_right _ _
    refine ⟨_, hsent, ?_, ?_, ?_, ?_⟩
    · exact ((List.mergeSort_perm ..).nodup_iff.mpr hnodup).sublist
        (List.take_sublist ..)
    · intro sfciID hmem
      exact ⟨List.mem_mergeSort.mp (List.mem_of_mem_take hmem),
        othersLater_iff_take.mp (h hin) sfciID hmem⟩
    · rw [List.length_take, List.length_mergeSort]
      omega
    · rw [List.length_take, List.length_mergeSort]
      omega
  · intro hout
    obtain ⟨ids, hsent, htarget, hmax⟩ := sent_of_scalesOut hrow hout
    refine ⟨ids, hsent, ?_⟩
    rw [targetNum] at htarget
    omega

def exampleRow (sfciIDList : List Int) : ScalingRow :=
  ⟨.turbonet, sfciIDList, .active, .autoScale, 2⟩

def startWith (sfciIDList : List Int) (sfciTable : Dict Int SFCState) :
    SFCScalingProcessor :=
  { exampleStart with oib := exampleBase .active sfciIDList sfciTable }

theorem scalesIn_of_startWith {sfciIDList : List Int}
    {sfciTable : Dict Int SFCState}
    (h : (startWith sfciIDList sfciTable).oib.getCurrentValidSFCINum
      sfciIDList = 2) :
    ScalesIn (startWith sfciIDList sfciTable) exampleSFC
      (exampleRow sfciIDList) 1 := by
  refine ⟨⟨[.underload], 2, 1⟩, ?_, rfl, rfl⟩
  rw [MeasuredLoad, updateSFCLoad, exampleRow, h]
  rfl

/-- Two SFCIs are `ACTIVE`, and one is needed: one of them is to be deleted. -/
theorem decisionRight_iff_twoActive :
    ScalesIn (startWith [0, 1] ((Dict.empty.set 0 .active).set 1 .active))
        exampleSFC (exampleRow [0, 1]) 1 ∧
      DecisionRight
        (startWith [0, 1] ((Dict.empty.set 0 .active).set 1 .active))
        exampleSFC (exampleRow [0, 1]) 1 := by
  refine ⟨scalesIn_of_startWith (by decide), ?_⟩
  refine (decisionRight_iff rfl (by decide)).mpr fun _ => ?_
  unfold OthersLater
  decide

/-- SFCI 0 was deleted long ago, and its deletion is asked for again. -/
theorem deleted_sfci_asked_for :
    ¬ ∀ (s : SFCScalingProcessor) (sfcUUID : UUID) (row : ScalingRow)
      (needed : Nat), s.oib.sfcTable.get? sfcUUID = some row →
        row.sfciIDList.Nodup → DecisionRight s sfcUUID row needed := by
  intro h
  have hright := h
    (startWith [0, 1, 2]
      (((Dict.empty.set 0 .deleted).set 1 .active).set 2 .active))
    exampleSFC (exampleRow [0, 1, 2]) 1 rfl (by decide)
  have hlater := hright.othersLater rfl
    (scalesIn_of_startWith (by decide))
  exact absurd (hlater 0 (by decide) (by decide)) (by decide)

end SelfAdaptiveMano.Regulator.SFCScalingProcessor

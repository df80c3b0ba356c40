import Mathlib.Data.List.Lex
import SelfAdaptiveMano.Regulator.AffectedSFCIs
import SelfAdaptiveMano.Regulator.DetectionData
import SelfAdaptiveMano.Regulator.NoticeHandler
import SelfAdaptiveMano.Regulator.WaitingTasks

/-!
# Which notices keep the detection data exact

The data is exact throughout a run whose notices are all harmless
(`exact_of_harmless`): they write to dictionaries that are stored once and repeat
what these hold, the analysis finds all that it looks for, no hit has a task of its
own type, and no element resumes.
-/

namespace SelfAdaptiveMano.Regulator

open Library
open DetectionDataMaintainer (noDuplicates)
open NoticeAnalyzer (getAffectedSFCITupleList Analyzable)

/-- The element has failed or become abnormal, and has not resumed since. -/
def Outstanding : List Notice → String → DetectionKey → DetectionKey →
    ElementID → Prop
  | [], _, _, _, _ => False
  | .failureAbnormal message :: notices, zoneName, detectionType, dataListType,
      data =>
      ((detectionType = .failure ∨ detectionType = .abnormal) ∧
        Holds message.view zoneName detectionType dataListType data) ∨
      Outstanding notices zoneName detectionType dataListType data
  | .resume message :: notices, zoneName, detectionType, dataListType, data =>
      Outstanding notices zoneName detectionType dataListType data ∧
        ¬ Holds message.view zoneName .resume dataListType data

/-- No notice raised, and the data holds exactly the outstanding elements, each
once. -/
structure Exact (r : NoticeRecord) : Prop where
  quiet : r.raised = false
  once : ∀ zoneName detectionType dataListType dataList,
    r.restorer.dM.getAllZoneDetectionDict.dataList? zoneName detectionType
      dataListType = some dataList → dataList.Nodup
  holds : ∀ zoneName detectionType dataListType data,
    Holds r.restorer.dM.getAllZoneDetectionDict zoneName detectionType dataListType
        data ↔
      Outstanding r.notices zoneName detectionType dataListType data

/-- The notice repeats what is stored, and its handling finds all that it looks for
and no task that is in its way. -/
structure HarmlessFailure (modes : SFCModes) (s : DetectingRestorer)
    (all : AllZoneDetectionDict) : Prop where
  written : s.dM.Written all
  repeated : ∀ z t l dataList element, all.dataList? z t l = some dataList →
    Holds s.dM.getAllZoneDetectionDict z t l element → element ∈ dataList
  analyzable : Analyzable s.oib all
  unoccupied : ∀ hits,
    getAffectedSFCITupleList s.stored s.oib s.rTM all = .ok hits →
      ∀ hit ∈ hits, modes.isAutoRecovery hit.sfc = true →
        s.rTM.hasRecoveryTask hit.sfc.sfcUUID hit.sfciID hit.recoveryTaskType = false

def Harmless (modes : SFCModes) (s : DetectingRestorer) : NoticeInput → Prop
  | .notice (.failureAbnormal message) => HarmlessFailure modes s message.view
  | .notice (.resume message) => ∀ z t l element, ¬ Holds message.view z t l element
  | _ => True

/-! ## The handling of a notice -/

section Handling

namespace DetectingRestorer

variable {modes : SFCModes} {order : SetOrder ElementID} {s : DetectingRestorer}
  {all : AllZoneDetectionDict} {hits : List AffectedSFCI}

theorem finalState_handleDetectionDict
    (h : getAffectedSFCITupleList s.stored s.oib s.rTM all = .ok hits) :
    (handleDetectionDict modes all).finalState s =
      { s with toSFCRestorer :=
        SFCRestorer.step modes s.toSFCRestorer (.notice hits) } := by
  rw [handleDetectionDict, PyM.finalState_bind]
  show (PyM.ofExcept (getAffectedSFCITupleList s.stored s.oib s.rTM all) >>=
    _).finalState s = _
  rw [h, PyM.ofExcept_ok_bind, onRestorer, PyM.finalState_zoom]
  rfl

theorem finalState_handleDetectionDict_of_error {e : PyError}
    (h : getAffectedSFCITupleList s.stored s.oib s.rTM all = .error e) :
    (handleDetectionDict modes all).finalState s = s := by
  rw [handleDetectionDict, PyM.finalState_bind]
  show (PyM.ofExcept (getAffectedSFCITupleList s.stored s.oib s.rTM all) >>=
    _).finalState s = _
  rw [h]
  rfl

theorem raises_handleDetectionDict
    (h : getAffectedSFCITupleList s.stored s.oib s.rTM all = .ok hits) :
    (handleDetectionDict modes all).raises s =
      (SFCRestorer.handleDetectionDict modes hits).raises s.toSFCRestorer := by
  have hrun : (handleDetectionDict modes all).run s =
      (onRestorer (SFCRestorer.handleDetectionDict modes hits)).run s := by
    rw [handleDetectionDict, PyM.run_bind_get, h, PyM.ofExcept_ok_bind]
  rw [PyM.raises, PyM.raises, hrun]
  cases hrestorer : (SFCRestorer.handleDetectionDict modes hits).run
      s.toSFCRestorer with
  | ok _ restorer => rw [onRestorer, PyM.run_zoom_ok hrestorer]
  | error e restorer => rw [onRestorer, PyM.run_zoom_error hrestorer]

theorem run_onData {α : Type} {x : PyM DetectionDataMaintainer α} {a : α}
    {dM : DetectionDataMaintainer} (h : x.run s.dM = .ok a dM) :
    (onData x).run s = .ok a { s with dM := dM } :=
  PyM.run_zoom_ok h

/-- What the recovery loop takes for a notice is one of its own inputs. -/
theorem reachable_handleDetectionDict
    (h : (SFCRestorer.machine modes).Reachable s.toSFCRestorer)
    (hpending : s.pending = []) (all : AllZoneDetectionDict) :
    (SFCRestorer.machine modes).Reachable
        ((handleDetectionDict modes all).finalState s).toSFCRestorer ∧
      ((handleDetectionDict modes all).finalState s).dM = s.dM := by
  have hsound := SFCRestorer.sound_of_reachable h
  cases hhits : getAffectedSFCITupleList s.stored s.oib s.rTM all with
  | error e =>
      rw [finalState_handleDetectionDict_of_error hhits]
      exact ⟨h, rfl⟩
  | ok hits =>
      rw [finalState_handleDetectionDict hhits]
      refine ⟨h.step ⟨hpending, ?_, ?_⟩, rfl⟩
      · exact NoticeAnalyzer.nodup_getAffectedSFCITupleList hsound.sfci hhits
      · exact fun hit hhit =>
          NoticeAnalyzer.affected_of_mem hsound.sfci hhits hhit

theorem finalState_processAllDetectionNotice (s : DetectingRestorer) :
    (processAllDetectionNotice modes).finalState s =
      (handleDetectionDict modes s.dM.getAllZoneDetectionDict).finalState s := by
  rw [PyM.finalState, processAllDetectionNotice, PyM.run_bind_get]
  rfl

variable (modes) in
theorem run_failureAbnormalHandler {message : DetectionMessage} {zones : PlacedDict}
    {dM : DetectionDataMaintainer}
    (h : (DetectionDataMaintainer.addMessage order message).run s.dM =
      .ok zones dM) :
    (failureAbnormalHandler modes order message).run s =
      (handleDetectionDict modes (dM.view zones)).run { s with dM := dM } := by
  rw [failureAbnormalHandler, PyM.run_bind_ok (run_onData h), PyM.run_bind_get]

theorem reachable_failureAbnormalHandler
    (h : (SFCRestorer.machine modes).Reachable s.toSFCRestorer)
    (hpending : s.pending = []) (message : DetectionMessage) :
    (SFCRestorer.machine modes).Reachable
      ((failureAbnormalHandler modes order message).finalState s).toSFCRestorer := by
  cases hrun : (DetectionDataMaintainer.addMessage order message).run s.dM with
  | ok zones dM =>
      rw [PyM.finalState, run_failureAbnormalHandler _ hrun]
      exact (reachable_handleDetectionDict (s := { s with dM := dM }) h hpending
        _).1
  | error e dM =>
      rw [failureAbnormalHandler, PyM.finalState_bind, onData,
        PyM.run_zoom_error hrun]
      exact h

variable (order) in
/-- A harmless notice does not raise, and its lists take the places of those that
were stored. -/
theorem failureAbnormalHandler_of_harmless
    (h : (SFCRestorer.machine modes).Reachable s.toSFCRestorer)
    (hpending : s.pending = []) (hread : s.dM.Read) {message : DetectionMessage}
    (hkeyed : Keyed message.view) (hharmless : HarmlessFailure modes s message.view) :
    (failureAbnormalHandler modes order message).raises s = false ∧
      ((failureAbnormalHandler modes order message).finalState s).dM.Read ∧
      ∀ z t l, ((failureAbnormalHandler modes order message).finalState
          s).dM.dataList? z t l =
        ((message.view.dataList? z t l).map fun dataList =>
          order.list dataList.toFinset).or (s.dM.dataList? z t l) := by
  obtain ⟨zones, dM, hrun, hview, hread', hlists⟩ :=
    DetectionDataMaintainer.run_addMessage order hread hkeyed hharmless.written
  have hsound := SFCRestorer.sound_of_reachable h
  obtain ⟨hits, hhits, -⟩ := NoticeAnalyzer.getAffectedSFCITupleList_eq s.stored
    s.rTM hsound.sfci hharmless.analyzable
  have hnoDuplicates : getAffectedSFCITupleList s.stored s.oib s.rTM
      (dM.view zones) = .ok hits := by
    rw [hview, NoticeAnalyzer.getAffectedSFCITupleList_noDuplicates, hhits]
  have hhandler := run_failureAbnormalHandler modes hrun
  have hfinal : ((failureAbnormalHandler modes order message).finalState s).dM =
      dM := by
    rw [PyM.finalState, hhandler]
    exact (reachable_handleDetectionDict (s := { s with dM := dM }) h hpending
      _).2
  refine ⟨?_, hfinal ▸ hread', hfinal ▸ hlists⟩
  rw [PyM.raises, hhandler]
  refine (raises_handleDetectionDict (s := { s with dM := dM })
    hnoDuplicates).trans ?_
  have hnodup := NoticeAnalyzer.nodup_getAffectedSFCITupleList hsound.sfci hhits
  rw [← Bool.not_eq_true, SFCRestorer.raises_handleDetectionDict hnodup]
  rintro ⟨hit, hhit, hauto, htask⟩
  rw [hharmless.unoccupied hits hhits hit hhit hauto] at htask
  cases htask

end DetectingRestorer

end Handling

/-! ## Runs -/

section Runs

variable {modes : SFCModes} {order : SetOrder ElementID} {r : NoticeRecord}

/-- The recovery loop of the Regulator that takes notices goes through states of
the recovery loop alone. -/
theorem reachable_step {i : NoticeInput}
    (h : (SFCRestorer.machine modes).Reachable r.restorer.toSFCRestorer)
    (hi : (noticeMachine modes order).admits r i) :
    (SFCRestorer.machine modes).Reachable
      ((noticeMachine modes order).step r i).restorer.toSFCRestorer := by
  cases i with
  | notice notice =>
      cases notice with
      | failureAbnormal message =>
          exact DetectingRestorer.reachable_failureAbnormalHandler h hi.1 message
      | resume message =>
          show (SFCRestorer.machine modes).Reachable
            ((DetectingRestorer.resumeHandler message).finalState
              r.restorer).toSFCRestorer
          rw [DetectingRestorer.resumeHandler, DetectingRestorer.onData,
            PyM.finalState_zoom]
          exact h
  | processAll =>
      show (SFCRestorer.machine modes).Reachable
        ((DetectingRestorer.processAllDetectionNotice modes).finalState
          r.restorer).toSFCRestorer
      rw [DetectingRestorer.finalState_processAllDetectionNotice]
      exact (DetectingRestorer.reachable_handleDetectionDict h hi _).1
  | recovery i => exact h.step hi.2
  | paths stored => exact h

variable (order) in
/-- Lists that take the places of others and repeat them: they hold what the lists
of the notice hold, and what was held before. -/
theorem exists_mem_or_iff {named before : Option (List ElementID)}
    {element : ElementID}
    (hrepeated : ∀ dataList ∈ named,
      (∃ dataList' ∈ before, element ∈ dataList') → element ∈ dataList) :
    (∃ dataList ∈ (named.map fun dataList => order.list dataList.toFinset).or before,
        element ∈ dataList) ↔
      (∃ dataList ∈ named, element ∈ dataList) ∨
        ∃ dataList ∈ before, element ∈ dataList := by
  cases named with
  | none => simp
  | some dataList =>
      have hbefore := hrepeated dataList rfl
      simp only [Option.map_some, Option.some_or, Option.mem_def,
        Option.some.injEq, exists_eq_left', SetOrder.mem_list, List.mem_toFinset]
      constructor
      · exact Or.inl
      · rintro (hmem | hheld)
        · exact hmem
        · exact hbefore hheld

theorem Exact.failureAbnormal {message : DetectionMessage} (hr : Exact r)
    (h : (SFCRestorer.machine modes).Reachable r.restorer.toSFCRestorer)
    (hread : r.restorer.dM.Read)
    (hi : (noticeMachine modes order).admits r
      (.notice (.failureAbnormal message)))
    (hharmless : HarmlessFailure modes r.restorer message.view) :
    let r' := (noticeMachine modes order).step r
      (.notice (.failureAbnormal message))
    Exact r' ∧ r'.restorer.dM.Read := by
  obtain ⟨hpending, hkeyed, htypes⟩ := hi
  obtain ⟨hquiet, hread', hlist⟩ :=
    DetectingRestorer.failureAbnormalHandler_of_harmless order h hpending hread
      hkeyed hharmless
  refine ⟨⟨?_, ?_, ?_⟩, hread'⟩
  · show (r.raised || _) = false
    rw [hr.quiet, Bool.false_or]
    exact hquiet
  · intro z t l dataList hdataList
    replace hdataList := (hlist z t l).symm.trans hdataList
    cases hnamed : message.view.dataList? z t l with
    | none =>
        rw [hnamed] at hdataList
        exact hr.once z t l dataList hdataList
    | some named =>
        rw [hnamed, Option.map_some, Option.some_or, Option.some.injEq] at hdataList
        subst hdataList
        exact order.nodup_list _
  · intro z t l element
    have hholds : Holds ((noticeMachine modes order).step r
        (.notice (.failureAbnormal message))).restorer.dM.getAllZoneDetectionDict
          z t l element ↔
        Holds message.view z t l element ∨
          Holds r.restorer.dM.getAllZoneDetectionDict z t l element := by
      refine Iff.trans ?_ (exists_mem_or_iff order
        fun dataList hdataList => hharmless.repeated z t l dataList element hdataList)
      rw [← DetectionDataMaintainer.dataList?, ← hlist]
      rfl
    have hout : Outstanding ((noticeMachine modes order).step r
        (.notice (.failureAbnormal message))).notices z t l element ↔
          ((t = .failure ∨ t = .abnormal) ∧ Holds message.view z t l element) ∨
            Outstanding r.notices z t l element := Iff.rfl
    rw [hholds, hout, ← hr.holds, and_iff_right_of_imp (htypes z t l element)]

theorem Exact.resume {message : DetectionMessage} (hr : Exact r)
    (hharmless : ∀ z t l element, ¬ Holds message.view z t l element) :
    let r' := (noticeMachine modes order).step r (.notice (.resume message))
    Exact r' ∧ r'.restorer.dM = r.restorer.dM := by
  have hrun : (DetectingRestorer.handle modes order (.resume message)).run
      r.restorer = .ok () r.restorer :=
    DetectingRestorer.run_onData
      (DetectionDataMaintainer.run_processResumeData hharmless r.restorer.dM)
  have hstep : (noticeMachine modes order).step r (.notice (.resume message)) =
      ⟨r.restorer, .resume message :: r.notices, r.raised⟩ := by
    show NoticeRecord.mk _ _ _ = _
    rw [PyM.finalState_of_ok hrun, PyM.raises_of_ok hrun, Bool.or_false]
  rw [hstep]
  refine ⟨⟨hr.quiet, hr.once, fun z t l element => ?_⟩, rfl⟩
  rw [hr.holds, Outstanding, and_iff_left (hharmless z .resume l element)]

theorem Exact.congr {r' : NoticeRecord} (hr : Exact r)
    (hdM : r'.restorer.dM = r.restorer.dM) (hnotices : r'.notices = r.notices)
    (hraised : r'.raised = r.raised) : Exact r' where
  quiet := hraised.trans hr.quiet
  once := by
    rw [hdM]
    exact hr.once
  holds := by
    rw [hdM, hnotices]
    exact hr.holds

/-- The data is exact throughout a run whose notices are all harmless. -/
theorem exact_of_harmless {τ : List (NoticeRecord × NoticeInput)}
    (h : (noticeMachine modes order).Run τ r)
    (hharmless : ∀ e ∈ τ, Harmless modes e.1.restorer e.2) :
    (∀ e ∈ τ, Exact e.1) ∧ Exact r := by
  have hall := h.all_of_meets
    (P := fun r => (SFCRestorer.machine modes).Reachable r.restorer.toSFCRestorer ∧
      r.restorer.dM.Read ∧ Exact r)
    (C := fun r i => Harmless modes r.restorer i) ?_ ?_ hharmless
  · exact ⟨fun e he => (hall.1 e he).2.2, hall.2.2.2⟩
  · rintro r ⟨hrestorer, hdM, hnotices, hraised⟩
    refine ⟨.init hrestorer, ?_, hraised, ?_, ?_⟩
    · rw [hdM]
      nofun
    · rw [hdM]
      nofun
    · rw [hdM, hnotices]
      intro z t l data
      refine iff_of_false ?_ id
      rintro ⟨_, hdataList, -⟩
      cases hdataList
  · rintro r i ⟨hreachable, hread, hr⟩ hi hharmless
    refine ⟨reachable_step hreachable hi, ?_⟩
    cases i with
    | notice notice =>
        cases notice with
        | failureAbnormal message =>
            exact (hr.failureAbnormal hreachable hread hi hharmless).symm
        | resume message =>
            obtain ⟨hr', hdM⟩ := hr.resume hharmless
            exact ⟨hdM ▸ hread, hr'⟩
    | processAll =>
        have hdM : ((noticeMachine modes order).step r .processAll).restorer.dM =
            r.restorer.dM := by
          show ((DetectingRestorer.processAllDetectionNotice modes).finalState
            r.restorer).dM = _
          rw [DetectingRestorer.finalState_processAllDetectionNotice]
          exact (DetectingRestorer.reachable_handleDetectionDict hreachable hi _).2
        exact ⟨hdM ▸ hread, hr.congr hdM rfl rfl⟩
    | recovery i => exact ⟨hread, hr.congr rfl rfl rfl⟩
    | paths stored => exact ⟨hread, hr.congr rfl rfl rfl⟩

end Runs

section Example

open NoticeAnalyzer (exampleObjects switchLists zoneLists complete_zoneLists
  stored_exampleBase)
open SFCRestorer (exampleModes exampleStart)

def ElementID.key : ElementID → List Nat
  | .node nodeID => [nodeID]
  | .link srcNodeID dstNodeID => [srcNodeID, dstNodeID]

theorem ElementID.key_injective : Function.Injective ElementID.key := by
  intro data data' h
  cases data with
  | node =>
      cases data' with
      | node => simpa [key] using h
      | link => simp [key] at h
  | link =>
      cases data' with
      | node => simp [key] at h
      | link => simpa [key] using h

instance : LinearOrder ElementID :=
  LinearOrder.lift' ElementID.key ElementID.key_injective

def switchNotice (failed abnormal : List Nat) : DetectionMessage where
  allZoneDetectionDict := Dict.empty.set "TURBONET_ZONE"
    ((Dict.empty.set .failure 0).set .abnormal 1)
  dataListDict place := switchLists (if place = 0 then failed else abnormal)

theorem view_switchNotice (failed abnormal : List Nat) :
    (switchNotice failed abnormal).view =
      Dict.empty.set "TURBONET_ZONE" (zoneLists failed abnormal) := rfl

theorem of_zoneLists {failed abnormal : List Nat} {t : DetectionKey}
    {lists : DataListDict} (h : (zoneLists failed abnormal).get? t = some lists) :
    (t = .failure ∨ t = .abnormal) ∧ ∃ switchIDs, lists = switchLists switchIDs := by
  simp only [zoneLists, Dict.get?_set, Dict.get?_empty] at h
  split_ifs at h with habnormal hfailure
  · exact ⟨Or.inr habnormal, _, (Option.some.inj h).symm⟩
  · exact ⟨Or.inl hfailure, _, (Option.some.inj h).symm⟩

theorem of_view_switchNotice {failed abnormal : List Nat} {z : String}
    {detectionDict : DetectionDict}
    (h : (switchNotice failed abnormal).view.get? z = some detectionDict) :
    z = "TURBONET_ZONE" ∧ detectionDict = zoneLists failed abnormal := by
  rw [view_switchNotice, Dict.get?_set] at h
  split_ifs at h with hz
  · exact ⟨hz, (Option.some.inj h).symm⟩
  · cases h

def failed (switchIDs abnormal : List Nat) : Notice :=
  .failureAbnormal (switchNotice switchIDs abnormal)

theorem wellFormed_failed (switchIDs abnormal : List Nat) :
    (failed switchIDs abnormal).WellFormed := by
  refine ⟨fun z detectionDict hz => ?_, ?_⟩
  · obtain ⟨-, rfl⟩ := of_view_switchNotice hz
    refine ⟨fun t ht => ?_, fun t lists ht l hl => ?_⟩
    · have hkeys : ∀ t ∈ [DetectionKey.failure, .abnormal],
          t.isDetectionType = true := by decide
      exact hkeys t ht
    · obtain ⟨-, switchIDs, rfl⟩ := of_zoneLists ht
      have hkeys : ∀ l ∈ [DetectionKey.switchIDList, .serverIDList, .linkIDList],
          l.isDetectionType = false := by decide
      exact hkeys l hl
  · rintro z t l data ⟨dataList, hdataList, -⟩
    simp only [AllZoneDetectionDict.dataList?, DetectionDataMaintainer.listIn,
      Option.mem_def, Option.bind_eq_some_iff] at hdataList
    obtain ⟨detectionDict, hz, lists, ht, -⟩ := hdataList
    obtain ⟨-, rfl⟩ := of_view_switchNotice hz
    exact (of_zoneLists ht).1

def exampleRecord : NoticeRecord where
  restorer := { exampleStart with dM := .new, stored := exampleObjects }
  notices := []
  raised := false

def recordAfter (notices : List Notice) : NoticeRecord :=
  (notices.map NoticeInput.notice).foldl
    (noticeMachine exampleModes SetOrder.sorted).step exampleRecord

theorem arrive_failed :
    (noticeMachine exampleModes SetOrder.sorted).Arrive exampleRecord
      [.notice (failed [9] []), .notice (failed [9] [2])] :=
  ⟨⟨rfl, wellFormed_failed [9] []⟩, ⟨by decide +kernel, wellFormed_failed [9] [2]⟩,
    trivial⟩

theorem run_exampleRecord {inputs : List NoticeInput}
    (h : (noticeMachine exampleModes SetOrder.sorted).Arrive exampleRecord inputs) :
    (noticeMachine exampleModes SetOrder.sorted).Run
      ((noticeMachine exampleModes SetOrder.sorted).trace exampleRecord inputs)
      (inputs.foldl (noticeMachine exampleModes SetOrder.sorted).step
        exampleRecord) := by
  refine Machine.Run.arrive (τ := []) (.start ⟨?_, rfl, rfl, rfl⟩) h
  exact ⟨fun _ => rfl, fun _ => rfl, rfl, rfl, SFCRestorer.sound_exampleBase ..⟩

theorem analyzable_switchNotice (switchIDs abnormal : List Nat) :
    Analyzable exampleStart.oib (switchNotice switchIDs abnormal).view := by
  intro sfciID row detectionDict hrow hnamed
  obtain ⟨-, rfl⟩ := of_view_switchNotice hnamed
  exact ⟨complete_zoneLists switchIDs abnormal, stored_exampleBase.sfc sfciID row hrow⟩

theorem written_new (all : AllZoneDetectionDict) :
    DetectionDataMaintainer.new.Written all := by
  intro z detectionDict t lists _ _ _ hcontains
  cases hcontains

theorem restorer_after_failed_nine :
    (recordAfter [failed [9] []]).restorer.toSFCRestorer = exampleStart := by
  obtain ⟨hkeyed, -⟩ := wellFormed_failed [9] []
  obtain ⟨zones, dM, hrun, hview, -⟩ := DetectionDataMaintainer.run_addMessage
    SetOrder.sorted (s := .new) nofun hkeyed (written_new _)
  have hnone : getAffectedSFCITupleList exampleObjects exampleStart.oib
      exampleStart.rTM (switchNotice [9] []).view = .ok [] := by
    rw [getAffectedSFCITupleList, show (switchNotice [9] []).view.items.mapM _ =
      .ok [[]] from rfl]
    show Except.ok (NoticeAnalyzer._sortInfSFCIAndSFCTupleList exampleObjects []) = _
    rw [NoticeAnalyzer._sortInfSFCIAndSFCTupleList, List.mergeSort_nil]
  show ((DetectingRestorer.failureAbnormalHandler exampleModes SetOrder.sorted
    (switchNotice [9] [])).finalState exampleRecord.restorer).toSFCRestorer = _
  rw [PyM.finalState, DetectingRestorer.run_failureAbnormalHandler _ hrun, hview]
  show ((DetectingRestorer.handleDetectionDict exampleModes
    (noDuplicates SetOrder.sorted (switchNotice [9] []).view)).finalState
      { exampleRecord.restorer with dM := dM }).toSFCRestorer = _
  have hhits : getAffectedSFCITupleList
      { exampleRecord.restorer with dM := dM }.stored
      { exampleRecord.restorer with dM := dM }.oib
      { exampleRecord.restorer with dM := dM }.rTM
      (noDuplicates SetOrder.sorted (switchNotice [9] []).view) = .ok [] := by
    rw [NoticeAnalyzer.getAffectedSFCITupleList_noDuplicates]
    exact hnone
  rw [DetectingRestorer.finalState_handleDetectionDict hhits]
  rfl

/-- As long as nothing recovers, no hit is in the way. -/
theorem harmless_failed {s : DetectingRestorer} {switchIDs abnormal : List Nat}
    (hrestorer : s.toSFCRestorer = exampleStart)
    (hwritten : s.dM.Written (switchNotice switchIDs abnormal).view)
    (hrepeated : ∀ z t l dataList element,
      (switchNotice switchIDs abnormal).view.dataList? z t l = some dataList →
        Holds s.dM.getAllZoneDetectionDict z t l element → element ∈ dataList) :
    Harmless exampleModes s (.notice (failed switchIDs abnormal)) where
  written := hwritten
  repeated := hrepeated
  analyzable := by
    rw [hrestorer]
    exact analyzable_switchNotice switchIDs abnormal
  unoccupied := by
    rw [hrestorer]
    intro _ _ _ _ _
    rfl

theorem data_after_failed_nine :
    (recordAfter [failed [9] []]).restorer.dM.allZoneDetectionDict =
        Dict.empty.set "TURBONET_ZONE"
          ((Dict.empty.set .failure (0, 0)).set .abnormal (0, 1)) ∧
      (recordAfter [failed [9] []]).restorer.dM.getAllZoneDetectionDict =
        (switchNotice [9] []).view := by
  decide +kernel

theorem written_after_failed_nine (switchIDs abnormal : List Nat) :
    (recordAfter [failed [9] []]).restorer.dM.Written
      (switchNotice switchIDs abnormal).view := by
  have hplace : ∀ {z t place},
      (recordAfter [failed [9] []]).restorer.dM.place? z t = some place ↔
        z = "TURBONET_ZONE" ∧ (t = .abnormal ∧ place = (0, 1) ∨
          t = .failure ∧ place = (0, 0)) := by
    intro z t place
    rw [DetectionDataMaintainer.place?, data_after_failed_nine.1]
    simp only [Dict.get?_set, Dict.get?_empty]
    by_cases hz : z = "TURBONET_ZONE"
    · by_cases habnormal : t = .abnormal
      · simp [hz, habnormal, eq_comm]
      · by_cases hfailure : t = .failure <;>
          simp [hz, habnormal, hfailure, Dict.get?_set, eq_comm]
    · simp [hz]
  intro z detectionDict t lists hz ht _ _
  obtain ⟨rfl, rfl⟩ := of_view_switchNotice hz
  obtain ⟨rfl | rfl, -⟩ := of_zoneLists ht
  · refine ⟨(0, 0), hplace.mpr ⟨rfl, Or.inr ⟨rfl, rfl⟩⟩, fun z' t' h => ?_⟩
    obtain ⟨rfl, ⟨-, heq⟩ | ⟨rfl, -⟩⟩ := hplace.mp h
    · cases heq
    · exact ⟨rfl, rfl⟩
  · refine ⟨(0, 1), hplace.mpr ⟨rfl, Or.inl ⟨rfl, rfl⟩⟩, fun z' t' h => ?_⟩
    obtain ⟨rfl, ⟨rfl, -⟩ | ⟨-, heq⟩⟩ := hplace.mp h
    · exact ⟨rfl, rfl⟩
    · cases heq

theorem dataList?_switchNotice (switchIDs abnormal : List Nat) (z : String)
    (t l : DetectionKey) :
    (switchNotice switchIDs abnormal).view.dataList? z t l =
      if z = "TURBONET_ZONE" then
        if t = .abnormal then (switchLists abnormal).get? l
        else if t = .failure then (switchLists switchIDs).get? l else none
      else none := by
  rw [view_switchNotice, AllZoneDetectionDict.dataList?, Dict.get?_set]
  by_cases hz : z = "TURBONET_ZONE"
  · rw [if_pos hz, if_pos hz, Option.bind_some, DetectionDataMaintainer.listIn,
      zoneLists, Dict.get?_set]
    by_cases habnormal : t = .abnormal
    · rw [if_pos habnormal, if_pos habnormal, Option.bind_some]
    · rw [if_neg habnormal, if_neg habnormal, Dict.get?_set]
      by_cases hfailure : t = .failure
      · rw [if_pos hfailure, if_pos hfailure, Option.bind_some]
      · rw [if_neg hfailure, if_neg hfailure]
        rfl
  · rw [if_neg hz, if_neg hz]
    rfl

theorem switchLists_nil {l : DetectionKey} {dataList : List ElementID}
    (h : (switchLists []).get? l = some dataList) : dataList = [] := by
  obtain ⟨-, rfl⟩ | rfl := NoticeAnalyzer.of_switchLists h
  · rfl
  · rfl

/-- Switch 9 failed; then the notice about it comes once more, with an abnormal
switch that is on the paths of both SFCIs. -/
theorem exact_of_harmless_growing :
    Exact (recordAfter [failed [9] []]) ∧
      Exact (recordAfter [failed [9] [], failed [9] [2]]) := by
  have hfirst : Harmless exampleModes exampleRecord.restorer
      (.notice (failed [9] [])) := by
    refine harmless_failed rfl (written_new _) ?_
    rintro z t l dataList element - ⟨_, hdataList, -⟩
    cases hdataList
  have hsecond : Harmless exampleModes (recordAfter [failed [9] []]).restorer
      (.notice (failed [9] [2])) := by
    refine harmless_failed restorer_after_failed_nine
      (written_after_failed_nine [9] [2]) ?_
    rw [data_after_failed_nine.2]
    rintro z t l dataList element hlist ⟨held, hheld, hmem⟩
    rw [dataList?_switchNotice] at hlist
    rw [Option.mem_def, dataList?_switchNotice] at hheld
    split_ifs at hlist hheld
    · obtain rfl := switchLists_nil hheld
      cases hmem
    · rw [hheld, Option.some.injEq] at hlist
      exact hlist ▸ hmem
  have h := exact_of_harmless (run_exampleRecord arrive_failed) ?_
  · exact ⟨h.1 _ (List.mem_cons_of_mem _ List.mem_cons_self), h.2⟩
  · intro e he
    obtain rfl | he := List.mem_cons.mp he
    · exact hfirst
    · obtain rfl := List.mem_singleton.mp he
      exact hsecond

def switchesResume (switchIDs : List Nat) : DetectionMessage where
  allZoneDetectionDict := Dict.empty.set "TURBONET_ZONE"
    (Dict.empty.set .resume 0)
  dataListDict _ := switchLists switchIDs

/-- A second failure takes the place of the first, so that the switch that failed
first is no longer held; and a resumed switch is never found, so that its notice
raises. -/
theorem second_failure_replaces_first :
    (noticeMachine exampleModes SetOrder.sorted).Reachable
        (recordAfter [failed [8] [], failed [9] []]) ∧
      Outstanding [failed [9] [], failed [8] []] "TURBONET_ZONE" .failure
        .switchIDList (.node 8) ∧
      (recordAfter [failed [8] [], failed [9] []]).restorer.dM.dataList?
        "TURBONET_ZONE" .failure .switchIDList = some [.node 9] ∧
      ¬ Exact (recordAfter [failed [8] [], failed [9] []]) ∧
      (recordAfter [failed [8] [], .resume (switchesResume [8])]).raised = true := by
  have harrive : (noticeMachine exampleModes SetOrder.sorted).Arrive exampleRecord
      [.notice (failed [8] []), .notice (failed [9] [])] :=
    ⟨⟨rfl, wellFormed_failed [8] []⟩, ⟨by decide +kernel, wellFormed_failed [9] []⟩,
      trivial⟩
  have hlist : (recordAfter [failed [8] [], failed [9] []]).restorer.dM.dataList?
      "TURBONET_ZONE" .failure .switchIDList = some [.node 9] := by
    decide +kernel
  have hout : Outstanding [failed [9] [], failed [8] []] "TURBONET_ZONE" .failure
      .switchIDList (.node 8) := by
    refine Or.inr (Or.inl ⟨Or.inl rfl, [.node 8], ?_, List.mem_singleton_self _⟩)
    exact dataList?_switchNotice [8] [] ..
  refine ⟨(run_exampleRecord harrive).reachable, hout, hlist, fun hexact => ?_,
    by decide +kernel⟩
  obtain ⟨dataList, hdataList, hmem⟩ := (hexact.holds _ _ _ _).mpr hout
  obtain rfl := Option.some.inj (hlist.symm.trans hdataList)
  cases List.mem_singleton.mp hmem

end Example

end SelfAdaptiveMano.Regulator

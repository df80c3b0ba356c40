import SelfAdaptiveMano.Regulator.DetectionDataMaintainer

/-!
# What a notice does to the detection data

`run_addDetectionDict` says what a notice stores. A zone that is not known refers
to the dictionaries of the notice, and nothing is written to these. For a known
zone the lists go into the dictionaries that are stored; the data has them under
their keys only when nothing else refers to such a dictionary.
-/

namespace SelfAdaptiveMano.Regulator.DetectionDataMaintainer

open Library

variable {s s' s'' : DetectionDataMaintainer} {zoneName : String}
  {detectionType dataListType : DetectionKey} {place : Place} {n : Nat}
  {detectionDict : Dict DetectionKey Place} {zones : PlacedDict}

/-! ## One list -/

theorem dataList?_view (s : DetectionDataMaintainer) (zones : PlacedDict)
    (z : String) (t l : DetectionKey) :
    (s.view zones).dataList? z t l =
      ((zones.get? z).bind fun detectionDict => detectionDict.get? t).bind
        fun place => (s.dataListDict place).get? l := by
  simp only [view, AllZoneDetectionDict.dataList?, listIn, Dict.get?_map,
    Option.bind_map, Function.comp_def, Option.bind_assoc]

def dataList? (s : DetectionDataMaintainer) (zoneName : String)
    (detectionType dataListType : DetectionKey) : Option (List ElementID) :=
  s.getAllZoneDetectionDict.dataList? zoneName detectionType dataListType

theorem dataList?_eq (s : DetectionDataMaintainer) (z : String)
    (t l : DetectionKey) :
    s.dataList? z t l =
      (s.place? z t).bind fun place => (s.dataListDict place).get? l :=
  dataList?_view s s.allZoneDetectionDict z t l

theorem run_placeOf (h : s.place? zoneName detectionType = some place) :
    (placeOf zoneName detectionType).run s = .ok place s := by
  rw [placeOf, PyM.run_bind_get, h]
  rfl

theorem run_setDataList (h : s.place? zoneName detectionType = some place)
    (dataListType : DetectionKey) (dataList : List ElementID) :
    (setDataList zoneName detectionType dataListType dataList).run s =
      .ok () (s.setAt place
        ((s.dataListDict place).set dataListType dataList)) := by
  rw [setDataList, PyM.run_bind_ok (run_placeOf h)]
  rfl

theorem run_dataListOf {dataList : List ElementID}
    (h : s.dataList? zoneName detectionType dataListType = some dataList) :
    (dataListOf zoneName detectionType dataListType).run s =
      .ok dataList s := by
  rw [dataList?_eq, Option.bind_eq_some_iff] at h
  obtain ⟨place, hplace, hlist⟩ := h
  rw [dataListOf, PyM.run_bind_ok (run_placeOf hplace), PyM.run_bind_get, hlist]
  rfl

theorem run_addDataLoop {dataList l : List ElementID}
    (h : s.dataList? zoneName detectionType dataListType = some dataList)
    (hl : l ⊆ dataList) :
    (l.forM (addData zoneName detectionType dataListType)).run s =
      .ok () s := by
  induction l with
  | nil => rfl
  | cons data l ih =>
      rw [List.cons_subset] at hl
      have hdata : (addData zoneName detectionType dataListType data).run s =
          .ok () s := by
        rw [addData, PyM.run_bind_ok (run_dataListOf h), if_pos hl.1]
        rfl
      exact (PyM.run_bind_ok hdata _).trans (ih hl.2)

/-- A list takes the place of the stored one, because no list is among the
detection types. -/
theorem run_addDataList (h : s.place? zoneName detectionType = some place)
    (hkey : detectionDict.contains dataListType = false)
    (dataList : List ElementID) :
    (addDataList detectionDict zoneName detectionType dataListType
        dataList).run s =
      .ok () (s.setAt place
        ((s.dataListDict place).set dataListType dataList)) := by
  rw [addDataList, addNewList, hkey, if_neg Bool.false_ne_true,
    PyM.run_bind_ok (run_setDataList h _ _)]
  refine run_addDataLoop ?_ (List.Subset.refl dataList)
  rw [dataList?_eq]
  refine Option.bind_eq_some_iff.mpr ⟨place, h, ?_⟩
  simp [setAt]

/-! ## The lists of a kind of detection -/

/-- The lists of `lists` are written to a dictionary. -/
def merge (s : DetectionDataMaintainer) (place : Place) (lists : DataListDict) :
    DetectionDataMaintainer :=
  s.setAt place ((s.dataListDict place).update lists)

theorem setAt_self (s : DetectionDataMaintainer) (place : Place) :
    s.setAt place (s.dataListDict place) = s := by
  rw [setAt, Function.update_eq_self]

theorem merge_self (s : DetectionDataMaintainer) (place : Place) :
    s.merge place (s.dataListDict place) = s := by
  rw [merge, Dict.update_self, setAt_self]

theorem run_addDataListDict (h : s.place? zoneName detectionType = some place)
    (source : Place) (htype : detectionDict.contains detectionType = true)
    (hkeys : ∀ l ∈ (s.dataListDict source).keys,
      detectionDict.contains l = false) :
    (addDataListDict detectionDict zoneName detectionType source).run s =
      .ok () (s.merge place (s.dataListDict source)) := by
  have hloop : ∀ items : List (DetectionKey × List ElementID),
      (∀ item ∈ items, detectionDict.contains item.1 = false) →
      ∀ lists, (items.forM fun item =>
          addDataList detectionDict zoneName detectionType item.1
            item.2).run (s.setAt place lists) =
        .ok () (s.setAt place
          (items.foldl (fun d kv => d.set kv.1 kv.2) lists)) := by
    intro items hitems
    induction items with
    | nil => exact fun _ => rfl
    | cons item items ih =>
        intro lists
        rw [List.forall_mem_cons] at hitems
        have hplace : (s.setAt place lists).place? zoneName detectionType =
            some place := h
        refine (PyM.run_bind_ok (run_addDataList hplace hitems.1 item.2) _).trans ?_
        have hset : (s.setAt place lists).setAt place
            (((s.setAt place lists).dataListDict place).set item.1 item.2) =
            s.setAt place (lists.set item.1 item.2) := by
          simp [setAt]
        rw [hset]
        exact ih hitems.2 _
  rw [addDataListDict, addNewType, if_pos htype]
  have hitems : ∀ item ∈ (s.dataListDict source).items,
      detectionDict.contains item.1 = false :=
    fun item hitem => hkeys item.1 (List.mem_map_of_mem hitem)
  have hrun := hloop _ hitems (s.dataListDict place)
  rw [setAt_self] at hrun
  exact hrun

theorem run_addDataListDict_of_empty (zoneName : String)
    (htype : detectionDict.contains detectionType = true)
    (hempty : (s.dataListDict place).items = []) :
    (addDataListDict detectionDict zoneName detectionType place).run s =
      .ok () s := by
  have htypes : (addNewType detectionDict zoneName detectionType place).run s =
      .ok () s := by
    rw [addNewType, if_pos htype]
    rfl
  rw [addDataListDict, PyM.run_bind_ok htypes, PyM.run_bind_get, hempty]
  rfl

/-- `s'` has the lists of `f` and otherwise those of `s`, and the dictionaries of
the message `n` are as they were. -/
structure Overrides (n : Nat)
    (f : String → DetectionKey → DetectionKey → Option (List ElementID))
    (s s' : DetectionDataMaintainer) : Prop where
  dataList? : ∀ z t l, s'.dataList? z t l = (f z t l).or (s.dataList? z t l)
  fresh : ∀ place, place.1 = n → s'.dataListDict place = s.dataListDict place
  received : s'.received = s.received

theorem Overrides.refl : Overrides n (fun _ _ _ => none) s s where
  dataList? := fun _ _ _ => rfl
  fresh := fun _ _ => rfl
  received := rfl

theorem Overrides.trans
    {f g : String → DetectionKey → DetectionKey → Option (List ElementID)}
    (h : Overrides n f s s') (h' : Overrides n g s' s'') :
    Overrides n (fun z t l => (g z t l).or (f z t l)) s s'' where
  dataList? := by
    intro z t l
    rw [h'.dataList?, h.dataList?, Option.or_assoc]
  fresh := fun place hplace => (h'.fresh place hplace).trans (h.fresh place hplace)
  received := h'.received.trans h.received

theorem Overrides.congr
    {f g : String → DetectionKey → DetectionKey → Option (List ElementID)}
    (h : Overrides n f s s') (hfg : ∀ z t l, f z t l = g z t l) :
    Overrides n g s s' where
  dataList? := by
    intro z t l
    rw [h.dataList?, hfg]
  fresh := h.fresh
  received := h.received

/-- Nothing but the kind of detection of the zone refers to the dictionary, and
it did not come with the message `n`. -/
structure OwnPlace (n : Nat) (s : DetectionDataMaintainer) (zoneName : String)
    (detectionType : DetectionKey) (place : Place) : Prop where
  known : s.place? zoneName detectionType = some place
  old : place.1 ≠ n
  alone : ∀ z t, s.place? z t = some place → z = zoneName ∧ t = detectionType

theorem OwnPlace.overrides_merge (h : OwnPlace n s zoneName detectionType place)
    (lists : DataListDict) :
    Overrides n (fun z t l => if z = zoneName ∧ t = detectionType then
      lists.get? l else none) s (s.merge place lists) where
  dataList? := by
    intro z t l
    have hplace? : (s.merge place lists).place? z t = s.place? z t := rfl
    rw [dataList?_eq, dataList?_eq, hplace?]
    by_cases hzt : z = zoneName ∧ t = detectionType
    · obtain ⟨rfl, rfl⟩ := hzt
      rw [h.known, Option.bind_some, Option.bind_some, if_pos ⟨rfl, rfl⟩,
        ← Dict.get?_update]
      simp [merge, setAt]
    · rw [if_neg hzt, Option.none_or]
      cases hother : s.place? z t with
      | none => rfl
      | some other =>
          have hne : other ≠ place := by
            rintro rfl
            exact hzt (h.alone z t hother)
          simp [merge, setAt, hne]
  fresh := by
    intro other hother
    have hne : other ≠ place := by
      rintro rfl
      exact h.old hother
    simp [merge, setAt, hne]
  received := rfl

/-! ## The zones -/

def messageList (s : DetectionDataMaintainer)
    (detectionDict : Dict DetectionKey Place)
    (detectionType dataListType : DetectionKey) : Option (List ElementID) :=
  (detectionDict.get? detectionType).bind fun place =>
    (s.dataListDict place).get? dataListType

/-- The zone of a message: its dictionaries are those of the message `n`, and no
list is among its detection types. -/
structure MessageZone (n : Nat) (s : DetectionDataMaintainer)
    (detectionDict : Dict DetectionKey Place) : Prop where
  fresh : ∀ t place, detectionDict.get? t = some place → place.1 = n
  keyed : ∀ t place, detectionDict.get? t = some place →
    ∀ l ∈ (s.dataListDict place).keys, detectionDict.contains l = false

def Writable (n : Nat) (s : DetectionDataMaintainer) (zoneName : String)
    (detectionDict : Dict DetectionKey Place) : Prop :=
  ∀ t source, detectionDict.get? t = some source →
    (s.dataListDict source).items ≠ [] →
      ∃ place, OwnPlace n s zoneName t place

theorem run_addTypes (hzone : MessageZone n s detectionDict)
    (hwritable : Writable n s zoneName detectionDict) :
    ∃ s', (detectionDict.items.forM fun (detectionType, place) =>
        addDataListDict detectionDict zoneName detectionType place).run s =
          .ok () s' ∧
      s'.allZoneDetectionDict = s.allZoneDetectionDict ∧
      Overrides n (fun z t l => if z = zoneName then
        messageList s detectionDict t l else none) s s' := by
  obtain ⟨s', hrun, hzones, hoverrides⟩ :=
    PyM.run_forM_ok (l := detectionDict.items)
      (f := fun e => addDataListDict detectionDict zoneName e.1 e.2)
      (R := fun done s' => s'.allZoneDetectionDict = s.allZoneDetectionDict ∧
        Overrides n (fun z t l => if z = zoneName then
          (done.lookup t).bind fun place => (s.dataListDict place).get? l
          else none) s s')
      (s := s) ⟨rfl, by simpa using Overrides.refl⟩ (by
        rintro done ⟨t, source⟩ rest s₁ hitems ⟨hzones, hs₁⟩
        have hmem : detectionDict.get? t = some source := by
          rw [← Dict.mem_items_iff, hitems]
          simp
        have hsource : s₁.dataListDict source = s.dataListDict source :=
          hs₁.fresh source (hzone.fresh t source hmem)
        have htype : detectionDict.contains t = true := by
          rw [Dict.contains, hmem]
          rfl
        have hkeys : ∀ l ∈ (s₁.dataListDict source).keys,
            detectionDict.contains l = false := by
          rw [hsource]
          exact hzone.keyed t source hmem
        have hsame : ∀ z t, s₁.place? z t = s.place? z t := by
          intro z t
          rw [place?, place?, hzones]
        have hnone := Dict.lookup_eq_none_of_items hitems
        by_cases hempty : (s.dataListDict source).items = []
        · refine ⟨s₁, run_addDataListDict_of_empty zoneName htype
            (by rw [hsource, hempty]), hzones, hs₁.congr fun z t' l => ?_⟩
          rw [Dict.lookup_append_singleton hitems]
          by_cases ht : t' = t
          · simp [ht, hnone, Dict.get?, hempty]
          · simp [ht]
        · obtain ⟨place, hplace⟩ := hwritable t source hmem hempty
          have hplace₁ : OwnPlace n s₁ zoneName t place :=
            ⟨(hsame _ _).trans hplace.known, hplace.old, fun z t' h =>
              hplace.alone z t' ((hsame z t').symm.trans h)⟩
          refine ⟨_, run_addDataListDict hplace₁.known source htype hkeys,
            hzones, ?_⟩
          rw [hsource]
          refine (hs₁.trans (hplace₁.overrides_merge _)).congr fun z t' l => ?_
          rw [Dict.lookup_append_singleton hitems]
          by_cases hz : z = zoneName
          · by_cases ht : t' = t
            · simp [hz, ht, hnone]
            · simp [hz, ht]
          · simp [hz])
  exact ⟨s', hrun, hzones, hoverrides⟩

/-- A zone that has just been stored is not changed by its own lists. -/
theorem run_addOwnTypes (hkeyed : MessageZone n s detectionDict)
    (hstored : s.allZoneDetectionDict.get? zoneName = some detectionDict) :
    (detectionDict.items.forM fun (detectionType, place) =>
      addDataListDict detectionDict zoneName detectionType place).run s =
        .ok () s := by
  refine PyM.run_forM_same ?_
  rintro ⟨t, place⟩ hitem
  have hmem := Dict.mem_items_iff.mp hitem
  have hplace : s.place? zoneName t = some place := by
    rw [place?, hstored, Option.bind_some, hmem]
  have htype : detectionDict.contains t = true := by
    rw [Dict.contains, hmem]
    rfl
  have hrun := run_addDataListDict hplace place htype
    (hkeyed.keyed t place hmem)
  rwa [merge_self] at hrun

theorem run_addDetectionDictOfZone (hzone : MessageZone n s detectionDict)
    (hwritable : s.allZoneDetectionDict.contains zoneName = true →
      Writable n s zoneName detectionDict) :
    ∃ s', (addDetectionDictOfZone zoneName detectionDict).run s = .ok () s' ∧
      (∀ z, s'.allZoneDetectionDict.get? z =
        (s.allZoneDetectionDict.get? z).or
          (if z = zoneName then some detectionDict else none)) ∧
      Overrides n (fun z t l => if z = zoneName then
        messageList s detectionDict t l else none) s s' := by
  by_cases hknown : s.allZoneDetectionDict.contains zoneName = true
  · have hadd : (addZone zoneName detectionDict).run s = .ok () s :=
      congrArg (EStateM.Result.ok ()) (if_pos hknown)
    obtain ⟨s', hrun, hzones, hoverrides⟩ :=
      run_addTypes hzone (hwritable hknown)
    refine ⟨s', (PyM.run_bind_ok hadd _).trans hrun, fun z => ?_, hoverrides⟩
    rw [hzones]
    obtain ⟨stored, hstored⟩ := Option.isSome_iff_exists.mp hknown
    by_cases hz : z = zoneName
    · rw [hz, hstored, Option.some_or]
    · rw [if_neg hz, Option.or_none]
  · have hnone : s.allZoneDetectionDict.get? zoneName = none := by
      rw [Dict.contains] at hknown
      simpa using hknown
    have hadd : (addZone zoneName detectionDict).run s = .ok ()
        { s with allZoneDetectionDict :=
          s.allZoneDetectionDict.set zoneName detectionDict } :=
      congrArg (EStateM.Result.ok ()) (if_neg hknown)
    refine ⟨_, (PyM.run_bind_ok hadd _).trans (run_addOwnTypes (n := n)
      ⟨hzone.fresh, hzone.keyed⟩ (Dict.get?_set_self ..)), fun z => ?_,
      ⟨fun z t l => ?_, fun _ _ => rfl, rfl⟩⟩
    · rw [Dict.get?_set]
      by_cases hz : z = zoneName
      · simp [hz, hnone]
      · simp [hz]
    · rw [dataList?_eq, dataList?_eq]
      by_cases hz : z = zoneName
      · simp [hz, place?, hnone, messageList]
      · simp [hz, place?, Dict.get?_set]

/-- A place stays a zone's own when zones are added that refer to dictionaries of
the message only. -/
theorem OwnPlace.of_added {done : List (String × Dict DetectionKey Place)}
    (h : OwnPlace n s zoneName detectionType place)
    (hstored : ∀ z, s'.allZoneDetectionDict.get? z =
      (s.allZoneDetectionDict.get? z).or (done.lookup z))
    (hdone : ∀ z d, done.lookup z = some d →
      ∀ t place, d.get? t = some place → place.1 = n)
    (hnew : done.lookup zoneName = none) :
    OwnPlace n s' zoneName detectionType place where
  known := by
    rw [place?, hstored, hnew, Option.or_none]
    exact h.known
  old := h.old
  alone := by
    intro z t hplace
    rw [place?, hstored] at hplace
    cases hz : s.allZoneDetectionDict.get? z with
    | some d =>
        rw [hz, Option.some_or] at hplace
        refine h.alone z t ?_
        rw [place?, hz]
        exact hplace
    | none =>
        rw [hz, Option.none_or, Option.bind_eq_some_iff] at hplace
        obtain ⟨d, hd, hplace⟩ := hplace
        exact absurd (hdone z d hd t place hplace) h.old

theorem run_addDetectionDict
    (hzones : ∀ z detectionDict, zones.get? z = some detectionDict →
      MessageZone n s detectionDict)
    (hwritable : ∀ z detectionDict, zones.get? z = some detectionDict →
      s.allZoneDetectionDict.contains z = true → Writable n s z detectionDict) :
    ∃ s', (addDetectionDict zones).run s = .ok () s' ∧
      (∀ z, s'.allZoneDetectionDict.get? z =
        (s.allZoneDetectionDict.get? z).or (zones.get? z)) ∧
      Overrides n (fun z t l => (s.view zones).dataList? z t l) s s' := by
  obtain ⟨s', hrun, hstored, hoverrides⟩ :=
    PyM.run_forM_ok (l := zones.items)
      (f := fun e => addDetectionDictOfZone e.1 e.2)
      (R := fun done s' => (∀ z, s'.allZoneDetectionDict.get? z =
          (s.allZoneDetectionDict.get? z).or (done.lookup z)) ∧
        Overrides n (fun z t l => (done.lookup z).bind fun d =>
          messageList s d t l) s s')
      (s := s) ⟨fun z => by simp, Overrides.refl⟩ (by
        rintro done ⟨z, d⟩ rest s₁ hitems ⟨hstored₁, hs₁⟩
        have hd : zones.get? z = some d := by
          rw [← Dict.mem_items_iff, hitems]
          simp
        have hnone := Dict.lookup_eq_none_of_items hitems
        have hsource : ∀ {t place}, d.get? t = some place →
            s₁.dataListDict place = s.dataListDict place :=
          fun h => hs₁.fresh _ ((hzones z d hd).fresh _ _ h)
        have hzone₁ : MessageZone n s₁ d := by
          refine ⟨(hzones z d hd).fresh, fun t place ht => ?_⟩
          rw [hsource ht]
          exact (hzones z d hd).keyed t place ht
        have hwritable₁ : s₁.allZoneDetectionDict.contains z = true →
            Writable n s₁ z d := by
          intro hknown t source ht hne
          rw [hsource ht] at hne
          rw [Dict.contains, hstored₁, hnone, Option.or_none] at hknown
          obtain ⟨place, hplace⟩ := hwritable z d hd hknown t source ht hne
          refine ⟨place, hplace.of_added hstored₁ ?_ hnone⟩
          intro z' d' hd' t' place' hplace'
          have hmem : (z', d') ∈ zones.items := by
            obtain ⟨before, after, rfl, -⟩ := List.lookup_eq_some_iff.mp hd'
            simp [hitems]
          exact (hzones z' d' (Dict.mem_items_iff.mp hmem)).fresh t' place' hplace'
        obtain ⟨s₂, hrun, hstored₂, hs₂⟩ :=
          run_addDetectionDictOfZone hzone₁ hwritable₁
        refine ⟨s₂, hrun, fun z' => ?_,
          (hs₁.trans hs₂).congr fun z' t l => ?_⟩
        · rw [hstored₂, hstored₁, Dict.lookup_append_singleton hitems,
            Option.or_assoc]
          by_cases hz : z' = z
          · simp [hz, hnone]
          · simp [hz]
        · have hlist : messageList s₁ d t l = messageList s d t l := by
            rw [messageList, messageList]
            refine Option.bind_congr fun place hplace => ?_
            rw [hsource hplace]
          rw [Dict.lookup_append_singleton hitems, hlist]
          by_cases hz : z' = z
          · simp [hz, hnone]
          · simp [hz])
  refine ⟨s', hrun, hstored, hoverrides.congr fun z t l => ?_⟩
  rw [dataList?_view, Option.bind_assoc]
  rfl

/-! ## A message -/

theorem withoutDuplicates_withoutDuplicates (order : SetOrder ElementID)
    (lists : DataListDict) :
    withoutDuplicates order (withoutDuplicates order lists) =
      withoutDuplicates order lists := by
  apply Dict.ext_items
  have hlist : ∀ l : List ElementID,
      order.list (order.list l.toFinset).toFinset = order.list l.toFinset := by
    intro l
    congr 1
    ext element
    simp
  simp [withoutDuplicates, hlist]

def noDuplicates (order : SetOrder ElementID) (all : AllZoneDetectionDict) :
    AllZoneDetectionDict :=
  all.map fun detectionDict => detectionDict.map (withoutDuplicates order)

theorem dataList?_noDuplicates (order : SetOrder ElementID)
    (all : AllZoneDetectionDict) (z : String) (t l : DetectionKey) :
    (noDuplicates order all).dataList? z t l =
      (all.dataList? z t l).map fun dataList => order.list dataList.toFinset := by
  simp only [AllZoneDetectionDict.dataList?, listIn, noDuplicates,
    withoutDuplicates, Dict.get?_map, Option.bind_map, Option.map_bind,
    Function.comp_def]

theorem view_congr {g : DataListDict → DataListDict}
    (h : ∀ z d, zones.get? z = some d → ∀ t place, d.get? t = some place →
      s'.dataListDict place = g (s.dataListDict place)) :
    s'.view zones = (s.view zones).map fun detectionDict =>
      detectionDict.map g := by
  apply Dict.ext_items
  rw [Dict.items_map, view, view, Dict.items_map, Dict.items_map, List.map_map]
  refine List.map_congr_left fun e he => Prod.ext rfl ?_
  apply Dict.ext_items
  show List.map _ e.2.items = List.map _ (List.map _ e.2.items)
  rw [List.map_map]
  refine List.map_congr_left fun typed htyped => Prod.ext rfl ?_
  exact h e.1 e.2 (Dict.mem_items_iff.mp he) typed.1 typed.2
    (Dict.mem_items_iff.mp htyped)

def placesOf (zones : PlacedDict) : List Place := zones.values.flatMap Dict.values

theorem mem_placesOf : place ∈ placesOf zones ↔
    ∃ z d t, zones.get? z = some d ∧ d.get? t = some place := by
  simp only [placesOf, List.mem_flatMap, Dict.mem_values_iff]
  constructor
  · rintro ⟨d, ⟨z, hz⟩, t, ht⟩
    exact ⟨z, d, t, hz, ht⟩
  · rintro ⟨z, d, t, hz, ht⟩
    exact ⟨d, ⟨z, hz⟩, t, ht⟩

/-- The loop over the zones and their kinds of detection goes through the
places. -/
theorem deleteDuplicateData_eq (order : SetOrder ElementID) (zones : PlacedDict) :
    deleteDuplicateData order zones = (placesOf zones).forM fun place =>
      modify fun s =>
        s.setAt place (withoutDuplicates order (s.dataListDict place)) := by
  rw [placesOf, ← PyM.forM_flatMap, Dict.values, PyM.forM_map,
    deleteDuplicateData]
  refine PyM.forM_congr fun e _ => ?_
  rw [Dict.values, PyM.forM_map]

theorem run_deleteDuplicateData (order : SetOrder ElementID) (zones : PlacedDict)
    (s : DetectionDataMaintainer) :
    ∃ s', (deleteDuplicateData order zones).run s = .ok () s' ∧
      s'.allZoneDetectionDict = s.allZoneDetectionDict ∧
      s'.received = s.received ∧
      ∀ place, s'.dataListDict place =
        if place ∈ placesOf zones then
          withoutDuplicates order (s.dataListDict place)
        else s.dataListDict place := by
  rw [deleteDuplicateData_eq]
  obtain ⟨s', hrun, h⟩ :=
    PyM.run_forM_ok (l := placesOf zones)
      (f := fun place => modify fun s : DetectionDataMaintainer =>
        s.setAt place (withoutDuplicates order (s.dataListDict place)))
      (R := fun done s' => s'.allZoneDetectionDict = s.allZoneDetectionDict ∧
        s'.received = s.received ∧ ∀ place, s'.dataListDict place =
          if place ∈ done then withoutDuplicates order (s.dataListDict place)
          else s.dataListDict place)
      (s := s) ⟨rfl, rfl, fun _ => rfl⟩ (by
        rintro done place rest s₁ - ⟨hzones, hreceived, hlists⟩
        refine ⟨_, rfl, hzones, hreceived, fun other => ?_⟩
        by_cases hother : other = place
        · -- a place may come up more than once
          simp only [setAt, hother, Function.update_self, hlists,
            List.mem_append, List.mem_singleton, or_true, if_true]
          split
          · exact withoutDuplicates_withoutDuplicates order _
          · rfl
        · simp [setAt, hother, hlists])
  exact ⟨s', hrun, h⟩

theorem run_receive (message : DetectionMessage) (s : DetectionDataMaintainer) :
    ∃ zones s', (receive message).run s = .ok zones s' ∧
      s'.allZoneDetectionDict = s.allZoneDetectionDict ∧
      s'.received = s.received + 1 ∧
      (∀ place, place.1 ≠ s.received →
        s'.dataListDict place = s.dataListDict place) ∧
      (∀ place ∈ placesOf zones, place.1 = s.received) ∧
      s'.view zones = message.view := by
  refine ⟨_, _, rfl, rfl, rfl, fun place hplace => if_neg hplace, ?_, ?_⟩
  · intro place hplace
    obtain ⟨z, d, t, hz, ht⟩ := mem_placesOf.mp hplace
    rw [Dict.get?_map, Option.map_eq_some_iff] at hz
    obtain ⟨d, -, rfl⟩ := hz
    rw [Dict.get?_map, Option.map_eq_some_iff] at ht
    obtain ⟨place, -, rfl⟩ := ht
    rfl
  · apply Dict.ext_items
    simp [view, DetectionMessage.view, Dict.map]

def Read (s : DetectionDataMaintainer) : Prop :=
  ∀ z t place, s.place? z t = some place → place.1 < s.received

/-- The lists of a message go to dictionaries of their own: for each zone that is
known, a kind of detection with lists is known too, and nothing else refers to its
dictionary. -/
def Written (s : DetectionDataMaintainer) (all : AllZoneDetectionDict) : Prop :=
  ∀ z detectionDict t lists, all.get? z = some detectionDict →
    detectionDict.get? t = some lists → lists.items ≠ [] →
    s.allZoneDetectionDict.contains z = true →
      ∃ place, s.place? z t = some place ∧
        ∀ z' t', s.place? z' t' = some place → z' = z ∧ t' = t

theorem keyed_noDuplicates {all : AllZoneDetectionDict} (h : Keyed all)
    (order : SetOrder ElementID) : Keyed (noDuplicates order all) := by
  intro z d hz
  rw [DetectionDataMaintainer.noDuplicates, Dict.get?_map,
    Option.map_eq_some_iff] at hz
  obtain ⟨d, hz, rfl⟩ := hz
  obtain ⟨htypes, hlists⟩ := h z d hz
  refine ⟨by simpa using htypes, fun t lists ht l hl => ?_⟩
  rw [Dict.get?_map, Option.map_eq_some_iff] at ht
  obtain ⟨lists, ht, rfl⟩ := ht
  rw [withoutDuplicates, Dict.keys_map] at hl
  exact hlists t lists ht l hl

theorem messageZone_of_keyed (hkeyed : Keyed (s.view zones))
    (hfresh : ∀ place ∈ placesOf zones, place.1 = n) {z : String}
    (hz : zones.get? z = some detectionDict) :
    MessageZone n s detectionDict where
  fresh := fun t place ht =>
    hfresh place (mem_placesOf.mpr ⟨z, detectionDict, t, hz, ht⟩)
  keyed := by
    intro t place ht l hl
    have hview : (s.view zones).get? z =
        some (detectionDict.map s.dataListDict) := by
      rw [view, Dict.get?_map, hz]
      rfl
    obtain ⟨htypes, hlists⟩ := hkeyed z _ hview
    have hlist : l.isDetectionType = false := by
      refine hlists t (s.dataListDict place) ?_ l hl
      rw [Dict.get?_map, ht]
      rfl
    rw [Dict.contains, Option.isSome_eq_false_iff, Option.isNone_iff_eq_none,
      Dict.get?_eq_none_iff]
    intro hmem
    rw [htypes l (by rwa [Dict.keys_map])] at hlist
    cases hlist

/-- A message whose lists go to dictionaries of their own is stored, and its lists
take the places of those that were stored. -/
theorem run_addMessage (order : SetOrder ElementID) {message : DetectionMessage}
    (hread : s.Read) (hkeyed : Keyed message.view)
    (hwritten : s.Written message.view) :
    ∃ zones s', (addMessage order message).run s = .ok zones s' ∧
      s'.view zones = noDuplicates order message.view ∧ s'.Read ∧
      ∀ z t l, s'.dataList? z t l =
        ((message.view.dataList? z t l).map fun dataList =>
          order.list dataList.toFinset).or (s.dataList? z t l) := by
  obtain ⟨zones, s₁, hrun₁, hstored₁, hreceived₁, hold₁, hfresh, hview₁⟩ :=
    run_receive message s
  obtain ⟨s₂, hrun₂, hstored₂, hreceived₂, hlists₂⟩ :=
    run_deleteDuplicateData order zones s₁
  have hview₂ : s₂.view zones = noDuplicates order message.view := by
    rw [← hview₁]
    refine view_congr fun z d hz t place ht => ?_
    rw [hlists₂, if_pos (mem_placesOf.mpr ⟨z, d, t, hz, ht⟩)]
  have hplace₂ : ∀ z t, s₂.place? z t = s.place? z t := by
    intro z t
    rw [place?, place?, hstored₂, hstored₁]
  have hsame₂ : ∀ z t l, s₂.dataList? z t l = s.dataList? z t l := by
    intro z t l
    rw [dataList?_eq, dataList?_eq, hplace₂]
    refine Option.bind_congr fun place hplace => ?_
    have hne : place.1 ≠ s.received := (hread z t place hplace).ne
    rw [hlists₂, if_neg fun hmem => hne (hfresh place hmem), hold₁ place hne]
  have hkeyed₂ : Keyed (s₂.view zones) := by
    rw [hview₂]
    exact keyed_noDuplicates hkeyed order
  have hwritable : ∀ z d, zones.get? z = some d →
      s₂.allZoneDetectionDict.contains z = true →
        Writable s.received s₂ z d := by
    intro z d hz hknown t source ht hne
    rw [hstored₂, hstored₁] at hknown
    have hsource : source ∈ placesOf zones := mem_placesOf.mpr ⟨z, d, t, hz, ht⟩
    obtain ⟨place, hplace, halone⟩ := hwritten z (d.map s₁.dataListDict) t
      (s₁.dataListDict source) (by rw [← hview₁, view, Dict.get?_map, hz]; rfl)
      (by rw [Dict.get?_map, ht]; rfl) (by
        rw [hlists₂, if_pos hsource] at hne
        simpa [withoutDuplicates] using hne) hknown
    exact ⟨place, (hplace₂ z t).trans hplace, (hread z t place hplace).ne,
      fun z' t' h => halone z' t' ((hplace₂ z' t').symm.trans h)⟩
  obtain ⟨s₃, hrun₃, hstored₃, hs₃⟩ := run_addDetectionDict
    (fun z d hz => messageZone_of_keyed hkeyed₂ hfresh hz) hwritable
  refine ⟨zones, s₃, ?_, ?_, ?_, fun z t l => ?_⟩
  · rw [addMessage, PyM.run_bind_ok hrun₁, PyM.run_bind_ok hrun₂,
      PyM.run_bind_ok hrun₃]
    rfl
  · rw [← hview₂]
    have hsame : s₃.view zones = (s₂.view zones).map fun d => d.map id :=
      view_congr fun z d hz t place ht => hs₃.fresh place
        (hfresh place (mem_placesOf.mpr ⟨z, d, t, hz, ht⟩))
    rw [hsame]
    apply Dict.ext_items
    simp [Dict.map]
  · intro z t place hplace
    rw [hs₃.received, hreceived₂, hreceived₁]
    rw [place?, hstored₃, hstored₂, hstored₁] at hplace
    cases hz : s.allZoneDetectionDict.get? z with
    | some d =>
        rw [hz, Option.some_or] at hplace
        have hlt := hread z t place (by rw [place?, hz]; exact hplace)
        omega
    | none =>
        rw [hz, Option.none_or, Option.bind_eq_some_iff] at hplace
        obtain ⟨d, hd, hplace⟩ := hplace
        have heq := hfresh place (mem_placesOf.mpr ⟨z, d, t, hd, hplace⟩)
        omega
  · rw [hs₃.dataList?, hsame₂, hview₂, dataList?_noDuplicates]

/-! ## Resumed elements -/

/-- A notice that names no element changes nothing. -/
theorem run_processResumeData {all : AllZoneDetectionDict}
    (h : ∀ z t l data, ¬ Holds all z t l data) (s : DetectionDataMaintainer) :
    (processResumeData all).run s = .ok () s := by
  have hempty : ∀ {z d t lists l dataList}, (z, d) ∈ all.items →
      (t, lists) ∈ d.items → (l, dataList) ∈ lists.items → dataList = [] := by
    intro z d t lists l dataList hz ht hl
    rw [Dict.mem_items_iff] at hz ht hl
    refine List.eq_nil_iff_forall_not_mem.mpr fun data hdata => ?_
    refine h z t l data ⟨dataList, ?_, hdata⟩
    simp [AllZoneDetectionDict.dataList?, listIn, hz, ht, hl]
  refine PyM.run_forM_same fun e he => PyM.run_forM_same fun e₁ he₁ =>
    PyM.run_forM_same fun e₂ he₂ => PyM.run_forM_same fun data hdata => ?_
  rw [hempty he he₁ he₂] at hdata
  cases hdata

end SelfAdaptiveMano.Regulator.DetectionDataMaintainer

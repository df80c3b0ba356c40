import SelfAdaptiveMano.Regulator.DetectionData
import SelfAdaptiveMano.Regulator.NoticeAnalyzer
import SelfAdaptiveMano.Regulator.RecoveryTurns

/-!
# Which SFCIs are reported

An SFCI is reported exactly when it is eligible and an element of the notice is on
a primary path or is named in the key of a backup path. The backup paths themselves
are not looked at.
-/

namespace SelfAdaptiveMano.Regulator

open Library
open Mapping (LayerNode)
open DetectionDataMaintainer (listIn noDuplicates withoutDuplicates)
open SFCRestorer (exampleBase exampleSFC sound_exampleBase)

namespace NoticeAnalyzer

/-- The notice of a zone has all lists, with elements of their kinds. -/
structure Complete (detectionDict : DetectionDict) : Prop where
  lists : ∀ key ∈ [DetectionKey.failure, .abnormal],
    ∀ listType ∈ [DetectionKey.switchIDList, .serverIDList, .linkIDList],
      ∃ idList, listIn detectionDict key listType = some idList
  nodes : ∀ key listType idList, listType ∈ [DetectionKey.switchIDList, .serverIDList] →
    listIn detectionDict key listType = some idList →
      ∀ element ∈ idList, ∃ nodeID, element = .node nodeID
  links : ∀ key idList, listIn detectionDict key .linkIDList = some idList →
    ∀ element ∈ idList, ∃ srcID dstID, element = .link srcID dstID

/-- An SFCI is stored under its ID, with an SFC whose ends are selected. -/
structure Stored (oib : OrchInfoBase) : Prop where
  sfci : ∀ sfciID row, oib.sfciTable.get? sfciID = some row →
    row.pickle.sfciID = sfciID
  sfc : ∀ sfciID row, oib.sfciTable.get? sfciID = some row →
    ∃ sfc, oib.getSFC4DB row.sfcUUID = some sfc ∧
      ∀ direction ∈ sfc.directions,
        direction.ingress.isSome ∧ direction.egress.isSome

def Notified (detectionDict : DetectionDict) (element : ElementID) : Prop :=
  ∃ key ∈ [DetectionKey.failure, .abnormal], ∃ listType ∈
    [DetectionKey.switchIDList, .serverIDList, .linkIDList], ∃ idList,
      listIn detectionDict key listType = some idList ∧ element ∈ idList

def LinkNotified (detectionDict : DetectionDict) (srcID dstID : Nat) : Prop :=
  Notified detectionDict (.link srcID dstID) ∨ Notified detectionDict (.link dstID srcID)

def OnPath (detectionDict : DetectionDict) (path : Mapping.ForwardingPath) : Prop :=
  ∃ segPath ∈ path,
    (∃ layerNodeID ∈ segPath, Notified detectionDict (.node layerNodeID.2)) ∨
    ∃ hop ∈ segPath.zip segPath.tail, LinkNotified detectionDict hop.1.2 hop.2.2

def pathIDOffsets : List Nat :=
  [Mapping.DIRECTION0_PATHID_OFFSET, Mapping.DIRECTION1_PATHID_OFFSET]

def OnPrimary (detectionDict : DetectionDict) (paths : ForwardingPathSet) : Prop :=
  ∃ pathIDOffset ∈ pathIDOffsets, ∃ path,
    paths.primaryForwardingPath.get? pathIDOffset = some path ∧
      OnPath detectionDict path

def OnBackup (detectionDict : DetectionDict) (paths : ForwardingPathSet) : Prop :=
  ∃ pathIDOffset ∈ pathIDOffsets, ∃ backups,
    paths.backupForwardingPath.get? pathIDOffset = some backups ∧
      ∃ path ∈ backups.values, OnPath detectionDict path

/-- A value is that of a notified node, or two neighbours are the ends of a notified
link. -/
def Names (detectionDict : DetectionDict) (values : List KeyValue) : Prop :=
  (∃ nodeID, .int nodeID ∈ values ∧ Notified detectionDict (.node nodeID)) ∨
  ∃ srcID dstID, (.int srcID, .int dstID) ∈ values.zip values.tail ∧
    LinkNotified detectionDict srcID dstID

def InKey (detectionDict : DetectionDict) (paths : ForwardingPathSet) : Prop :=
  ∃ pathIDOffset ∈ pathIDOffsets, ∃ backups,
    paths.backupForwardingPath.get? pathIDOffset = some backups ∧
      ∃ key ∈ backups.keys, Names detectionDict (key.map Prod.snd)

/-- The SFCI is `ACTIVE` or its last recovery has failed. -/
def Eligible (rTM : RecoveryTaskMaintainer) (row : SFCIRow) : Prop :=
  row.state = .active ∨
    (rTM.task? row.sfcUUID .sfci row.pickle.sfciID).map RecoveryTask.recoveryTaskState =
      some .failed

/-- The analysis ends, and reports the SFCI exactly if a notified element of its
zone lies on one of its paths. -/
def ReportsAffected (objects : StoredObjects) (oib : OrchInfoBase)
    (rTM : RecoveryTaskMaintainer) (allZoneDetectionDict : AllZoneDetectionDict)
    (sfciID : Nat) (row : SFCIRow) : Prop :=
  ∃ hits, getAffectedSFCITupleList objects oib rTM allZoneDetectionDict = .ok hits ∧
    (sfciID ∈ hits.map AffectedSFCI.sfciID ↔ ∃ detectionDict,
      allZoneDetectionDict.get? row.zoneName.name = some detectionDict ∧
        (OnPrimary detectionDict (objects.forwardingPathSet row.pickle) ∨
          OnBackup detectionDict (objects.forwardingPathSet row.pickle)))

/-- An SFCI with a notified element on a path is eligible; and when none is on a
primary path, there is one on a backup path exactly if one is named in a key. -/
def AnalysisOk (objects : StoredObjects) (rTM : RecoveryTaskMaintainer)
    (allZoneDetectionDict : AllZoneDetectionDict) (row : SFCIRow) : Prop :=
  ∀ detectionDict, allZoneDetectionDict.get? row.zoneName.name = some detectionDict →
    let paths := objects.forwardingPathSet row.pickle
    (OnPrimary detectionDict paths ∨ OnBackup detectionDict paths → Eligible rTM row) ∧
    (Eligible rTM row → ¬ OnPrimary detectionDict paths →
      (InKey detectionDict paths ↔ OnBackup detectionDict paths))

/-! ## Elements -/

section Elements

variable {detectionDict : DetectionDict} (h : Complete detectionDict)
include h

omit h in
theorem notified_iff {element : ElementID} {listTypes : List DetectionKey}
    (hsub : listTypes ⊆ [.switchIDList, .serverIDList, .linkIDList])
    (hkind : ∀ key listType idList,
      listType ∈ [DetectionKey.switchIDList, .serverIDList, .linkIDList] →
        listIn detectionDict key listType = some idList → element ∈ idList →
          listType ∈ listTypes) :
    Notified detectionDict element ↔
      ∃ key ∈ [DetectionKey.failure, .abnormal], ∃ listType ∈ listTypes, ∃ idList,
        listIn detectionDict key listType = some idList ∧ element ∈ idList := by
  constructor
  · rintro ⟨key, hkey, listType, hlistType, idList, hlist, hmem⟩
    exact ⟨key, hkey, listType, hkind key listType idList hlistType hlist hmem,
      idList, hlist, hmem⟩
  · rintro ⟨key, hkey, listType, hlistType, hrest⟩
    exact ⟨key, hkey, listType, hsub hlistType, hrest⟩

theorem Complete.notified_node_iff {nodeID : Nat} :
    Notified detectionDict (.node nodeID) ↔
      ∃ key ∈ [DetectionKey.failure, .abnormal],
        ∃ listType ∈ [DetectionKey.switchIDList, .serverIDList], ∃ idList,
          listIn detectionDict key listType = some idList ∧ .node nodeID ∈ idList := by
  refine notified_iff (by decide) fun key listType idList hlistType hlist hmem => ?_
  simp only [List.mem_cons, List.not_mem_nil, or_false] at hlistType ⊢
  obtain rfl | rfl | rfl := hlistType
  · exact Or.inl rfl
  · exact Or.inr rfl
  · obtain ⟨srcID, dstID, heq⟩ := h.links key idList hlist _ hmem
    cases heq

theorem Complete.notified_link_iff {srcID dstID : Nat} :
    Notified detectionDict (.link srcID dstID) ↔
      ∃ key ∈ [DetectionKey.failure, .abnormal],
        ∃ listType ∈ [DetectionKey.linkIDList, .serverIDList], ∃ idList,
          listIn detectionDict key listType = some idList ∧
            .link srcID dstID ∈ idList := by
  refine notified_iff (by decide) fun key listType idList hlistType hlist hmem => ?_
  by_cases hnode : listType ∈ [DetectionKey.switchIDList, .serverIDList]
  · obtain ⟨nodeID, heq⟩ := h.nodes key listType idList hnode hlist _ hmem
    cases heq
  · simp only [List.mem_cons, List.not_mem_nil, or_false] at hlistType hnode ⊢
    tauto

theorem Complete.search_eq (listTypes : List DetectionKey)
    (hsub : listTypes ⊆ [.switchIDList, .serverIDList, .linkIDList])
    (test : ElementID → Bool) :
    ∃ b, ([DetectionKey.failure, .abnormal].anyM fun key =>
        listTypes.anyM fun listType => do
          let idList ← idListOf detectionDict key listType
          return idList.any test) = .ok b ∧
      (b = true ↔ ∃ key ∈ [DetectionKey.failure, .abnormal],
        ∃ listType ∈ listTypes, ∃ idList,
          listIn detectionDict key listType = some idList ∧
            ∃ element ∈ idList, test element = true) := by
  refine except_anyM_of_ok fun key hkey => except_anyM_of_ok fun listType hlistType => ?_
  obtain ⟨idList, hlist⟩ := h.lists key hkey listType (hsub hlistType)
  have hget : idListOf detectionDict key listType = .ok idList := by
    rw [idListOf, hlist]
  rw [hget]
  refine ⟨_, rfl, ?_⟩
  simp [hlist]

theorem Complete.isNodeIDInDetectionDict_eq (nodeID : KeyValue) :
    ∃ b, isNodeIDInDetectionDict nodeID detectionDict = .ok b ∧
      (b = true ↔ ∃ n, nodeID = .int n ∧ Notified detectionDict (.node n)) := by
  obtain ⟨b, hb, hiff⟩ := h.search_eq
    [DetectionKey.switchIDList, .serverIDList] (by decide)
    fun element => elementOf nodeID == some element
  refine ⟨b, hb, hiff.trans ?_⟩
  simp only [beq_iff_eq]
  constructor
  · rintro ⟨key, hkey, listType, hlistType, idList, hlist, element, hmem, heq⟩
    obtain ⟨n, rfl⟩ := h.nodes key listType idList hlistType hlist element hmem
    have hint : nodeID = .int n := by
      cases nodeID <;> simp_all [elementOf]
    exact ⟨n, hint, h.notified_node_iff.mpr
      ⟨key, hkey, listType, hlistType, idList, hlist, hmem⟩⟩
  · rintro ⟨n, rfl, hnotified⟩
    obtain ⟨key, hkey, listType, hlistType, idList, hlist, hmem⟩ :=
      h.notified_node_iff.mp hnotified
    exact ⟨key, hkey, listType, hlistType, idList, hlist, _, hmem, rfl⟩

omit h in
theorem linkOf_eq_some_iff {src dst : KeyValue} {element : ElementID} :
    linkOf src dst = some element ↔ ∃ srcID dstID,
      src = .int srcID ∧ dst = .int dstID ∧ element = .link srcID dstID := by
  cases src <;> cases dst <;> simp [linkOf, eq_comm]

theorem Complete.isLinkIDInDetectionDict_eq (linkID : KeyValue × KeyValue) :
    ∃ b, isLinkIDInDetectionDict linkID detectionDict = .ok b ∧
      (b = true ↔ ∃ srcID dstID, (.int srcID, .int dstID) = linkID ∧
        LinkNotified detectionDict srcID dstID) := by
  obtain ⟨src, dst⟩ := linkID
  obtain ⟨b, hb, hiff⟩ := h.search_eq
    [DetectionKey.linkIDList, .serverIDList] (by decide)
    fun element => linkOf src dst == some element || linkOf dst src == some element
  refine ⟨b, hb, hiff.trans ?_⟩
  simp only [Bool.or_eq_true, beq_iff_eq]
  constructor
  · rintro ⟨key, hkey, listType, hlistType, idList, hlist, element, hmem, heq | heq⟩
    · obtain ⟨srcID, dstID, rfl, rfl, rfl⟩ := linkOf_eq_some_iff.mp heq
      exact ⟨srcID, dstID, rfl, Or.inl (h.notified_link_iff.mpr
        ⟨key, hkey, listType, hlistType, idList, hlist, hmem⟩)⟩
    · obtain ⟨dstID, srcID, rfl, rfl, rfl⟩ := linkOf_eq_some_iff.mp heq
      exact ⟨srcID, dstID, rfl, Or.inr (h.notified_link_iff.mpr
        ⟨key, hkey, listType, hlistType, idList, hlist, hmem⟩)⟩
  · rintro ⟨srcID, dstID, heq, hnotified | hnotified⟩
    · obtain ⟨rfl, rfl⟩ := Prod.mk.inj heq
      obtain ⟨key, hkey, listType, hlistType, idList, hlist, hmem⟩ :=
        h.notified_link_iff.mp hnotified
      exact ⟨key, hkey, listType, hlistType, idList, hlist, _, hmem, Or.inl rfl⟩
    · obtain ⟨rfl, rfl⟩ := Prod.mk.inj heq
      obtain ⟨key, hkey, listType, hlistType, idList, hlist, hmem⟩ :=
        h.notified_link_iff.mp hnotified
      exact ⟨key, hkey, listType, hlistType, idList, hlist, _, hmem, Or.inr rfl⟩

/-! ## Segments -/

omit h in
theorem getNodeID_of_isSome {node : Option Node} (hnode : node.isSome) :
    ∃ nodeID, getNodeID node = .ok nodeID := by
  cases node with
  | none => cases hnode
  | some node => cases node <;> exact ⟨_, rfl⟩

omit h in
/-- The comparison with the ends of the directions, and the log entry, do not
raise. -/
theorem classifier_eq {directions : List Direction}
    (hselected : ∀ direction ∈ directions,
      direction.ingress.isSome ∧ direction.egress.isSome) (nodeID : KeyValue) :
    ∃ b, isNodeTheClassifier nodeID directions = .ok b ∧
      (b = true → logClassifier directions = .ok ()) := by
  obtain ⟨b, hb, hiff⟩ := except_anyM_of_ok (l := directions) (Q := fun direction =>
      ∃ ingressID egressID, getNodeID direction.ingress = .ok ingressID ∧
        getNodeID direction.egress = .ok egressID ∧
          (KeyValue.int ingressID = nodeID ∨ KeyValue.int egressID = nodeID))
    (f := fun direction => do
      let ingressID ← getNodeID direction.ingress
      if KeyValue.int ingressID = nodeID then return true
      let egressID ← getNodeID direction.egress
      return KeyValue.int egressID == nodeID)
    fun direction hdirection => by
      obtain ⟨ingressID, hingress⟩ :=
        getNodeID_of_isSome (hselected direction hdirection).1
      obtain ⟨egressID, hegress⟩ :=
        getNodeID_of_isSome (hselected direction hdirection).2
      simp only [hingress, hegress]
      by_cases heq : KeyValue.int ingressID = nodeID
      · exact ⟨true, if_pos heq, by simp [heq]⟩
      · exact ⟨_, if_neg heq, by simp [heq]⟩
  refine ⟨b, hb, fun htrue => ?_⟩
  obtain ⟨direction, hmem, -⟩ := hiff.mp htrue
  cases directions with
  | nil => cases hmem
  | cons first rest =>
      obtain ⟨hingress, hegress⟩ := hselected first List.mem_cons_self
      obtain ⟨ingressID, hingress⟩ := getNodeID_of_isSome hingress
      obtain ⟨egressID, hegress⟩ := getNodeID_of_isSome hegress
      rw [logClassifier, show itemAt (first :: rest) 0 = .ok first from rfl]
      show (getNodeID first.ingress >>= fun _ => getNodeID first.egress >>= fun _ =>
        (.ok () : Except PyError Unit)) = .ok ()
      rw [hingress, hegress]
      rfl

theorem Complete.segmentInfluence_eq {sfc : SFC}
    (hselected : ∀ direction ∈ sfc.directions,
      direction.ingress.isSome ∧ direction.egress.isSome)
    (influence : Influence) (segPath : List KeyValue) :
    ∃ influence', segmentInfluence detectionDict (some sfc) influence segPath =
        .ok influence' ∧
      (influence'.influenced = true ↔
        influence.influenced = true ∨ Names detectionDict segPath) := by
  obtain ⟨afterNodes, hnodes, hiff⟩ := except_foldlM_of_ok (l := segPath)
    (P := fun influence : Influence => influence.influenced = true)
    (Q := fun nodeID => ∃ n, nodeID = .int n ∧ Notified detectionDict (.node n))
    (f := nodeInfluence detectionDict (some sfc)) (by
      intro influence nodeID _
      obtain ⟨b, hb, hfound⟩ := h.isNodeIDInDetectionDict_eq nodeID
      rw [nodeInfluence, hb]
      cases b with
      | false => exact ⟨influence, rfl, by simp [← hfound]⟩
      | true =>
          obtain ⟨b, hclassifier, hlog⟩ := classifier_eq hselected nodeID
          have hnotified := hfound.mp rfl
          cases b with
          | true =>
              refine ⟨⟨true, true⟩, ?_, by simp [hnotified]⟩
              show (isNodeTheClassifier nodeID sfc.directions >>= _) = _
              rw [hclassifier]
              show (logClassifier sfc.directions >>= _) = _
              rw [hlog rfl]
              rfl
          | false =>
              refine ⟨{ influence with influenced := true }, ?_, by simp [hnotified]⟩
              show (isNodeTheClassifier nodeID sfc.directions >>= _) = _
              rw [hclassifier]
              rfl) influence
  obtain ⟨afterLinks, hlinks, hiff'⟩ := except_foldlM_of_ok
    (l := segPath.zip segPath.tail)
    (P := fun influence : Influence => influence.influenced = true)
    (Q := fun linkID => ∃ srcID dstID, (.int srcID, .int dstID) = linkID ∧
      LinkNotified detectionDict srcID dstID)
    (f := linkInfluence detectionDict) (by
      intro influence linkID _
      obtain ⟨b, hb, hfound⟩ := h.isLinkIDInDetectionDict_eq linkID
      rw [linkInfluence, hb]
      cases b with
      | false => exact ⟨influence, rfl, by simp [← hfound]⟩
      | true => exact ⟨{ influence with influenced := true }, rfl, by simp [← hfound]⟩)
    afterNodes
  refine ⟨afterLinks, ?_, ?_⟩
  · rw [segmentInfluence, hnodes]
    exact hlinks
  · rw [hiff', hiff, or_assoc, Names]
    refine or_congr_right (or_congr ?_ ?_)
    · constructor
      · rintro ⟨nodeID, hmem, n, rfl, hnotified⟩
        exact ⟨n, hmem, hnotified⟩
      · rintro ⟨n, hmem, hnotified⟩
        exact ⟨_, hmem, n, rfl, hnotified⟩
    · constructor
      · rintro ⟨linkID, hmem, srcID, dstID, rfl, hnotified⟩
        exact ⟨srcID, dstID, hmem, hnotified⟩
      · rintro ⟨srcID, dstID, hmem, hnotified⟩
        exact ⟨_, hmem, srcID, dstID, rfl, hnotified⟩

omit h in
theorem mem_segmentsOf {paths : ForwardingPathSet} {pathIDOffset : Nat}
    {values : List KeyValue} : values ∈ segmentsOf paths pathIDOffset ↔
      (∃ path, paths.primaryForwardingPath.get? pathIDOffset = some path ∧
        ∃ segPath ∈ path,
          segPath.map (fun layerNodeID => .int layerNodeID.2) = values) ∨
      ∃ backups, paths.backupForwardingPath.get? pathIDOffset = some backups ∧
        ∃ key ∈ backups.keys, key.map Prod.snd = values := by
  rw [segmentsOf, List.mem_append, List.mem_map, List.mem_map]
  refine or_congr ?_ ?_
  · cases paths.primaryForwardingPath.get? pathIDOffset <;> simp
  · cases paths.backupForwardingPath.get? pathIDOffset <;> simp

omit h in
theorem names_map_iff {segPath : List LayerNode} :
    Names detectionDict (segPath.map fun layerNodeID => .int layerNodeID.2) ↔
      (∃ layerNodeID ∈ segPath, Notified detectionDict (.node layerNodeID.2)) ∨
      ∃ hop ∈ segPath.zip segPath.tail, LinkNotified detectionDict hop.1.2 hop.2.2 := by
  rw [Names, ← List.map_tail, List.zip_map]
  refine or_congr ?_ ?_
  · constructor
    · rintro ⟨nodeID, hmem, hnotified⟩
      obtain ⟨layerNodeID, hnode, heq⟩ := List.mem_map.mp hmem
      obtain rfl := KeyValue.int.inj heq
      exact ⟨layerNodeID, hnode, hnotified⟩
    · rintro ⟨layerNodeID, hmem, hnotified⟩
      exact ⟨_, List.mem_map_of_mem hmem, hnotified⟩
  · constructor
    · rintro ⟨srcID, dstID, hmem, hnotified⟩
      obtain ⟨hop, hhop, heq⟩ := List.mem_map.mp hmem
      obtain ⟨hsrc, hdst⟩ := Prod.mk.inj heq
      obtain rfl := KeyValue.int.inj hsrc
      obtain rfl := KeyValue.int.inj hdst
      exact ⟨hop, hhop, hnotified⟩
    · rintro ⟨hop, hmem, hnotified⟩
      exact ⟨_, _, List.mem_map.mpr ⟨hop, hmem, rfl⟩, hnotified⟩

theorem Complete.influenceOf_eq {sfc : SFC}
    (hselected : ∀ direction ∈ sfc.directions,
      direction.ingress.isSome ∧ direction.egress.isSome)
    (paths : ForwardingPathSet) :
    ∃ influence, influenceOf detectionDict (some sfc) paths = .ok influence ∧
      (influence.influenced = true ↔
        OnPrimary detectionDict paths ∨ InKey detectionDict paths) := by
  obtain ⟨influence, hinfluence, hiff⟩ := except_foldlM_of_ok
    (P := fun influence : Influence => influence.influenced = true)
    (fun influence segPath _ => h.segmentInfluence_eq hselected influence segPath)
    (l := pathIDOffsets.flatMap (segmentsOf paths)) ⟨false, false⟩
  refine ⟨influence, hinfluence, hiff.trans ?_⟩
  simp only [Bool.false_eq_true, false_or, List.mem_flatMap]
  constructor
  · rintro ⟨values, ⟨pathIDOffset, hoffset, hvalues⟩, hnames⟩
    obtain ⟨path, hpath, segPath, hmem, rfl⟩ | ⟨backups, hbackups, key, hkey, rfl⟩ :=
      mem_segmentsOf.mp hvalues
    · exact Or.inl ⟨pathIDOffset, hoffset, path, hpath, segPath, hmem,
        names_map_iff.mp hnames⟩
    · exact Or.inr ⟨pathIDOffset, hoffset, backups, hbackups, key, hkey, hnames⟩
  · rintro (⟨pathIDOffset, hoffset, path, hpath, segPath, hmem, hon⟩ |
      ⟨pathIDOffset, hoffset, backups, hbackups, key, hkey, hnames⟩)
    · exact ⟨_, ⟨pathIDOffset, hoffset, mem_segmentsOf.mpr
        (Or.inl ⟨path, hpath, segPath, hmem, rfl⟩)⟩, names_map_iff.mpr hon⟩
    · exact ⟨_, ⟨pathIDOffset, hoffset, mem_segmentsOf.mpr
        (Or.inr ⟨backups, hbackups, key, hkey, rfl⟩)⟩, hnames⟩

end Elements

/-! ## The report -/

section Report

variable {objects : StoredObjects} {oib : OrchInfoBase} {rTM : RecoveryTaskMaintainer}
  {sfciID : Nat} {row : SFCIRow} {zoneName : String} {detectionDict : DetectionDict}

/-- For each zone in the notice that has SFCIs, the notice has all lists, and the
SFCs of these SFCIs are stored with selected ends. -/
def Analyzable (oib : OrchInfoBase)
    (allZoneDetectionDict : AllZoneDetectionDict) : Prop :=
  ∀ sfciID row detectionDict, oib.sfciTable.get? sfciID = some row →
    allZoneDetectionDict.get? row.zoneName.name = some detectionDict →
      Complete detectionDict ∧ ∃ sfc, oib.getSFC4DB row.sfcUUID = some sfc ∧
        ∀ direction ∈ sfc.directions,
          direction.ingress.isSome ∧ direction.egress.isSome

theorem Stored.analyzable {allZoneDetectionDict : AllZoneDetectionDict}
    (hstored : Stored oib)
    (hnotice : ∀ zoneName detectionDict,
      allZoneDetectionDict.get? zoneName = some detectionDict →
        Complete detectionDict) : Analyzable oib allZoneDetectionDict :=
  fun sfciID row detectionDict hrow hnamed =>
    ⟨hnotice _ detectionDict hnamed, hstored.sfc sfciID row hrow⟩

variable (objects rTM zoneName) in
theorem analyzeSFCI_eq (hrow : oib.sfciTable.get? sfciID = some row)
    (hid : row.pickle.sfciID = sfciID)
    (hnotice : zoneName = row.zoneName.name → Complete detectionDict ∧
      ∃ sfc, oib.getSFC4DB row.sfcUUID = some sfc ∧
        ∀ direction ∈ sfc.directions,
          direction.ingress.isSome ∧ direction.egress.isSome) :
    ∃ hit?, analyzeSFCI objects oib rTM zoneName detectionDict (sfciID, row) =
        .ok hit? ∧
      (∀ hit ∈ hit?, hit.sfciID = sfciID) ∧
      (hit?.isSome ↔ zoneName = row.zoneName.name ∧ Eligible rTM row ∧
        (OnPrimary detectionDict (objects.forwardingPathSet row.pickle) ∨
          InKey detectionDict (objects.forwardingPathSet row.pickle))) := by
  have hstate : oib.getSFCIState row.pickle.sfciID = some row.state := by
    rw [hid, OrchInfoBase.getSFCIState, hrow]
    rfl
  by_cases hzone : zoneName = row.zoneName.name
  · obtain ⟨hcomplete, sfc, hsfc, hselected⟩ := hnotice hzone
    obtain ⟨influence, hinfluence, hiff⟩ :=
      hcomplete.influenceOf_eq hselected (objects.forwardingPathSet row.pickle)
    simp only [analyzeSFCI, hstate, hsfc]
    rw [if_pos hzone, hinfluence]
    by_cases hinfluenced : influence.influenced = true
    · have htype : (if influence.classifierInfluenced then RecoveryTaskType.sfci
          else if influence.classifierInfluenced then .sfc else .sfci) = .sfci := by
        split <;> simp_all
      show ∃ hit?, (if influence.influenced = true then _ else _) = _ ∧ _
      rw [if_pos hinfluenced, htype]
      by_cases heligible : Eligible rTM row
      · refine ⟨some ⟨row.pickle.sfciID, sfc,
          if influence.classifierInfluenced then .sfc else .sfci⟩, ?_, ?_, ?_⟩
        · rw [if_neg]
          · rfl
          · rintro ⟨hstate, htask⟩
            obtain heq | heq := heligible
            · exact hstate (congrArg some heq)
            · exact htask heq
        · rintro hit hhit
          obtain rfl := Option.mem_some.mp hhit
          exact hid
        · simp [hzone, heligible, ← hiff, hinfluenced]
      · refine ⟨none, ?_, by simp, by simp [heligible]⟩
        rw [if_pos]
        · rfl
        · rw [Eligible, not_or] at heligible
          exact ⟨fun heq => heligible.1 (Option.some.inj heq), heligible.2⟩
    · refine ⟨none, ?_, by simp, by simp [← hiff, hinfluenced]⟩
      show (if influence.influenced = true then _ else _) = _
      rw [if_neg hinfluenced]
      rfl
  · refine ⟨none, ?_, by simp, by simp [hzone]⟩
    simp only [analyzeSFCI]
    rw [if_neg hzone]
    rfl

variable (objects rTM) in
theorem getAffectedSFCITupleList_eq {allZoneDetectionDict : AllZoneDetectionDict}
    (hids : ∀ sfciID row, oib.sfciTable.get? sfciID = some row →
      row.pickle.sfciID = sfciID)
    (hnotice : Analyzable oib allZoneDetectionDict) :
    ∃ hits, getAffectedSFCITupleList objects oib rTM allZoneDetectionDict =
        .ok hits ∧
      ∀ sfciID row, oib.sfciTable.get? sfciID = some row →
        (sfciID ∈ hits.map AffectedSFCI.sfciID ↔ ∃ detectionDict,
          allZoneDetectionDict.get? row.zoneName.name = some detectionDict ∧
          Eligible rTM row ∧
          (OnPrimary detectionDict (objects.forwardingPathSet row.pickle) ∨
            InKey detectionDict (objects.forwardingPathSet row.pickle))) := by
  have hsfci : ∀ {zoneName detectionDict sfciID row},
      allZoneDetectionDict.get? zoneName = some detectionDict →
      oib.sfciTable.get? sfciID = some row → ∃ hit?,
        analyzeSFCI objects oib rTM zoneName detectionDict (sfciID, row) =
          .ok hit? ∧
        (∀ hit ∈ hit?, hit.sfciID = sfciID) ∧
        (hit?.isSome ↔ zoneName = row.zoneName.name ∧ Eligible rTM row ∧
          (OnPrimary detectionDict (objects.forwardingPathSet row.pickle) ∨
            InKey detectionDict (objects.forwardingPathSet row.pickle))) := by
    intro zoneName detectionDict sfciID row hnamed hrow
    refine analyzeSFCI_eq objects rTM zoneName hrow (hids sfciID row hrow) ?_
    rintro rfl
    exact hnotice sfciID row detectionDict hrow hnamed
  have hturn : ∀ item ∈ allZoneDetectionDict.items, ∃ hits,
      _getAffectedSFCIAndSFCList objects oib rTM item.1 item.2 = .ok hits := by
    rintro ⟨zoneName, detectionDict⟩ hitem
    refine collect_of_ok ?_
    rintro ⟨sfciID, row⟩ hrow
    obtain ⟨hit?, hhit, -⟩ :=
      hsfci (Dict.mem_items_iff.mp hitem) (Dict.mem_items_iff.mp hrow)
    exact ⟨hit?, hhit⟩
  obtain ⟨lists, hlists⟩ := except_mapM_of_ok hturn
  refine ⟨_, by rw [getAffectedSFCITupleList, hlists]; rfl, fun sfciID row hrow => ?_⟩
  rw [List.mem_map]
  constructor
  · rintro ⟨hit, hmem, rfl⟩
    rw [_sortInfSFCIAndSFCTupleList, List.mem_mergeSort, List.mem_flatten] at hmem
    obtain ⟨hits, hhits, hmem⟩ := hmem
    obtain ⟨⟨zoneName, detectionDict⟩, hitem, hlist⟩ := exists_of_mem_mapM hlists hhits
    obtain ⟨⟨sfciID, row'⟩, hrow', hfound⟩ := (mem_of_collect hlist).mp hmem
    have hnamed := Dict.mem_items_iff.mp hitem
    obtain ⟨hit?, hhit, hfields, hiff⟩ := hsfci hnamed (Dict.mem_items_iff.mp hrow')
    obtain rfl := Except.ok.inj (hhit.symm.trans hfound)
    obtain rfl := hfields hit rfl
    obtain rfl : row' = row :=
      Option.some.inj ((Dict.mem_items_iff.mp hrow').symm.trans hrow)
    obtain ⟨rfl, hrest⟩ := hiff.mp rfl
    exact ⟨detectionDict, hnamed, hrest⟩
  · rintro ⟨detectionDict, hnamed, hrest⟩
    obtain ⟨hit?, hhit, hfields, hiff⟩ := hsfci hnamed hrow
    obtain ⟨hit, rfl⟩ := Option.isSome_iff_exists.mp (hiff.mpr ⟨rfl, hrest⟩)
    obtain ⟨hits, hhits, hlist⟩ :=
      exists_mem_mapM hlists (Dict.mem_items_iff.mpr hnamed)
    refine ⟨hit, ?_, hfields hit rfl⟩
    rw [_sortInfSFCIAndSFCTupleList, List.mem_mergeSort, List.mem_flatten]
    exact ⟨hits, hhits,
      (mem_of_collect hlist).mpr ⟨(sfciID, row), Dict.mem_items_iff.mpr hrow, hhit⟩⟩

theorem found_iff_onPath {eligible primary backup key : Prop} :
    (eligible ∧ (primary ∨ key) ↔ primary ∨ backup) ↔
      (primary ∨ backup → eligible) ∧ (eligible → ¬ primary → (key ↔ backup)) := by
  tauto

/-- The report is right about an SFCI exactly when the SFCI is eligible if it has to
be, and its keys name a notified element if its backup paths have one. -/
theorem reportsAffected_iff {allZoneDetectionDict : AllZoneDetectionDict}
    (hstored : Stored oib)
    (hnotice : ∀ zoneName detectionDict,
      allZoneDetectionDict.get? zoneName = some detectionDict →
        Complete detectionDict)
    (hrow : oib.sfciTable.get? sfciID = some row) :
    ReportsAffected objects oib rTM allZoneDetectionDict sfciID row ↔
      AnalysisOk objects rTM allZoneDetectionDict row := by
  obtain ⟨hits, hrun, hreported⟩ := getAffectedSFCITupleList_eq objects rTM
    hstored.sfci (hstored.analyzable hnotice)
  have hiff := hreported sfciID row hrow
  constructor
  · rintro ⟨hits', hrun', hreports⟩ detectionDict hnamed
    obtain rfl := Except.ok.inj (hrun.symm.trans hrun')
    have hboth := hiff.symm.trans hreports
    simp only [hnamed, Option.some.injEq, exists_eq_left'] at hboth
    exact found_iff_onPath.mp hboth
  · intro hok
    refine ⟨hits, hrun, hiff.trans ?_⟩
    refine exists_congr fun detectionDict => and_congr_right fun hnamed => ?_
    exact found_iff_onPath.mpr (hok detectionDict hnamed)

theorem of_analyzeSFCI {hit : AffectedSFCI}
    (h : analyzeSFCI objects oib rTM zoneName detectionDict (sfciID, row) =
      .ok (some hit)) :
    zoneName = row.zoneName.name ∧ hit.sfciID = row.pickle.sfciID ∧
      oib.getSFC4DB row.sfcUUID = some hit.sfc ∧
      (oib.getSFCIState row.pickle.sfciID = some .active ∨
        (rTM.task? row.sfcUUID .sfci row.pickle.sfciID).map
          RecoveryTask.recoveryTaskState = some .failed) := by
  simp only [analyzeSFCI] at h
  split at h
  case isFalse => cases h
  case isTrue hzone =>
    obtain ⟨influence, -, h⟩ := except_bind_eq_ok_iff.mp h
    split at h
    case isFalse => cases h
    case isTrue =>
      have htype : (if influence.classifierInfluenced then RecoveryTaskType.sfci
          else if influence.classifierInfluenced then .sfc else .sfci) = .sfci := by
        split <;> simp_all
      rw [htype] at h
      split at h
      case isTrue => cases h
      case isFalse hpassed =>
        cases hsfc : oib.getSFC4DB row.sfcUUID with
        | none =>
            rw [hsfc] at h
            cases h
        | some sfc =>
            rw [hsfc] at h
            cases h
            refine ⟨hzone, rfl, rfl, ?_⟩
            tauto

theorem of_getAffectedSFCITupleList {allZoneDetectionDict : AllZoneDetectionDict}
    {hits : List AffectedSFCI}
    (h : getAffectedSFCITupleList objects oib rTM allZoneDetectionDict = .ok hits) :
    ∃ lists, allZoneDetectionDict.items.mapM (fun (zoneName, detectionDict) =>
        _getAffectedSFCIAndSFCList objects oib rTM zoneName detectionDict) =
        .ok lists ∧ hits.Perm lists.flatten := by
  obtain ⟨lists, hlists, h⟩ := except_bind_eq_ok_iff.mp h
  cases h
  exact ⟨lists, hlists, List.mergeSort_perm _ _⟩

theorem affected_of_mem {s : SFCRestorer} {hits : List AffectedSFCI}
    {allZoneDetectionDict : AllZoneDetectionDict}
    (hids : ∀ sfciID row, s.oib.sfciTable.get? sfciID = some row →
      row.pickle.sfciID = sfciID)
    (h : getAffectedSFCITupleList objects s.oib s.rTM allZoneDetectionDict =
      .ok hits) {hit : AffectedSFCI} (hhit : hit ∈ hits) : s.Affected hit := by
  obtain ⟨lists, hlists, hperm⟩ := of_getAffectedSFCITupleList h
  rw [hperm.mem_iff, List.mem_flatten] at hhit
  obtain ⟨found, hfound, hhit⟩ := hhit
  obtain ⟨item, -, hlist⟩ := exists_of_mem_mapM hlists hfound
  obtain ⟨⟨sfciID, row⟩, hrow, hanalyzed⟩ := (mem_of_collect hlist).mp hhit
  obtain ⟨-, hid, hsfc, hpassed⟩ := of_analyzeSFCI hanalyzed
  have hrow := Dict.mem_items_iff.mp hrow
  have hkey := hids sfciID row hrow
  rw [hkey] at hid hpassed
  rw [OrchInfoBase.getSFCIState, hrow] at hpassed
  refine ⟨row, hid ▸ hrow, hsfc, ?_⟩
  obtain hactive | hfailed := hpassed
  · exact Or.inl (Option.some.inj hactive)
  · obtain ⟨task, htask, hstate⟩ := Option.map_eq_some_iff.mp hfailed
    exact Or.inr ⟨task, hid ▸ htask, hstate⟩

theorem nodup_getAffectedSFCITupleList {hits : List AffectedSFCI}
    {allZoneDetectionDict : AllZoneDetectionDict}
    (hids : ∀ sfciID row, oib.sfciTable.get? sfciID = some row →
      row.pickle.sfciID = sfciID)
    (h : getAffectedSFCITupleList objects oib rTM allZoneDetectionDict = .ok hits) :
    (hits.map AffectedSFCI.sfciID).Nodup := by
  obtain ⟨lists, hlists, hperm⟩ := of_getAffectedSFCITupleList h
  rw [(hperm.map _).nodup_iff]
  -- an SFCI is found in the turn of its own zone
  have hzone : ∀ {zoneName detectionDict found hit},
      _getAffectedSFCIAndSFCList objects oib rTM zoneName detectionDict =
        .ok found → hit ∈ found → ∃ row,
          oib.sfciTable.get? hit.sfciID = some row ∧ zoneName = row.zoneName.name := by
    intro zoneName detectionDict found hit hlist hhit
    obtain ⟨⟨sfciID, row⟩, hrow, hanalyzed⟩ := (mem_of_collect hlist).mp hhit
    obtain ⟨hzone, hid, -⟩ := of_analyzeSFCI hanalyzed
    have hrow := Dict.mem_items_iff.mp hrow
    exact ⟨row, by rw [hid, hids sfciID row hrow, hrow], hzone⟩
  have hnodup := allZoneDetectionDict.nodup_keys
  clear hperm h
  generalize allZoneDetectionDict.items = items at hlists hnodup
  induction items generalizing lists with
  | nil =>
      obtain rfl := Except.ok.inj hlists
      exact List.nodup_nil
  | cons item items ih =>
      obtain ⟨zoneName, detectionDict⟩ := item
      rw [List.map_cons, List.nodup_cons] at hnodup
      rw [List.mapM_cons] at hlists
      obtain ⟨found, hfound, hlists⟩ := except_bind_eq_ok_iff.mp hlists
      obtain ⟨rest, hrest, hlists⟩ := except_bind_eq_ok_iff.mp hlists
      obtain rfl := Except.ok.inj hlists
      rw [List.flatten_cons, List.map_append, List.nodup_append]
      refine ⟨?_, ih rest hrest hnodup.2, ?_⟩
      · refine (sublist_of_collect (k := Prod.fst) ?_ hfound).nodup
          oib.sfciTable.nodup_keys
        rintro ⟨sfciID, row⟩ hrow hit hhit
        obtain ⟨-, hid, -⟩ := of_analyzeSFCI hhit
        rw [hid, hids sfciID row (Dict.mem_items_iff.mp hrow)]
      · intro sfciID hmem sfciID' hmem' heq
        obtain ⟨hit, hhit, rfl⟩ := List.mem_map.mp hmem
        obtain ⟨hit', hhit', rfl⟩ := List.mem_map.mp hmem'
        obtain ⟨found', hfound', hhit'⟩ := List.mem_flatten.mp hhit'
        obtain ⟨⟨zoneName', d'⟩, hitem', hlist'⟩ := exists_of_mem_mapM hrest hfound'
        obtain ⟨row, hrow, rfl⟩ := hzone hfound hhit
        obtain ⟨row', hrow', rfl⟩ := hzone hlist' hhit'
        rw [heq, hrow', Option.some.injEq] at hrow
        subst hrow
        exact hnodup.1 (List.mem_map.mpr ⟨_, hitem', rfl⟩)

/-! ## Duplicates -/

variable (order : SetOrder ElementID)

theorem idListOf_withoutDuplicates (detectionDict : DetectionDict)
    (key listType : DetectionKey) :
    idListOf (detectionDict.map (withoutDuplicates order)) key listType =
      (fun idList => order.list idList.toFinset) <$>
        idListOf detectionDict key listType := by
  have hlist : listIn (detectionDict.map (withoutDuplicates order)) key listType =
      (listIn detectionDict key listType).map fun idList =>
        order.list idList.toFinset := by
    simp only [listIn, withoutDuplicates, Dict.get?_map, Option.bind_map,
      Option.map_bind, Function.comp_def]
  rw [idListOf, hlist, idListOf]
  cases listIn detectionDict key listType <;> rfl

theorem any_list_toFinset (test : ElementID → Bool) (idList : List ElementID) :
    (order.list idList.toFinset).any test = idList.any test := by
  rw [Bool.eq_iff_iff]
  simp [List.any_eq_true]

theorem influenceOf_withoutDuplicates (detectionDict : DetectionDict)
    (sfc : Option SFC) (paths : ForwardingPathSet) :
    influenceOf (detectionDict.map (withoutDuplicates order)) sfc paths =
      influenceOf detectionDict sfc paths := by
  have hsearch : ∀ (test : ElementID → Bool) (key listType : DetectionKey),
      (do
        let idList ← idListOf (detectionDict.map (withoutDuplicates order)) key
          listType
        return idList.any test) = (do
        let idList ← idListOf detectionDict key listType
        return idList.any test : Except PyError Bool) := by
    intro test key listType
    rw [idListOf_withoutDuplicates]
    cases idListOf detectionDict key listType with
    | error e => rfl
    | ok idList => exact congrArg Except.ok (any_list_toFinset order test idList)
  have hnode : ∀ nodeID, isNodeIDInDetectionDict nodeID
      (detectionDict.map (withoutDuplicates order)) =
        isNodeIDInDetectionDict nodeID detectionDict := by
    intro nodeID
    simp only [isNodeIDInDetectionDict, hsearch]
  have hlink : ∀ linkID, isLinkIDInDetectionDict linkID
      (detectionDict.map (withoutDuplicates order)) =
        isLinkIDInDetectionDict linkID detectionDict := by
    intro linkID
    simp only [isLinkIDInDetectionDict, hsearch]
  have hnodes : nodeInfluence (detectionDict.map (withoutDuplicates order)) sfc =
      nodeInfluence detectionDict sfc := by
    funext influence nodeID
    simp only [nodeInfluence, hnode]
  have hlinks : linkInfluence (detectionDict.map (withoutDuplicates order)) =
      linkInfluence detectionDict := by
    funext influence linkID
    simp only [linkInfluence, hlink]
  have hsegment : segmentInfluence (detectionDict.map (withoutDuplicates order)) sfc =
      segmentInfluence detectionDict sfc := by
    funext influence segPath
    rw [segmentInfluence, hnodes, hlinks, segmentInfluence]
  rw [influenceOf, hsegment, influenceOf]

variable (objects oib rTM) in
theorem getAffectedSFCITupleList_noDuplicates
    (allZoneDetectionDict : AllZoneDetectionDict) :
    getAffectedSFCITupleList objects oib rTM
        (noDuplicates order allZoneDetectionDict) =
      getAffectedSFCITupleList objects oib rTM allZoneDetectionDict := by
  have hturn : ∀ zoneName detectionDict,
      _getAffectedSFCIAndSFCList objects oib rTM zoneName
          (detectionDict.map (withoutDuplicates order)) =
        _getAffectedSFCIAndSFCList objects oib rTM zoneName detectionDict := by
    intro zoneName detectionDict
    rw [_getAffectedSFCIAndSFCList, _getAffectedSFCIAndSFCList]
    congr 1
    funext ⟨sfciID, row⟩
    simp only [analyzeSFCI, influenceOf_withoutDuplicates]
  rw [getAffectedSFCITupleList, noDuplicates, Dict.items_map, List.mapM_map,
    getAffectedSFCITupleList]
  simp only [Function.comp_def, hturn]

end Report

/-! ## The keys of `MMLBSFC` -/

def keyOf (key : Mapping.BackupPathKey) : BackupPathKey :=
  [("failureNodeID", .int key.failureNodeID), ("repairMethod", .text "fast-reroute"),
    ("repairSwitchID", .int key.repairSwitchID), ("newPathID", .int key.newPathID)]

section Examples

def exampleObjects : StoredObjects where
  forwardingPathSet _ :=
    ⟨Dict.empty.set 1 [[(0, 1), (0, 2), (0, 3)]],
      Dict.empty.set 1 (Dict.empty.set (keyOf ⟨2, 1, 7⟩) [[(0, 1), (0, 4), (0, 3)]])⟩
  availability _ := 99

def switchLists (switchIDList : List Nat) : DataListDict :=
  ((Dict.empty.set .switchIDList (switchIDList.map .node)).set .serverIDList []).set
    .linkIDList []

def zoneLists (failed abnormal : List Nat) : DetectionDict :=
  (Dict.empty.set .failure (switchLists failed)).set .abnormal (switchLists abnormal)

def switchFailure (switchID : Nat) : AllZoneDetectionDict :=
  Dict.empty.set "TURBONET_ZONE"
    ((Dict.empty.set .failure (switchLists [switchID])).set .abnormal (switchLists []))

theorem of_switchLists {switchIDs : List Nat} {listType : DetectionKey}
    {idList : List ElementID}
    (h : (switchLists switchIDs).get? listType = some idList) :
    listType = .switchIDList ∧ idList = switchIDs.map .node ∨ idList = [] := by
  simp only [switchLists, Dict.get?_set, Dict.get?_empty] at h
  split_ifs at h with hlink hserver hswitch
  · exact Or.inr (Option.some.inj h).symm
  · exact Or.inr (Option.some.inj h).symm
  · exact Or.inl ⟨hswitch, (Option.some.inj h).symm⟩

theorem complete_zoneLists (failed abnormal : List Nat) :
    Complete (zoneLists failed abnormal) := by
  have hlists : ∀ {key listType idList},
      listIn (zoneLists failed abnormal) key listType = some idList →
      listType = .switchIDList ∧ (∀ element ∈ idList, ∃ n, element = .node n) ∨
        idList = [] := by
    intro key listType idList hlist
    simp only [listIn, zoneLists, Dict.get?_set, Dict.get?_empty] at hlist
    split_ifs at hlist
    · obtain ⟨hswitch, rfl⟩ | hnil := of_switchLists hlist
      · exact Or.inl ⟨hswitch, by simp⟩
      · exact Or.inr hnil
    · obtain ⟨hswitch, rfl⟩ | hnil := of_switchLists hlist
      · exact Or.inl ⟨hswitch, by simp⟩
      · exact Or.inr hnil
    · cases hlist
  refine ⟨?_, ?_, ?_⟩
  · intro key hkey listType hlistType
    simp only [List.mem_cons, List.not_mem_nil, or_false] at hkey hlistType
    obtain rfl | rfl := hkey <;> obtain rfl | rfl | rfl := hlistType <;>
      exact ⟨_, rfl⟩
  · intro key listType idList _ hlist element hmem
    obtain ⟨-, hnodes⟩ | rfl := hlists hlist
    · exact hnodes element hmem
    · cases hmem
  · intro key idList hlist element hmem
    obtain ⟨hswitch, -⟩ | rfl := hlists hlist
    · cases hswitch
    · cases hmem

theorem complete_switchFailure {switchID : Nat} {zoneName : String}
    {detectionDict : DetectionDict}
    (h : (switchFailure switchID).get? zoneName = some detectionDict) :
    Complete detectionDict := by
  rw [switchFailure, Dict.get?_set] at h
  split_ifs at h
  · obtain rfl := Option.some.inj h
    exact complete_zoneLists [switchID] []
  · cases h

theorem stored_exampleBase : Stored (exampleBase .active .active .active) := by
  have hsound := sound_exampleBase .active .active .active
  refine ⟨hsound.sfci, fun sfciID row hrow => ⟨exampleSFC, ?_, by simp [exampleSFC]⟩⟩
  simp only [exampleBase, Dict.get?_set, Dict.get?_empty] at hrow
  split_ifs at hrow <;> obtain rfl := Option.some.inj hrow <;> rfl

def exampleRow : SFCIRow := ⟨exampleSFC.sfcUUID, .active, ⟨0, []⟩, .turbonet⟩

/-- Switch 2 of the primary path failed. -/
theorem reportsAffected_iff_primary :
    ReportsAffected exampleObjects (exampleBase .active .active .active)
      ⟨fun _ => .empty, fun _ => .empty⟩ (switchFailure 2) 0 exampleRow := by
  refine (reportsAffected_iff stored_exampleBase
    (fun _ _ => complete_switchFailure) rfl).mpr ?_
  intro detectionDict hnamed
  obtain rfl := Option.some.inj hnamed
  have hprimary : OnPrimary
      ((Dict.empty.set .failure (switchLists [2])).set .abnormal (switchLists []))
      (exampleObjects.forwardingPathSet exampleRow.pickle) :=
    ⟨1, by decide, _, rfl, _, List.mem_singleton_self _, Or.inl ⟨(0, 2), by decide,
      .failure, by decide, .switchIDList, by decide, _, rfl, by decide⟩⟩
  exact ⟨fun _ => Or.inl rfl, fun _ hnot => absurd hprimary hnot⟩

/-- Switch 4 of the backup path failed, and nothing is reported. -/
theorem not_reportsAffected_backup :
    Stored (exampleBase .active .active .active) ∧
      ¬ ReportsAffected exampleObjects (exampleBase .active .active .active)
        ⟨fun _ => .empty, fun _ => .empty⟩ (switchFailure 4) 0 exampleRow := by
  refine ⟨stored_exampleBase, ?_⟩
  rintro ⟨hits, hrun, hiff⟩
  have hnone : getAffectedSFCITupleList exampleObjects
      (exampleBase .active .active .active) ⟨fun _ => .empty, fun _ => .empty⟩
      (switchFailure 4) = .ok [] := by
    rw [getAffectedSFCITupleList, show (switchFailure 4).items.mapM _ = .ok [[]] from rfl]
    show Except.ok (_sortInfSFCIAndSFCTupleList exampleObjects []) = _
    rw [_sortInfSFCIAndSFCTupleList, List.mergeSort_nil]
  obtain rfl := Except.ok.inj (hnone.symm.trans hrun)
  have hmem := hiff.mpr ⟨_, rfl, Or.inr ⟨1, by decide, _, rfl, _,
    List.mem_singleton_self _, _, List.mem_singleton_self _, Or.inl ⟨(0, 4), by decide,
      .failure, by decide, .switchIDList, by decide, _, rfl, by decide⟩⟩⟩
  cases hmem

end Examples

end NoticeAnalyzer

end SelfAdaptiveMano.Regulator

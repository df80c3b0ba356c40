import Mathlib.Logic.Function.Basic
import SelfAdaptiveMano.Base.SetOrder
import SelfAdaptiveMano.Library.Dict
import SelfAdaptiveMano.Library.Python

/-!
# The detection data of the Regulator

A notice names elements that failed, became abnormal or resumed, by zone, by kind
of detection and by kind of element. `DetectionDataMaintainer` stores what the
notices name. A zone that is not known is stored as the notice has it. For a known
zone each list of the notice takes the place of the stored one, because the test
for a list that is not known looks into the wrong dictionary; and a resumed
element is looked for among the resumed ones, where none is ever stored.

A sender may put one dictionary under several zones or kinds of detection. It is
then one object for the Regulator too, so that the dictionaries of the lists stand
under places here, and the zones refer to the places. The dictionary of a zone and
the lists need no places. The first is never changed in place, because the test for
a kind of detection that is not known looks into the wrong dictionary too; and an
element is appended to no list, as each has just been set when it is looked through,
and removed from none.
-/

namespace SelfAdaptiveMano.Regulator

open Library

/-- A node, or a link from one node to another. -/
inductive ElementID where
  | node (nodeID : Nat)
  | link (srcNodeID dstNodeID : Nat)
  deriving DecidableEq, Repr

inductive DetectionKey where
  | failure
  | abnormal
  | resume
  | switchIDList
  | serverIDList
  | linkIDList
  deriving DecidableEq, Repr

abbrev DataListDict := Dict DetectionKey (List ElementID)
abbrev DetectionDict := Dict DetectionKey DataListDict
abbrev AllZoneDetectionDict := Dict String DetectionDict

/-- What a command has under `allZoneDetectionDict`. -/
structure DetectionMessage where
  allZoneDetectionDict : Dict String (Dict DetectionKey Nat)
  dataListDict : Nat → DataListDict

def DetectionMessage.view (message : DetectionMessage) : AllZoneDetectionDict :=
  message.allZoneDetectionDict.map fun detectionDict =>
    detectionDict.map message.dataListDict

abbrev Place := Nat × Nat

abbrev PlacedDict := Dict String (Dict DetectionKey Place)

structure DetectionDataMaintainer where
  allZoneDetectionDict : PlacedDict
  dataListDict : Place → DataListDict
  received : Nat

namespace DetectionDataMaintainer

def new : DetectionDataMaintainer := ⟨Dict.empty, fun _ => Dict.empty, 0⟩

def view (s : DetectionDataMaintainer) (zones : PlacedDict) :
    AllZoneDetectionDict :=
  zones.map fun detectionDict => detectionDict.map s.dataListDict

def getAllZoneDetectionDict (s : DetectionDataMaintainer) :
    AllZoneDetectionDict :=
  s.view s.allZoneDetectionDict

def place? (s : DetectionDataMaintainer) (zoneName : String)
    (detectionType : DetectionKey) : Option Place :=
  (s.allZoneDetectionDict.get? zoneName).bind fun detectionDict =>
    detectionDict.get? detectionType

def receive (message : DetectionMessage) :
    PyM DetectionDataMaintainer PlacedDict :=
  modifyGet fun s =>
    (message.allZoneDetectionDict.map fun detectionDict =>
        detectionDict.map fun place => (s.received, place),
      { s with
        dataListDict := fun place =>
          if place.1 = s.received then message.dataListDict place.2
          else s.dataListDict place
        received := s.received + 1 })

def setAt (s : DetectionDataMaintainer) (place : Place)
    (dataListDict : DataListDict) : DetectionDataMaintainer :=
  { s with dataListDict := Function.update s.dataListDict place dataListDict }

/-- `list(set(dataList))`, for each list. -/
def withoutDuplicates (order : SetOrder ElementID) (dataListDict : DataListDict) :
    DataListDict :=
  dataListDict.map fun dataList => order.list dataList.toFinset

def deleteDuplicateData (order : SetOrder ElementID) (zones : PlacedDict) :
    PyM DetectionDataMaintainer Unit :=
  zones.items.forM fun (_, detectionDict) =>
    detectionDict.items.forM fun (_, place) =>
      modify fun s => s.setAt place (withoutDuplicates order (s.dataListDict place))

/-- `self.allZoneDetectionDict[zoneName][detectionType]` -/
def placeOf (zoneName : String) (detectionType : DetectionKey) :
    PyM DetectionDataMaintainer Place := do
  let s ← get
  PyM.ofOption .keyError (s.place? zoneName detectionType)

/-- `self.allZoneDetectionDict[zoneName][detectionType][dataListType]` -/
def dataListOf (zoneName : String) (detectionType dataListType : DetectionKey) :
    PyM DetectionDataMaintainer (List ElementID) := do
  let place ← placeOf zoneName detectionType
  let s ← get
  PyM.ofOption .keyError ((s.dataListDict place).get? dataListType)

def setDataList (zoneName : String) (detectionType dataListType : DetectionKey)
    (dataList : List ElementID) : PyM DetectionDataMaintainer Unit := do
  let place ← placeOf zoneName detectionType
  modify fun s => s.setAt place ((s.dataListDict place).set dataListType dataList)

def setPlace (zoneName : String) (detectionType : DetectionKey) (place : Place) :
    PyM DetectionDataMaintainer Unit := do
  let s ← get
  let detectionDict ← PyM.ofOption .keyError (s.allZoneDetectionDict.get? zoneName)
  let allZoneDetectionDict := s.allZoneDetectionDict.set zoneName
    (detectionDict.set detectionType place)
  set { s with allZoneDetectionDict := allZoneDetectionDict }

/-- A zone that is not known is stored as it is. -/
def addZone (zoneName : String) (detectionDict : Dict DetectionKey Place) :
    PyM DetectionDataMaintainer Unit :=
  modify fun s =>
    if s.allZoneDetectionDict.contains zoneName then s
    else
      let allZoneDetectionDict := s.allZoneDetectionDict.set zoneName detectionDict
      { s with allZoneDetectionDict := allZoneDetectionDict }

def addNewType (detectionDict : Dict DetectionKey Place) (zoneName : String)
    (detectionType : DetectionKey) (place : Place) :
    PyM DetectionDataMaintainer Unit :=
  if detectionDict.contains detectionType then pure ()
  else setPlace zoneName detectionType place

def addNewList (detectionDict : Dict DetectionKey Place) (zoneName : String)
    (detectionType dataListType : DetectionKey) (dataList : List ElementID) :
    PyM DetectionDataMaintainer Unit :=
  if detectionDict.contains dataListType then pure ()
  else setDataList zoneName detectionType dataListType dataList

def addData (zoneName : String) (detectionType dataListType : DetectionKey)
    (data : ElementID) : PyM DetectionDataMaintainer Unit := do
  let dataList ← dataListOf zoneName detectionType dataListType
  if data ∈ dataList then pure ()
  else setDataList zoneName detectionType dataListType (dataList ++ [data])

def addDataList (detectionDict : Dict DetectionKey Place) (zoneName : String)
    (detectionType dataListType : DetectionKey) (dataList : List ElementID) :
    PyM DetectionDataMaintainer Unit := do
  addNewList detectionDict zoneName detectionType dataListType dataList
  dataList.forM (addData zoneName detectionType dataListType)

def addDataListDict (detectionDict : Dict DetectionKey Place) (zoneName : String)
    (detectionType : DetectionKey) (place : Place) :
    PyM DetectionDataMaintainer Unit := do
  addNewType detectionDict zoneName detectionType place
  let s ← get
  (s.dataListDict place).items.forM fun (dataListType, dataList) =>
    addDataList detectionDict zoneName detectionType dataListType dataList

def addDetectionDictOfZone (zoneName : String)
    (detectionDict : Dict DetectionKey Place) : PyM DetectionDataMaintainer Unit := do
  addZone zoneName detectionDict
  detectionDict.items.forM fun (detectionType, place) =>
    addDataListDict detectionDict zoneName detectionType place

def addDetectionDict (zones : PlacedDict) : PyM DetectionDataMaintainer Unit :=
  zones.items.forM fun (zoneName, detectionDict) =>
    addDetectionDictOfZone zoneName detectionDict

def addMessage (order : SetOrder ElementID) (message : DetectionMessage) :
    PyM DetectionDataMaintainer PlacedDict := do
  let zones ← receive message
  deleteDuplicateData order zones
  addDetectionDict zones
  return zones

/-- `list.remove` raises where the element is not in the list. -/
def removeData (zoneName : String) (detectionType dataListType : DetectionKey)
    (data : ElementID) : PyM DetectionDataMaintainer Unit := do
  let dataList ← dataListOf zoneName detectionType dataListType
  if data ∈ dataList then
    setDataList zoneName detectionType dataListType (dataList.erase data)
  else throw (.valueError "list.remove(x): x not in list")

def processResumeData (allZoneDetectionDict : AllZoneDetectionDict) :
    PyM DetectionDataMaintainer Unit :=
  allZoneDetectionDict.items.forM fun (zoneName, detectionDict) =>
    detectionDict.items.forM fun (detectionType, dataListDict) =>
      dataListDict.items.forM fun (dataListType, dataList) =>
        dataList.forM (removeData zoneName detectionType dataListType)

end DetectionDataMaintainer

section Contents

def DetectionDataMaintainer.listIn (detectionDict : DetectionDict)
    (detectionType dataListType : DetectionKey) : Option (List ElementID) :=
  (detectionDict.get? detectionType).bind fun dataListDict =>
    dataListDict.get? dataListType

def AllZoneDetectionDict.dataList? (all : AllZoneDetectionDict)
    (zoneName : String) (detectionType dataListType : DetectionKey) :
    Option (List ElementID) :=
  (all.get? zoneName).bind fun detectionDict =>
    DetectionDataMaintainer.listIn detectionDict detectionType dataListType

def Holds (all : AllZoneDetectionDict) (zoneName : String)
    (detectionType dataListType : DetectionKey) (data : ElementID) : Prop :=
  ∃ dataList ∈ all.dataList? zoneName detectionType dataListType, data ∈ dataList

def DetectionKey.isDetectionType : DetectionKey → Bool
  | .failure | .abnormal | .resume => true
  | .switchIDList | .serverIDList | .linkIDList => false

def Keyed (all : AllZoneDetectionDict) : Prop :=
  ∀ z detectionDict, all.get? z = some detectionDict →
    (∀ t ∈ detectionDict.keys, t.isDetectionType = true) ∧
    ∀ t dataListDict, detectionDict.get? t = some dataListDict →
      ∀ l ∈ dataListDict.keys, l.isDetectionType = false

end Contents

end SelfAdaptiveMano.Regulator

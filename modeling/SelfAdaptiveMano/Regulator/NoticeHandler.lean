import SelfAdaptiveMano.Regulator.NoticeAnalyzer

/-!
# The notices that the Regulator takes

A notice of failed and abnormal elements is stored, the SFCIs that it hits are
looked for, and a recovery task is started for each of them. A notice of resumed
elements changes the stored data only. An exception anywhere ends the handling of
the notice. The Regulator also looks through all stored data from time to time, as
if it were a notice.

The forwarding paths and the availabilities that the analysis reads are those of
the objects in the information base; other components write them.
-/

namespace SelfAdaptiveMano.Regulator

open Library

/-- A command of the type `CMD_TYPE_HANDLE_FAILURE_ABNORMAL` or
`CMD_TYPE_FAILURE_ABNORMAL_RESUME`. -/
inductive Notice where
  | failureAbnormal (message : DetectionMessage)
  | resume (message : DetectionMessage)

/-- `SFCRestorer` with `dM`, its detection data. -/
structure DetectingRestorer extends SFCRestorer where
  dM : DetectionDataMaintainer
  stored : StoredObjects

namespace DetectingRestorer

def onRestorer {α : Type} (x : PyM SFCRestorer α) : PyM DetectingRestorer α :=
  PyM.zoom DetectingRestorer.toSFCRestorer
    (fun restorer s => { s with toSFCRestorer := restorer }) x

def onData {α : Type} (x : PyM DetectionDataMaintainer α) :
    PyM DetectingRestorer α :=
  PyM.zoom DetectingRestorer.dM (fun dM s => { s with dM := dM }) x

def handleDetectionDict (modes : SFCModes)
    (allZoneDetectionDict : AllZoneDetectionDict) : PyM DetectingRestorer Unit := do
  let s ← get
  let affectedSFCITupleList ← PyM.ofExcept
    (NoticeAnalyzer.getAffectedSFCITupleList s.stored s.oib s.rTM
      allZoneDetectionDict)
  onRestorer (SFCRestorer.handleDetectionDict modes affectedSFCITupleList)

def failureAbnormalHandler (modes : SFCModes) (order : SetOrder ElementID)
    (message : DetectionMessage) : PyM DetectingRestorer Unit := do
  let zones ← onData (DetectionDataMaintainer.addMessage order message)
  let s ← get
  handleDetectionDict modes (s.dM.view zones)

def resumeHandler (message : DetectionMessage) : PyM DetectingRestorer Unit :=
  onData (DetectionDataMaintainer.processResumeData message.view)

def processAllDetectionNotice (modes : SFCModes) : PyM DetectingRestorer Unit := do
  let s ← get
  handleDetectionDict modes s.dM.getAllZoneDetectionDict

def handle (modes : SFCModes) (order : SetOrder ElementID) :
    Notice → PyM DetectingRestorer Unit
  | .failureAbnormal message => failureAbnormalHandler modes order message
  | .resume message => resumeHandler message

end DetectingRestorer

/-- The Regulator's `SFCRestorer` with the notices so far, the newest first, and
whether one of them raised. -/
structure NoticeRecord where
  restorer : DetectingRestorer
  notices : List Notice
  raised : Bool

/-- What can happen: a notice arrives, the stored data is looked through, the
recovery loop goes on, or other components write the paths. -/
inductive NoticeInput where
  | notice (notice : Notice)
  | processAll
  | recovery (i : SFCRestorer.Input)
  | paths (stored : StoredObjects)

/-- A notice as the Regulator gets it: its elements failed or are abnormal, or
they resumed. -/
def Notice.WellFormed : Notice → Prop
  | .failureAbnormal message => Keyed message.view ∧
      ∀ z t l data, Holds message.view z t l data → t = .failure ∨ t = .abnormal
  | .resume message => Keyed message.view ∧
      ∀ z t l data, Holds message.view z t l data → t = .resume

/-- The Regulator that takes notices between the passes of its recovery loop. -/
def noticeMachine (modes : SFCModes) (order : SetOrder ElementID) :
    Machine NoticeRecord NoticeInput where
  init r := (SFCRestorer.machine modes).init r.restorer.toSFCRestorer ∧
    r.restorer.dM = .new ∧ r.notices = [] ∧ r.raised = false
  admits r
    | .notice notice => r.restorer.pending = [] ∧ notice.WellFormed
    | .processAll => r.restorer.pending = []
    | .recovery i => (∀ hits, i ≠ .notice hits) ∧
        (SFCRestorer.machine modes).admits r.restorer.toSFCRestorer i
    | .paths _ => True
  step r
    | .notice notice =>
        let x := DetectingRestorer.handle modes order notice
        { restorer := x.finalState r.restorer
          notices := notice :: r.notices
          raised := r.raised || x.raises r.restorer }
    | .processAll =>
        let x := DetectingRestorer.processAllDetectionNotice modes
        { r with restorer := x.finalState r.restorer }
    | .recovery i =>
        let x := DetectingRestorer.onRestorer
          (modify fun s => SFCRestorer.step modes s i)
        { r with restorer := x.finalState r.restorer }
    | .paths stored => { r with restorer := { r.restorer with stored := stored } }

end SelfAdaptiveMano.Regulator

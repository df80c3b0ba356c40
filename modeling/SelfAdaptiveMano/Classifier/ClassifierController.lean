import SelfAdaptiveMano.Base.Command
import SelfAdaptiveMano.Classifier.Bess
import SelfAdaptiveMano.Library.Machine
import SelfAdaptiveMano.Sff.OutputGates
import SelfAdaptiveMano.Sff.StageAddress

/-!
# The classifier controller

Traffic of a direction of an SFC enters at a classifier. Its table `wm2` matches
the traffic and gives it to the load balancer of the direction, which has an
output gate for each SFCI. The controller keeps for each classifier the gates
that it gave out (`Cibm.modules`), the ones of `wm2` under the id of the SFC, and
for each direction the list of its SFCIs (`Cibm.sfcSet`).

The information base of a classifier and its BESS change together, so the
functions for one direction run on the two of them (`Side`). The modules of an
SFCI are named by the SFCI and the direction only.
-/

namespace SelfAdaptiveMano.Classifier

open Library

/-- The traffic of a direction, with `none` for `"*"`. The texts of addresses and
ports are the numbers that `inet_aton` reads them as. -/
structure FlowMatch where
  proto : Option Bytes
  srcIP : Option Nat
  dstIP : Option Nat
  srcPort : Option Nat
  dstPort : Option Nat
  deriving DecidableEq, Repr

structure Direction where
  ID : Nat
  ingress : Sff.Server
  flowMatch : FlowMatch
  deriving DecidableEq, Repr

structure SFC where
  sfcUUID : UUID
  vNFTypeSequence : List Nat
  directions : List Direction
  deriving DecidableEq, Repr

inductive GateKey where
  | defaultGate
  | ipv4
  | sfc (sfcUUID : UUID)
  | sfci (sfciID : Nat)
  deriving DecidableEq, Repr

/-- `CIBMaintainer`: the gates of the modules, and the SFCIs of each direction of
an SFC. -/
structure Cibm where
  modules : Dict Name (Dict GateKey Nat)
  sfcSet : Dict (UUID × Nat) (List Nat)

/-- The information base of a classifier, and its BESS. -/
structure Side (β : Type) where
  cibm : Cibm
  bess : β

structure ClassifierController (β : Type) where
  cibms : Dict Nat Cibm
  bess : Nat → β

namespace Cibm

/-- `addModule`; of a module only its gates are read. -/
def addModule (name : Name) (cibm : Cibm) : Cibm :=
  { cibm with modules := cibm.modules.set name Dict.empty }

def delModule (name : Name) (cibm : Cibm) : Cibm :=
  { cibm with modules := cibm.modules.erase name }

def hasSFCDirection (sfcUUID : UUID) (directionID : Nat) (cibm : Cibm) : Bool :=
  cibm.sfcSet.contains (sfcUUID, directionID)

/-- `addSFCDirection`; a list that is there already is emptied. -/
def addSFCDirection (sfcUUID : UUID) (directionID : Nat) (cibm : Cibm) : Cibm :=
  { cibm with sfcSet := cibm.sfcSet.set (sfcUUID, directionID) [] }

def delSFCDirection (sfcUUID : UUID) (directionID : Nat) (cibm : Cibm) : Cibm :=
  { cibm with sfcSet := cibm.sfcSet.erase (sfcUUID, directionID) }

end Cibm

section Calls

variable {β : Type} (bess : Bess β)

/-- A call whose response is not looked at. -/
def request (r : Request) : PyM (Side β) Unit :=
  modify fun side => { side with bess := (bess.call r side.bess).2 }

/-- A call with `_checkResponse`. -/
def checked (r : Request) : PyM (Side β) Unit := do
  let side ← get
  set { side with bess := (bess.call r side.bess).2 }
  if (bess.call r side.bess).1 then pure ()
  else throw (.valueError "bess cmd failed.")

def modifyCibm (f : Cibm → Cibm) : PyM (Side β) Unit :=
  modify fun side => { side with cibm := f side.cibm }

def ogatesOf (name : Name) : PyM (Side β) (Dict GateKey Nat) := do
  let side ← get
  PyM.ofOption .keyError (side.cibm.modules.get? name)

def setOGates (name : Name) (ogates : Dict GateKey Nat) : PyM (Side β) Unit :=
  modifyCibm fun cibm => { cibm with modules := cibm.modules.set name ogates }

def addOGate2Module (name : Name) (key : GateKey) (oGateNum : Nat) :
    PyM (Side β) Unit := do
  let ogates ← ogatesOf name
  setOGates name (ogates.set key oGateNum)

def getModuleOGate (name : Name) (key : GateKey) : PyM (Side β) Nat := do
  let ogates ← ogatesOf name
  PyM.ofOption .keyError (ogates.get? key)

def delModuleOGate (name : Name) (key : GateKey) : PyM (Side β) Unit := do
  let ogates ← ogatesOf name
  if ogates.contains key then setOGates name (ogates.erase key)
  else throw .keyError

def sfciIDsOf (sfcUUID : UUID) (directionID : Nat) :
    PyM (Side β) (List Nat) := do
  let side ← get
  PyM.ofOption .keyError (side.cibm.sfcSet.get? (sfcUUID, directionID))

def setSFCIIDs (sfcUUID : UUID) (directionID : Nat) (sfciIDs : List Nat) :
    PyM (Side β) Unit :=
  modifyCibm fun cibm =>
    { cibm with sfcSet := cibm.sfcSet.set (sfcUUID, directionID) sfciIDs }

def addSFCIDirection (sfcUUID : UUID) (directionID sfciID : Nat) :
    PyM (Side β) Unit := do
  let sfciIDs ← sfciIDsOf sfcUUID directionID
  setSFCIIDs sfcUUID directionID (sfciIDs ++ [sfciID])

def delSFCIDirection (sfcUUID : UUID) (directionID sfciID : Nat) :
    PyM (Side β) Unit := do
  let sfciIDs ← sfciIDsOf sfcUUID directionID
  if sfciID ∈ sfciIDs then
    setSFCIIDs sfcUUID directionID (sfciIDs.erase sfciID)
  else throw (.valueError "list.remove(x): x not in list")

end Calls

section Rules

/-- `inet_aton`: the four bytes of a number. -/
def aton (ip : Nat) : Bytes :=
  [(ip >>> 24) &&& 0xFF, (ip >>> 16) &&& 0xFF, (ip >>> 8) &&& 0xFF, ip &&& 0xFF]

/-- `_getWM2Rule`; a port is converted as an address is. -/
def getWM2Rule (flowMatch : FlowMatch) : Match where
  values := [flowMatch.proto.getD [0],
    (flowMatch.srcIP.map aton).getD [0, 0, 0, 0],
    (flowMatch.dstIP.map aton).getD [0, 0, 0, 0],
    (flowMatch.srcPort.map aton).getD [0, 0],
    (flowMatch.dstPort.map aton).getD [0, 0]]
  masks := [if flowMatch.proto.isSome then [0xFF] else [0],
    if flowMatch.srcIP.isSome then [0xFF, 0xFF, 0xFF, 0xFF] else [0, 0, 0, 0],
    if flowMatch.dstIP.isSome then [0xFF, 0xFF, 0xFF, 0xFF] else [0, 0, 0, 0],
    if flowMatch.srcPort.isSome then [0xFF, 0xFF] else [0, 0],
    if flowMatch.dstPort.isSome then [0xFF, 0xFF] else [0, 0]]

end Rules

section Initializer

variable {β : Type} (bess : Bess β) (classifier : Sff.Server)

/-- The calls of `ClassifierInitializer._addModules` up to `wm2`. -/
def firstModules : List Request :=
  [.createPort (.base .datapathNICPort) false 0,
    .createModule (.base .input0)
      ⟨.queueInc, .queue (.base .datapathNICPort) 0⟩,
    .createModule (.base .output0)
      ⟨.queueOut, .queue (.base .datapathNICPort) 0⟩,
    .createModule (.base .setmetadata) ⟨.setMetadata, .attrs
      [⟨"ether_src", 6, some 0, none⟩, ⟨"ether_dst", 6, some 6, none⟩,
        ⟨"ether_type", 2, some 12, none⟩]⟩,
    .createModule (.base .wm1) ⟨.wildcardMatch, .fields [(12, 2)]⟩,
    .createModule (.base .ms) ⟨.macSwap, .none⟩,
    .createModule (.base .wm2) ⟨.wildcardMatch, .fields
      [(23, 1), (26, 4), (30, 4), (34, 2), (36, 2)]⟩]

/-- The other calls of `ClassifierInitializer._addModules`. -/
def otherModules : List Request :=
  [.createModule (.base .ar) ⟨.arpResponder, .none⟩,
    .createModule (.base .ee) ⟨.etherEncap, .none⟩,
    .createModule (.base .gdInit) ⟨.genericDecap, .bytes 34⟩,
    .createModule (.base .etherEncapMerge) ⟨.merge, .none⟩,
    .createModule (.base .outmerge) ⟨.merge, .none⟩,
    .createModule (.base .sink1) ⟨.sink, .none⟩,
    .createModule (.base .sink2) ⟨.sink, .none⟩]

/-- `ClassifierInitializer._addModules`. -/
def initModules : PyM (Side β) Unit := do
  request bess .pauseAll
  request bess .resetAll
  firstModules.forM (checked bess)
  modifyCibm (Cibm.addModule (.base .wm2))
  otherModules.forM (checked bess)
  request bess .resumeAll
  checked bess .listModules

/-- The rules of `wm1`, the responder and the default gate of `wm2`. -/
def firstRules : List Request :=
  [.setDefaultGate (.base .wm1) 0,
    .addRule (.base .wm1) ⟨[[0x08, 0x00]], [[0xFF, 0xFF]]⟩ 1,
    .addRule (.base .wm1) ⟨[[0x08, 0x06]], [[0xFF, 0xFF]]⟩ 2,
    .addResponder (.base .ar) classifier.datapathNICIP
      classifier.datapathNICMac,
    .setDefaultGate (.base .wm2) 0]

/-- The rule of `wm2` for the packets of the SFCs. -/
def ipv4Rule : Match where
  values := [[0], [0, 0, 0, 0], [0x0A, 0, 0, 0], [0, 0], [0, 0]]
  masks := [[0], [0, 0, 0, 0], [0x0F, 0xF0, 0, 0], [0, 0], [0, 0]]

/-- `ClassifierInitializer._addRules`. -/
def initRules : PyM (Side β) Unit := do
  request bess .pauseAll
  (firstRules classifier).forM (checked bess)
  addOGate2Module (.base .wm2) .defaultGate 0
  checked bess (.addRule (.base .wm2) ipv4Rule 1)
  addOGate2Module (.base .wm2) .ipv4 1
  request bess .resumeAll

/-- The connections of `ClassifierInitializer._addLinks`, with the output
gates. -/
def baseLinks : List (BaseName × BaseName × Nat) :=
  [(.input0, .setmetadata, 0), (.setmetadata, .wm1, 0), (.wm1, .sink1, 0),
    (.wm1, .wm2, 1), (.wm2, .ms, 0), (.ms, .sink2, 0), (.wm2, .gdInit, 1),
    (.gdInit, .etherEncapMerge, 0), (.etherEncapMerge, .ee, 0),
    (.ee, .outmerge, 0), (.wm1, .ar, 2), (.ar, .outmerge, 0),
    (.outmerge, .output0, 0)]

/-- `ClassifierInitializer._addLinks`. -/
def initLinks : PyM (Side β) Unit := do
  request bess .pauseAll
  (baseLinks.map fun (m1, m2, ogate) =>
    .connectModules (.base m1) (.base m2) ogate 0).forM (checked bess)
  request bess .resumeAll

/-- `initClassifier`, behind the check that BESS is alive. -/
def initSide : PyM (Side β) Unit := do
  initModules bess
  initRules bess classifier
  initLinks bess

end Initializer

section SFCs

variable {β : Type} (bess : Bess β) (sfcUUID : UUID) (direction : Direction)

/-- `ClassifierSFCAdder._addModules`. -/
def addSFCModules : PyM (Side β) Unit := do
  request bess .pauseAll
  checked bess (.createModule (.hashLB sfcUUID direction.ID)
    ⟨.hashLB, .mode "l3"⟩)
  modifyCibm (Cibm.addModule (.hashLB sfcUUID direction.ID))
  request bess .resumeAll

/-- `_assignWM2OGate`; the gate is kept under the SFC. -/
def assignWM2OGate : PyM (Side β) Nat := do
  let ogates ← ogatesOf (.base .wm2)
  addOGate2Module (.base .wm2) (.sfc sfcUUID)
    (Sff.genAvailableMiniNum4List ogates.values)
  return Sff.genAvailableMiniNum4List ogates.values

/-- `ClassifierSFCAdder._addRules`. -/
def addSFCRules : PyM (Side β) Unit := do
  request bess .pauseAll
  let gateNum ← assignWM2OGate sfcUUID
  request bess (.addRule (.base .wm2) (getWM2Rule direction.flowMatch) gateNum)
  request bess .resumeAll

/-- `ClassifierSFCAdder._addLinks`. -/
def addSFCLinks : PyM (Side β) Unit := do
  request bess .pauseAll
  let ogate ← getModuleOGate (.base .wm2) (.sfc sfcUUID)
  checked bess (.connectModules (.base .wm2) (.hashLB sfcUUID direction.ID)
    ogate 0)
  request bess .resumeAll

def addSFC : PyM (Side β) Unit := do
  addSFCModules bess sfcUUID direction
  addSFCRules bess sfcUUID direction
  addSFCLinks bess sfcUUID direction
  modifyCibm (Cibm.addSFCDirection sfcUUID direction.ID)

/-- `addSFC` for a direction that is not there. -/
def ensureSFC : PyM (Side β) Unit := do
  let side ← get
  if side.cibm.hasSFCDirection sfcUUID direction.ID then pure ()
  else addSFC bess sfcUUID direction

/-- The body of the loop of `addSFCHandler`, where the information base of the
classifier is there. -/
def addSFCToSide : PyM (Side β) Unit := do
  ensureSFC bess sfcUUID direction
  modifyCibm (Cibm.addSFCDirection sfcUUID direction.ID)

/-- `ClassifierSFCDeleter._delLinks`. -/
def delSFCLinks : PyM (Side β) Unit := do
  request bess .pauseAll
  let ogate ← getModuleOGate (.base .wm2) (.sfc sfcUUID)
  checked bess (.disconnectModules (.base .wm2) ogate)
  request bess .resumeAll

/-- `ClassifierSFCDeleter._delRules`. -/
def delSFCRules : PyM (Side β) Unit := do
  request bess .pauseAll
  checked bess (.deleteRule (.base .wm2) (getWM2Rule direction.flowMatch))
  request bess .resumeAll

/-- `ClassifierSFCDeleter._delModules`. -/
def delSFCModules : PyM (Side β) Unit := do
  request bess .pauseAll
  checked bess (.destroyModule (.hashLB sfcUUID direction.ID))
  modifyCibm (Cibm.delModule (.hashLB sfcUUID direction.ID))
  request bess .resumeAll

/-- `delSFC`; the gate of `wm2` stays. -/
def delSFC : PyM (Side β) Unit := do
  delSFCLinks bess sfcUUID
  delSFCRules bess direction
  delSFCModules bess sfcUUID direction
  modifyCibm (Cibm.delSFCDirection sfcUUID direction.ID)

/-- The body of the loop of `delSFCHandler`, with `canDeleteSFCDirection`. -/
def delSFCFromSide : PyM (Side β) Unit := do
  let side ← get
  match side.cibm.sfcSet.get? (sfcUUID, direction.ID) with
  | none => pure ()
  | some sfciIDs => if sfciIDs = [] then delSFC bess sfcUUID direction else pure ()

end SFCs

section SFCIs

variable {β : Type} (bess : Bess β) (sfc : SFC) (sfciID : Nat)
  (direction : Direction)

def tunnelHeader (tunnelSrcIP tunnelDstIP : Nat) : Module where
  mclass := .setMetadata
  arg := .attrs [⟨"ip_src", 4, none, some (aton tunnelSrcIP)⟩,
    ⟨"ip_dst", 4, none, some (aton tunnelDstIP)⟩,
    ⟨"ip_proto", 1, none, some [0x04]⟩,
    ⟨"ether_type", 2, none, some [0x08, 0x00]⟩]

/-- `ClassifierSFCIAdder._addModules`. -/
def addSFCIModules : PyM (Side β) Unit := do
  request bess .pauseAll
  checked bess (.createModule (.sfci .genericDecap sfciID direction.ID)
    ⟨.genericDecap, .bytes 14⟩)
  let tunnelDstIP ← PyM.ofExcept
    (Sff.tunnelDstIP sfc.vNFTypeSequence sfciID direction.ID)
  checked bess (.createModule (.sfci .setMetadata sfciID direction.ID)
    (tunnelHeader direction.ingress.datapathNICIP tunnelDstIP))
  checked bess (.createModule (.sfci .ipEncap sfciID direction.ID)
    ⟨.ipEncap, .none⟩)
  request bess .resumeAll

/-- `assignHashLBOGatesList`: the gates that were there, sorted, and the new
one. -/
def assignHashLBOGatesList : PyM (Side β) (List Nat) := do
  let ogates ← ogatesOf (.hashLB sfc.sfcUUID direction.ID)
  addOGate2Module (.hashLB sfc.sfcUUID direction.ID) (.sfci sfciID)
    (Sff.genAvailableMiniNum4List ogates.values)
  return ogates.values.insertionSort (· ≤ ·) ++
    [Sff.genAvailableMiniNum4List ogates.values]

/-- `ClassifierSFCIAdder._addRules`. -/
def addSFCIRules : PyM (Side β) Unit := do
  request bess .pauseAll
  let gateNumList ← assignHashLBOGatesList sfc sfciID direction
  request bess (.addGates (.hashLB sfc.sfcUUID direction.ID) gateNumList)
  request bess .resumeAll

/-- `ClassifierSFCIAdder._addLinks`. -/
def addSFCILinks : PyM (Side β) Unit := do
  request bess .pauseAll
  let ogate ← getModuleOGate (.hashLB sfc.sfcUUID direction.ID) (.sfci sfciID)
  checked bess (.connectModules (.hashLB sfc.sfcUUID direction.ID)
    (.sfci .genericDecap sfciID direction.ID) ogate 0)
  checked bess (.connectModules (.sfci .genericDecap sfciID direction.ID)
    (.sfci .setMetadata sfciID direction.ID) 0 0)
  checked bess (.connectModules (.sfci .setMetadata sfciID direction.ID)
    (.sfci .ipEncap sfciID direction.ID) 0 0)
  checked bess (.connectModules (.sfci .ipEncap sfciID direction.ID)
    (.base .etherEncapMerge) 0 0)
  request bess .resumeAll

/-- The body of the loop of `addSFCIHandler`, where the information base of the
classifier is there. -/
def addSFCIToSide : PyM (Side β) Unit := do
  ensureSFC bess sfc.sfcUUID direction
  addSFCIModules bess sfc sfciID direction
  addSFCIRules bess sfc sfciID direction
  addSFCILinks bess sfc sfciID direction
  addSFCIDirection sfc.sfcUUID direction.ID sfciID

/-- `ClassifierSFCIDeleter._delLinks`. -/
def delSFCILinks : PyM (Side β) Unit := do
  request bess .pauseAll
  let ogate ← getModuleOGate (.hashLB sfc.sfcUUID direction.ID) (.sfci sfciID)
  checked bess (.disconnectModules (.hashLB sfc.sfcUUID direction.ID) ogate)
  checked bess (.disconnectModules (.sfci .genericDecap sfciID direction.ID) 0)
  checked bess (.disconnectModules (.sfci .setMetadata sfciID direction.ID) 0)
  checked bess (.disconnectModules (.sfci .ipEncap sfciID direction.ID) 0)
  request bess .resumeAll

/-- `_deleteHashLBOGateofSFCI`: the gates that are left. -/
def deleteHashLBOGateofSFCI : PyM (Side β) (List Nat) := do
  let oGate ← getModuleOGate (.hashLB sfc.sfcUUID direction.ID) (.sfci sfciID)
  let ogates ← ogatesOf (.hashLB sfc.sfcUUID direction.ID)
  delModuleOGate (.hashLB sfc.sfcUUID direction.ID) (.sfci sfciID)
  return ogates.values.erase oGate

/-- `ClassifierSFCIDeleter._delRules`. -/
def delSFCIRules : PyM (Side β) Unit := do
  request bess .pauseAll
  let gateNumList ← deleteHashLBOGateofSFCI sfc sfciID direction
  request bess (.addGates (.hashLB sfc.sfcUUID direction.ID) gateNumList)
  request bess .resumeAll

/-- `ClassifierSFCIDeleter._delModules`. -/
def delSFCIModules : PyM (Side β) Unit := do
  request bess .pauseAll
  checked bess (.destroyModule (.sfci .genericDecap sfciID direction.ID))
  checked bess (.destroyModule (.sfci .setMetadata sfciID direction.ID))
  checked bess (.destroyModule (.sfci .ipEncap sfciID direction.ID))
  request bess .resumeAll

/-- The body of the loop of `delSFCIHandler`. -/
def delSFCIFromSide : PyM (Side β) Unit := do
  let side ← get
  if side.cibm.hasSFCDirection sfc.sfcUUID direction.ID then do
    delSFCILinks bess sfc sfciID direction
    delSFCIRules bess sfc sfciID direction
    delSFCIModules bess sfciID direction
    delSFCIDirection sfc.sfcUUID direction.ID sfciID
  else pure ()

end SFCIs

section Handlers

variable {β : Type} (bess : Bess β)

def onSide (serverID : Nat) (x : PyM (Side β) Unit) :
    PyM (ClassifierController β) Unit := do
  let c ← get
  let cibm ← PyM.ofOption .keyError (c.cibms.get? serverID)
  PyM.zoom (fun c => ⟨cibm, c.bess serverID⟩)
    (fun side c => { c with
      cibms := c.cibms.set serverID side.cibm
      bess := Function.update c.bess serverID side.bess }) x

def initClassifier (classifier : Sff.Server) :
    PyM (ClassifierController β) Unit := do
  let c ← get
  if bess.getVersion (c.bess classifier.serverID) then do
    modify fun c => { c with
      cibms := c.cibms.set classifier.serverID ⟨Dict.empty, Dict.empty⟩ }
    onSide classifier.serverID (initSide bess classifier)
  else throw (.valueError "classifier's bess is not alive")

def ensureClassifier (classifier : Sff.Server) :
    PyM (ClassifierController β) Unit := do
  let c ← get
  if c.cibms.contains classifier.serverID then pure ()
  else initClassifier bess classifier

def addSFCHandler (sfc : SFC) : PyM (ClassifierController β) Unit :=
  sfc.directions.forM fun direction => do
    ensureClassifier bess direction.ingress
    onSide direction.ingress.serverID (addSFCToSide bess sfc.sfcUUID direction)

def addSFCIHandler (sfc : SFC) (sfciID : Nat) :
    PyM (ClassifierController β) Unit :=
  sfc.directions.forM fun direction => do
    ensureClassifier bess direction.ingress
    onSide direction.ingress.serverID (addSFCIToSide bess sfc sfciID direction)

/-- A classifier that is not known has nothing to delete. -/
def onKnownSide (serverID : Nat) (x : PyM (Side β) Unit) :
    PyM (ClassifierController β) Unit := do
  let c ← get
  if c.cibms.contains serverID then onSide serverID x else pure ()

def delSFCIHandler (sfc : SFC) (sfciID : Nat) :
    PyM (ClassifierController β) Unit :=
  sfc.directions.forM fun direction =>
    onKnownSide direction.ingress.serverID
      (delSFCIFromSide bess sfc sfciID direction)

def delSFCHandler (sfc : SFC) : PyM (ClassifierController β) Unit :=
  sfc.directions.forM fun direction =>
    onKnownSide direction.ingress.serverID
      (delSFCFromSide bess sfc.sfcUUID direction)

/-- The commands of `startClassifierControllerCommandAgent`. -/
inductive ClassifierCommand where
  | addSFC (sfc : SFC)
  | addSFCI (sfc : SFC) (sfciID : Nat)
  | delSFCI (sfc : SFC) (sfciID : Nat)
  | delSFC (sfc : SFC)
  deriving DecidableEq, Repr

def ClassifierCommand.sfc : ClassifierCommand → SFC
  | .addSFC sfc | .addSFCI sfc _ | .delSFCI sfc _ | .delSFC sfc => sfc

def handleCommand :
    ClassifierCommand → PyM (ClassifierController β) Unit
  | .addSFC sfc => addSFCHandler bess sfc
  | .addSFCI sfc sfciID => addSFCIHandler bess sfc sfciID
  | .delSFCI sfc sfciID => delSFCIHandler bess sfc sfciID
  | .delSFC sfc => delSFCHandler bess sfc

/-- The controller starts without classifiers, takes any command, and goes on
after a command that failed. -/
def machine : Machine (ClassifierController β) ClassifierCommand where
  init c := c.cibms = Dict.empty
  admits _ _ := True
  step c cmd := (handleCommand bess cmd).finalState c

end Handlers

def exampleSFC : SFC where
  sfcUUID := ⟨0, 0⟩
  vNFTypeSequence := [1]
  directions := [⟨0, ⟨1, 10, 20⟩, ⟨none, none, some 30, none, none⟩⟩]

/-- The controller behind the commands `cmds`. -/
def controllerAfter (cmds : List ClassifierCommand) :
    ClassifierController View :=
  cmds.foldl (machine viewBess).step ⟨Dict.empty, fun _ => View.empty⟩

end SelfAdaptiveMano.Classifier

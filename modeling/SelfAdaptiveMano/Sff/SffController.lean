import SelfAdaptiveMano.Base.Command
import SelfAdaptiveMano.Sff.Bess
import SelfAdaptiveMano.Sff.Identifier
import SelfAdaptiveMano.Library.Dict
import Mathlib.Data.List.Sort

/-!
# The SFF controller

The controller adds an SFCI VNFI by VNFI. The first SFCI that uses a VNFI creates
its ports, and for each direction of the SFC its modules, a gate of the match
table and the links; a later one only adds rules. How many SFCIs use a VNFI is
counted without the directions. A deletion goes the other way.

The information base of a server (`Sibm`) and its BESS change together, so the
functions for one VNFI run on the two of them (`Side`).
-/

namespace SelfAdaptiveMano.Sff

open Library

def VNF_TYPE_CLASSIFIER : Nat := 0
def SFC_DOMAIN_PREFIX : Nat := 10 <<< 24

inductive ChainType where
  | nshOverEth
  | ufrr
  deriving DecidableEq, Repr

/-- A server; its datapath addresses are the numbers that they are converted
to. -/
structure Server where
  serverID : Nat
  datapathNICIP : Nat
  datapathNICMac : Nat
  deriving DecidableEq, Repr

inductive Node where
  | server (server : Server)
  | switch
  deriving DecidableEq, Repr

structure VNFI where
  vnfID : Nat
  vnfiID : UUID
  node : Node
  deriving DecidableEq, Repr

structure SFCI where
  sfciID : Nat
  vnfiSequence : List (List VNFI)
  deriving DecidableEq, Repr

inductive GateKey where
  | default
  | vnfi (vnfiID : UUID) (directionID : Nat)
  deriving DecidableEq, Repr

/-- `SIBMaintainer`: the gates of the match tables, and for each VNFI the list
that counts the SFCIs that use it. -/
structure Sibm where
  ogates : Dict BaseName (Dict GateKey Nat)
  vnfiDict : Dict UUID (List VNFI)

/-- The information base of a server, and its BESS. -/
structure Side (β : Type) where
  sibm : Sibm
  bess : β

structure SffController (β : Type) where
  sibms : Dict Nat Sibm
  sfciDict : Dict Nat SFCI
  bess : Nat → β

/-- `genAvailableMiniNum4List`, after `numList` has been sorted. -/
def firstGap : List Nat → Nat
  | [] => 0
  | [maxNum] => maxNum + 1
  | currentNum :: nextNum :: nums =>
      if nextNum - currentNum > 1 then currentNum + 1
      else firstGap (nextNum :: nums)

/-- The smallest number that is not in the list. -/
def genAvailableMiniNum4List (numList : List Nat) : Nat :=
  match numList.insertionSort (· ≤ ·) with
  | [] => 0
  | minNum :: nums => if minNum ≠ 0 then 0 else firstGap (minNum :: nums)

namespace Sibm

def hasVNFI (vnfiID : UUID) (sibm : Sibm) : Bool :=
  sibm.vnfiDict.contains vnfiID

def hasReassignedVNFI (vnfiID : UUID) (sibm : Sibm) : Bool :=
  match sibm.vnfiDict.get? vnfiID with
  | some vnfis => decide (vnfis.length ≠ 0 ∧ vnfis.length ≠ 1)
  | none => false

def addVNFI (vnfi : VNFI) (sibm : Sibm) : Sibm :=
  { sibm with
    vnfiDict := sibm.vnfiDict.set vnfi.vnfiID
      ((sibm.vnfiDict.get? vnfi.vnfiID).getD [] ++ [vnfi]) }

/-- `delVNFI`; a list that gets empty is removed. -/
def delVNFI (vnfiID : UUID) (sibm : Sibm) : Sibm :=
  match sibm.vnfiDict.get? vnfiID with
  | none => sibm
  | some vnfis =>
      { sibm with
        vnfiDict := if vnfis.dropLast = [] then sibm.vnfiDict.erase vnfiID
          else sibm.vnfiDict.set vnfiID vnfis.dropLast }

/-- `addModule`; of a module only its gates are read. -/
def addModule (name : BaseName) (sibm : Sibm) : Sibm :=
  { sibm with ogates := sibm.ogates.set name Dict.empty }

end Sibm

section Calls

variable {β : Type} (bess : Bess β)

/-- A call whose response is not looked at. -/
def request (r : Request) : PyM (Side β) Unit :=
  modify fun side => { side with bess := (bess.call r side.bess).2 }

/-- A call with `_checkResponse`. -/
def checked (r : Request) : PyM (Side β) Unit := do
  let side ← get
  set { side with bess := (bess.call r side.bess).2 }
  if (bess.call r side.bess).1 then pure ()
  else throw (.valueError "bess cmd failed.")

def ogatesOf (table : BaseName) : PyM (Side β) (Dict GateKey Nat) := do
  let side ← get
  PyM.ofOption .keyError (side.sibm.ogates.get? table)

def addOGate2Module (table : BaseName) (key : GateKey) (oGateNum : Nat) :
    PyM (Side β) Unit := do
  let ogates ← ogatesOf table
  modify fun side => { side with
    sibm := { side.sibm with
      ogates := side.sibm.ogates.set table (ogates.set key oGateNum) } }

def getModuleOGate (table : BaseName) (key : GateKey) : PyM (Side β) Nat := do
  let ogates ← ogatesOf table
  PyM.ofOption .keyError (ogates.get? key)

def delModuleOGate (table : BaseName) (key : GateKey) :
    PyM (Side β) Unit := do
  let ogates ← ogatesOf table
  if ogates.contains key then
    modify fun side => { side with
      sibm := { side.sibm with
        ogates := side.sibm.ogates.set table (ogates.erase key) } }
  else throw .keyError

def newOGate (table : BaseName) (key : GateKey) (ogates : Dict GateKey Nat) :
    PyM (Side β) Nat := do
  addOGate2Module table key (genAvailableMiniNum4List ogates.values)
  return genAvailableMiniNum4List ogates.values

def assignOGate (table : BaseName) (vnfiID : UUID) (directionID : Nat) :
    PyM (Side β) Nat := do
  let ogates ← ogatesOf table
  match ogates.get? (.vnfi vnfiID directionID) with
  | some oGateNum => return oGateNum
  | none => newOGate table (.vnfi vnfiID directionID) ogates

def assignSFFWM2OGate (vnfiID : UUID) (directionID : Nat) : PyM (Side β) Nat :=
  assignOGate .wm2 vnfiID directionID

def assignSFFEM1OGate (vnfiID : UUID) (directionID : Nat) : PyM (Side β) Nat :=
  assignOGate .em1 vnfiID directionID

end Calls

section Arguments

/-- The VNF type of the stage behind the first stage whose first VNFI has the
type `vnfID`, or that of a classifier behind the last stage. -/
def nextVNFID (vnfID : Nat) : List (List VNFI) → Except PyError (Option Nat)
  | [] => .ok none
  | vnf :: rest => do
      let currentVNF ← itemAt vnf 0
      if currentVNF.vnfID = vnfID then
        match rest with
        | [] => .ok (some VNF_TYPE_CLASSIFIER)
        | next :: _ => (itemAt next 0).map fun vnfi => some vnfi.vnfID
      else nextVNFID vnfID rest

def getNextVNFID (sfci : SFCI) (vnf : VNFI) (directionID : Nat) :
    Except PyError (Option Nat) :=
  if directionID = 0 then nextVNFID vnf.vnfID sfci.vnfiSequence
  else if directionID = 1 then nextVNFID vnf.vnfID sfci.vnfiSequence.reverse
  else .error (.valueError "Invalid direction ID.")

/-- `getUpdateValue`; there is no `None & 0xF`. -/
def getUpdateValue (sfciID : Nat) : Option Nat → Except PyError Nat
  | some nextVNFID => .ok (((nextVNFID &&& 0xF) <<< 12) + (sfciID &&& 0xFFF))
  | none => .error .typeError

def SFCI.chain (sfci : SFCI) : SelfAdaptiveMano.SFCI :=
  ⟨sfci.sfciID, sfci.vnfiSequence.map fun _ => []⟩

def updateArg (chainType : ChainType) (server : Server) (sfci : SFCI)
    (vnfi : VNFI) (vnfiIdx directionID : Nat) : Except PyError ModuleArg :=
  match chainType with
  | .ufrr => do
      let nextVNFID ← getNextVNFID sfci vnfi directionID
      let dstIPValue ← getUpdateValue sfci.sfciID nextVNFID
      return .update [(26, 4, server.datapathNICIP),
        (31, 1, (dstIPValue >>> 8) &&& 0xFF)]
  | .nshOverEth => .ok (.update [(18, 4,
      SIBMaintainer.getUpdateValue4NSH sfci.chain directionID vnfiIdx)])

def ChainType.table : ChainType → BaseName
  | .ufrr => .wm2
  | .nshOverEth => .em1

def ruleMatch (chainType : ChainType) (sfci : SFCI) (vnfi : VNFI)
    (vnfiIdx directionID : Nat) : Match :=
  match chainType with
  | .ufrr => ⟨[SIBMaintainer.getSFFWM2MatchValue sfci.sfciID vnfi.vnfID
      directionID], [0xFFFFFF80]⟩
  | .nshOverEth => ⟨[SIBMaintainer.getSFFEM1MatchValue sfci.chain vnfiIdx
      directionID], []⟩

def innerLinks (chainType : ChainType) (vnfiID : UUID) (directionID : Nat) :
    List (Name × Name) :=
  match chainType with
  | .ufrr => [(.vnfi .queueInc vnfiID directionID,
        .vnfi .update vnfiID directionID),
      (.vnfi .update vnfiID directionID, .vnfi .ipChecksum vnfiID directionID),
      (.vnfi .ipChecksum vnfiID directionID, .base .wm2)]
  | .nshOverEth => [(.vnfi .queueInc vnfiID directionID,
        .vnfi .update vnfiID directionID),
      (.vnfi .update vnfiID directionID, .base .em1)]

def checkDirectionID (directionID : Nat) : Except PyError Unit :=
  if directionID = 0 ∨ directionID = 1 then .ok ()
  else .error (.valueError "Invalid direction ID.")

end Arguments

section Adder

variable {β : Type} (chainType : ChainType) (bess : Bess β) (server : Server)
  (sfci : SFCI) (directions : List Nat) (vnfi : VNFI) (vnfiIdx : Nat)

def addChecksum (directionID : Nat) : PyM (Side β) Unit :=
  match chainType with
  | .ufrr => checked bess (.createModule
      (.vnfi .ipChecksum vnfi.vnfiID directionID) .ipChecksum (.ipChecksum 0))
  | .nshOverEth => pure ()

def addDirectionModules (directionID : Nat) : PyM (Side β) Unit := do
  PyM.ofExcept (checkDirectionID directionID)
  checked bess (.createModule (.vnfi .queueInc vnfi.vnfiID directionID) .queueInc
    (.queue (.vnfi .pmdPort vnfi.vnfiID (1 - directionID)) 0))
  checked bess (.createModule (.vnfi .queueOut vnfi.vnfiID directionID) .queueOut
    (.queue (.vnfi .pmdPort vnfi.vnfiID directionID) 0))
  let argument ← PyM.ofExcept
    (updateArg chainType server sfci vnfi vnfiIdx directionID)
  checked bess (.createModule (.vnfi .update vnfi.vnfiID directionID) .update
    argument)
  addChecksum chainType bess vnfi directionID

def addPort (directionID : Nat) : PyM (Side β) Unit :=
  checked bess (.createPort (.vnfi .pmdPort vnfi.vnfiID directionID)
    ⟨true, none, some (vnfi.vnfiID, directionID)⟩)

def addModules : PyM (Side β) Unit := do
  request bess .pauseAll
  addPort bess vnfi 0
  addPort bess vnfi 1
  directions.forM (addDirectionModules chainType bess server sfci vnfi vnfiIdx)
  request bess .resumeAll

def addRule (directionID : Nat) : PyM (Side β) Unit :=
  match chainType with
  | .ufrr => do
      let oGate ← assignSFFWM2OGate vnfi.vnfiID directionID
      checked bess (.addRule (.base .wm2)
        (ruleMatch .ufrr sfci vnfi vnfiIdx directionID) oGate)
  | .nshOverEth => do
      let oGate ← assignSFFEM1OGate vnfi.vnfiID directionID
      checked bess (.addRule (.base .em1)
        (ruleMatch .nshOverEth sfci vnfi vnfiIdx directionID) oGate)

def addRules : PyM (Side β) Unit := do
  request bess .pauseAll
  directions.forM (addRule chainType bess sfci vnfi vnfiIdx)
  request bess .resumeAll

def addDirectionLinks (directionID : Nat) : PyM (Side β) Unit := do
  let oGate ← getModuleOGate chainType.table (.vnfi vnfi.vnfiID directionID)
  checked bess (.connectModules (.base chainType.table)
    (.vnfi .queueOut vnfi.vnfiID directionID) oGate 0)
  (innerLinks chainType vnfi.vnfiID directionID).forM fun (m1, m2) =>
    checked bess (.connectModules m1 m2 0 0)
  request bess .resumeAll

def addLinks : PyM (Side β) Unit := do
  request bess .pauseAll
  directions.forM (addDirectionLinks chainType bess vnfi)

/-- A VNFI that is there already gets rules only. -/
def addDatapath : PyM (Side β) Unit := do
  let side ← get
  if side.sibm.hasVNFI vnfi.vnfiID then
    addRules chainType bess sfci directions vnfi vnfiIdx
  else do
    addModules chainType bess server sfci directions vnfi vnfiIdx
    addRules chainType bess sfci directions vnfi vnfiIdx
    addLinks chainType bess directions vnfi

/-- The body of the loop over the VNFIs of an SFCI, where the information base of
the server is there. -/
def addToSide : PyM (Side β) Unit := do
  addDatapath chainType bess server sfci directions vnfi vnfiIdx
  modify fun side => { side with sibm := side.sibm.addVNFI vnfi }

end Adder

section Deleter

variable {β : Type} (chainType : ChainType) (bess : Bess β)
  (sfci : SFCI) (directions : List Nat) (vnfi : VNFI) (vnfiIdx : Nat)

def delDirectionLinks (directionID : Nat) : PyM (Side β) Unit := do
  let oGate ← getModuleOGate chainType.table (.vnfi vnfi.vnfiID directionID)
  checked bess (.disconnectModules (.base chainType.table) oGate)
  (innerLinks chainType vnfi.vnfiID directionID).forM fun (m1, _) =>
    checked bess (.disconnectModules m1 0)
  request bess .resumeAll

def delLinks : PyM (Side β) Unit := do
  request bess .pauseAll
  directions.forM (delDirectionLinks chainType bess vnfi)

/-- The rule goes, and the gate too unless the VNFI is used again. -/
def delRule (reassignedVNFI : Bool) (directionID : Nat) :
    PyM (Side β) Unit := do
  checked bess (.deleteRule (.base chainType.table)
    (ruleMatch chainType sfci vnfi vnfiIdx directionID))
  if reassignedVNFI then pure ()
  else delModuleOGate chainType.table (.vnfi vnfi.vnfiID directionID)

def delRules (reassignedVNFI : Bool) : PyM (Side β) Unit := do
  request bess .pauseAll
  directions.forM (delRule chainType bess sfci vnfi vnfiIdx reassignedVNFI)
  request bess .resumeAll

def delChecksum (directionID : Nat) : PyM (Side β) Unit :=
  match chainType with
  | .ufrr => checked bess
      (.destroyModule (.vnfi .ipChecksum vnfi.vnfiID directionID))
  | .nshOverEth => pure ()

def delDirectionModules (directionID : Nat) : PyM (Side β) Unit := do
  checked bess (.destroyModule (.vnfi .queueInc vnfi.vnfiID directionID))
  checked bess (.destroyModule (.vnfi .queueOut vnfi.vnfiID directionID))
  checked bess (.destroyModule (.vnfi .update vnfi.vnfiID directionID))
  delChecksum chainType bess vnfi directionID

def delModules : PyM (Side β) Unit := do
  request bess .pauseAll
  directions.forM (delDirectionModules chainType bess vnfi)
  checked bess (.destroyPort (.vnfi .pmdPort vnfi.vnfiID 0))
  checked bess (.destroyPort (.vnfi .pmdPort vnfi.vnfiID 1))
  request bess .resumeAll

/-- Of a VNFI that is used again only the rules go. -/
def delDatapath : PyM (Side β) Unit := do
  let side ← get
  if side.sibm.hasReassignedVNFI vnfi.vnfiID then
    delRules chainType bess sfci directions vnfi vnfiIdx true
  else do
    delLinks chainType bess directions vnfi
    delRules chainType bess sfci directions vnfi vnfiIdx false
    delModules chainType bess directions vnfi

def delFromSide : PyM (Side β) Unit := do
  delDatapath chainType bess sfci directions vnfi vnfiIdx
  modify fun side => { side with sibm := side.sibm.delVNFI vnfi.vnfiID }

end Deleter

section Initializer

variable {β : Type} (bess : Bess β) (server : Server)

def requireAlive : PyM (Side β) Unit := do
  let side ← get
  if bess.getVersion side.bess then pure ()
  else throw (.valueError "bess is not alive")

/-- `SFFInitializer._addModules`. -/
def initModules : PyM (Side β) Unit := do
  requireAlive bess
  request bess .pauseAll
  request bess .resetAll
  checked bess (.createPort (.base .datapathNICPort) ⟨false, some 0, none⟩)
  checked bess (.createModule (.base .input0) .queueInc
    (.queue (.base .datapathNICPort) 0))
  checked bess (.createModule (.base .output0) .queueOut
    (.queue (.base .datapathNICPort) 0))
  checked bess (.createModule (.base .wm1) .wildcardMatch
    (.fields [(12, 2), (30, 4)]))
  checked bess (.createModule (.base .wm2) .wildcardMatch (.fields [(30, 4)]))
  modify fun side => { side with sibm := side.sibm.addModule .wm2 }
  checked bess (.createModule (.base .em1) .exactMatch (.fields [(18, 4)]))
  modify fun side => { side with sibm := side.sibm.addModule .em1 }
  checked bess (.createModule (.base .ar) .arpResponder .none)
  checked bess (.createModule (.base .pr) .pingResponder .none)
  checked bess (.createModule (.base .sink1) .sink .none)
  checked bess (.createModule (.base .ms) .macSwap .none)
  checked bess (.createModule (.base .outmerge) .merge .none)
  checked bess (.createModule (.base .macSwapMerge) .merge .none)
  request bess .resumeAll

/-- `SFFInitializer._addRules`. -/
def initRules : PyM (Side β) Unit := do
  request bess .pauseAll
  checked bess (.setDefaultGate (.base .wm1) 0)
  checked bess (.addRule (.base .wm1)
    ⟨[0x0800, SFC_DOMAIN_PREFIX], [0xFFFF, 0xFF000000]⟩ 1)
  checked bess (.addRule (.base .wm1) ⟨[0x0806, 0], [0xFFFF, 0]⟩ 2)
  checked bess (.addRule (.base .wm1) ⟨[0x894F, 0], [0xFFFF, 0]⟩ 3)
  checked bess (.addRule (.base .wm1)
    ⟨[0x0800, server.datapathNICIP], [0xFFFF, 0xFFFFFFFF]⟩ 4)
  checked bess (.setDefaultGate (.base .wm2) 0)
  addOGate2Module .wm2 .default 0
  checked bess (.setDefaultGate (.base .em1) 0)
  addOGate2Module .em1 .default 0
  checked bess (.addResponder (.base .ar) server.datapathNICIP
    (some server.datapathNICMac))
  checked bess (.addResponder (.base .pr) server.datapathNICIP none)
  request bess .resumeAll

/-- The connections of `SFFInitializer._addLinks`, with the output gates. -/
def baseLinks : List (BaseName × BaseName × Nat) :=
  [(.input0, .wm1, 0), (.wm1, .sink1, 0), (.wm1, .wm2, 1), (.wm1, .ar, 2),
    (.wm1, .em1, 3), (.wm1, .pr, 4), (.pr, .macSwapMerge, 0),
    (.ar, .outmerge, 0), (.wm2, .macSwapMerge, 0), (.macSwapMerge, .ms, 0),
    (.ms, .outmerge, 0), (.outmerge, .output0, 0), (.em1, .macSwapMerge, 0)]

/-- `SFFInitializer._addLinks`. -/
def initLinks : PyM (Side β) Unit := do
  request bess .pauseAll
  baseLinks.forM fun (m1, m2, ogate) =>
    checked bess (.connectModules (.base m1) (.base m2) ogate 0)
  request bess .resumeAll

end Initializer

section Handlers

variable {β : Type} (chainType : ChainType) (bess : Bess β)

def onSide {α : Type} (serverID : Nat) (x : PyM (Side β) α) :
    PyM (SffController β) α := do
  let c ← get
  let sibm ← PyM.ofOption .keyError (c.sibms.get? serverID)
  PyM.zoom (fun c => ⟨sibm, c.bess serverID⟩)
    (fun side c => { c with
      sibms := c.sibms.set serverID side.sibm
      bess := Function.update c.bess serverID side.bess }) x

def initClassifier (server : Server) : PyM (SffController β) Unit := do
  modify fun c => { c with
    sibms := c.sibms.set server.serverID ⟨Dict.empty, Dict.empty⟩ }
  onSide server.serverID (initModules bess)
  onSide server.serverID (initRules bess server)
  onSide server.serverID (initLinks bess)

/-- The information base of a server whose BESS does not answer is dropped. -/
def forgetDead (serverID : Nat) : PyM (SffController β) Unit :=
  modify fun c =>
    if bess.getVersion (c.bess serverID) then c
    else { c with sibms := c.sibms.erase serverID }

def ensureClassifier (server : Server) : PyM (SffController β) Unit := do
  let c ← get
  if c.sibms.contains server.serverID then pure ()
  else initClassifier bess server

def addVNFI (sfci : SFCI) (directions : List Nat) (vnfiIdx : Nat)
    (vnfi : VNFI) : PyM (SffController β) Unit :=
  match vnfi.node with
  | .server server => do
      forgetDead bess server.serverID
      ensureClassifier bess server
      onSide server.serverID
        (addToSide chainType bess server sfci directions vnfi vnfiIdx)
  | .switch => pure ()

def delVNFI (sfci : SFCI) (directions : List Nat) (vnfiIdx : Nat)
    (vnfi : VNFI) : PyM (SffController β) Unit :=
  match vnfi.node with
  | .server server => do
      forgetDead bess server.serverID
      let c ← get
      if c.sibms.contains server.serverID then
        onSide server.serverID
          (delFromSide chainType bess sfci directions vnfi vnfiIdx)
      else pure ()
  | .switch => pure ()

/-- Two VNFIs of a stage are not on one server. -/
def checkPair (vnfi1 vnfi2 : VNFI) : Except PyError Unit :=
  match vnfi1.node, vnfi2.node with
  | .switch, _ => .ok ()
  | .server _, .switch => .error .attributeError
  | .server server1, .server server2 =>
      if server1.serverID = server2.serverID then
        .error (.valueError
          "Backup VNFI can't be placed in the same server.")
      else .ok ()

def checkPairs : List VNFI → Except PyError Unit
  | [] => .ok ()
  | vnfi1 :: vnfis => do
      vnfis.forM (checkPair vnfi1)
      checkPairs vnfis

/-- `_checkVNFISequence`; both indices stop before the last VNFI of a stage. -/
def checkVNFISequence (vnfiSequence : List (List VNFI)) : Except PyError Unit :=
  vnfiSequence.forM fun vnf => checkPairs vnf.dropLast

structure SffCommand where
  cmdType : CmdType
  directions : List Nat
  sfci : SFCI

def addSFCIHandler (cmd : SffCommand) : PyM (SffController β) Unit := do
  PyM.ofExcept (checkVNFISequence cmd.sfci.vnfiSequence)
  modify fun c => { c with
    sfciDict := c.sfciDict.set cmd.sfci.sfciID cmd.sfci }
  cmd.sfci.vnfiSequence.zipIdx.forM fun (vnf, vnfiIdx) =>
    vnf.forM (addVNFI chainType bess cmd.sfci cmd.directions vnfiIdx)

/-- `SIBMS.delSFCI`. -/
def forgetSFCI (sfciID : Nat) : PyM (SffController β) Unit := do
  let c ← get
  if c.sfciDict.contains sfciID then
    set { c with sfciDict := c.sfciDict.erase sfciID }
  else throw .keyError

def delSFCIHandler (cmd : SffCommand) : PyM (SffController β) Unit := do
  PyM.ofExcept (checkVNFISequence cmd.sfci.vnfiSequence)
  forgetSFCI cmd.sfci.sfciID
  cmd.sfci.vnfiSequence.zipIdx.forM fun (vnf, vnfiIdx) =>
    vnf.forM (delVNFI chainType bess cmd.sfci cmd.directions vnfiIdx)

/-- The commands of `startSFFControllerCommandAgent` that change the data path. -/
def handleCommand (cmd : SffCommand) : PyM (SffController β) Unit :=
  match cmd.cmdType with
  | .addSFCI => addSFCIHandler chainType bess cmd
  | .delSFCI => delSFCIHandler chainType bess cmd
  | _ => throw (.valueError "Unkonwn sff command type.")

end Handlers

end SelfAdaptiveMano.Sff

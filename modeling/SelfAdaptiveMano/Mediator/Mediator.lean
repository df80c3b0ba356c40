import SelfAdaptiveMano.Mediator.CommandMaintainer
import SelfAdaptiveMano.Library.Machine

/-!
# The Mediator

The Mediator receives a command, copies it once for each controller that takes
part in the zone of the command, sends the copies, and collects the replies
into one reply to the sender of the command. The copies are the child commands.
All child commands of an `ADD_SFCI` are registered at once, but the copy for the
VNF controller is sent only when the SFF controller has answered.

The main loop catches every exception and keeps the state it finds, so a
handler that raises halfway leaves what it had written (`handle`).

`trace` records what the Mediator did, oldest first. It is no part of the
source: each event carries the id of the parent command it is about, which the
messages themselves do not.
-/

namespace SelfAdaptiveMano

open Library CommandMaintainer

inductive Happening where
  | received (cmd : Command)
  | prepared (cCmdName : MsgType) (cCmdID : UUID)
  | sent (queueName : String) (msg : SAMMessage)
  | answered (cmdRply : CommandReply)
  deriving DecidableEq

/-- Something that happened, with the parent command it happened to. -/
structure Event where
  parent : UUID
  what : Happening
  deriving DecidableEq

inductive ClassifierType where
  | server
  | switch
  deriving DecidableEq, Repr

/-- The Mediator: its command store, its mode, the clock of its `uuid1` and the
record of what it did. -/
structure Mediator where
  cm : CommandMaintainer
  classifierType : ClassifierType
  clock : Nat
  trace : List Event

namespace Mediator

def generator : Nat := 0

def uuid1 : PyM Mediator UUID :=
  modifyGet fun m => (⟨generator, m.clock⟩, { m with clock := m.clock + 1 })

def note (parent : UUID) (what : Happening) : PyM Mediator Unit :=
  modify fun m => { m with trace := m.trace ++ [⟨parent, what⟩] }

/-- Run a method of `self._cm`. -/
def withCm {α : Type} (act : PyM CommandMaintainer α) : PyM Mediator α :=
  PyM.zoom Mediator.cm (fun cm m => { m with cm := cm }) act

/-- `cmd.attributes['zone']`. -/
def zoneOf (cmd : Command) : PyM Mediator Zone :=
  PyM.ofOption .keyError cmd.attributes.zone

def prepareChildCmd (cmd : Command) (cCmdName : MsgType) :
    PyM Mediator Command := do
  let cCmdID ← uuid1
  let cCmd := { cmd with cmdID := cCmdID }
  withCm (addChildCmd2Cmd cmd.cmdID cCmdName cCmdID)
  withCm (addCmd cCmd)
  withCm (addParentCmd2Cmd cCmdID cmd.cmdID)
  note cmd.cmdID (.prepared cCmdName cCmdID)
  return cCmd

/-- Send a child command on; `parent` is only for the record. -/
def forwardCmd (parent : UUID) (cmd : Command) (msgType : MsgType)
    (queue : String) : PyM Mediator Unit :=
  note parent (.sent queue ⟨msgType, .command cmd⟩)

/-- The end of every dispatch: send the prepared child command, and move the
parent and the child on. -/
def sendChildCmd (cmd cCmd : Command) (msgType : MsgType) (queue : String) :
    PyM Mediator Unit := do
  forwardCmd cmd.cmdID cCmd msgType queue
  withCm (transitCmdState cmd.cmdID .waiting .processing)
  withCm (transitCmdState cCmd.cmdID .waiting .processing)

/-- Prepare a child command for a controller of the command's zone and send it.
-/
def dispatchChildCmd (msgType : MsgType) (queueType : QueueType)
    (cmd : Command) : PyM Mediator Unit := do
  let cCmd ← prepareChildCmd cmd msgType
  let zoneName ← zoneOf cmd
  sendChildCmd cmd cCmd msgType (genQueueName queueType (some zoneName))

def forwardCmd2Simulator (cmd : Command) : PyM Mediator Unit := do
  let cCmd ← prepareChildCmd cmd .simulatorCmd
  sendChildCmd cmd cCmd .simulatorCmd (genQueueName .simulator none)

def addSFC2ClassifierController : Command → PyM Mediator Unit :=
  dispatchChildCmd .classifierControllerCmd .serverClassifierController

def addSFCI2ClassifierController : Command → PyM Mediator Unit :=
  dispatchChildCmd .classifierControllerCmd .serverClassifierController

def addSFC2NetworkController : Command → PyM Mediator Unit :=
  dispatchChildCmd .networkControllerCmd .networkController

def addSFC2P4Controller : Command → PyM Mediator Unit :=
  dispatchChildCmd .p4ControllerCmd .p4Controller

def addSFCI2P4Controller : Command → PyM Mediator Unit :=
  dispatchChildCmd .p4ControllerCmd .p4Controller

def delSFCI4P4Controller : Command → PyM Mediator Unit :=
  dispatchChildCmd .p4ControllerCmd .p4Controller

def addSFCI2NetworkController : Command → PyM Mediator Unit :=
  dispatchChildCmd .networkControllerCmd .networkController

def addSFCI2SFFController : Command → PyM Mediator Unit :=
  dispatchChildCmd .sffControllerCmd .sffController

def delSFCIs4Server : Command → PyM Mediator Unit :=
  dispatchChildCmd .vnfControllerCmd .vnfController

def delSFC4NetworkController : Command → PyM Mediator Unit :=
  dispatchChildCmd .networkControllerCmd .networkController

def delSFC2P4Controller : Command → PyM Mediator Unit :=
  dispatchChildCmd .p4ControllerCmd .p4Controller

def delSFCI4NetworkController : Command → PyM Mediator Unit :=
  dispatchChildCmd .networkControllerCmd .networkController

def delSFC4ClassifierController : Command → PyM Mediator Unit :=
  dispatchChildCmd .classifierControllerCmd .serverClassifierController

def delSFCI4ClassifierController : Command → PyM Mediator Unit :=
  dispatchChildCmd .classifierControllerCmd .serverClassifierController

def delSFCI4SFFController : Command → PyM Mediator Unit :=
  dispatchChildCmd .sffControllerCmd .sffController

def getServerSet4ServerManager : Command → PyM Mediator Unit :=
  dispatchChildCmd .serverManagerCmd .serverManager

def getTopo4NetworkController : Command → PyM Mediator Unit :=
  dispatchChildCmd .networkControllerCmd .networkController

def getSFCIStatus4SFF : Command → PyM Mediator Unit :=
  dispatchChildCmd .sffControllerCmd .sffController

/-- Send the child command for the VNF controller that was prepared when the
`ADD_SFCI` arrived, unless it was sent before. -/
def addSFCIs2Server (cmd : Command) : PyM Mediator Unit := do
  let cCmd ← withCm (getChildCmd cmd.cmdID .vnfControllerCmd)
  let zoneName ← zoneOf cmd
  let state ← withCm (getCmdState cCmd.cmdID)
  if state = .waiting then do
    let cCmd := { cCmd with
      attributes := { cCmd.attributes with source := some "unknown" } }
    withCm (modifyInfo cCmd.cmdID fun info => { info with cmd := cCmd })
    sendChildCmd cmd cCmd .vnfControllerCmd
      (genQueueName .vnfController (some zoneName))
  else
    pure ()

/-- A statement under `if self._mode['classifierType'] == 'Server'`. -/
def whenServer (act : PyM Mediator Unit) : PyM Mediator Unit := do
  if (← get).classifierType = .server then act else pure ()

def processCmdInSimulatorZone (cmd : Command) : PyM Mediator Unit :=
  forwardCmd2Simulator cmd

def processCmdInTurbonetZone (cmd : Command) : PyM Mediator Unit :=
  match cmd.cmdType with
  | .addSFC => addSFC2P4Controller cmd
  | .addSFCI => do
      addSFCI2SFFController cmd
      addSFCI2P4Controller cmd
      let _ ← prepareChildCmd cmd .vnfControllerCmd
  | .delSFCI => do
      delSFCI4SFFController cmd
      delSFCI4P4Controller cmd
      delSFCIs4Server cmd
  | .delSFC => delSFC2P4Controller cmd
  | _ => withCm (delCmdwithChildCmd cmd.cmdID)

def processCmdInPufferZone (cmd : Command) : PyM Mediator Unit :=
  match cmd.cmdType with
  | .addSFC => do
      whenServer (addSFC2ClassifierController cmd)
      addSFC2NetworkController cmd
  | .addSFCI => do
      whenServer (addSFCI2ClassifierController cmd)
      addSFCI2SFFController cmd
      addSFCI2NetworkController cmd
      let _ ← prepareChildCmd cmd .vnfControllerCmd
  | .delSFCI => do
      whenServer (delSFCI4ClassifierController cmd)
      delSFCI4SFFController cmd
      delSFCI4NetworkController cmd
      delSFCIs4Server cmd
  | .delSFC => do
      whenServer (delSFC4ClassifierController cmd)
      delSFC4NetworkController cmd
  | .getServerSet => getServerSet4ServerManager cmd
  | .getTopology => getTopo4NetworkController cmd
  | .getSFCIState => getSFCIStatus4SFF cmd
  | _ => withCm (delCmdwithChildCmd cmd.cmdID)

def commandHandler (cmd : Command) : PyM Mediator Unit := do
  note cmd.cmdID (.received cmd)
  withCm (addCmd cmd)
  match ← zoneOf cmd with
  | .simulator => processCmdInSimulatorZone cmd
  | .turbonet => processCmdInTurbonetZone cmd
  | .puffer => processCmdInPufferZone cmd
  -- an unknown zone is logged, and the command stays where it is
  | _ => pure ()

def mixAttribute (attributes : Attributes) (item : String × AttrValue) :
    Except PyError Attributes :=
  match attributes.get? item.1 with
  | none => .ok (attributes.set item.1 item.2)
  | some old =>
      match item.2, old with
      | .dict dict1, .dict dict2 =>
          .ok (attributes.set item.1 (.dict (dict2.update dict1)))
      | .dict _, .scalar _ => .error .attributeError
      | .scalar value, old =>
          if AttrValue.scalar value = old then .ok attributes
          else .error .assertionError

/-- Merge the attributes of the children's replies, where a child without a
reply adds nothing. -/
def getMixedAttributes (cCmdRplyList : List (Option CommandReply)) :
    Except PyError Attributes :=
  (cCmdRplyList.filterMap id).foldlM
    (fun attributes cmdRply =>
      cmdRply.attributes.items.foldlM mixAttribute attributes) .empty

def genParentCmdRply (parentCmdID : UUID) (state : CmdState) :
    PyM Mediator CommandReply := do
  let cCmdRplyList ← withCm (getChildCMdRplyList parentCmdID)
  let attr ← PyM.ofExcept (getMixedAttributes cCmdRplyList)
  return ⟨parentCmdID, state, attr⟩

def replyError : CmdType → Option PyError
  | .addSFC | .addSFCI | .delSFCI | .delSFC => none
  | .getServerSet | .getTopology | .getSFCIState =>
      some (.valueError "Measurer use gRPC to collect information.")
  -- `queue` was not assigned
  | _ => some .unboundLocalError

def sendParentCmdRply (cmdRply : CommandReply) (dstQueueName : String) :
    PyM Mediator Unit := do
  let cmdRplyType ← withCm (getCmdType cmdRply.cmdID)
  match replyError cmdRplyType with
  | none =>
      note cmdRply.cmdID
        (.sent dstQueueName ⟨.mediatorCmdReply, .commandReply cmdRply⟩)
  | some e => throw e

def replyParentCmd (parentCmdID : UUID) (state : CmdState)
    (dstQueueName : String) : PyM Mediator Unit := do
  withCm (changeCmdState parentCmdID state)
  let cmdRply ← genParentCmdRply parentCmdID state
  sendParentCmdRply cmdRply dstQueueName

def waitingParentCmdHandler (parentCmdID : UUID) : PyM Mediator Unit := do
  if (← withCm (getCmdType parentCmdID)) = .addSFCI then do
    let sffState ← withCm (getChildCmdState parentCmdID .sffControllerCmd)
    if sffState = .successful then do
      let cmd ← withCm (getCmd parentCmdID)
      let cmd ← PyM.ofOption .attributeError cmd
      addSFCIs2Server cmd
    else
      pure ()
  else
    pure ()

/-- The branches of `_exeCmdStateAction`, with its two ends left out: reading
the parent of `cmdID`, and removing a parent whose children are determined. -/
def stateAction (cmdID parentCmdID : UUID) (dstQueueName : String) :
    PyM Mediator Unit := do
  if ← withCm (isParentCmdSuccessful parentCmdID) then
    replyParentCmd parentCmdID .successful dstQueueName
  else if ← withCm (isParentCmdFailed parentCmdID) then do
    let onlyOne ← withCm (isOnlyOneChildCmdFailed parentCmdID)
    let state ← withCm (getCmdState cmdID)
    if onlyOne && state == .fail then
      replyParentCmd parentCmdID .fail dstQueueName
    else
      pure ()
  else if ← withCm (isParentCmdWaiting parentCmdID) then
    waitingParentCmdHandler parentCmdID
  else
    pure ()

def delDeterminedCmd (parentCmdID : UUID) : PyM Mediator Unit := do
  if ← withCm (isAllChildCmdDetermined parentCmdID) then
    withCm (delCmdwithChildCmd parentCmdID)
  else
    pure ()

def exeCmdStateAction (cmdID : UUID) : PyM Mediator Unit := do
  -- `getCmd(None)` answers `None`, which has no `attributes`
  let parentCmdID ← withCm (getParentCmdID cmdID)
  let parentCmdID ← PyM.ofOption .attributeError parentCmdID
  let parent ← withCm (getCmd parentCmdID)
  let parent ← PyM.ofOption .attributeError parent
  let dstQueueName ← PyM.ofOption .keyError parent.attributes.source
  stateAction cmdID parentCmdID dstQueueName
  delDeterminedCmd parentCmdID

def noteAnswer (cmdRply : CommandReply) : PyM Mediator Unit := do
  match ((← get).cm.get? cmdRply.cmdID).bind CmdInfo.parentCmdID with
  | some parent => note parent (.answered cmdRply)
  | none => pure ()

def commandReplyHandler (cmdRply : CommandReply) : PyM Mediator Unit := do
  if ← withCm (isChildCmdHasCmdRply cmdRply.cmdID) then
    pure ()
  else do
    withCm (changeCmdState cmdRply.cmdID cmdRply.cmdState)
    withCm (addCmdRply cmdRply.cmdID cmdRply)
    noteAnswer cmdRply
    exeCmdStateAction cmdRply.cmdID

/-- A message from the Mediator's queue. -/
inductive Input where
  | command (cmd : Command)
  | reply (cmdRply : CommandReply)

/-- One round of the main loop: an exception is caught, and the state it left is
kept. -/
def handle (m : Mediator) : Input → Mediator
  | .command cmd => (commandHandler cmd).finalState m
  | .reply cmdRply => (commandReplyHandler cmdRply).finalState m

def wasSent (m : Mediator) (parent : UUID) (msgType : MsgType)
    (cCmd : Command) : Prop :=
  ∃ queueName, ⟨parent, .sent queueName ⟨msgType, .command cCmd⟩⟩ ∈ m.trace

/-- The Mediator among its neighbours. A command comes from another process,
under an id not used before. A reply answers a child command that was sent, as
successful or failed, any number of times and at any time; `answers` says which
replies the controller of a child command may give. -/
def machine (answers : MsgType → Command → CommandReply → Prop) :
    Machine Mediator Input where
  init m := m.cm = .empty ∧ m.trace = []
  admits m
    | .command cmd =>
        cmd.cmdID.generator ≠ generator ∧ ∀ e ∈ m.trace, e.parent ≠ cmd.cmdID
    | .reply cmdRply =>
        (cmdRply.cmdState = .successful ∨ cmdRply.cmdState = .fail) ∧
          ∃ parent msgType cCmd, m.wasSent parent msgType cCmd ∧
            cCmd.cmdID = cmdRply.cmdID ∧ answers msgType cCmd cmdRply
  step := handle

end Mediator

end SelfAdaptiveMano

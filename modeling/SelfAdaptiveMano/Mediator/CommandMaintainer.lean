import SelfAdaptiveMano.Base.Command
import SelfAdaptiveMano.Library.Python

/-!
# The command store of the Mediator

`CommandMaintainer` keeps one entry for each command, under the command's id. A
parent command's entry names its child commands and each child's entry names
its parent; the two links are written separately, so that an entry alone does
not say whether it is a parent or a child.

Reading an entry that is not there raises a `KeyError`, except in `getCmd`,
which answers `None`.
-/

namespace SelfAdaptiveMano

open Library

/-- The entry of a command in `_commandsInfo`. -/
structure CmdInfo where
  cmd : Command
  state : CmdState
  cmdReply : Option CommandReply
  parentCmdID : Option UUID
  childCmdID : Dict MsgType UUID

abbrev CommandMaintainer := Dict UUID CmdInfo

namespace CommandMaintainer

/-- `self._commandsInfo[cmdID]`. -/
def getInfo (cmdID : UUID) : PyM CommandMaintainer CmdInfo := do
  PyM.ofOption .keyError ((← get).get? cmdID)

/-- Write a field of `self._commandsInfo[cmdID]`. -/
def modifyInfo (cmdID : UUID) (f : CmdInfo → CmdInfo) :
    PyM CommandMaintainer Unit := do
  let _ ← getInfo cmdID
  modify fun cm => cm.modify cmdID f

/-- `del self._commandsInfo[cmdID]`. -/
def delInfo (cmdID : UUID) : PyM CommandMaintainer Unit := do
  let _ ← getInfo cmdID
  modify fun cm => cm.erase cmdID

def addCmd (cmd : Command) : PyM CommandMaintainer Unit :=
  modify fun cm => cm.set cmd.cmdID
    { cmd := cmd, state := .waiting, cmdReply := none, parentCmdID := none,
      childCmdID := .empty }

def getCmd (cmdID : UUID) : PyM CommandMaintainer (Option Command) := do
  return ((← get).get? cmdID).map CmdInfo.cmd

def hasCmd (cmdID : UUID) : PyM CommandMaintainer Bool := do
  return (← get).contains cmdID

def delCmdwithChildCmd (cmdID : UUID) : PyM CommandMaintainer Unit := do
  let cmdInfo ← getInfo cmdID
  cmdInfo.childCmdID.items.forM fun child => delInfo child.2
  delInfo cmdID

def addChildCmd2Cmd (currentCmdID : UUID) (childCmdName : MsgType)
    (childCmdID : UUID) : PyM CommandMaintainer Unit :=
  modifyInfo currentCmdID fun info =>
    { info with childCmdID := info.childCmdID.set childCmdName childCmdID }

def addParentCmd2Cmd (currentCmdID parentCmdID : UUID) :
    PyM CommandMaintainer Unit :=
  modifyInfo currentCmdID fun info =>
    { info with parentCmdID := some parentCmdID }

def getCmdState (cmdID : UUID) : PyM CommandMaintainer CmdState := do
  return (← getInfo cmdID).state

def changeCmdState (cmdID : UUID) (state : CmdState) :
    PyM CommandMaintainer Unit :=
  modifyInfo cmdID fun info => { info with state := state }

/-- Move a command from one state to another; a command that is not there, or
in a different state, is left alone. -/
def transitCmdState (cmdID : UUID) (statePrev stateNext : CmdState) :
    PyM CommandMaintainer Unit :=
  modify fun cm => cm.modify cmdID fun info =>
    if info.state = statePrev then { info with state := stateNext } else info

/-- `self._commandsInfo[cmdID]['childCmdID'][childCmdName]`. -/
def getChildCmdID (cmdID : UUID) (childCmdName : MsgType) :
    PyM CommandMaintainer UUID := do
  let cmdInfo ← getInfo cmdID
  PyM.ofOption .keyError (cmdInfo.childCmdID.get? childCmdName)

def getChildCmdState (cmdID : UUID) (childCmdName : MsgType) :
    PyM CommandMaintainer CmdState := do
  let cCmdID ← getChildCmdID cmdID childCmdName
  getCmdState cCmdID

def getChildCmd (cmdID : UUID) (childCmdName : MsgType) :
    PyM CommandMaintainer Command := do
  let cCmdID ← getChildCmdID cmdID childCmdName
  return (← getInfo cCmdID).cmd

def getCmdType (cmdID : UUID) : PyM CommandMaintainer CmdType := do
  return (← getInfo cmdID).cmd.cmdType

def getParentCmdID (cmdID : UUID) : PyM CommandMaintainer (Option UUID) := do
  return (← getInfo cmdID).parentCmdID

def addCmdRply (cmdID : UUID) (cmdRply : CommandReply) :
    PyM CommandMaintainer Unit :=
  modifyInfo cmdID fun info => { info with cmdReply := some cmdRply }

def isChildCmdHasCmdRply (cmdID : UUID) : PyM CommandMaintainer Bool := do
  return (← getInfo cmdID).cmdReply.isSome

def getChildCMdRplyList (parentCmdID : UUID) :
    PyM CommandMaintainer (List (Option CommandReply)) := do
  let cmdInfo ← getInfo parentCmdID
  cmdInfo.childCmdID.items.mapM fun child => do
    return (← getInfo child.2).cmdReply

/-- Whether the states of all child commands pass a test; the loop stops at the
first child that does not. -/
def allChildCmd (cmdID : UUID) (test : CmdState → Bool) :
    PyM CommandMaintainer Bool := do
  let cmdInfo ← getInfo cmdID
  cmdInfo.childCmdID.items.allM fun child => do
    return test (← getCmdState child.2)

/-- Whether the state of some child command passes a test; the loop stops at the
first child that does. -/
def anyChildCmd (cmdID : UUID) (test : CmdState → Bool) :
    PyM CommandMaintainer Bool := do
  let cmdInfo ← getInfo cmdID
  cmdInfo.childCmdID.items.anyM fun child => do
    return test (← getCmdState child.2)

def isParentCmdSuccessful (cmdID : UUID) : PyM CommandMaintainer Bool :=
  allChildCmd cmdID fun state => state == .successful

def isParentCmdFailed (cmdID : UUID) : PyM CommandMaintainer Bool :=
  anyChildCmd cmdID fun state => state == .fail

def isOnlyOneChildCmdFailed (cmdID : UUID) : PyM CommandMaintainer Bool := do
  let cmdInfo ← getInfo cmdID
  let states ← cmdInfo.childCmdID.items.mapM fun child => getCmdState child.2
  return states.count .fail == 1

def isAllChildCmdDetermined (cmdID : UUID) : PyM CommandMaintainer Bool :=
  allChildCmd cmdID fun state => !(state == .waiting || state == .processing)

def isParentCmdWaiting (cmdID : UUID) : PyM CommandMaintainer Bool :=
  anyChildCmd cmdID fun state => state == .waiting

end CommandMaintainer

end SelfAdaptiveMano

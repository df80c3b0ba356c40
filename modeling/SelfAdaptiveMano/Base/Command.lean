import SelfAdaptiveMano.Base.Sfc
import SelfAdaptiveMano.Library.Dict

/-!
# Commands and command replies

A command is passed down from the Orchestrator to the Mediator and from there,
copied once for each controller that takes part, to the controllers; command
replies come back up. The types, states and queue names are those of
`sam/base/command.py` and `sam/base/messageAgent.py`.
-/

namespace SelfAdaptiveMano

open Library

inductive CmdType where
  | addSFC
  | addSFCI
  | delSFCI
  | delSFC
  | pauseBess
  | resumeBess
  | getServerSet
  | getTopology
  | getSFCIState
  | getVNFIState
  | handleServerStatusChange
  | handleFailureAbnormal
  | failureAbnormalResume
  | getFlowSet
  | turnOrchestrationOn
  | turnOrchestrationOff
  | getOrchestrationState
  | putOrchestrationState
  | orchestrationUpdateEquipmentState
  | orchestrationManagerUpdateState
  | killOrchestration
  | testerRemapSFCI
  | addNSHRoute
  | delNSHRoute
  | addClassifierEntry
  | delClassifierEntry
  | abnormalDetectorQuery
  deriving DecidableEq, Repr

inductive CmdState where
  | waiting
  | processing
  | successful
  | fail
  deriving DecidableEq, Repr

/-- The attributes of a command; a key that the dictionary lacks is `none`. -/
structure CommandAttributes where
  zone : Option Zone
  source : Option String
  sfc : Option SFC
  sfci : Option SFCI
  deriving DecidableEq

/-- `Command(cmdType, cmdID, attributes)`. -/
structure Command where
  cmdType : CmdType
  cmdID : UUID
  attributes : CommandAttributes
  deriving DecidableEq

/-- A value of a reply's attributes: a dictionary, which replies of several
controllers fill together, or anything else. -/
inductive AttrValue where
  | scalar (value : String)
  | dict (entries : Dict String String)
  deriving DecidableEq

abbrev Attributes := Dict String AttrValue

/-- `CommandReply(cmdID, cmdState, attributes)`. -/
structure CommandReply where
  cmdID : UUID
  cmdState : CmdState
  attributes : Attributes
  deriving DecidableEq

/-- The message types that the Mediator uses. The type of a command message is
also the name under which the Mediator files the child command it carries. -/
inductive MsgType where
  | classifierControllerCmd
  | networkControllerCmd
  | p4ControllerCmd
  | sffControllerCmd
  | vnfControllerCmd
  | serverManagerCmd
  | simulatorCmd
  | mediatorCmdReply
  deriving DecidableEq, Repr

inductive QueueType where
  | serverClassifierController
  | networkController
  | p4Controller
  | sffController
  | vnfController
  | serverManager
  | simulator
  deriving DecidableEq, Repr

def QueueType.name : QueueType → String
  | serverClassifierController => "SERVER_CLASSIFIER_CONTROLLER_QUEUE"
  | networkController => "NETWORK_CONTROLLER_QUEUE"
  | p4Controller => "P4CONTROLLER_QUEUE"
  | sffController => "SFF_CONTROLLER_QUEUE"
  | vnfController => "VNF_CONTROLLER_QUEUE"
  | serverManager => "SERVER_MANAGER_QUEUE"
  | simulator => "SIMULATOR_QUEUE"

/-- `MessageAgent.genQueueName`: the queue of a controller in a zone. -/
def genQueueName (queueType : QueueType) (zoneName : Option Zone) : String :=
  match zoneName with
  | none => queueType.name
  | some zone => queueType.name ++ "_" ++ zone.name

inductive Body where
  | command (cmd : Command)
  | commandReply (cmdRply : CommandReply)
  deriving DecidableEq

/-- `SAMMessage(msgType, body)`. -/
structure SAMMessage where
  msgType : MsgType
  body : Body
  deriving DecidableEq

end SelfAdaptiveMano

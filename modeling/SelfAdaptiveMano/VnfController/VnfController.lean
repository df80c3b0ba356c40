import SelfAdaptiveMano.VnfController.SourceAllocator
import SelfAdaptiveMano.Base.Command
import SelfAdaptiveMano.Library.Python
import SelfAdaptiveMano.Library.Machine

/-!
# The VNF controller

The VNF controller starts a container for each VNFI of an SFCI that is placed on
a server, with CPUs, virtio ids and a socket port of the server. A VNFI that is
already recorded for some SFCI is shared: it gets neither a second container nor
a record under the SFCI that shares it.

What Docker does is a parameter (`Docker`), and so is whatever else may raise
while a container is prepared.
-/

namespace SelfAdaptiveMano

open Library

def VNF_TYPE_FORWARD : Nat := 1
def VNF_TYPE_FW : Nat := 2
def VNF_TYPE_MONITOR : Nat := 4
def VNF_TYPE_LB : Nat := 5
def VNF_TYPE_RATELIMITER : Nat := 6
def VNF_TYPE_NAT : Nat := 7
def VNF_TYPE_VPN : Nat := 8

namespace VcConfig

def MAX_VIO_NUM : Int := 65536
def NOT_AVAI_CPU : List Nat := [0]

end VcConfig

def MIN_SOCKET_PORT : Int := 1024
def MAX_SOCKET_PORT_NUM : Int := 65535 - 1024

structure ServerVNFI where
  vnfi : VNFI
  server : Server
  node_eq : vnfi.node = .server server
  deriving DecidableEq

def SFCI.serverVNFIs (sfci : SFCI) : List ServerVNFI :=
  sfci.vnfiSequence.flatten.filterMap fun vnfi =>
    match h : vnfi.node with
    | .server server => some ⟨vnfi, server, h⟩
    | .switch _ => none

/-- The states of a VNFI, from `vnfMaintainer.py`. -/
inductive VNFIState where
  | processing
  | deployed
  | failed
  deriving DecidableEq, Repr

structure Deployment where
  containerID : Nat
  cpus : List (List Nat)
  vioStart : Int
  controlSocketPort : Nat
  deriving DecidableEq, Repr

/-- `VNFIDeployStatus`; what was deployed is set at once. -/
structure VNFIDeployStatus where
  vnfi : ServerVNFI
  state : VNFIState
  deployment : Option Deployment
  error : Option PyError
  deriving DecidableEq

structure Container where
  containerID : Nat
  serverID : Nat
  hostPort : Option Nat
  deriving DecidableEq, Repr

/-- What happens around the VNF controller while it handles a command. -/
structure Docker where
  /-- Connecting to the server, and reading `vnfi.config` for the network
  functions that do so before they take anything. -/
  prepare : VNFI → Except PyError Unit
  /-- Writing the command line, outside of the `try` block. -/
  command : VNFI → Except PyError Unit
  /-- `containers.run` and what else is in the `try` block. -/
  run : VNFI → Except PyError Unit
  /-- The port in `_getContainerHostPort`. -/
  hostPort : VNFI → Except PyError Nat
  /-- Whether a container is gone after an attempt to kill it. -/
  kill : Nat → Bool

structure VNFController where
  /-- `_vnfiMaintainer._vnfiSet` -/
  vnfiSet : Dict Nat (Dict UUID VNFIDeployStatus)
  /-- `_vnfiMaintainer._sfciDict` -/
  sfciDict : Dict Nat SFCI
  vioManager : Dict Nat (List (Int × Int))
  cpuManager : Dict Nat (List (List Nat))
  socketPortManager : Dict Nat (List (Int × Int))
  /-- The containers that Docker runs. -/
  running : List Container
  /-- The id of the next container; Docker gives no id twice. -/
  nextContainerID : Nat

namespace VNFController

/-! ## `VNFIMaintainer` -/

def hasSFCI (c : VNFController) (sfciID : Nat) : Bool :=
  c.vnfiSet.contains sfciID

def addSFCI (sfci : SFCI) (c : VNFController) : VNFController :=
  { c with
    vnfiSet := c.vnfiSet.set sfci.sfciID .empty
    sfciDict := c.sfciDict.set sfci.sfciID sfci }

def hasVNFI (c : VNFController) (vnfiID : UUID) : Bool :=
  c.vnfiSet.values.any (·.contains vnfiID)

def setVNFI (sfciID : Nat) (status : VNFIDeployStatus) (c : VNFController) :
    VNFController :=
  { c with
    vnfiSet := c.vnfiSet.modify sfciID (·.set status.vnfi.vnfi.vnfiID status) }

def deleteVNFI (sfciID : Nat) (vnfiID : UUID) (c : VNFController) :
    VNFController :=
  { c with vnfiSet := c.vnfiSet.modify sfciID (·.erase vnfiID) }

def deleteSFCI (sfciID : Nat) (c : VNFController) : VNFController :=
  { c with
    vnfiSet := c.vnfiSet.erase sfciID
    sfciDict := c.sfciDict.erase sfciID }

/-! ## The allocators of a server -/

/-- The free virtio ids of a server; its allocator is made on first use. -/
def vios (c : VNFController) (server : Server) : List (Int × Int) :=
  (c.vioManager.get? server.serverID).getD [(0, VcConfig.MAX_VIO_NUM)]

def cores (c : VNFController) (server : Server) : List (List Nat) :=
  (c.cpuManager.get? server.serverID).getD
    (CPUAllocator.rmNotAvaiCPUFromCoreInSocketList server.coreNUMADistribution
      VcConfig.NOT_AVAI_CPU)

def socketPorts (c : VNFController) (server : Server) : List (Int × Int) :=
  (c.socketPortManager.get? server.serverID).getD
    [(MIN_SOCKET_PORT, MIN_SOCKET_PORT + MAX_SOCKET_PORT_NUM)]

/-- Make the allocators that the server does not have yet. -/
def withAllocators (server : Server) (c : VNFController) : VNFController :=
  { c with
    vioManager := c.vioManager.set server.serverID (c.vios server)
    cpuManager := c.cpuManager.set server.serverID (c.cores server)
    socketPortManager :=
      c.socketPortManager.set server.serverID (c.socketPorts server) }

/-! ## `VNFIAdder` -/

def knownTypes : List Nat :=
  [VNF_TYPE_FORWARD, VNF_TYPE_FW, VNF_TYPE_LB, VNF_TYPE_MONITOR, VNF_TYPE_NAT,
    VNF_TYPE_VPN, VNF_TYPE_RATELIMITER]

/-- The types whose image `vcConfig` names for the chain type NSH over Ethernet;
reading the image of another one is an `AttributeError`. -/
def imageTypes : List Nat :=
  [VNF_TYPE_FORWARD, VNF_TYPE_FW, VNF_TYPE_MONITOR, VNF_TYPE_RATELIMITER]

def cpuNum (vnfi : VNFI) : Nat :=
  if vnfi.vnfType = VNF_TYPE_NAT then 1 else vnfi.maxCPUNum

def allocateCPU (v : ServerVNFI) : PyM VNFController (List (List Nat)) := do
  let c ← get
  -- the pair `None, None` cannot be iterated over
  let (cpus, rest) ← PyM.ofOption .typeError
    (CPUAllocator.allocateCPU (cpuNum v.vnfi) (c.cores v.server))
  set { c with cpuManager := c.cpuManager.set v.server.serverID rest }
  return cpus

def allocateVio (v : ServerVNFI) : PyM VNFController Int := do
  let c ← get
  let (vioStart, rest) := SourceAllocator.allocateSource 2 (c.vios v.server)
  set { c with vioManager := c.vioManager.set v.server.serverID rest }
  return vioStart

def startContainer (docker : Docker) (v : ServerVNFI) : PyM VNFController Nat := do
  let c ← get
  let container : Container := ⟨c.nextContainerID, v.server.serverID,
    (docker.hostPort v.vnfi).toOption⟩
  set { c with
    running := c.running ++ [container]
    nextContainerID := c.nextContainerID + 1 }
  return c.nextContainerID

/-- Give back the CPUs and the virtio ids of a container that was not started. -/
def freeAllocated (v : ServerVNFI) (cpus : List (List Nat)) (vioStart : Int) :
    PyM VNFController Unit :=
  modify fun c => { c with
    cpuManager := c.cpuManager.set v.server.serverID
      (CPUAllocator.freeCPU cpus (c.cores v.server))
    vioManager := c.vioManager.set v.server.serverID
      (SourceAllocator.freeSource vioStart 2 (c.vios v.server)) }

/-- `_addFWD`, `_addFW` and so on: only the image and the command line differ. -/
def addContainer (docker : Docker) (v : ServerVNFI) :
    PyM VNFController Deployment := do
  let cpus ← allocateCPU v
  let vioStart ← allocateVio v
  if v.vnfi.vnfType ∈ imageTypes then do
    PyM.ofExcept (docker.command v.vnfi)
    match docker.run v.vnfi with
    | .error e => do
        freeAllocated v cpus vioStart
        throw e
    | .ok () => do
        let containerID ← startContainer docker v
        let controlSocketPort ← PyM.ofExcept (docker.hostPort v.vnfi)
        modify fun c => { c with
          socketPortManager := c.socketPortManager.set v.server.serverID
            (SourceAllocator.allocateSpecificSource controlSocketPort 1
              (c.socketPorts v.server)) }
        return ⟨containerID, cpus, vioStart, controlSocketPort⟩
  else throw .attributeError

def addVNFI (docker : Docker) (v : ServerVNFI) :
    PyM VNFController Deployment := do
  PyM.ofExcept (docker.prepare v.vnfi)
  if v.vnfi.vnfType ∈ knownTypes then addContainer docker v
  else throw (.valueError "Unknown vnf type")

/-! ## `VNFIDeleter` -/

/-- Kill the container of a VNFI and give back what it held. A container that
cannot be killed is left running. -/
def deleteContainer (docker : Docker) (v : ServerVNFI) (deployment : Deployment)
    (c : VNFController) : VNFController :=
  { c with
    running := c.running.filter fun container =>
      !(container.containerID = deployment.containerID &&
        docker.kill deployment.containerID)
    vioManager := c.vioManager.set v.server.serverID
      (SourceAllocator.freeSource deployment.vioStart 2 (c.vios v.server))
    cpuManager := c.cpuManager.set v.server.serverID
      (CPUAllocator.freeCPU deployment.cpus (c.cores v.server))
    socketPortManager := c.socketPortManager.set v.server.serverID
      (SourceAllocator.freeSource deployment.controlSocketPort 1
        (c.socketPorts v.server)) }

/-- `VNFIDeleter.deleteVNFI`, with the allocators of the server looked up. -/
def killVNFI (docker : Docker) (status : VNFIDeployStatus) :
    PyM VNFController Unit := do
  let c ← get
  let serverID := status.vnfi.server.serverID
  if c.vioManager.contains serverID ∧ c.cpuManager.contains serverID ∧
      c.socketPortManager.contains serverID then
    match status.error, status.deployment with
    | some _, none => pure ()
    | some _, some _ => throw .assertionError
    | none, none => throw .typeError
    | none, some deployment =>
        modify (deleteContainer docker status.vnfi deployment)
  else throw .keyError

/-! ## The handlers -/

/-- The turn of the loop in `_sfciAddHandler` for one VNFI: whether it went well.
-/
def addServerVNFI (docker : Docker) (sfciID : Nat) (v : ServerVNFI)
    (c : VNFController) : Bool × VNFController :=
  -- a recorded VNFI is shared
  if c.hasVNFI v.vnfi.vnfiID then (true, c)
  else
    let c := (c.setVNFI sfciID ⟨v, .processing, none, none⟩).withAllocators
      v.server
    match (addVNFI docker v).run c with
    | .ok deployment c =>
        (true, c.setVNFI sfciID ⟨v, .deployed, some deployment, none⟩)
    | .error e c => (false, c.setVNFI sfciID ⟨v, .failed, none, some e⟩)

/-- The loop in `_sfciAddHandler`. -/
def addServerVNFIs (docker : Docker) (sfciID : Nat) :
    List ServerVNFI → VNFController → Bool × VNFController
  | [], c => (true, c)
  | v :: vs, c =>
      let (added, c) := addServerVNFI docker sfciID v c
      let (success, c) := addServerVNFIs docker sfciID vs c
      (added && success, c)

def sfciAddHandler (docker : Docker) (sfci : SFCI) (c : VNFController) :
    Bool × VNFController :=
  if c.hasSFCI sfci.sfciID then (true, c)
  else addServerVNFIs docker sfci.sfciID sfci.serverVNFIs (c.addSFCI sfci)

/-- The turn of the loop in `_sfciDeleteHandler` for one record. -/
def deleteServerVNFI (docker : Docker) (sfciID : Nat)
    (record : UUID × VNFIDeployStatus) (c : VNFController) :
    Bool × VNFController :=
  match (killVNFI docker record.2).run c with
  | .ok () c => (true, c.deleteVNFI sfciID record.1)
  | .error _ c => (false, c)

/-- The loop in `_sfciDeleteHandler`. -/
def deleteServerVNFIs (docker : Docker) (sfciID : Nat) :
    List (UUID × VNFIDeployStatus) → VNFController → Bool × VNFController
  | [], c => (true, c)
  | record :: records, c =>
      let (deleted, c) := deleteServerVNFI docker sfciID record c
      let (success, c) := deleteServerVNFIs docker sfciID records c
      (deleted && success, c)

def sfciDeleteHandler (docker : Docker) (sfciID : Nat) (c : VNFController) :
    Bool × VNFController :=
  match c.vnfiSet.get? sfciID with
  | none => (false, c)
  | some sfciState =>
      match deleteServerVNFIs docker sfciID sfciState.items c with
      | (true, c) => (true, c.deleteSFCI sfciID)
      | (false, c) => (false, c)

/-- The commands; of the SFCI of a `DEL_SFCI` only the id is read. -/
inductive Input where
  | addSFCI (docker : Docker) (sfci : SFCI)
  | delSFCI (docker : Docker) (sfciID : Nat)

def replyState (success : Bool) : CmdState :=
  if success then .successful else .fail

def handle (c : VNFController) : Input → CmdState × VNFController
  | .addSFCI docker sfci =>
      let (success, c) := sfciAddHandler docker sfci c
      (replyState success, c)
  | .delSFCI docker sfciID =>
      let (success, c) := sfciDeleteHandler docker sfciID c
      (replyState success, c)

/-- Docker gives a container a port that no other container of the server has. -/
structure PortsFree (docker : Docker) (vs : List ServerVNFI)
    (c : VNFController) : Prop where
  running : ∀ v ∈ vs, c.hasVNFI v.vnfi.vnfiID = false →
    ∀ port, docker.hostPort v.vnfi = .ok port → ∀ container ∈ c.running,
      container.serverID = v.server.serverID → container.hostPort ≠ some port
  apart : ∀ v ∈ vs, ∀ w ∈ vs, v.vnfi.vnfiID ≠ w.vnfi.vnfiID →
    v.server.serverID = w.server.serverID →
      ∀ port, docker.hostPort v.vnfi = .ok port →
        docker.hostPort w.vnfi ≠ .ok port

def fresh : VNFController := ⟨.empty, .empty, .empty, .empty, .empty, [], 0⟩

/-- The VNF controller among its neighbours: the cores of a server are distinct,
and Docker gives no port twice. -/
def machine : Machine VNFController Input where
  init c := c = fresh
  admits c
    | .addSFCI docker sfci => PortsFree docker sfci.serverVNFIs c ∧
        ∀ v ∈ sfci.serverVNFIs, v.server.coreNUMADistribution.flatten.Nodup
    | .delSFCI _ _ => True
  step c i := (handle c i).2

def sampleServer : Server := ⟨1, [[0, 2, 4], [1, 3, 5]]⟩

def sampleVNFI (tick : Nat) : ServerVNFI where
  vnfi := ⟨VNF_TYPE_FORWARD, ⟨0, tick⟩, "", .server sampleServer, 1⟩
  server := sampleServer
  node_eq := rfl

def sampleSFCI (sfciID : Nat) (ticks : List Nat) : SFCI :=
  ⟨sfciID, ticks.map fun tick => [(sampleVNFI tick).vnfi]⟩

/-- Docker gives ports from the end of the range on, and cannot start the
containers of some VNFIs. -/
def sampleDocker (failing : List Nat) : Docker where
  prepare _ := .ok ()
  command _ := .ok ()
  run vnfi := if vnfi.vnfiID.tick ∈ failing then .error (.exception "") else .ok ()
  hostPort vnfi := .ok (65536 - vnfi.vnfiID.tick)
  kill _ := true

def after (inputs : List Input) : VNFController :=
  inputs.foldl (fun c i => (handle c i).2) fresh

end VNFController

end SelfAdaptiveMano

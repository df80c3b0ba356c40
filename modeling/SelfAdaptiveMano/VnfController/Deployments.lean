import SelfAdaptiveMano.VnfController.Returns
import SelfAdaptiveMano.VnfController.Sharing

/-!
# What adding and deleting a VNFI does to the allocators

A VNFI that is added takes what its record says, or the allocators stay as they
are; and a VNFI that is deleted gives back what it took. Neither is always so: an
exception outside of the `try` block leaves everything taken, a container starts
without virtio ids when there are none left, and a port can take another one with
it.
-/

namespace SelfAdaptiveMano

open Library Library.Intervals SourceAllocator

/-- What an allocator of a server has or gives. -/
inductive Item where
  | core (socket core : Nat)
  | virtio (id : Int)
  | port (port : Int)

def Deployment.Has (d : Deployment) : Item → Prop
  | .core socket core => CPUAllocator.InSocket d.cpus socket core
  | .virtio id => d.vioStart ≤ id ∧ id < d.vioStart + 2
  | .port port => port = d.controlSocketPort

namespace VNFController

def FreeIn (cores : List (List Nat)) (vios socketPorts : List (Int × Int)) :
    Item → Prop
  | .core socket core => CPUAllocator.InSocket cores socket core
  | .virtio id => Covers vios id
  | .port port => Covers socketPorts port

def FreeOn (c : VNFController) (server : Server) : Item → Prop :=
  FreeIn (c.cores server) (c.vios server) (c.socketPorts server)

/-- The allocators have what they had. -/
def SameFree (c c' : VNFController) : Prop :=
  ∀ server item, c'.FreeOn server item ↔ c.FreeOn server item

/-- What is recorded was taken, and nothing else. -/
def Took (c c' : VNFController) (v : ServerVNFI) (d : Deployment) : Prop :=
  (∀ item, d.Has item → c.FreeOn v.server item) ∧
  ∀ server item, c'.FreeOn server item ↔ c.FreeOn server item ∧
    ¬ (server.serverID = v.server.serverID ∧ d.Has item)

/-- What is recorded was not free and is given back, and nothing else. -/
def GaveBack (c c' : VNFController) (v : ServerVNFI) (d : Deployment) : Prop :=
  (∀ item, d.Has item → ¬ c.FreeOn v.server item) ∧
  ∀ server item, c'.FreeOn server item ↔ c.FreeOn server item ∨
    (server.serverID = v.server.serverID ∧ d.Has item)

/-! ## Runs -/

/-- The controller, and the VNFIs that are deployed with what is recorded for
them. -/
structure Hosted where
  controller : VNFController
  deployed : List (ServerVNFI × Deployment)

inductive VNFIEvent where
  | add (docker : Docker) (v : ServerVNFI)
  | delete (docker : Docker) (entry : ServerVNFI × Deployment)

def recordAdded (deployed : List (ServerVNFI × Deployment)) (v : ServerVNFI) :
    EStateM.Result PyError VNFController Deployment → Hosted
  | .ok deployment c => ⟨c, deployed ++ [(v, deployment)]⟩
  | .error _ c => ⟨c, deployed⟩

/-- `VNFIDeleter.deleteVNFI` for a VNFI that was deployed. -/
def deleteDeployed (docker : Docker) (entry : ServerVNFI × Deployment)
    (c : VNFController) : VNFController :=
  (killVNFI docker ⟨entry.1, .deployed, some entry.2, none⟩).finalState c

/-- VNFIs are added, and deployed ones deleted, in any order. The cores of a
server are distinct. -/
def hosting : Machine Hosted VNFIEvent where
  init s := s = ⟨fresh, []⟩
  admits s
    | .add _ v => v.server.coreNUMADistribution.flatten.Nodup
    | .delete _ entry => entry ∈ s.deployed
  step s
    | .add docker v => recordAdded s.deployed v
        ((addVNFI docker v).run (s.controller.withAllocators v.server))
    | .delete docker entry =>
        ⟨deleteDeployed docker entry s.controller, s.deployed.erase entry⟩

def AddAccounted (v : ServerVNFI) (c : VNFController) :
    EStateM.Result PyError VNFController Deployment → Prop
  | .ok deployment c' => Took c c' v deployment
  | .error _ c' => SameFree c c'

/-- The VNFI is deployed with what is recorded for it or changes nothing, and gives
back what it has when it is deleted. -/
def Accounted (s : Hosted) : VNFIEvent → Prop
  | .add docker v =>
      let c := s.controller.withAllocators v.server
      AddAccounted v c ((addVNFI docker v).run c)
  | .delete docker entry =>
      GaveBack s.controller (deleteDeployed docker entry s.controller) entry.1
        entry.2

instance (num : Int) (l : List (Int × Int)) : Decidable (HasRoom num l) :=
  inferInstanceAs (Decidable (∃ e ∈ l, num ≤ e.2 - e.1))

/-- The VNFI asks for no core, and there is no block of virtio ids. -/
def TakesNothing (v : ServerVNFI) (c : VNFController) : Prop :=
  cpuNum v.vnfi = 0 ∧ ¬ HasRoom 2 (c.vios v.server)

/-- What was taken can be given back when the container does not start. -/
def Revocable (v : ServerVNFI) (c : VNFController) : Prop :=
  if HasRoom 2 (c.vios v.server) then PutsBack 2 (c.vios v.server)
  else ∃ first ∈ (c.vios v.server).head?, first.1 = 0

/-- There is a block of virtio ids, and the port is at the front of a free
interval. -/
def Deployable (v : ServerVNFI) (port : Nat) (c : VNFController) : Prop :=
  HasRoom 2 (c.vios v.server) ∧ AtFront port (c.socketPorts v.server)

/-- The VNFI can be added: what goes wrong does so before anything is taken, or when
the container is started, and what is taken can be given back. -/
def AddOk (docker : Docker) (v : ServerVNFI) (c : VNFController) : Prop :=
  docker.prepare v.vnfi = .ok () → v.vnfi.vnfType ∈ knownTypes →
  CPUAllocator.HasCores (cpuNum v.vnfi) (c.cores v.server) →
  if v.vnfi.vnfType ∈ imageTypes ∧ docker.command v.vnfi = .ok () then
    match docker.run v.vnfi, docker.hostPort v.vnfi with
    | .error _, _ => Revocable v c
    | .ok _, .ok port => Deployable v port c
    | .ok _, .error _ => TakesNothing v c
  else TakesNothing v c

def EventOk (s : Hosted) : VNFIEvent → Prop
  | .add docker v => AddOk docker v s.controller
  | .delete _ (v, d) =>
      Placeable d.vioStart 2 (s.controller.vios v.server) ∧
        Placeable d.controlSocketPort 1 (s.controller.socketPorts v.server)

/-! ## What adding a VNFI can do -/

/-- The controllers differ in the allocators of the server of the VNFI alone. -/
structure Left (c c' : VNFController) (v : ServerVNFI) (cores : List (List Nat))
    (vios socketPorts : List (Int × Int)) : Prop where
  cpuManager : ∀ serverID, c'.cpuManager.get? serverID =
    if serverID = v.server.serverID then some cores else c.cpuManager.get? serverID
  vioManager : ∀ serverID, c'.vioManager.get? serverID =
    if serverID = v.server.serverID then some vios else c.vioManager.get? serverID
  socketPortManager : ∀ serverID, c'.socketPortManager.get? serverID =
    if serverID = v.server.serverID then some socketPorts
    else c.socketPortManager.get? serverID

section Add

variable {docker : Docker} {v : ServerVNFI} {c c' : VNFController}

abbrev vioBlock (v : ServerVNFI) (c : VNFController) : Int × List (Int × Int) :=
  allocateSource 2 (c.vios v.server)

/-- What comes of adding a VNFI. -/
inductive Outcome (docker : Docker) (v : ServerVNFI) (c : VNFController) :
    EStateM.Result PyError VNFController Deployment → Prop
  /-- Something raises before anything is taken. -/
  | early (e : PyError) (h : ¬ (docker.prepare v.vnfi = .ok () ∧
        v.vnfi.vnfType ∈ knownTypes ∧
        CPUAllocator.HasCores (cpuNum v.vnfi) (c.cores v.server))) :
      Outcome docker v c (.error e c)
  /-- Something raises between taking and the `try` block. -/
  | leaked (e : PyError) (c' : VNFController) (cpus rest : List (List Nat))
      (prepared : docker.prepare v.vnfi = .ok ())
      (known : v.vnfi.vnfType ∈ knownTypes)
      (taken : CPUAllocator.allocateCPU (cpuNum v.vnfi) (c.cores v.server) =
        some (cpus, rest))
      (h : ¬ (v.vnfi.vnfType ∈ imageTypes ∧ docker.command v.vnfi = .ok ()))
      (left : Left c c' v rest (vioBlock v c).2 (c.socketPorts v.server)) :
      Outcome docker v c (.error e c')
  /-- The container cannot be started. -/
  | revoked (e : PyError) (c' : VNFController) (cpus rest : List (List Nat))
      (prepared : docker.prepare v.vnfi = .ok ())
      (image : v.vnfi.vnfType ∈ imageTypes)
      (taken : CPUAllocator.allocateCPU (cpuNum v.vnfi) (c.cores v.server) =
        some (cpus, rest))
      (command : docker.command v.vnfi = .ok ())
      (run : docker.run v.vnfi = .error e)
      (left : Left c c' v (CPUAllocator.freeCPU cpus rest)
        (freeSource (vioBlock v c).1 2 (vioBlock v c).2)
        (c.socketPorts v.server)) :
      Outcome docker v c (.error e c')
  /-- The port of the container cannot be read. -/
  | portless (e : PyError) (c' : VNFController) (cpus rest : List (List Nat))
      (prepared : docker.prepare v.vnfi = .ok ())
      (image : v.vnfi.vnfType ∈ imageTypes)
      (taken : CPUAllocator.allocateCPU (cpuNum v.vnfi) (c.cores v.server) =
        some (cpus, rest))
      (command : docker.command v.vnfi = .ok ())
      (run : docker.run v.vnfi = .ok ())
      (port : docker.hostPort v.vnfi = .error e)
      (left : Left c c' v rest (vioBlock v c).2 (c.socketPorts v.server)) :
      Outcome docker v c (.error e c')
  | deployed (d : Deployment) (c' : VNFController) (rest : List (List Nat))
      (prepared : docker.prepare v.vnfi = .ok ())
      (image : v.vnfi.vnfType ∈ imageTypes)
      (taken : CPUAllocator.allocateCPU (cpuNum v.vnfi) (c.cores v.server) =
        some (d.cpus, rest))
      (command : docker.command v.vnfi = .ok ())
      (run : docker.run v.vnfi = .ok ())
      (port : docker.hostPort v.vnfi = .ok d.controlSocketPort)
      (vioStart : d.vioStart = (vioBlock v c).1)
      (left : Left c c' v rest (vioBlock v c).2
        (allocateSpecificSource d.controlSocketPort 1 (c.socketPorts v.server))) :
      Outcome docker v c (.ok d c')

theorem cores_eq_of_serverID {server server' : Server}
    (h : c.HasAllocators server.serverID)
    (heq : server'.serverID = server.serverID) :
    c.cores server' = c.cores server ∧ c.vios server' = c.vios server ∧
      c.socketPorts server' = c.socketPorts server := by
  obtain ⟨⟨lc, hlc⟩, ⟨lv, hlv⟩, ⟨lp, hlp⟩⟩ := h
  simp [cores, vios, socketPorts, heq, hlc, hlv, hlp]

namespace Left

variable {cores : List (List Nat)} {vios ports : List (Int × Int)}

theorem cores_eq (h : Left c c' v cores vios ports) (server : Server) :
    c'.cores server =
      if server.serverID = v.server.serverID then cores else c.cores server := by
  rw [VNFController.cores, h.cpuManager]
  split <;> rfl

theorem vios_eq (h : Left c c' v cores vios ports) (server : Server) :
    c'.vios server =
      if server.serverID = v.server.serverID then vios else c.vios server := by
  rw [VNFController.vios, h.vioManager]
  split <;> rfl

theorem socketPorts_eq (h : Left c c' v cores vios ports) (server : Server) :
    c'.socketPorts server =
      if server.serverID = v.server.serverID then ports
      else c.socketPorts server := by
  rw [VNFController.socketPorts, h.socketPortManager]
  split <;> rfl

theorem hasAllocators (h : Left c c' v cores vios ports) {serverID : Nat}
    (hc : c.HasAllocators serverID) : c'.HasAllocators serverID := by
  refine ⟨?_, ?_, ?_⟩
  · rw [h.cpuManager]
    split
    · exact ⟨_, rfl⟩
    · exact hc.cpu
  · rw [h.vioManager]
    split
    · exact ⟨_, rfl⟩
    · exact hc.vio
  · rw [h.socketPortManager]
    split
    · exact ⟨_, rfl⟩
    · exact hc.socketPort

end Left

theorem get?_socketPortManager (hc : c.HasAllocators v.server.serverID)
    (serverID : Nat) : c.socketPortManager.get? serverID =
      if serverID = v.server.serverID then some (c.socketPorts v.server)
      else c.socketPortManager.get? serverID := by
  split
  next heq =>
    obtain ⟨l, hl⟩ := hc.socketPort
    rw [heq, hl, VNFController.socketPorts, hl]
    rfl
  next => rfl

def withTaken (v : ServerVNFI) (rest : List (List Nat)) (c : VNFController) :
    VNFController :=
  { c with
    cpuManager := c.cpuManager.set v.server.serverID rest
    vioManager := c.vioManager.set v.server.serverID (vioBlock v c).2 }

theorem left_withTaken (hc : c.HasAllocators v.server.serverID)
    (rest : List (List Nat)) :
    Left c (c.withTaken v rest) v rest (vioBlock v c).2
      (c.socketPorts v.server) :=
  ⟨fun _ => Dict.get?_set .., fun _ => Dict.get?_set ..,
    get?_socketPortManager (c := c) hc⟩

theorem outcome_addContainer (hc : c.HasAllocators v.server.serverID)
    (hprepared : docker.prepare v.vnfi = .ok ())
    (hknown : v.vnfi.vnfType ∈ knownTypes) :
    Outcome docker v c ((addContainer docker v).run c) := by
  cases hcpus : CPUAllocator.allocateCPU (cpuNum v.vnfi) (c.cores v.server) with
  | none =>
      have hcpu : (allocateCPU v).run c = .error .typeError c := by
        rw [allocateCPU, PyM.run_bind_get, hcpus]
        rfl
      rw [addContainer, PyM.run_bind_error hcpu]
      refine .early _ fun h => ?_
      have hsome := CPUAllocator.allocateCPU_isSome.mpr h.2.2
      rw [hcpus] at hsome
      cases hsome
  | some taken =>
      obtain ⟨cpus, rest⟩ := taken
      have hcpu : (allocateCPU v).run c = .ok cpus
          { c with cpuManager := c.cpuManager.set v.server.serverID rest } := by
        rw [allocateCPU, PyM.run_bind_get, PyM.run_bind_ofOption hcpus]
        rfl
      have hvio : (allocateVio v).run
          { c with cpuManager := c.cpuManager.set v.server.serverID rest } =
            .ok (vioBlock v c).1 (c.withTaken v rest) := rfl
      rw [addContainer, PyM.run_bind_ok hcpu, PyM.run_bind_ok hvio]
      have hleft := left_withTaken hc rest
      by_cases himage : v.vnfi.vnfType ∈ imageTypes
      · rw [if_pos himage]
        cases hcommand : docker.command v.vnfi with
        | error e =>
            exact .leaked e _ cpus rest hprepared hknown hcpus
              (fun h => by cases hcommand.symm.trans h.2) hleft
        | ok _ =>
            cases hrun : docker.run v.vnfi with
            | error e =>
                refine .revoked e _ cpus rest hprepared himage hcpus hcommand hrun
                  ⟨fun serverID => ?_, fun serverID => ?_, hleft.socketPortManager⟩
                · show ((c.withTaken v rest).cpuManager.set _ (CPUAllocator.freeCPU
                    cpus ((c.withTaken v rest).cores v.server))).get? serverID = _
                  rw [hleft.cores_eq, if_pos rfl, Dict.get?_set, hleft.cpuManager]
                  split <;> rfl
                · show ((c.withTaken v rest).vioManager.set _ (freeSource _ 2
                    ((c.withTaken v rest).vios v.server))).get? serverID = _
                  rw [hleft.vios_eq, if_pos rfl, Dict.get?_set, hleft.vioManager]
                  split <;> rfl
            | ok _ =>
                cases hport : docker.hostPort v.vnfi with
                | error e =>
                    simp only [startContainer, hport]
                    exact .portless e _ cpus rest hprepared himage hcpus hcommand
                      hrun hport ⟨hleft.cpuManager, hleft.vioManager,
                        hleft.socketPortManager⟩
                | ok port =>
                    simp only [startContainer, hport]
                    refine .deployed ⟨c.nextContainerID, cpus, (vioBlock v c).1, port⟩
                      _ rest hprepared himage hcpus hcommand hrun hport rfl
                      ⟨hleft.cpuManager, hleft.vioManager, fun serverID => ?_⟩
                    exact Dict.get?_set ..
      · rw [if_neg himage]
        exact .leaked _ _ cpus rest hprepared hknown hcpus (fun h => himage h.1) hleft

theorem outcome_addVNFI (hc : c.HasAllocators v.server.serverID) :
    Outcome docker v c ((addVNFI docker v).run c) := by
  cases hprepare : docker.prepare v.vnfi with
  | error e =>
      have hrun : (addVNFI docker v).run c = .error e c := by
        rw [addVNFI, hprepare]
        rfl
      rw [hrun]
      exact .early e fun h => by cases hprepare.symm.trans h.1
  | ok _ =>
      have hrun : (addVNFI docker v).run c =
          (if v.vnfi.vnfType ∈ knownTypes then addContainer docker v
            else throw (.valueError "Unknown vnf type")).run c := by
        rw [addVNFI, hprepare]
        rfl
      rw [hrun]
      by_cases hknown : v.vnfi.vnfType ∈ knownTypes
      · rw [if_pos hknown]
        exact outcome_addContainer hc hprepare hknown
      · rw [if_neg hknown]
        exact .early _ fun h => hknown h.2.1

theorem freeOn_of_left {cores : List (List Nat)} {vios ports : List (Int × Int)}
    (h : Left c c' v cores vios ports) (server : Server) (item : Item) :
    c'.FreeOn server item ↔
      if server.serverID = v.server.serverID then FreeIn cores vios ports item
      else c.FreeOn server item := by
  rw [FreeOn, h.cores_eq, h.vios_eq, h.socketPorts_eq]
  split <;> rfl

theorem freeOn_of_serverID (hc : c.HasAllocators v.server.serverID)
    {server : Server} (heq : server.serverID = v.server.serverID) (item : Item) :
    c.FreeOn server item ↔ c.FreeOn v.server item := by
  obtain ⟨hcores, hvios, hports⟩ := cores_eq_of_serverID hc heq
  rw [FreeOn, FreeOn, hcores, hvios, hports]

theorem forall_item {p : Item → Prop} :
    (∀ item, p item) ↔ (∀ socket core, p (.core socket core)) ∧
      (∀ id, p (.virtio id)) ∧ ∀ port, p (.port port) := by
  constructor
  · intro h
    exact ⟨fun _ _ => h _, fun _ => h _, fun _ => h _⟩
  · rintro ⟨hcore, hvirtio, hport⟩ (_ | _ | _)
    · exact hcore _ _
    · exact hvirtio _
    · exact hport _

theorem forall_freeOn_iff_of_left {f : Prop → Prop → Prop} {g : Item → Prop}
    {cores : List (List Nat)} {vios ports : List (Int × Int)}
    (hf : ∀ free, f free False ↔ free) (hc : c.HasAllocators v.server.serverID)
    (h : Left c c' v cores vios ports) :
    (∀ server item, c'.FreeOn server item ↔ f (c.FreeOn server item)
        (server.serverID = v.server.serverID ∧ g item)) ↔
      ∀ item, FreeIn cores vios ports item ↔ f (c.FreeOn v.server item) (g item) := by
  constructor
  · intro hfree item
    have hitem := hfree v.server item
    rw [freeOn_of_left h, if_pos rfl] at hitem
    simpa using hitem
  · intro hitem server item
    rw [freeOn_of_left h]
    split
    next heq => simp [hitem, freeOn_of_serverID hc heq, heq]
    next hne => simp [hne, hf]

theorem sameFree_iff_of_left {cores : List (List Nat)}
    {vios ports : List (Int × Int)} (hc : c.HasAllocators v.server.serverID)
    (h : Left c c' v cores vios ports) :
    SameFree c c' ↔
      ∀ item, FreeIn cores vios ports item ↔ c.FreeOn v.server item :=
  forall_freeOn_iff_of_left (f := fun free _ => free) (g := fun _ => False)
    (fun _ => Iff.rfl) hc h

theorem took_iff_of_left {d : Deployment} {cores : List (List Nat)}
    {vios ports : List (Int × Int)} (hc : c.HasAllocators v.server.serverID)
    (h : Left c c' v cores vios ports) :
    Took c c' v d ↔ ∀ item, (d.Has item → c.FreeOn v.server item) ∧
      (FreeIn cores vios ports item ↔ c.FreeOn v.server item ∧ ¬ d.Has item) := by
  rw [forall_and, Took]
  exact and_congr_right fun _ =>
    forall_freeOn_iff_of_left (f := fun free has => free ∧ ¬ has) (by simp) hc h

/-- The allocators are as allocators of a server are. -/
structure Shape (c : VNFController) : Prop where
  vios : ∀ server, Ascending (c.vios server)
  lower : ∀ server, ∀ e ∈ c.vios server, 0 ≤ e.1
  socketPorts : ∀ server, Ascending (c.socketPorts server)
  cores : ∀ serverID l, c.cpuManager.get? serverID = some l →
    ∀ cores ∈ l, cores.Nodup

section Shape

variable {cpus rest : List (List Nat)}

theorem Shape.nodup (hs : c.Shape) (hc : c.HasAllocators v.server.serverID) :
    ∀ cores ∈ c.cores v.server, cores.Nodup := by
  obtain ⟨l, hl⟩ := hc.cpu
  rw [VNFController.cores, hl]
  exact hs.cores _ l hl

theorem sameFree_revoked_iff (hs : c.Shape)
    (hc : c.HasAllocators v.server.serverID)
    (htaken : CPUAllocator.allocateCPU (cpuNum v.vnfi) (c.cores v.server) =
      some (cpus, rest))
    (hleft : Left c c' v (CPUAllocator.freeCPU cpus rest)
      (freeSource (vioBlock v c).1 2 (vioBlock v c).2)
      (c.socketPorts v.server)) : SameFree c c' ↔ Revocable v c := by
  obtain ⟨-, hlength, hlength'⟩ := CPUAllocator.allocateCPU_spec htaken
  have hcores : ∀ socket core, CPUAllocator.InSocket
      (CPUAllocator.freeCPU cpus rest) socket core ↔
        CPUAllocator.InSocket (c.cores v.server) socket core := by
    intro socket core
    rw [CPUAllocator.inSocket_freeCPU (hlength.trans hlength'.symm),
      CPUAllocator.inSocket_allocateCPU htaken, or_comm]
  have hvio : SameFree c c' ↔ ∀ id, Covers
      (freeSource (vioBlock v c).1 2 (vioBlock v c).2) id ↔
        Covers (c.vios v.server) id := by
    rw [sameFree_iff_of_left hc hleft, forall_item]
    exact ⟨fun h => h.2.1, fun h => ⟨hcores, h, fun _ => Iff.rfl⟩⟩
  rw [hvio, Revocable]
  split
  next hroom =>
    exact covers_freeSource_allocateSource_iff (by decide) (hs.vios v.server) hroom
  next hroom =>
    rw [vioBlock, allocateSource_of_not_hasRoom hroom]
    exact covers_freeSource_none_iff (hs.vios v.server) (hs.lower v.server)

theorem took_deployed_iff {d : Deployment} (hs : c.Shape)
    (hc : c.HasAllocators v.server.serverID)
    (htaken : CPUAllocator.allocateCPU (cpuNum v.vnfi) (c.cores v.server) =
      some (d.cpus, rest)) (hstart : d.vioStart = (vioBlock v c).1)
    (hleft : Left c c' v rest (vioBlock v c).2
      (allocateSpecificSource d.controlSocketPort 1 (c.socketPorts v.server))) :
    Took c c' v d ↔ Deployable v d.controlSocketPort c := by
  rw [took_iff_of_left hc hleft, forall_item, Deployable,
    ← takesOnly_allocateSpecificSource_iff (hs.socketPorts v.server)]
  have hcores : ∀ socket core,
      (d.Has (.core socket core) → c.FreeOn v.server (.core socket core)) ∧
      (CPUAllocator.InSocket rest socket core ↔
        c.FreeOn v.server (.core socket core) ∧ ¬ d.Has (.core socket core)) := by
    intro socket core
    have hsocket := CPUAllocator.inSocket_allocateCPU htaken socket core
    refine ⟨fun hhas => hsocket.mpr (Or.inl hhas), fun hrest => ?_, ?_⟩
    · exact ⟨hsocket.mpr (Or.inr hrest), fun hhas =>
        CPUAllocator.not_inSocket_of_taken htaken (hs.nodup hc) hhas hrest⟩
    · rintro ⟨hfree, hnot⟩
      exact (hsocket.mp hfree).resolve_left hnot
  refine (and_iff_right hcores).trans (and_congr ?_ ?_)
  · constructor
    · intro hvio
      by_contra hroom
      have hstart' : d.vioStart = -1 := by
        rw [hstart, vioBlock, allocateSource_of_not_hasRoom hroom]
      have hfree : Covers (c.vios v.server) (-1) :=
        (hvio (-1)).1 ⟨Int.le_of_eq hstart', by omega⟩
      have hle := hfree.le (hs.lower v.server)
      omega
    · intro hroom id
      obtain ⟨hfree, -, hcovers, -⟩ :=
        allocateSource_spec (by decide) (hs.vios v.server) hroom
      rw [Deployment.Has, hstart]
      exact ⟨fun hid => hfree id hid.1 hid.2, hcovers id⟩
  · constructor
    · intro hport
      exact ⟨(hport _).1 rfl, fun port => (hport port).2⟩
    · rintro ⟨hfree, hports⟩ port
      refine ⟨?_, hports port⟩
      rintro rfl
      exact hfree

end Shape

/-! ### The invariant -/

theorem Shape.of_left {cores : List (List Nat)} {vios ports : List (Int × Int)}
    (hs : c.Shape) (h : Left c c' v cores vios ports)
    (hcores : ∀ l ∈ cores, l.Nodup) (hvios : Ascending vios)
    (hlower : ∀ e ∈ vios, 0 ≤ e.1) (hports : Ascending ports) : c'.Shape := by
  refine ⟨fun server => ?_, fun server => ?_, fun server => ?_,
    fun serverID l hl => ?_⟩
  · rw [h.vios_eq]
    split
    · exact hvios
    · exact hs.vios server
  · rw [h.vios_eq]
    split
    · exact hlower
    · exact hs.lower server
  · rw [h.socketPorts_eq]
    split
    · exact hports
    · exact hs.socketPorts server
  · rw [h.cpuManager] at hl
    split at hl
    · rw [← Option.some.inj hl]
      exact hcores
    · exact hs.cores serverID l hl

theorem Shape.vioBlock (hs : c.Shape) (v : ServerVNFI) :
    Ascending (vioBlock v c).2 ∧ ∀ e ∈ (vioBlock v c).2, 0 ≤ e.1 := by
  by_cases hroom : HasRoom 2 (c.vios v.server)
  · obtain ⟨-, hasc, -, hlower⟩ :=
      allocateSource_spec (by decide) (hs.vios v.server) hroom
    exact ⟨hasc, (hlower 0 (hs.lower v.server)).2⟩
  · rw [VNFController.vioBlock, allocateSource_of_not_hasRoom hroom]
    exact ⟨hs.vios v.server, hs.lower v.server⟩

theorem Revocable.lower (hs : c.Shape) (h : Revocable v c) :
    ∀ e ∈ freeSource (vioBlock v c).1 2 (vioBlock v c).2, 0 ≤ e.1 := by
  rw [Revocable] at h
  split at h
  next hroom =>
    obtain ⟨-, -, -, hlower⟩ :=
      allocateSource_spec (by decide) (hs.vios v.server) hroom
    obtain ⟨hstart, hrest⟩ := hlower 0 (hs.lower v.server)
    exact le_of_mem_freeSource hstart hrest
  next hroom =>
    rw [vioBlock, allocateSource_of_not_hasRoom hroom]
    intro e he
    have hnot : ¬ Placeable (-1) 2 (c.vios v.server) := fun hplaceable =>
      (placeable_neg_one_iff (hs.vios v.server) (hs.lower v.server)).mp
        hplaceable h
    obtain ⟨b, hb, heq⟩ := fst_of_mem_freeSource hnot he
    rw [← heq]
    exact hs.lower v.server b hb

/-- What the deployed VNFIs have is not free, and each has its own. -/
structure Held (c : VNFController) (deployed : List (ServerVNFI × Deployment)) :
    Prop where
  allocators : ∀ entry ∈ deployed, c.HasAllocators entry.1.server.serverID
  sockets : ∀ entry ∈ deployed,
    entry.2.cpus.length = (c.cores entry.1.server).length
  nodup : ∀ entry ∈ deployed, ∀ cores ∈ entry.2.cpus, cores.Nodup
  lower : ∀ entry ∈ deployed, 0 ≤ entry.2.vioStart
  held : ∀ entry ∈ deployed, ∀ item, entry.2.Has item →
    ¬ c.FreeOn entry.1.server item
  apart : deployed.Pairwise fun a b => a.1.server.serverID = b.1.server.serverID →
    ∀ item, a.2.Has item → ¬ b.2.Has item

theorem length_cores_of_left {cores : List (List Nat)}
    {vios ports : List (Int × Int)} (hc : c.HasAllocators v.server.serverID)
    (h : Left c c' v cores vios ports)
    (hlength : cores.length = (c.cores v.server).length) (server : Server) :
    (c'.cores server).length = (c.cores server).length := by
  rw [h.cores_eq]
  split
  next heq => rw [hlength, (cores_eq_of_serverID hc heq).1]
  next => rfl

theorem Held.of_left {deployed : List (ServerVNFI × Deployment)}
    {cores : List (List Nat)} {vios ports : List (Int × Int)}
    (hheld : c.Held deployed) (hc : c.HasAllocators v.server.serverID)
    (h : Left c c' v cores vios ports)
    (hlength : cores.length = (c.cores v.server).length)
    (hfree : ∀ server item, c'.FreeOn server item → c.FreeOn server item) :
    c'.Held deployed := by
  refine ⟨fun entry hentry => h.hasAllocators (hheld.allocators entry hentry),
    fun entry hentry => ?_, hheld.nodup, hheld.lower,
    fun entry hentry item hitem hitemFree =>
      hheld.held entry hentry item hitem (hfree _ _ hitemFree), hheld.apart⟩
  rw [length_cores_of_left hc h hlength]
  exact hheld.sockets entry hentry

theorem Held.add {deployed : List (ServerVNFI × Deployment)} {d : Deployment}
    {rest : List (List Nat)} {vios ports : List (Int × Int)}
    (hheld : c.Held deployed) (hs : c.Shape)
    (hc : c.HasAllocators v.server.serverID) (h : Left c c' v rest vios ports)
    (htaken : CPUAllocator.allocateCPU (cpuNum v.vnfi) (c.cores v.server) =
      some (d.cpus, rest)) (hstart : 0 ≤ d.vioStart) (htook : Took c c' v d) :
    c'.Held (deployed ++ [(v, d)]) := by
  obtain ⟨-, hlength, hlength'⟩ := CPUAllocator.allocateCPU_spec htaken
  have hkeep : c'.Held deployed := hheld.of_left hc h hlength' fun server item hitem =>
    ((htook.2 server item).mp hitem).1
  refine ⟨?_, ?_, ?_, ?_, ?_, ?_⟩
  · simp only [List.forall_mem_append, List.forall_mem_singleton]
    exact ⟨hkeep.allocators, h.hasAllocators hc⟩
  · simp only [List.forall_mem_append, List.forall_mem_singleton]
    refine ⟨hkeep.sockets, ?_⟩
    rw [h.cores_eq, if_pos rfl]
    exact hlength.trans hlength'.symm
  · simp only [List.forall_mem_append, List.forall_mem_singleton]
    exact ⟨hkeep.nodup,
      (CPUAllocator.nodup_of_allocateCPU htaken (hs.nodup hc)).1⟩
  · simp only [List.forall_mem_append, List.forall_mem_singleton]
    exact ⟨hkeep.lower, hstart⟩
  · simp only [List.forall_mem_append, List.forall_mem_singleton]
    refine ⟨hkeep.held, fun item hitem hfree => ?_⟩
    exact ((htook.2 v.server item).mp hfree).2 ⟨rfl, hitem⟩
  · refine List.pairwise_append.mpr ⟨hkeep.apart, List.pairwise_singleton ..,
      fun entry hentry new hnew hserver item hitem hitem' => ?_⟩
    obtain rfl := List.mem_singleton.mp hnew
    refine hheld.held entry hentry item hitem ?_
    exact (freeOn_of_serverID hc hserver item).mpr (htook.1 item hitem')

/-- The invariant of the runs. -/
def Settled (s : Hosted) : Prop :=
  s.controller.Shape ∧ s.controller.Held s.deployed

theorem settled_of_outcome {deployed : List (ServerVNFI × Deployment)}
    {r : EStateM.Result PyError VNFController Deployment} (hs : c.Shape)
    (hheld : c.Held deployed) (hc : c.HasAllocators v.server.serverID)
    (houtcome : Outcome docker v c r) (haccounted : AddAccounted v c r) :
    Settled (recordAdded deployed v r) := by
  have hports := hs.socketPorts v.server
  have hleaked : ∀ {c' cpus rest}, CPUAllocator.allocateCPU (cpuNum v.vnfi)
      (c.cores v.server) = some (cpus, rest) →
      Left c c' v rest (vioBlock v c).2 (c.socketPorts v.server) →
      SameFree c c' → c'.Shape ∧ c'.Held deployed := by
    intro c' cpus rest htaken hleft hsame
    obtain ⟨hasc, hlower⟩ := hs.vioBlock v
    obtain ⟨-, -, hlength⟩ := CPUAllocator.allocateCPU_spec htaken
    have hnodup := (CPUAllocator.nodup_of_allocateCPU htaken (hs.nodup hc)).2
    exact ⟨hs.of_left hleft hnodup hasc hlower hports,
      hheld.of_left hc hleft hlength fun server item => (hsame server item).mp⟩
  cases houtcome with
  | early e h => exact ⟨hs, hheld⟩
  | leaked e c' cpus rest _ _ htaken _ hleft =>
      exact hleaked htaken hleft haccounted
  | portless e c' cpus rest _ _ htaken _ _ _ hleft =>
      exact hleaked htaken hleft haccounted
  | revoked e c' cpus rest _ _ htaken _ _ hleft =>
      obtain ⟨-, hlength, hlength'⟩ := CPUAllocator.allocateCPU_spec htaken
      obtain ⟨hnodup, hnodup'⟩ :=
        CPUAllocator.nodup_of_allocateCPU htaken (hs.nodup hc)
      have hrevocable := (sameFree_revoked_iff hs hc htaken hleft).mp haccounted
      refine ⟨hs.of_left hleft ?_ (freeSource_spec (by decide) (hs.vioBlock v).1).1
        (hrevocable.lower hs) hports, hheld.of_left hc hleft ?_
          fun server item => (haccounted server item).mp⟩
      · exact CPUAllocator.nodup_freeCPU (hlength.trans hlength'.symm) hnodup' hnodup
          fun _ _ => CPUAllocator.not_inSocket_of_taken htaken (hs.nodup hc)
      · rw [CPUAllocator.length_freeCPU, hlength']
  | deployed d c' rest _ _ htaken _ _ _ hstart hleft =>
      obtain ⟨hasc, hlower⟩ := hs.vioBlock v
      have hnodup := (CPUAllocator.nodup_of_allocateCPU htaken (hs.nodup hc)).2
      obtain ⟨hroom, -⟩ :=
        (took_deployed_iff hs hc htaken hstart hleft).mp haccounted
      obtain ⟨-, -, -, hbound⟩ :=
        allocateSource_spec (by decide) (hs.vios v.server) hroom
      refine ⟨hs.of_left hleft hnodup hasc hlower
        (allocateSpecificSource_spec hports).1,
        hheld.add hs hc hleft htaken ?_ haccounted⟩
      rw [hstart]
      exact (hbound 0 (hs.lower v.server)).1

end Add

/-! ## What deleting a VNFI does -/

section Delete

variable {docker : Docker} {v : ServerVNFI} {d : Deployment} {c : VNFController}
  {deployed : List (ServerVNFI × Deployment)}

theorem left_deleteDeployed (hc : c.HasAllocators v.server.serverID) :
    Left c (deleteDeployed docker (v, d) c) v
      (CPUAllocator.freeCPU d.cpus (c.cores v.server))
      (freeSource d.vioStart 2 (c.vios v.server))
      (freeSource d.controlSocketPort 1 (c.socketPorts v.server)) := by
  have hcontains : c.vioManager.contains v.server.serverID ∧
      c.cpuManager.contains v.server.serverID ∧
      c.socketPortManager.contains v.server.serverID := by
    obtain ⟨⟨lc, hlc⟩, ⟨lv, hlv⟩, ⟨lp, hlp⟩⟩ := hc
    simp [Dict.contains, hlc, hlv, hlp]
  have hrun : (killVNFI docker ⟨v, .deployed, some d, none⟩).run c =
      .ok () (deleteContainer docker v d c) := by
    rw [killVNFI, PyM.run_bind_get, if_pos hcontains]
    rfl
  rw [deleteDeployed, PyM.finalState_of_ok hrun]
  exact ⟨fun _ => Dict.get?_set .., fun _ => Dict.get?_set ..,
    fun _ => Dict.get?_set ..⟩

theorem Shape.delete (hs : c.Shape) (hheld : c.Held deployed)
    (hentry : (v, d) ∈ deployed) : (deleteDeployed docker (v, d) c).Shape := by
  have hc := hheld.allocators _ hentry
  refine hs.of_left (left_deleteDeployed hc) ?_
    (freeSource_spec (by decide) (hs.vios v.server)).1
    (le_of_mem_freeSource (hheld.lower _ hentry) (hs.lower v.server))
    (freeSource_spec (by decide) (hs.socketPorts v.server)).1
  exact CPUAllocator.nodup_freeCPU (hheld.sockets _ hentry) (hs.nodup hc)
    (hheld.nodup _ hentry) fun socket core => hheld.held _ hentry (.core socket core)

theorem Held.delete (hheld : c.Held deployed) (hentry : (v, d) ∈ deployed)
    (hgave : GaveBack c (deleteDeployed docker (v, d) c) v d) :
    (deleteDeployed docker (v, d) c).Held (deployed.erase (v, d)) := by
  have hc := hheld.allocators _ hentry
  have hleft := @left_deleteDeployed docker v d c hc
  have hperm := List.perm_cons_erase hentry
  have hapart := (hperm.pairwise_iff fun {a b} hab heq item hb ha =>
    hab heq.symm item ha hb).mp hheld.apart
  obtain ⟨hothers, hrest⟩ := List.pairwise_cons.mp hapart
  refine ⟨fun entry hmem => hleft.hasAllocators
      (hheld.allocators entry (List.mem_of_mem_erase hmem)), fun entry hmem => ?_,
    fun entry hmem => hheld.nodup entry (List.mem_of_mem_erase hmem),
    fun entry hmem => hheld.lower entry (List.mem_of_mem_erase hmem),
    fun entry hmem item hitem hfree => ?_, hrest⟩
  · rw [length_cores_of_left hc hleft (CPUAllocator.length_freeCPU _ _)]
    exact hheld.sockets entry (List.mem_of_mem_erase hmem)
  · obtain hfree | ⟨hserver, hhas⟩ := (hgave.2 _ item).mp hfree
    · exact hheld.held entry (List.mem_of_mem_erase hmem) item hitem hfree
    · exact hothers entry hmem hserver.symm item hhas hitem

end Delete

/-! ## Every run -/

theorem hasAllocators_withAllocators (server : Server) (c : VNFController) :
    (c.withAllocators server).HasAllocators server.serverID :=
  ⟨⟨_, Dict.get?_set_self ..⟩, ⟨_, Dict.get?_set_self ..⟩,
    ⟨_, Dict.get?_set_self ..⟩⟩

section Run

variable {server : Server} {c : VNFController}
  {deployed : List (ServerVNFI × Deployment)}

theorem vios_withAllocators (server' : Server) :
    (c.withAllocators server).vios server' = c.vios server' := by
  rw [vios, withAllocators, Dict.get?_set]
  split
  next heq => rw [vios, vios, heq, Option.getD_some]
  next => rfl

theorem socketPorts_withAllocators (server' : Server) :
    (c.withAllocators server).socketPorts server' = c.socketPorts server' := by
  rw [socketPorts, withAllocators, Dict.get?_set]
  split
  next heq => rw [socketPorts, socketPorts, heq, Option.getD_some]
  next => rfl

theorem cores_withAllocators {server' : Server}
    (h : server'.serverID = server.serverID → c.cores server' = c.cores server) :
    (c.withAllocators server).cores server' = c.cores server' := by
  rw [cores, withAllocators, Dict.get?_set]
  split
  next heq => rw [h heq, Option.getD_some]
  next => rfl

theorem Shape.withAllocators (hs : c.Shape)
    (hnodup : server.coreNUMADistribution.flatten.Nodup) :
    (c.withAllocators server).Shape := by
  refine ⟨fun server' => ?_, fun server' => ?_, fun server' => ?_,
    fun serverID l hl => ?_⟩
  · rw [vios_withAllocators]
    exact hs.vios server'
  · rw [vios_withAllocators]
    exact hs.lower server'
  · rw [socketPorts_withAllocators]
    exact hs.socketPorts server'
  · rw [VNFController.withAllocators, Dict.get?_set] at hl
    split at hl
    · obtain rfl := Option.some.inj hl
      rw [VNFController.cores]
      cases hget : c.cpuManager.get? server.serverID with
      | some l => exact hs.cores _ l hget
      | none =>
          have hflat := hnodup.sublist (CPUAllocator.flatten_rmNotAvaiCPU_sublist
            server.coreNUMADistribution VcConfig.NOT_AVAI_CPU)
          exact (List.nodup_flatten.mp hflat).1
    · exact hs.cores serverID l hl

theorem Held.withAllocators (hheld : c.Held deployed) :
    (c.withAllocators server).Held deployed := by
  have hsame : ∀ entry ∈ deployed, entry.1.server.serverID = server.serverID →
      c.cores entry.1.server = c.cores server := fun entry hentry heq =>
    (cores_eq_of_serverID (hheld.allocators entry hentry) heq.symm).1.symm
  refine ⟨fun entry hentry => ?_, fun entry hentry => ?_, hheld.nodup, hheld.lower,
    fun entry hentry item hitem hfree => ?_, hheld.apart⟩
  · obtain ⟨hcpu, hvio, hport⟩ := hheld.allocators entry hentry
    refine ⟨?_, ?_, ?_⟩ <;>
      rw [VNFController.withAllocators, Dict.get?_set] <;> split
    · exact ⟨_, rfl⟩
    · exact hcpu
    · exact ⟨_, rfl⟩
    · exact hvio
    · exact ⟨_, rfl⟩
    · exact hport
  · rw [cores_withAllocators (hsame entry hentry)]
    exact hheld.sockets entry hentry
  · rw [FreeOn, cores_withAllocators (hsame entry hentry), vios_withAllocators,
      socketPorts_withAllocators] at hfree
    exact hheld.held entry hentry item hitem hfree

end Run

theorem Settled.step {s : Hosted} {e : VNFIEvent} (h : Settled s)
    (hadmits : hosting.admits s e) (haccounted : Accounted s e) :
    Settled (hosting.step s e) := by
  obtain ⟨hshape, hheld⟩ := h
  cases e with
  | add docker v =>
      have hc := hasAllocators_withAllocators v.server s.controller
      exact settled_of_outcome (hshape.withAllocators hadmits)
        hheld.withAllocators hc (outcome_addVNFI hc) haccounted
  | delete docker entry =>
      exact ⟨hshape.delete hheld hadmits, hheld.delete hadmits haccounted⟩

end VNFController

end SelfAdaptiveMano

import SelfAdaptiveMano.VnfController.Creation

/-!
# SFCIs that share a VNFI

The container of a VNFI and what it takes of its server are `Resource`s. The
record of a VNFI owns some, and what an allocator has is free; no resource has
two owners, and none that is owned is free (`Sound`).

Deploying a VNFI and deleting it keep this, where the allocators have what is
taken and can take back what is returned.
-/

namespace SelfAdaptiveMano

open Library Library.Intervals SourceAllocator

/-- What a VNFI takes. -/
inductive Resource where
  | cpu (serverID core : Nat)
  | virtio (serverID : Nat) (id : Int)
  | port (serverID : Nat) (port : Int)
  | container (containerID : Nat)

def VNFIDeployStatus.Owns (status : VNFIDeployStatus) : Resource → Prop
  | .cpu serverID core => serverID = status.vnfi.server.serverID ∧
      ∃ d ∈ status.deployment, core ∈ d.cpus.flatten
  | .virtio serverID id => serverID = status.vnfi.server.serverID ∧
      ∃ d ∈ status.deployment, d.vioStart ≤ id ∧ id < d.vioStart + 2
  | .port serverID port => serverID = status.vnfi.server.serverID ∧
      ∃ d ∈ status.deployment, port = d.controlSocketPort
  | .container containerID =>
      ∃ d ∈ status.deployment, containerID = d.containerID

namespace VNFController

variable {docker : Docker} {sfciID : Nat} {c : VNFController}

/-- An allocator has the resource; a container is free when it does not run. -/
def Free (c : VNFController) : Resource → Prop
  | .cpu serverID core =>
      ∃ l ∈ c.cpuManager.get? serverID, core ∈ l.flatten
  | .virtio serverID id => ∃ l ∈ c.vioManager.get? serverID, Covers l id
  | .port serverID port =>
      ∃ l ∈ c.socketPortManager.get? serverID, Covers l port
  | .container containerID =>
      ∀ container ∈ c.running, container.containerID ≠ containerID

structure HasAllocators (c : VNFController) (serverID : Nat) : Prop where
  cpu : ∃ l, c.cpuManager.get? serverID = some l
  vio : ∃ l, c.vioManager.get? serverID = some l
  socketPort : ∃ l, c.socketPortManager.get? serverID = some l

structure WellDeployed (c : VNFController) (v : ServerVNFI) (d : Deployment) :
    Prop where
  allocators : c.HasAllocators v.server.serverID
  nodup : d.cpus.flatten.Nodup
  length : ∀ l ∈ c.cpuManager.get? v.server.serverID, d.cpus.length = l.length
  running : ⟨d.containerID, v.server.serverID, some d.controlSocketPort⟩ ∈
    c.running

/-- Each record is that of a deployed VNFI of its SFCI, and the resources of the
records are neither free nor shared between them. -/
structure Sound (c : VNFController) : Prop where
  registered : ∀ sfciID, c.hasSFCI sfciID = (c.sfciDict.get? sfciID).isSome
  used : ∀ sfciID vnfiID status,
    c.getVNFIDeployStatus sfciID vnfiID = some status →
      status.vnfi.vnfi.vnfiID = vnfiID ∧
      ∃ sfci ∈ c.sfciDict.get? sfciID, ∃ v ∈ sfci.serverVNFIs,
        v.vnfi.vnfiID = vnfiID
  deployed : ∀ sfciID vnfiID status,
    c.getVNFIDeployStatus sfciID vnfiID = some status →
      status.error = none ∧
      ∃ d, status.deployment = some d ∧ c.WellDeployed status.vnfi d
  held : ∀ sfciID vnfiID status,
    c.getVNFIDeployStatus sfciID vnfiID = some status →
      ∀ r, status.Owns r → ¬ c.Free r
  apart : ∀ sfciID vnfiID status sfciID' vnfiID' status',
    c.getVNFIDeployStatus sfciID vnfiID = some status →
    c.getVNFIDeployStatus sfciID' vnfiID' = some status' →
      ∀ r, status.Owns r → status'.Owns r → sfciID' = sfciID ∧ vnfiID' = vnfiID
  unique : ∀ sfciID vnfiID status sfciID' status',
    c.getVNFIDeployStatus sfciID vnfiID = some status →
    c.getVNFIDeployStatus sfciID' vnfiID = some status' → sfciID' = sfciID
  cores : ∀ serverID, ∀ l ∈ c.cpuManager.get? serverID, l.flatten.Nodup
  vios : ∀ serverID, ∀ l ∈ c.vioManager.get? serverID, Ascending l
  socketPorts : ∀ serverID, ∀ l ∈ c.socketPortManager.get? serverID, Ascending l
  containers : ∀ container ∈ c.running,
    container.containerID < c.nextContainerID

/-! ## Adding a VNFI -/

/-- A container can be made for the VNFI, there are virtio ids for it, and its
port is not on the border of two free intervals. -/
structure Providable (docker : Docker) (v : ServerVNFI) (c : VNFController) :
    Prop where
  creatable : Creatable docker v c
  room : HasRoom 2 (c.vios v.server)
  clear : ∀ port, docker.hostPort v.vnfi = .ok port →
    Clear port (c.socketPorts v.server)

theorem ascending_vios (hc : c.Sound) (server : Server) :
    Ascending (c.vios server) := by
  rw [VNFController.vios]
  cases h : c.vioManager.get? server.serverID with
  | some l => exact hc.vios _ l h
  | none =>
      exact ascending_cons.mpr ⟨by decide, by simp, ascending_nil⟩

theorem ascending_socketPorts (hc : c.Sound) (server : Server) :
    Ascending (c.socketPorts server) := by
  rw [VNFController.socketPorts]
  cases h : c.socketPortManager.get? server.serverID with
  | some l => exact hc.socketPorts _ l h
  | none =>
      exact ascending_cons.mpr ⟨by decide, by simp, ascending_nil⟩

theorem nodup_cores (hc : c.Sound) {server : Server}
    (hnodup : server.coreNUMADistribution.flatten.Nodup) :
    (c.cores server).flatten.Nodup := by
  rw [VNFController.cores]
  cases h : c.cpuManager.get? server.serverID with
  | some l => exact hc.cores _ l h
  | none =>
      exact hnodup.sublist (CPUAllocator.flatten_rmNotAvaiCPU_sublist ..)

section Deploy

variable {v : ServerVNFI} {d : Deployment} {rest : List (List Nat)}

def newStatus (v : ServerVNFI) (d : Deployment) : VNFIDeployStatus :=
  ⟨v, .deployed, some d, none⟩

def Unknown (c : VNFController) : Resource → Prop
  | .cpu serverID _ => c.cpuManager.get? serverID = none
  | .virtio serverID _ => c.vioManager.get? serverID = none
  | .port serverID _ => c.socketPortManager.get? serverID = none
  | .container _ => False

theorem get?_cpuManager_deploy (serverID : Nat) :
    (c.deploy sfciID v d rest).cpuManager.get? serverID =
      if serverID = v.server.serverID then some rest
      else c.cpuManager.get? serverID := Dict.get?_set ..

theorem get?_vioManager_deploy (serverID : Nat) :
    (c.deploy sfciID v d rest).vioManager.get? serverID =
      if serverID = v.server.serverID then
        some (allocateSource 2 (c.vios v.server)).2
      else c.vioManager.get? serverID := Dict.get?_set ..

theorem get?_socketPortManager_deploy (serverID : Nat) :
    (c.deploy sfciID v d rest).socketPortManager.get? serverID =
      if serverID = v.server.serverID then
        some (allocateSpecificSource d.controlSocketPort 1
          (c.socketPorts v.server))
      else c.socketPortManager.get? serverID := Dict.get?_set ..

/-- What is free after a VNFI was deployed was free before, or its allocator is
new, and the VNFI does not own it. -/
theorem free_deploy (hc : c.Sound)
    (hnodup : v.server.coreNUMADistribution.flatten.Nodup)
    (hprovidable : Providable docker v c) (htaken : Taken docker v c d rest)
    {r : Resource} (h : (c.deploy sfciID v d rest).Free r) :
    (c.Free r ∨ c.Unknown r) ∧ ¬ (newStatus v d).Owns r := by
  cases r with
  | cpu serverID core =>
      obtain ⟨l, hl, hmem⟩ := h
      rw [Option.mem_def, get?_cpuManager_deploy] at hl
      split_ifs at hl with hserver
      · obtain rfl := Option.some.inj hl
        subst hserver
        obtain ⟨hperm, -⟩ := CPUAllocator.allocateCPU_spec htaken.cpus
        have hcores := nodup_cores hc hnodup
        rw [← hperm.nodup_iff, List.nodup_append] at hcores
        have hcore := hperm.mem_iff.mp (List.mem_append_right _ hmem)
        constructor
        · rw [VNFController.cores] at hcore
          cases hold : c.cpuManager.get? v.server.serverID with
          | none => exact .inr hold
          | some l =>
              rw [hold] at hcore
              exact .inl ⟨l, hold, hcore⟩
        · rintro ⟨-, d', hd', hown⟩
          obtain rfl := Option.some.inj hd'
          exact hcores.2.2 core hown core hmem rfl
      · refine ⟨.inl ⟨l, hl, hmem⟩, ?_⟩
        rintro ⟨rfl, -⟩
        exact hserver rfl
  | virtio serverID id =>
      obtain ⟨l, hl, hmem⟩ := h
      rw [Option.mem_def, get?_vioManager_deploy] at hl
      split_ifs at hl with hserver
      · obtain rfl := Option.some.inj hl
        subst hserver
        obtain ⟨-, -, hcovers, -⟩ := allocateSource_spec (by decide)
          (ascending_vios hc v.server) hprovidable.room
        obtain ⟨hold, hnot⟩ := (hcovers id).mp hmem
        constructor
        · rw [VNFController.vios] at hold
          cases hget : c.vioManager.get? v.server.serverID with
          | none => exact .inr hget
          | some l =>
              rw [hget] at hold
              exact .inl ⟨l, hget, hold⟩
        · rintro ⟨-, d', hd', hown⟩
          obtain rfl := Option.some.inj hd'
          rw [htaken.vioStart] at hown
          exact hnot hown
      · refine ⟨.inl ⟨l, hl, hmem⟩, ?_⟩
        rintro ⟨rfl, -⟩
        exact hserver rfl
  | port serverID port =>
      obtain ⟨l, hl, hmem⟩ := h
      rw [Option.mem_def, get?_socketPortManager_deploy] at hl
      split_ifs at hl with hserver
      · obtain rfl := Option.some.inj hl
        subst hserver
        obtain ⟨-, hcovers, hgone⟩ := @allocateSpecificSource_spec
          d.controlSocketPort _ (ascending_socketPorts hc v.server)
        have hold := hcovers port hmem
        constructor
        · rw [VNFController.socketPorts] at hold
          cases hget : c.socketPortManager.get? v.server.serverID with
          | none => exact .inr hget
          | some l =>
              rw [hget] at hold
              exact .inl ⟨l, hget, hold⟩
        · rintro ⟨-, d', hd', rfl⟩
          obtain rfl := Option.some.inj hd'
          exact hgone (hprovidable.clear _ htaken.port) hmem
      · refine ⟨.inl ⟨l, hl, hmem⟩, ?_⟩
        rintro ⟨rfl, -⟩
        exact hserver rfl
  | container containerID =>
      have hrunning : (c.deploy sfciID v d rest).running = c.running ++
        [⟨d.containerID, v.server.serverID, some d.controlSocketPort⟩] := rfl
      constructor
      · exact .inl fun container hmem =>
          h container (hrunning ▸ List.mem_append_left _ hmem)
      · rintro ⟨d', hd', rfl⟩
        obtain rfl := Option.some.inj hd'
        exact h _ (hrunning ▸ List.mem_append_right _ List.mem_cons_self) rfl

theorem owns_new (hc : c.Sound)
    (hprovidable : Providable docker v c) (htaken : Taken docker v c d rest)
    {r : Resource} (h : (newStatus v d).Owns r)
    (hport : ∀ serverID port, r ≠ .port serverID port) :
    c.Free r ∨ c.Unknown r := by
  cases r with
  | cpu serverID core =>
      obtain ⟨rfl, d', hd', hcore⟩ := h
      obtain rfl := Option.some.inj hd'
      obtain ⟨hperm, -⟩ := CPUAllocator.allocateCPU_spec htaken.cpus
      have hmem := hperm.mem_iff.mp (List.mem_append_left _ hcore)
      rw [VNFController.cores] at hmem
      cases hget : c.cpuManager.get? v.server.serverID with
      | none => exact .inr hget
      | some l =>
          rw [hget] at hmem
          exact .inl ⟨l, hget, hmem⟩
  | virtio serverID id =>
      obtain ⟨rfl, d', hd', hid⟩ := h
      obtain rfl := Option.some.inj hd'
      obtain ⟨hfree, -⟩ := allocateSource_spec (by decide)
        (ascending_vios hc v.server) hprovidable.room
      rw [htaken.vioStart] at hid
      have hcovers := hfree id hid.1 hid.2
      rw [VNFController.vios] at hcovers
      cases hget : c.vioManager.get? v.server.serverID with
      | none => exact .inr hget
      | some l =>
          rw [hget] at hcovers
          exact .inl ⟨l, hget, hcovers⟩
  | port serverID port => exact absurd rfl (hport serverID port)
  | container containerID =>
      obtain ⟨d', hd', rfl⟩ := h
      obtain rfl := Option.some.inj hd'
      refine .inl fun container hmem heq => ?_
      have := hc.containers container hmem
      rw [heq, htaken.containerID] at this
      exact Nat.lt_irrefl _ this

theorem not_unknown_of_owns (hc : c.Sound) {vnfiID : UUID}
    {status : VNFIDeployStatus}
    (hstatus : c.getVNFIDeployStatus sfciID vnfiID = some status) {r : Resource}
    (h : status.Owns r) : ¬ c.Unknown r := by
  obtain ⟨-, d, hd, hwell⟩ := hc.deployed sfciID vnfiID status hstatus
  obtain ⟨⟨lc, hlc⟩, ⟨lv, hlv⟩, ⟨lp, hlp⟩⟩ := hwell.allocators
  cases r with
  | cpu serverID core =>
      obtain ⟨rfl, -⟩ := h
      simp [Unknown, hlc]
  | virtio serverID id =>
      obtain ⟨rfl, -⟩ := h
      simp [Unknown, hlv]
  | port serverID port =>
      obtain ⟨rfl, -⟩ := h
      simp [Unknown, hlp]
  | container containerID => exact not_false

theorem not_owns_both (hc : c.Sound) (hprovidable : Providable docker v c)
    (htaken : Taken docker v c d rest)
    (hport : ∀ container ∈ c.running,
      container.serverID = v.server.serverID →
        container.hostPort ≠ some d.controlSocketPort)
    {vnfiID : UUID} {status : VNFIDeployStatus}
    (hstatus : c.getVNFIDeployStatus sfciID vnfiID = some status) {r : Resource}
    (h : status.Owns r) : ¬ (newStatus v d).Owns r := by
  intro hnew
  by_cases hr : ∀ serverID port, r ≠ .port serverID port
  · obtain hfree | hunknown := owns_new hc hprovidable htaken hnew hr
    · exact hc.held sfciID vnfiID status hstatus r h hfree
    · exact not_unknown_of_owns hc hstatus h hunknown
  · push Not at hr
    obtain ⟨serverID, port, rfl⟩ := hr
    obtain ⟨hserver, d', hd', heq⟩ := h
    obtain ⟨hserver', d'', hd'', heq'⟩ := hnew
    obtain rfl := Option.some.inj hd''
    obtain ⟨-, d₁, hd₁, hwell⟩ := hc.deployed sfciID vnfiID status hstatus
    rw [Option.mem_def, hd₁] at hd'
    obtain rfl := Option.some.inj hd'
    refine hport _ hwell.running (hserver.symm.trans hserver') ?_
    dsimp only
    congr 1
    omega

theorem hasAllocators_deploy {serverID : Nat}
    (h : c.HasAllocators serverID ∨ serverID = v.server.serverID) :
    (c.deploy sfciID v d rest).HasAllocators serverID := by
  constructor
  · rw [get?_cpuManager_deploy]
    split_ifs with hserver
    · exact ⟨_, rfl⟩
    · exact (h.resolve_right hserver).cpu
  · rw [get?_vioManager_deploy]
    split_ifs with hserver
    · exact ⟨_, rfl⟩
    · exact (h.resolve_right hserver).vio
  · rw [get?_socketPortManager_deploy]
    split_ifs with hserver
    · exact ⟨_, rfl⟩
    · exact (h.resolve_right hserver).socketPort

theorem wellDeployed_deploy (htaken : Taken docker v c d rest)
    {w : ServerVNFI} {d' : Deployment} (h : c.WellDeployed w d') :
    (c.deploy sfciID v d rest).WellDeployed w d' := by
  obtain ⟨hallocators, hnodup, hlength, hrunning⟩ := h
  refine ⟨hasAllocators_deploy (.inl hallocators), hnodup, fun l hl => ?_,
    List.mem_append_left _ hrunning⟩
  rw [Option.mem_def, get?_cpuManager_deploy] at hl
  split_ifs at hl with hserver
  · obtain rfl := Option.some.inj hl
    obtain ⟨-, -, hlen⟩ := CPUAllocator.allocateCPU_spec htaken.cpus
    obtain ⟨l, hl⟩ := hallocators.cpu
    rw [hlength l hl, hlen, VNFController.cores, ← hserver, hl]
    rfl
  · exact hlength l hl

theorem status_deploy (hregistered : c.hasSFCI sfciID = true)
    (hnew : c.hasVNFI v.vnfi.vnfiID = false) {k : Nat} {id : UUID}
    {status : VNFIDeployStatus}
    (hstatus :
      (c.deploy sfciID v d rest).getVNFIDeployStatus k id = some status) :
    (k = sfciID ∧ id = v.vnfi.vnfiID ∧ status = newStatus v d) ∨
      (id ≠ v.vnfi.vnfiID ∧ c.getVNFIDeployStatus k id = some status) := by
  rw [getStatus_deploy hregistered] at hstatus
  split_ifs at hstatus with hk
  · exact .inl ⟨hk.1, hk.2, (Option.some.inj hstatus).symm⟩
  · refine .inr ⟨?_, hstatus⟩
    rintro rfl
    rw [hasVNFI_iff.mpr ⟨k, status, hstatus⟩] at hnew
    cases hnew

theorem nodup_taken (hc : c.Sound)
    (hnodup : v.server.coreNUMADistribution.flatten.Nodup)
    (htaken : Taken docker v c d rest) :
    d.cpus.flatten.Nodup ∧ rest.flatten.Nodup := by
  have hcores := nodup_cores hc hnodup
  rw [← (CPUAllocator.allocateCPU_spec htaken.cpus).1.nodup_iff,
    List.nodup_append] at hcores
  exact ⟨hcores.1, hcores.2.1⟩

theorem wellDeployed_new (hc : c.Sound)
    (hnodup : v.server.coreNUMADistribution.flatten.Nodup)
    (htaken : Taken docker v c d rest) :
    (c.deploy sfciID v d rest).WellDeployed v d := by
  obtain ⟨-, hlength, hlength'⟩ := CPUAllocator.allocateCPU_spec htaken.cpus
  refine ⟨hasAllocators_deploy (.inr rfl), (nodup_taken hc hnodup htaken).1, ?_,
    List.mem_append_right _ List.mem_cons_self⟩
  intro l hl
  obtain rfl : rest = l := by simpa [get?_cpuManager_deploy] using hl
  exact hlength.trans hlength'.symm

theorem held_deploy (hc : c.Sound) (hregistered : c.hasSFCI sfciID = true)
    (hnew : c.hasVNFI v.vnfi.vnfiID = false)
    (hnodup : v.server.coreNUMADistribution.flatten.Nodup)
    (hprovidable : Providable docker v c) (htaken : Taken docker v c d rest)
    {k : Nat} {id : UUID} {status : VNFIDeployStatus}
    (hstatus :
      (c.deploy sfciID v d rest).getVNFIDeployStatus k id = some status)
    {r : Resource} (howns : status.Owns r) :
    ¬ (c.deploy sfciID v d rest).Free r := by
  intro hfree
  obtain ⟨hbefore, hnot⟩ := free_deploy hc hnodup hprovidable htaken hfree
  obtain ⟨rfl, rfl, rfl⟩ | ⟨-, hold⟩ := status_deploy hregistered hnew hstatus
  · exact hnot howns
  · obtain hbefore | hunknown := hbefore
    · exact hc.held k id status hold r howns hbefore
    · exact not_unknown_of_owns hc hold howns hunknown

theorem apart_deploy (hc : c.Sound) (hregistered : c.hasSFCI sfciID = true)
    (hnew : c.hasVNFI v.vnfi.vnfiID = false)
    (hprovidable : Providable docker v c) (htaken : Taken docker v c d rest)
    (hport : ∀ container ∈ c.running,
      container.serverID = v.server.serverID →
        container.hostPort ≠ some d.controlSocketPort)
    {k k' : Nat} {id id' : UUID} {status status' : VNFIDeployStatus}
    (hstatus :
      (c.deploy sfciID v d rest).getVNFIDeployStatus k id = some status)
    (hstatus' :
      (c.deploy sfciID v d rest).getVNFIDeployStatus k' id' = some status')
    {r : Resource} (howns : status.Owns r) (howns' : status'.Owns r) :
    k' = k ∧ id' = id := by
  obtain ⟨rfl, rfl, rfl⟩ | ⟨-, hold⟩ := status_deploy hregistered hnew hstatus
  · obtain ⟨rfl, rfl, rfl⟩ | ⟨-, hold'⟩ :=
      status_deploy hregistered hnew hstatus'
    · exact ⟨rfl, rfl⟩
    · exact absurd howns (not_owns_both hc hprovidable htaken hport hold' howns')
  · obtain ⟨rfl, rfl, rfl⟩ | ⟨-, hold'⟩ :=
      status_deploy hregistered hnew hstatus'
    · exact absurd howns' (not_owns_both hc hprovidable htaken hport hold howns)
    · exact hc.apart k id status k' id' status' hold hold' r howns howns'

theorem unique_deploy (hc : c.Sound) (hregistered : c.hasSFCI sfciID = true)
    (hnew : c.hasVNFI v.vnfi.vnfiID = false) {k k' : Nat} {id : UUID}
    {status status' : VNFIDeployStatus}
    (hstatus :
      (c.deploy sfciID v d rest).getVNFIDeployStatus k id = some status)
    (hstatus' :
      (c.deploy sfciID v d rest).getVNFIDeployStatus k' id = some status') :
    k' = k := by
  obtain ⟨rfl, rfl, rfl⟩ | ⟨hne, hold⟩ := status_deploy hregistered hnew hstatus
  · obtain ⟨rfl, -⟩ | ⟨hne, -⟩ := status_deploy hregistered hnew hstatus'
    · rfl
    · exact absurd rfl hne
  · obtain ⟨-, rfl, -⟩ | ⟨-, hold'⟩ := status_deploy hregistered hnew hstatus'
    · exact absurd rfl hne
    · exact hc.unique k id status k' status' hold hold'

theorem cores_deploy (hc : c.Sound)
    (hnodup : v.server.coreNUMADistribution.flatten.Nodup)
    (htaken : Taken docker v c d rest) {serverID : Nat} {l : List (List Nat)}
    (hl : (c.deploy sfciID v d rest).cpuManager.get? serverID = some l) :
    l.flatten.Nodup := by
  rw [get?_cpuManager_deploy] at hl
  split_ifs at hl with hserver
  · obtain rfl := Option.some.inj hl
    exact (nodup_taken hc hnodup htaken).2
  · exact hc.cores serverID l hl

theorem vios_deploy (hc : c.Sound) (hprovidable : Providable docker v c)
    {serverID : Nat} {l : List (Int × Int)}
    (hl : (c.deploy sfciID v d rest).vioManager.get? serverID = some l) :
    Ascending l := by
  rw [get?_vioManager_deploy] at hl
  split_ifs at hl with hserver
  · obtain rfl := Option.some.inj hl
    exact (allocateSource_spec (by decide) (ascending_vios hc v.server)
      hprovidable.room).2.1
  · exact hc.vios serverID l hl

theorem socketPorts_deploy (hc : c.Sound) {serverID : Nat}
    {l : List (Int × Int)}
    (hl : (c.deploy sfciID v d rest).socketPortManager.get? serverID = some l) :
    Ascending l := by
  rw [get?_socketPortManager_deploy] at hl
  split_ifs at hl with hserver
  · obtain rfl := Option.some.inj hl
    exact (allocateSpecificSource_spec (ascending_socketPorts hc v.server)).1
  · exact hc.socketPorts serverID l hl

theorem containers_deploy (hc : c.Sound) (htaken : Taken docker v c d rest)
    {container : Container}
    (hmem : container ∈ (c.deploy sfciID v d rest).running) :
    container.containerID < (c.deploy sfciID v d rest).nextContainerID := by
  have hnext : (c.deploy sfciID v d rest).nextContainerID =
    c.nextContainerID + 1 := rfl
  rw [hnext]
  obtain hmem | hmem := List.mem_append.mp hmem
  · exact Nat.lt_succ_of_lt (hc.containers container hmem)
  · obtain rfl := List.mem_singleton.mp hmem
    rw [htaken.containerID]
    exact Nat.lt_succ_self _

theorem Sound.deploy (hc : c.Sound)
    (hsfci : ∃ sfci ∈ c.sfciDict.get? sfciID, v ∈ sfci.serverVNFIs)
    (hnew : c.hasVNFI v.vnfi.vnfiID = false)
    (hnodup : v.server.coreNUMADistribution.flatten.Nodup)
    (hprovidable : Providable docker v c) (htaken : Taken docker v c d rest)
    (hport : ∀ container ∈ c.running,
      container.serverID = v.server.serverID →
        container.hostPort ≠ some d.controlSocketPort) :
    (c.deploy sfciID v d rest).Sound := by
  obtain ⟨sfci, hsfci, hv⟩ := hsfci
  have hregistered : c.hasSFCI sfciID = true := by
    rw [hc.registered, hsfci]
    rfl
  constructor
  case registered => exact fun k => (hasSFCI_setVNFI ..).trans (hc.registered k)
  case used =>
    intro k id status hstatus
    obtain ⟨rfl, rfl, rfl⟩ | ⟨-, hold⟩ := status_deploy hregistered hnew hstatus
    · exact ⟨rfl, sfci, hsfci, v, hv, rfl⟩
    · exact hc.used k id status hold
  case deployed =>
    intro k id status hstatus
    obtain ⟨rfl, rfl, rfl⟩ | ⟨-, hold⟩ := status_deploy hregistered hnew hstatus
    · exact ⟨rfl, d, rfl, wellDeployed_new hc hnodup htaken⟩
    · obtain ⟨herror, d', hd', hwell⟩ := hc.deployed k id status hold
      exact ⟨herror, d', hd', wellDeployed_deploy htaken hwell⟩
  case held =>
    intro k id status hstatus r howns
    exact held_deploy hc hregistered hnew hnodup hprovidable htaken hstatus howns
  case apart =>
    intro k id status k' id' status' hstatus hstatus' r howns howns'
    exact apart_deploy hc hregistered hnew hprovidable htaken hport hstatus
      hstatus' howns howns'
  case unique =>
    intro k id status k' status' hstatus hstatus'
    exact unique_deploy hc hregistered hnew hstatus hstatus'
  case cores => exact fun _ _ => cores_deploy hc hnodup htaken
  case vios => exact fun _ _ => vios_deploy hc hprovidable
  case socketPorts => exact fun _ _ => socketPorts_deploy hc
  case containers => exact fun _ => containers_deploy hc htaken

end Deploy

/-! ## Deleting a VNFI -/

/-- The container of the VNFI can be killed, and its ids and its port fit back
into the free intervals. -/
def Returnable (docker : Docker) (status : VNFIDeployStatus)
    (c : VNFController) : Prop :=
  ∀ d ∈ status.deployment, docker.kill d.containerID = true ∧
    Placeable d.vioStart 2 (c.vios status.vnfi.server) ∧
    Placeable d.controlSocketPort 1 (c.socketPorts status.vnfi.server)

section Undeploy

variable {vnfiID : UUID} {status : VNFIDeployStatus} {d : Deployment}

def undeploy (docker : Docker) (sfciID : Nat) (vnfiID : UUID) (v : ServerVNFI)
    (d : Deployment) (c : VNFController) : VNFController :=
  (deleteContainer docker v d c).deleteVNFI sfciID vnfiID

theorem deleteServerVNFI_eq (hc : c.Sound)
    (hstatus : c.getVNFIDeployStatus sfciID vnfiID = some status)
    (hd : status.deployment = some d) :
    deleteServerVNFI docker sfciID (vnfiID, status) c =
      (true, c.undeploy docker sfciID vnfiID status.vnfi d) := by
  obtain ⟨herror, d', hd', hwell⟩ := hc.deployed sfciID vnfiID status hstatus
  obtain ⟨⟨lc, hlc⟩, ⟨lv, hlv⟩, ⟨lp, hlp⟩⟩ := hwell.allocators
  have hrun : (killVNFI docker status).run c =
      .ok () (deleteContainer docker status.vnfi d c) := by
    rw [killVNFI, PyM.run_bind_get]
    dsimp only
    rw [if_pos ⟨by simp [Dict.contains, hlv], by simp [Dict.contains, hlc],
      by simp [Dict.contains, hlp]⟩, herror, hd]
    rfl
  simp only [deleteServerVNFI, hrun, undeploy]

theorem getStatus_deleteVNFI (c : VNFController) (sfciID sfciID' : Nat)
    (vnfiID vnfiID' : UUID) :
    (c.deleteVNFI sfciID vnfiID).getVNFIDeployStatus sfciID' vnfiID' =
      if sfciID' = sfciID ∧ vnfiID' = vnfiID then none
      else c.getVNFIDeployStatus sfciID' vnfiID' := by
  rw [getVNFIDeployStatus, getVNFIDeployStatus, deleteVNFI, Dict.get?_modify]
  by_cases hsfci : sfciID' = sfciID
  · subst hsfci
    cases c.vnfiSet.get? sfciID' with
    | none => simp
    | some sfciState => simp [Dict.get?_erase]
  · simp [hsfci]

theorem getStatus_undeploy (sfciID' : Nat) (vnfiID' : UUID) (v : ServerVNFI) :
    (c.undeploy docker sfciID vnfiID v d).getVNFIDeployStatus sfciID' vnfiID' =
      if sfciID' = sfciID ∧ vnfiID' = vnfiID then none
      else c.getVNFIDeployStatus sfciID' vnfiID' :=
  getStatus_deleteVNFI (deleteContainer docker v d c) sfciID sfciID' vnfiID vnfiID'

theorem get?_cpuManager_undeploy (serverID : Nat) (v : ServerVNFI) :
    (c.undeploy docker sfciID vnfiID v d).cpuManager.get? serverID =
      if serverID = v.server.serverID then
        some (CPUAllocator.freeCPU d.cpus (c.cores v.server))
      else c.cpuManager.get? serverID := Dict.get?_set ..

theorem get?_vioManager_undeploy (serverID : Nat) (v : ServerVNFI) :
    (c.undeploy docker sfciID vnfiID v d).vioManager.get? serverID =
      if serverID = v.server.serverID then
        some (freeSource d.vioStart 2 (c.vios v.server))
      else c.vioManager.get? serverID := Dict.get?_set ..

theorem get?_socketPortManager_undeploy (serverID : Nat) (v : ServerVNFI) :
    (c.undeploy docker sfciID vnfiID v d).socketPortManager.get? serverID =
      if serverID = v.server.serverID then
        some (freeSource d.controlSocketPort 1 (c.socketPorts v.server))
      else c.socketPortManager.get? serverID := Dict.get?_set ..

theorem free_undeploy (hc : c.Sound)
    (hstatus : c.getVNFIDeployStatus sfciID vnfiID = some status)
    (hd : status.deployment = some d) (hreturnable : Returnable docker status c)
    (r : Resource) :
    (c.undeploy docker sfciID vnfiID status.vnfi d).Free r ↔
      c.Free r ∨ status.Owns r := by
  obtain ⟨-, d', hd', hwell⟩ := hc.deployed sfciID vnfiID status hstatus
  obtain rfl := Option.some.inj (hd.symm.trans hd')
  obtain ⟨⟨lc, hlc⟩, ⟨lv, hlv⟩, ⟨lp, hlp⟩⟩ := hwell.allocators
  obtain ⟨hkill, hvio, hport⟩ := hreturnable d hd
  have hcores : c.cores status.vnfi.server = lc := by
    simp [VNFController.cores, hlc]
  have hvios : c.vios status.vnfi.server = lv := by
    simp [VNFController.vios, hlv]
  have hports : c.socketPorts status.vnfi.server = lp := by
    simp [VNFController.socketPorts, hlp]
  rw [hvios] at hvio
  rw [hports] at hport
  cases r with
  | cpu serverID core =>
      have hperm := CPUAllocator.freeCPU_perm
        (Nat.le_of_eq (hwell.length lc hlc))
      simp only [Free, VNFIDeployStatus.Owns, get?_cpuManager_undeploy, hcores,
        hd, Option.mem_def, Option.some.injEq, exists_eq_left']
      split_ifs with hserver
      · subst hserver
        simp only [Option.some.injEq, exists_eq_left', hlc, true_and,
          hperm.mem_iff, List.mem_append]
      · simp [hserver]
  | virtio serverID id =>
      obtain ⟨-, hcovers⟩ :=
        @freeSource_spec d.vioStart 2 (by decide) lv (hc.vios _ lv hlv)
      simp only [Free, VNFIDeployStatus.Owns, get?_vioManager_undeploy, hvios,
        hd, Option.mem_def, Option.some.injEq, exists_eq_left']
      split_ifs with hserver
      · subst hserver
        simp only [Option.some.injEq, exists_eq_left', hlv, true_and, hcovers,
          hvio]
      · simp [hserver]
  | port serverID port =>
      obtain ⟨-, hcovers⟩ := @freeSource_spec d.controlSocketPort 1
        (by decide) lp (hc.socketPorts _ lp hlp)
      simp only [Free, VNFIDeployStatus.Owns, get?_socketPortManager_undeploy,
        hports, hd, Option.mem_def, Option.some.injEq, exists_eq_left']
      split_ifs with hserver
      · subst hserver
        simp only [Option.some.injEq, exists_eq_left', hlp, true_and, hcovers,
          hport]
        have : (d.controlSocketPort : Int) ≤ port ∧
            port < d.controlSocketPort + 1 ↔ port = d.controlSocketPort := by
          omega
        rw [this]
      · simp [hserver]
  | container containerID =>
      simp only [Free, VNFIDeployStatus.Owns, hd, Option.mem_def,
        Option.some.injEq, exists_eq_left']
      show (∀ container ∈ c.running.filter _, _) ↔ _
      simp only [List.mem_filter, hkill, Bool.and_true, Bool.not_eq_true',
        decide_eq_false_iff_not, and_imp]
      constructor
      · intro h
        by_cases heq : containerID = d.containerID
        · exact .inr heq
        · refine .inl fun container hmem hid => h container hmem ?_ hid
          rw [hid]
          exact heq
      · rintro (h | rfl) container hmem hne
        · exact h container hmem
        · exact hne

theorem hasAllocators_undeploy {v : ServerVNFI} {serverID : Nat}
    (h : c.HasAllocators serverID) :
    (c.undeploy docker sfciID vnfiID v d).HasAllocators serverID := by
  constructor
  · rw [get?_cpuManager_undeploy]
    split_ifs
    · exact ⟨_, rfl⟩
    · exact h.cpu
  · rw [get?_vioManager_undeploy]
    split_ifs
    · exact ⟨_, rfl⟩
    · exact h.vio
  · rw [get?_socketPortManager_undeploy]
    split_ifs
    · exact ⟨_, rfl⟩
    · exact h.socketPort

theorem hasSFCI_undeploy (v : ServerVNFI) (sfciID' : Nat) :
    (c.undeploy docker sfciID vnfiID v d).hasSFCI sfciID' =
      c.hasSFCI sfciID' := by
  show ((c.vnfiSet.modify sfciID _).get? sfciID').isSome =
    (c.vnfiSet.get? sfciID').isSome
  rw [Dict.get?_modify]
  split_ifs with hsfci
  · rw [hsfci, Option.isSome_map]
  · rfl

/-- The records that are left were there before. -/
theorem status_undeploy {v : ServerVNFI} {k : Nat} {id : UUID}
    {status' : VNFIDeployStatus}
    (hstatus' :
      (c.undeploy docker sfciID vnfiID v d).getVNFIDeployStatus k id =
        some status') :
    ¬ (k = sfciID ∧ id = vnfiID) ∧ c.getVNFIDeployStatus k id = some status' := by
  rw [getStatus_undeploy] at hstatus'
  split_ifs at hstatus' with hk
  exact ⟨hk, hstatus'⟩

theorem cores_of_wellDeployed {v : ServerVNFI} (hwell : c.WellDeployed v d) :
    c.cpuManager.get? v.server.serverID = some (c.cores v.server) := by
  obtain ⟨l, hl⟩ := hwell.allocators.cpu
  rw [VNFController.cores, hl, Option.getD_some]

theorem deployed_undeploy (hc : c.Sound)
    (hstatus : c.getVNFIDeployStatus sfciID vnfiID = some status)
    (hd : status.deployment = some d) (hwell : c.WellDeployed status.vnfi d)
    {k : Nat} {id : UUID} {status' : VNFIDeployStatus}
    (hold : c.getVNFIDeployStatus k id = some status')
    (hne : ¬ (k = sfciID ∧ id = vnfiID)) :
    status'.error = none ∧ ∃ d', status'.deployment = some d' ∧
      (c.undeploy docker sfciID vnfiID status.vnfi d).WellDeployed status'.vnfi
        d' := by
  obtain ⟨herror, d', hd', hwell'⟩ := hc.deployed k id status' hold
  refine ⟨herror, d', hd', hasAllocators_undeploy hwell'.allocators,
    hwell'.nodup, fun l hl => ?_, ?_⟩
  · rw [Option.mem_def, get?_cpuManager_undeploy] at hl
    split_ifs at hl with hserver
    · obtain rfl := Option.some.inj hl
      rw [CPUAllocator.length_freeCPU]
      exact hwell'.length _ (hserver ▸ cores_of_wellDeployed hwell)
    · exact hwell'.length l hl
  · refine List.mem_filter.mpr ⟨hwell'.running, ?_⟩
    have hdistinct : d'.containerID ≠ d.containerID := by
      intro heq
      exact hne (hc.apart sfciID vnfiID status k id status' hstatus hold
        (.container d.containerID) ⟨d, hd, rfl⟩ ⟨d', hd', heq.symm⟩)
    simp [hdistinct]

theorem cores_undeploy (hc : c.Sound)
    (hstatus : c.getVNFIDeployStatus sfciID vnfiID = some status)
    (hd : status.deployment = some d) (hwell : c.WellDeployed status.vnfi d)
    {serverID : Nat} {l : List (List Nat)}
    (hl : (c.undeploy docker sfciID vnfiID status.vnfi d).cpuManager.get?
      serverID = some l) : l.flatten.Nodup := by
  rw [get?_cpuManager_undeploy] at hl
  split_ifs at hl with hserver
  · obtain rfl := Option.some.inj hl
    have hcores := cores_of_wellDeployed hwell
    rw [(CPUAllocator.freeCPU_perm
      (Nat.le_of_eq (hwell.length _ hcores))).nodup_iff]
    refine List.nodup_append.mpr
      ⟨hc.cores _ _ hcores, hwell.nodup, fun core hcore core' hcore' heq => ?_⟩
    subst heq
    exact hc.held sfciID vnfiID status hstatus
      (.cpu status.vnfi.server.serverID core) ⟨rfl, d, hd, hcore'⟩
      ⟨_, hcores, hcore⟩
  · exact hc.cores serverID l hl

theorem Sound.undeploy (hc : c.Sound)
    (hstatus : c.getVNFIDeployStatus sfciID vnfiID = some status)
    (hd : status.deployment = some d)
    (hreturnable : Returnable docker status c) :
    (c.undeploy docker sfciID vnfiID status.vnfi d).Sound := by
  have hfree := free_undeploy hc hstatus hd hreturnable
  obtain ⟨-, d', hd', hwell⟩ := hc.deployed sfciID vnfiID status hstatus
  obtain rfl := Option.some.inj (hd.symm.trans hd')
  constructor
  case registered =>
    exact fun k => (hasSFCI_undeploy status.vnfi k).trans (hc.registered k)
  case used =>
    intro k id status' hstatus'
    exact hc.used k id status' (status_undeploy hstatus').2
  case deployed =>
    intro k id status' hstatus'
    obtain ⟨hne, hold⟩ := status_undeploy hstatus'
    exact deployed_undeploy hc hstatus hd hwell hold hne
  case held =>
    intro k id status' hstatus' r howns hfreed
    obtain ⟨hne, hold⟩ := status_undeploy hstatus'
    obtain hbefore | hown := (hfree r).mp hfreed
    · exact hc.held k id status' hold r howns hbefore
    · exact hne (hc.apart sfciID vnfiID status k id status' hstatus hold r hown
        howns)
  case apart =>
    intro k id status' k' id' status'' hstatus' hstatus'' r howns howns'
    exact hc.apart k id status' k' id' status'' (status_undeploy hstatus').2
      (status_undeploy hstatus'').2 r howns howns'
  case unique =>
    intro k id status' k' status'' hstatus' hstatus''
    exact hc.unique k id status' k' status'' (status_undeploy hstatus').2
      (status_undeploy hstatus'').2
  case cores => exact fun _ _ => cores_undeploy hc hstatus hd hwell
  case vios =>
    intro serverID l hl
    rw [Option.mem_def, get?_vioManager_undeploy] at hl
    split_ifs at hl with hserver
    · obtain rfl := Option.some.inj hl
      exact (freeSource_spec (by decide) (ascending_vios hc _)).1
    · exact hc.vios serverID l hl
  case socketPorts =>
    intro serverID l hl
    rw [Option.mem_def, get?_socketPortManager_undeploy] at hl
    split_ifs at hl with hserver
    · obtain rfl := Option.some.inj hl
      exact (freeSource_spec (by decide) (ascending_socketPorts hc _)).1
    · exact hc.socketPorts serverID l hl
  case containers =>
    exact fun container hmem =>
      hc.containers container (List.mem_filter.mp hmem).1

end Undeploy

end VNFController

end SelfAdaptiveMano

import SelfAdaptiveMano.VnfController.VnfController
import SelfAdaptiveMano.Library.Hoare

/-!
# Creating the container of a VNFI

`addVNFI` returns exactly for the VNFIs that are `Creatable`; `Created` says what
it does then. Whatever it does, it leaves the records alone.
-/

namespace SelfAdaptiveMano

open Library

namespace VNFController

variable {docker : Docker} {v : ServerVNFI} {c c' : VNFController}

def getVNFIDeployStatus (c : VNFController) (sfciID : Nat) (vnfiID : UUID) :
    Option VNFIDeployStatus :=
  (c.vnfiSet.get? sfciID).bind (·.get? vnfiID)

def Deployed (c : VNFController) (vnfiID : UUID) : Prop :=
  ∃ sfciID, ∃ status ∈ c.getVNFIDeployStatus sfciID vnfiID,
    status.state = .deployed

theorem hasVNFI_iff {vnfiID : UUID} :
    c.hasVNFI vnfiID = true ↔
      ∃ sfciID status, c.getVNFIDeployStatus sfciID vnfiID = some status := by
  simp only [hasVNFI, List.any_eq_true, Dict.mem_values_iff,
    getVNFIDeployStatus, Option.bind_eq_some_iff, Dict.contains,
    Option.isSome_iff_exists]
  constructor
  · rintro ⟨sfciState, ⟨sfciID, hstate⟩, status, hstatus⟩
    exact ⟨sfciID, status, sfciState, hstate, hstatus⟩
  · rintro ⟨sfciID, status, sfciState, hstate, hstatus⟩
    exact ⟨sfciState, ⟨sfciID, hstate⟩, status, hstatus⟩

theorem getStatus_setVNFI (sfciID : Nat) (status : VNFIDeployStatus)
    (c : VNFController) (h : c.hasSFCI sfciID = true) (sfciID' : Nat)
    (vnfiID : UUID) :
    (c.setVNFI sfciID status).getVNFIDeployStatus sfciID' vnfiID =
      if sfciID' = sfciID ∧ vnfiID = status.vnfi.vnfi.vnfiID then some status
      else c.getVNFIDeployStatus sfciID' vnfiID := by
  obtain ⟨sfciState, hstate⟩ := Option.isSome_iff_exists.mp h
  rw [getVNFIDeployStatus, setVNFI, Dict.get?_modify]
  by_cases hsfci : sfciID' = sfciID
  · subst hsfci
    simp only [hstate, if_true, Option.map_some, Option.bind_some,
      Dict.get?_set, true_and, getVNFIDeployStatus]
  · simp [hsfci, getVNFIDeployStatus]

theorem hasSFCI_setVNFI (sfciID sfciID' : Nat) (status : VNFIDeployStatus)
    (c : VNFController) :
    (c.setVNFI sfciID status).hasSFCI sfciID' = c.hasSFCI sfciID' := by
  rw [hasSFCI, hasSFCI, Dict.contains, Dict.contains, setVNFI,
    Dict.get?_modify]
  split <;> simp_all

theorem getStatus_addSFCI {sfci : SFCI} (h : c.hasSFCI sfci.sfciID = false)
    (sfciID : Nat) (vnfiID : UUID) :
    (c.addSFCI sfci).getVNFIDeployStatus sfciID vnfiID =
      c.getVNFIDeployStatus sfciID vnfiID := by
  rw [getVNFIDeployStatus, getVNFIDeployStatus, addSFCI, Dict.get?_set]
  split_ifs with hsfci
  · subst hsfci
    have hnone : c.vnfiSet.get? sfci.sfciID = none := by
      simpa [hasSFCI, Dict.contains] using h
    simp [hnone]
  · rfl

/-- A container can be made for the VNFI: its type has an image, there are
enough CPUs, and nothing raises. -/
structure Creatable (docker : Docker) (v : ServerVNFI) (c : VNFController) :
    Prop where
  prepared : docker.prepare v.vnfi = .ok ()
  image : v.vnfi.vnfType ∈ imageTypes
  cores : CPUAllocator.HasCores (cpuNum v.vnfi) (c.cores v.server)
  command : docker.command v.vnfi = .ok ()
  run : docker.run v.vnfi = .ok ()
  port : ∃ port, docker.hostPort v.vnfi = .ok port

/-- The container of a VNFI is there, with the CPUs `rest` left. -/
def withContainer (v : ServerVNFI) (deployment : Deployment)
    (rest : List (List Nat)) (c : VNFController) : VNFController :=
  { c with
    cpuManager := c.cpuManager.set v.server.serverID rest
    vioManager := c.vioManager.set v.server.serverID
      (SourceAllocator.allocateSource 2 (c.vios v.server)).2
    running := c.running ++ [⟨deployment.containerID, v.server.serverID,
      some deployment.controlSocketPort⟩]
    nextContainerID := c.nextContainerID + 1
    socketPortManager := c.socketPortManager.set v.server.serverID
      (SourceAllocator.allocateSpecificSource deployment.controlSocketPort 1
        (c.socketPorts v.server)) }

structure Taken (docker : Docker) (v : ServerVNFI) (c : VNFController)
    (deployment : Deployment) (rest : List (List Nat)) : Prop where
  containerID : deployment.containerID = c.nextContainerID
  cpus : CPUAllocator.allocateCPU (cpuNum v.vnfi) (c.cores v.server) =
    some (deployment.cpus, rest)
  vioStart : deployment.vioStart =
    (SourceAllocator.allocateSource 2 (c.vios v.server)).1
  port : docker.hostPort v.vnfi = .ok deployment.controlSocketPort

theorem imageTypes_subset {vnfType : Nat} (h : vnfType ∈ imageTypes) :
    vnfType ∈ knownTypes := by
  have hsub : ∀ t ∈ imageTypes, t ∈ knownTypes := by decide
  exact hsub vnfType h

theorem Creatable.run_addVNFI (h : Creatable docker v c) :
    ∃ deployment rest, Taken docker v c deployment rest ∧
      (addVNFI docker v).run c =
        .ok deployment (c.withContainer v deployment rest) := by
  obtain ⟨⟨cpus, rest⟩, hcpus⟩ :=
    Option.isSome_iff_exists.mp (CPUAllocator.allocateCPU_isSome.mpr h.cores)
  obtain ⟨port, hport⟩ := h.port
  refine ⟨⟨c.nextContainerID, cpus,
    (SourceAllocator.allocateSource 2 (c.vios v.server)).1, port⟩, rest,
    ⟨rfl, hcpus, rfl, hport⟩, ?_⟩
  have hcpu : (allocateCPU v).run c = .ok cpus
      { c with cpuManager := c.cpuManager.set v.server.serverID rest } := by
    rw [allocateCPU, PyM.run_bind_get, PyM.run_bind_ofOption hcpus]
    rfl
  rw [addVNFI, h.prepared]
  show (if v.vnfi.vnfType ∈ knownTypes then addContainer docker v
    else throw _ : PyM VNFController Deployment).run c = _
  rw [if_pos (imageTypes_subset h.image), addContainer, PyM.run_bind_ok hcpu]
  simp only [h.image, if_true, h.command, h.run, hport]
  simp only [allocateVio, startContainer, hport]
  rfl

theorem ok_of_run_ofExcept {σ α : Type} {r : Except PyError α} {s s' : σ} {a : α}
    (h : (PyM.ofExcept r : PyM σ α).run s = .ok a s') : r = .ok a ∧ s' = s := by
  cases r with
  | ok a' =>
      cases h
      exact ⟨rfl, rfl⟩
  | error e => cases h

theorem creatable_of_run_addContainer {deployment : Deployment}
    (hprepared : docker.prepare v.vnfi = .ok ())
    (h : (addContainer docker v).run c = .ok deployment c') :
    Creatable docker v c := by
  obtain ⟨cpus, c₁, hcpus, h₁⟩ := PyM.run_bind_eq_ok_iff.mp h
  obtain ⟨vioStart, c₂, -, h₂⟩ := PyM.run_bind_eq_ok_iff.mp h₁
  have hcores : CPUAllocator.HasCores (cpuNum v.vnfi) (c.cores v.server) := by
    refine CPUAllocator.allocateCPU_isSome.mp ?_
    cases halloc : CPUAllocator.allocateCPU (cpuNum v.vnfi)
        (c.cores v.server) with
    | some _ => rfl
    | none =>
        rw [allocateCPU, PyM.run_bind_get, halloc] at hcpus
        cases hcpus
  by_cases himage : v.vnfi.vnfType ∈ imageTypes
  · rw [if_pos himage] at h₂
    obtain ⟨_, c₃, hcommand, h₃⟩ := PyM.run_bind_eq_ok_iff.mp h₂
    have hcommand' := (ok_of_run_ofExcept hcommand).1
    cases hr : docker.run v.vnfi with
    | error e =>
        rw [hr] at h₃
        cases h₃
    | ok _ =>
        rw [hr] at h₃
        obtain ⟨containerID, c₄, -, h₄⟩ := PyM.run_bind_eq_ok_iff.mp h₃
        obtain ⟨port, c₅, hport, -⟩ := PyM.run_bind_eq_ok_iff.mp h₄
        exact ⟨hprepared, himage, hcores, hcommand', hr, port,
          (ok_of_run_ofExcept hport).1⟩
  · rw [if_neg himage] at h₂
    cases h₂

theorem run_addVNFI_of_not_creatable (h : ¬ Creatable docker v c) :
    ∃ e c', (addVNFI docker v).run c = .error e c' := by
  cases hrun : (addVNFI docker v).run c with
  | error e c' => exact ⟨e, c', rfl⟩
  | ok deployment c' =>
      obtain ⟨_, c₁, hprepare, h₁⟩ := PyM.run_bind_eq_ok_iff.mp hrun
      obtain ⟨hprepared, rfl⟩ := ok_of_run_ofExcept hprepare
      by_cases hknown : v.vnfi.vnfType ∈ knownTypes
      · rw [if_pos hknown] at h₁
        exact absurd (creatable_of_run_addContainer hprepared h₁) h
      · rw [if_neg hknown] at h₁
        cases h₁

/-- The records are no business of the one who makes the containers. -/
theorem keeps_addVNFI (docker : Docker) (v : ServerVNFI)
    (vnfiSet : Dict Nat (Dict UUID VNFIDeployStatus)) :
    PyM.Keeps (fun c : VNFController => c.vnfiSet = vnfiSet)
      (addVNFI docker v) := by
  refine PyM.Meets.bind_ofExcept (fun _ _ => ?_) fun _ h => h
  refine PyM.Meets.ite (fun _ => ?_) fun _ _ h => h
  refine PyM.Keeps.bind (PyM.Meets.bind_get fun s hs => ?_) fun cpus => ?_
  · refine PyM.Meets.bind_ofOption (fun _ _ => ?_) fun _ h => h ▸ hs
    exact fun _ h => hs
  refine PyM.Keeps.bind (PyM.Meets.bind_get fun s hs => fun _ h => hs)
    fun vioStart => ?_
  refine PyM.Meets.ite (fun _ => ?_) fun _ _ h => h
  refine PyM.Meets.bind_ofExcept (fun _ _ => ?_) fun _ h => h
  cases docker.run v.vnfi with
  | error e => exact fun _ h => h
  | ok _ =>
      refine PyM.Keeps.bind (PyM.Meets.bind_get fun s hs => fun _ h => hs)
        fun containerID => ?_
      refine PyM.Meets.bind_ofExcept (fun _ _ => ?_) fun _ h => h
      exact fun _ h => h

def deploy (sfciID : Nat) (v : ServerVNFI) (deployment : Deployment)
    (rest : List (List Nat)) (c : VNFController) : VNFController :=
  (c.withContainer v deployment rest).setVNFI sfciID
    ⟨v, .deployed, some deployment, none⟩

theorem getStatus_deploy {sfciID : Nat} {deployment : Deployment}
    {rest : List (List Nat)} (h : c.hasSFCI sfciID = true) (sfciID' : Nat)
    (vnfiID : UUID) :
    (c.deploy sfciID v deployment rest).getVNFIDeployStatus sfciID' vnfiID =
      if sfciID' = sfciID ∧ vnfiID = v.vnfi.vnfiID then
        some ⟨v, .deployed, some deployment, none⟩
      else c.getVNFIDeployStatus sfciID' vnfiID :=
  getStatus_setVNFI sfciID _ (c.withContainer v deployment rest) h sfciID' vnfiID

/-- What the turn for a VNFI can do. -/
inductive AddOutcome (docker : Docker) (sfciID : Nat) (v : ServerVNFI)
    (c : VNFController) : Bool × VNFController → Prop
  | shared (recorded : c.hasVNFI v.vnfi.vnfiID = true) :
      AddOutcome docker sfciID v c (true, c)
  | deployed (new : c.hasVNFI v.vnfi.vnfiID = false)
      (creatable : Creatable docker v c) (deployment : Deployment)
      (rest : List (List Nat)) (taken : Taken docker v c deployment rest) :
      AddOutcome docker sfciID v c (true, c.deploy sfciID v deployment rest)
  | failed (new : c.hasVNFI v.vnfi.vnfiID = false)
      (notCreatable : ¬ Creatable docker v c) (e : PyError)
      (c' : VNFController)
      (records : c'.vnfiSet =
        (c.setVNFI sfciID ⟨v, .processing, none, none⟩).vnfiSet) :
      AddOutcome docker sfciID v c
        (false, c'.setVNFI sfciID ⟨v, .failed, none, some e⟩)

theorem modify_modify_set {sfciID : Nat} {vnfiID : UUID}
    {status status' : VNFIDeployStatus}
    (d : Dict Nat (Dict UUID VNFIDeployStatus)) :
    (d.modify sfciID (·.set vnfiID status)).modify sfciID
        (·.set vnfiID status') =
      d.modify sfciID (·.set vnfiID status') := by
  cases h : d.get? sfciID with
  | none => simp [Dict.modify, h]
  | some sfciState =>
      rw [Dict.modify_eq_set h, Dict.modify_eq_set h,
        Dict.modify_eq_set (Dict.get?_set_self ..), Dict.set_set, Dict.set_set]

theorem cores_prepared (status : VNFIDeployStatus) (sfciID : Nat)
    (server : Server) (c : VNFController) :
    ((c.setVNFI sfciID status).withAllocators server).cores server =
      c.cores server := by
  simp [cores, withAllocators, setVNFI]

theorem withContainer_prepared (deployment : Deployment)
    (rest : List (List Nat)) (sfciID : Nat) (c : VNFController) :
    (((c.setVNFI sfciID ⟨v, .processing, none, none⟩).withAllocators
      v.server).withContainer v deployment rest).setVNFI sfciID
        ⟨v, .deployed, some deployment, none⟩ =
      c.deploy sfciID v deployment rest := by
  simp [withContainer, withAllocators, setVNFI, deploy, vios, socketPorts,
    Dict.set_set, modify_modify_set]

theorem addServerVNFI_outcome (docker : Docker) (sfciID : Nat) (v : ServerVNFI)
    (c : VNFController) :
    AddOutcome docker sfciID v c (addServerVNFI docker sfciID v c) := by
  unfold addServerVNFI
  cases hnew : c.hasVNFI v.vnfi.vnfiID with
  | true => exact .shared hnew
  | false =>
      have hcreatable : Creatable docker v ((c.setVNFI sfciID
          ⟨v, .processing, none, none⟩).withAllocators v.server) ↔
          Creatable docker v c := by
        constructor
        · rintro ⟨h₁, h₂, h₃, h₄, h₅, h₆⟩
          exact ⟨h₁, h₂, by rwa [cores_prepared] at h₃, h₄, h₅, h₆⟩
        · rintro ⟨h₁, h₂, h₃, h₄, h₅, h₆⟩
          exact ⟨h₁, h₂, by rwa [cores_prepared], h₄, h₅, h₆⟩
      by_cases h : Creatable docker v c
      · obtain ⟨deployment, rest, htaken, hrun⟩ :=
          (hcreatable.mpr h).run_addVNFI
        have htaken' : Taken docker v c deployment rest := by
          obtain ⟨h₁, h₂, h₃, h₄⟩ := htaken
          refine ⟨h₁, by rwa [cores_prepared] at h₂, ?_, h₄⟩
          rw [h₃]
          simp [vios, withAllocators, setVNFI]
        simp only [Bool.false_eq_true, if_false, hrun, withContainer_prepared]
        exact .deployed hnew h deployment rest htaken'
      · obtain ⟨e, c', hrun⟩ := run_addVNFI_of_not_creatable
          (mt hcreatable.mp h)
        simp only [Bool.false_eq_true, if_false, hrun]
        refine .failed hnew h e c' ?_
        refine (keeps_addVNFI docker v _).of_run_error ?_ hrun
        rfl

end VNFController

end SelfAdaptiveMano

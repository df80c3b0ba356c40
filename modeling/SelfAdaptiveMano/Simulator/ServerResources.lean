import SelfAdaptiveMano.Library.Shares
import SelfAdaptiveMano.Simulator.InfoBase
import Mathlib.Algebra.BigOperators.Fin
import Mathlib.Data.NNRat.Floor

/-!
# What the simulator reports of the servers

Before the servers are reported, the simulator works out what the VNFIs and the
background processes on each of them use: the utilization of the cores, and the
hugepages that are left on each NUMA node.

The hugepages of a server are a list, and the list of those that are free is made
from the list of all of them. `getHugepagesTotal` returns the list itself, so that
the pages are taken from the total as well, and the next report takes them once
more. Servers may even have one list together, as those of a topology do.
-/

namespace SelfAdaptiveMano.Simulator

open Library

/-! ## The servers and the processes on them -/

/-- What a process takes. The operator's commands put a function in the place of
the number. -/
inductive Amount where
  | number (value : NNRat)
  | function
  deriving DecidableEq

structure Process where
  cpu : Amount
  mem : Amount
  deriving DecidableEq

abbrev ListID := Nat

structure Server where
  coresNum : Nat
  coreNUMADistribution : List (List (Fin coresNum))
  nodup_cores : coreNUMADistribution.flatten.Nodup
  coreUtilization : Fin coresNum → NNRat
  hugepagesTotalNum : ListID
  hugepagesFreeNum : ListID
  sizePerHugepage : Nat
  sizePerHugepage_pos : 0 < sizePerHugepage

structure ServerBase where
  lists : ListID → List Nat
  servers : Dict Nat Server
  vnfis : Dict Nat (List VNFIInfo)
  bgProcesses : Dict Nat Process

def VNFIInfo.process (vnfi : VNFIInfo) : Process :=
  ⟨.number vnfi.cpu, .number vnfi.mem⟩

/-! ## The update -/

/-- `reduce(lambda x, y: x + y, …, 0)`; a function cannot be added. -/
def sumAmounts {α : Type} [Zero α] [Add α] (f : NNRat → α) :
    List Amount → Except PyError α
  | [] => .ok 0
  | .number value :: amounts => do return f value + (← sumAmounts f amounts)
  | .function :: _ => .error .typeError

/-- The percentages are fractions. -/
instance atLeastTwo_hundred : Nat.AtLeastTwo 100 := inferInstance

def fillNUMA {n : Nat} : List (Fin n) → NNRat × (Fin n → NNRat) →
    NNRat × (Fin n → NNRat)
  | [], s => s
  | core :: singleCpu, (cpu, utilization) =>
      if cpu ≤ 0 then (cpu, utilization)
      else
        let usage := min cpu 100
        fillNUMA singleCpu (cpu - usage, Function.update utilization core usage)

namespace Server

variable (server : Server)

def utilizationFor (cpu : NNRat) : Fin server.coresNum → NNRat :=
  (server.coreNUMADistribution.foldl (fun s singleCpu => fillNUMA singleCpu s)
    (cpu, fun _ => 0)).2

def pages (mem : NNRat) : Nat := ⌈mem * 1024 / server.sizePerHugepage⌉₊

def setCpuUtil (cpu : NNRat) : Server :=
  { server with coreUtilization := server.utilizationFor cpu }

/-- `setHugePages`, with the list that `getHugepagesTotal` returned. -/
def setHugePages : Server :=
  { server with hugepagesFreeNum := server.hugepagesTotalNum }

end Server

namespace ServerBase

variable (sib : ServerBase)

def serverProcesses : Dict Nat (List Process) :=
  let ofVNFIs := sib.vnfis.items.foldl (fun processes (serverID, vnfis) =>
    if sib.servers.contains serverID then
      processes.set serverID (vnfis.map VNFIInfo.process)
    else processes) Dict.empty
  sib.bgProcesses.items.foldl (fun processes (serverID, process) =>
    processes.set serverID ((processes.get? serverID).getD [] ++ [process])) ofVNFIs

def setServer (serverID : Nat) (server : Server) : ServerBase :=
  { sib with servers := sib.servers.set serverID server }

def takePages (list : ListID) (pageUsage : Nat) : ServerBase :=
  { sib with
    lists := Function.update sib.lists list (Drain.drain (sib.lists list) pageUsage) }

end ServerBase

/-- One turn of the loop of `updateServerResource`. -/
def updateServer (item : Nat × List Process) : PyM ServerBase PUnit := do
  let (serverID, processes) := item
  let sib ← get
  let server ← PyM.ofOption .keyError (sib.servers.get? serverID)
  let cpu ← PyM.ofExcept (sumAmounts id (processes.map Process.cpu))
  let server := server.setCpuUtil cpu
  modify fun sib => sib.setServer serverID server
  let pageUsage ← PyM.ofExcept (sumAmounts server.pages (processes.map Process.mem))
  modify fun sib => sib.takePages server.hugepagesTotalNum pageUsage
  modify fun sib => sib.setServer serverID server.setHugePages

def updateServerResource : PyM ServerBase PUnit := do
  let sib ← get
  sib.serverProcesses.items.forM updateServer

/-! ## What an update comes to -/

namespace Amount

def IsNumber : Amount → Prop
  | number _ => True
  | function => False

def value : Amount → NNRat
  | number value => value
  | function => 0

end Amount

def Process.IsNumber (process : Process) : Prop :=
  process.cpu.IsNumber ∧ process.mem.IsNumber

theorem sumAmounts_of_isNumber {α : Type} [AddMonoid α] (f : NNRat → α)
    {amounts : List Amount} (h : ∀ amount ∈ amounts, amount.IsNumber) :
    sumAmounts f amounts = .ok (amounts.map fun amount => f amount.value).sum := by
  induction amounts with
  | nil => rfl
  | cons amount amounts ih =>
    rw [List.forall_mem_cons] at h
    cases amount with
    | number value =>
      rw [sumAmounts, ih h.2]
      rfl
    | function => exact h.1.elim

theorem sumAmounts_eq_error {α : Type} [AddMonoid α] (f : NNRat → α)
    {amounts : List Amount} (h : ∃ amount ∈ amounts, ¬ amount.IsNumber) :
    sumAmounts f amounts = .error .typeError := by
  induction amounts with
  | nil =>
    obtain ⟨amount, hmem, -⟩ := h
    cases hmem
  | cons amount amounts ih =>
    cases amount with
    | number value =>
      have hrest : ∃ amount ∈ amounts, ¬ amount.IsNumber := by
        obtain ⟨amount, hmem, hnot⟩ := h
        rcases List.mem_cons.mp hmem with rfl | hmem
        · exact absurd trivial hnot
        · exact ⟨amount, hmem, hnot⟩
      rw [sumAmounts, ih hrest]
      rfl
    | function => rfl

namespace Server

variable (server : Server) (processes : List Process)

def pageUsage : Nat := (processes.map fun process => server.pages process.mem.value).sum

def refreshed : Server :=
  (server.setCpuUtil (processes.map fun process => process.cpu.value).sum).setHugePages

@[simp] theorem hugepagesTotalNum_refreshed :
    (server.refreshed processes).hugepagesTotalNum = server.hugepagesTotalNum := rfl

@[simp] theorem hugepagesFreeNum_refreshed :
    (server.refreshed processes).hugepagesFreeNum = server.hugepagesTotalNum := rfl

@[simp] theorem pageUsage_refreshed (others : List Process) :
    (server.refreshed others).pageUsage processes = server.pageUsage processes := rfl

@[simp] theorem refreshed_refreshed (others : List Process) :
    (server.refreshed others).refreshed processes = server.refreshed processes := rfl

end Server

namespace ServerBase

variable (sib : ServerBase)

def afterTurn (item : Nat × List Process) : ServerBase :=
  match sib.servers.get? item.1 with
  | none => sib
  | some server =>
      (sib.takePages server.hugepagesTotalNum (server.pageUsage item.2)).setServer item.1
        (server.refreshed item.2)

theorem setServer_takePages_setServer (serverID : Nat) (server server' : Server)
    (list : ListID) (pageUsage : Nat) :
    ((sib.setServer serverID server).takePages list pageUsage).setServer serverID
        server' =
      (sib.takePages list pageUsage).setServer serverID server' := by
  simp only [setServer, takePages, Dict.set_set]

def Usable (item : Nat × List Process) : Prop :=
  sib.servers.contains item.1 = true ∧ ∀ process ∈ item.2, process.IsNumber

end ServerBase

theorem sumAmounts_cpu {processes : List Process}
    (h : ∀ process ∈ processes, process.IsNumber) :
    sumAmounts id (processes.map Process.cpu) =
      .ok (processes.map fun process => process.cpu.value).sum := by
  rw [sumAmounts_of_isNumber, List.map_map]
  · rfl
  · rw [List.forall_mem_map]
    exact fun process hmem => (h process hmem).1

theorem sumAmounts_mem {processes : List Process}
    (h : ∀ process ∈ processes, process.IsNumber) (server : Server) :
    sumAmounts server.pages (processes.map Process.mem) =
      .ok (server.pageUsage processes) := by
  rw [sumAmounts_of_isNumber, List.map_map]
  · rfl
  · rw [List.forall_mem_map]
    exact fun process hmem => (h process hmem).2

theorem run_updateServer_ok {sib : ServerBase} {item : Nat × List Process}
    (h : sib.Usable item) :
    (updateServer item).run sib = .ok ⟨⟩ (sib.afterTurn item) := by
  obtain ⟨serverID, processes⟩ := item
  obtain ⟨hknown, hnumbers⟩ := h
  obtain ⟨server, hserver⟩ := Option.isSome_iff_exists.mp hknown
  have hafter : sib.afterTurn (serverID, processes) =
      (sib.takePages server.hugepagesTotalNum (server.pageUsage processes)).setServer
        serverID (server.refreshed processes) := by
    rw [ServerBase.afterTurn, hserver]
  rw [updateServer, PyM.run_bind_get]
  dsimp only
  rw [PyM.run_bind_ofOption hserver, sumAmounts_cpu hnumbers]
  refine (PyM.run_bind_ok rfl _).trans ?_
  refine (PyM.run_bind_ok rfl _).trans ?_
  rw [sumAmounts_mem hnumbers]
  refine (PyM.run_bind_ok rfl _).trans ?_
  refine (PyM.run_bind_ok rfl _).trans ?_
  rw [hafter, ← ServerBase.setServer_takePages_setServer]
  rfl

theorem run_updateServer_error {sib : ServerBase} {item : Nat × List Process}
    (h : ¬ sib.Usable item) : ∃ e s', (updateServer item).run sib = .error e s' := by
  obtain ⟨serverID, processes⟩ := item
  rw [updateServer, PyM.run_bind_get]
  dsimp only
  cases hserver : sib.servers.get? serverID with
  | none => exact ⟨_, _, rfl⟩
  | some server =>
    have hknown : sib.servers.contains serverID = true := by
      rw [Dict.contains, hserver]
      rfl
    have hnumbers : ¬ ∀ process ∈ processes, process.IsNumber :=
      fun hnumbers => h ⟨hknown, hnumbers⟩
    rw [PyM.run_bind_ofOption rfl]
    by_cases hcpu : ∀ amount ∈ processes.map Process.cpu, amount.IsNumber
    · have hmem : ∃ amount ∈ processes.map Process.mem, ¬ amount.IsNumber := by
        by_contra hnone
        simp only [List.mem_map, not_exists, not_and, not_not, forall_exists_index,
          and_imp, forall_apply_eq_imp_iff₂] at hcpu hnone
        exact hnumbers fun process hprocess => ⟨hcpu process hprocess, hnone process hprocess⟩
      simp only [sumAmounts_of_isNumber _ hcpu, sumAmounts_eq_error _ hmem]
      exact ⟨_, _, rfl⟩
    · have hcpu : ∃ amount ∈ processes.map Process.cpu, ¬ amount.IsNumber := by
        simpa only [not_forall, exists_prop] using hcpu
      rw [sumAmounts_eq_error _ hcpu]
      exact ⟨_, _, rfl⟩

/-! ## A whole update -/

namespace ServerBase

variable (sib : ServerBase)

def afterTurns (items : List (Nat × List Process)) : ServerBase :=
  items.foldl afterTurn sib

def Ready : Prop := ∀ item ∈ sib.serverProcesses.items, sib.Usable item

def updated : ServerBase := sib.afterTurns sib.serverProcesses.items

theorem servers_afterTurn (item : Nat × List Process) :
    (sib.afterTurn item).servers =
      sib.servers.modify item.1 fun server => server.refreshed item.2 := by
  rw [afterTurn, Dict.modify]
  cases sib.servers.get? item.1 <;> rfl

@[simp] theorem vnfis_afterTurn (item : Nat × List Process) :
    (sib.afterTurn item).vnfis = sib.vnfis := by
  rw [afterTurn]
  split <;> rfl

@[simp] theorem bgProcesses_afterTurn (item : Nat × List Process) :
    (sib.afterTurn item).bgProcesses = sib.bgProcesses := by
  rw [afterTurn]
  split <;> rfl

@[simp] theorem contains_afterTurn (item : Nat × List Process) (serverID : Nat) :
    (sib.afterTurn item).servers.contains serverID = sib.servers.contains serverID := by
  rw [servers_afterTurn, Dict.contains_modify]

@[simp] theorem usable_afterTurn (item item' : Nat × List Process) :
    (sib.afterTurn item).Usable item' ↔ sib.Usable item' := by
  rw [Usable, contains_afterTurn, Usable]

theorem run_forM_updateServer (items : List (Nat × List Process)) :
    ((∀ item ∈ items, sib.Usable item) ∧
        (items.forM updateServer).run sib = .ok ⟨⟩ (sib.afterTurns items)) ∨
      ((¬ ∀ item ∈ items, sib.Usable item) ∧
        ∃ e s', (items.forM updateServer).run sib = .error e s') := by
  induction items generalizing sib with
  | nil => exact Or.inl ⟨by simp, rfl⟩
  | cons item items ih =>
    simp only [List.forall_mem_cons]
    by_cases hitem : sib.Usable item
    · have hrun := run_updateServer_ok hitem
      rcases ih (sib.afterTurn item) with ⟨husable, hrest⟩ | ⟨hnot, e, s', hrest⟩
      · simp only [usable_afterTurn] at husable
        exact Or.inl ⟨⟨hitem, husable⟩, (PyM.run_bind_ok hrun _).trans hrest⟩
      · simp only [usable_afterTurn] at hnot
        exact Or.inr ⟨fun h => hnot h.2, e, s', (PyM.run_bind_ok hrun _).trans hrest⟩
    · obtain ⟨e, s', hrun⟩ := run_updateServer_error hitem
      exact Or.inr ⟨fun h => hitem h.1, e, s', PyM.run_bind_error hrun _⟩

end ServerBase

theorem run_updateServerResource {sib : ServerBase} (h : sib.Ready) :
    updateServerResource.run sib = .ok ⟨⟩ sib.updated := by
  rcases sib.run_forM_updateServer sib.serverProcesses.items with hrun | hrun
  · exact hrun.2
  · exact absurd h hrun.1

theorem ready_of_run {sib sib' : ServerBase}
    (h : updateServerResource.run sib = .ok ⟨⟩ sib') : sib.Ready := by
  rcases sib.run_forM_updateServer sib.serverProcesses.items with hrun | hrun
  · exact hrun.1
  · obtain ⟨-, e, s', hrun⟩ := hrun
    cases h.symm.trans hrun

end SelfAdaptiveMano.Simulator

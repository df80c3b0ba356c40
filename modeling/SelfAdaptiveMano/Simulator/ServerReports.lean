import SelfAdaptiveMano.Simulator.ServerResources

/-!
# What repeated updates come to

Updates do not change what runs on the servers, so that each of them works out the
same utilization of the cores. But each of them takes the hugepages from the lists
of all hugepages once more: after `n` updates, `n` times what the processes use is
gone.
-/

namespace SelfAdaptiveMano.Simulator

open Library

namespace ServerBase

variable (sib : ServerBase)

/-! ## The processes on a server -/

/-- What runs on a server, if anything was ever put on it. VNFIs on an unknown
server are left out. -/
def processesOn (serverID : Nat) : Option (List Process) :=
  let vnfis := if sib.servers.contains serverID then
    (sib.vnfis.get? serverID).map fun vnfis => vnfis.map VNFIInfo.process else none
  match sib.bgProcesses.get? serverID with
  | some process => some (vnfis.getD [] ++ [process])
  | none => vnfis

theorem get?_serverProcesses (serverID : Nat) :
    sib.serverProcesses.get? serverID = sib.processesOn serverID := by
  rw [serverProcesses]
  dsimp only
  rw [Dict.get?_foldl_items fun _ process processes =>
      some (processes.getD [] ++ [process]),
    Dict.get?_foldl_items fun serverID vnfis processes =>
      if sib.servers.contains serverID then some (vnfis.map VNFIInfo.process)
      else processes]
  · rw [processesOn, Dict.get?_empty]
    cases sib.vnfis.get? serverID <;> cases sib.bgProcesses.get? serverID <;>
      cases sib.servers.contains serverID <;> rfl
  · intro d k v
    dsimp only
    split
    · rw [Dict.get?_set_self]
    · rfl
  · intro d k v k' hne
    dsimp only
    split
    · rw [Dict.get?_set_of_ne _ _ hne]
    · rfl
  · intro d k v
    rw [Dict.get?_set_self]
  · intro d k v k' hne
    exact Dict.get?_set_of_ne _ _ hne

/-- The background processes are on known servers, and what they take are
numbers. -/
def BackgroundKnown : Prop :=
  ∀ serverID process, sib.bgProcesses.get? serverID = some process →
    sib.servers.contains serverID = true ∧ process.IsNumber

theorem isNumber_of_vnfi (vnfi : VNFIInfo) : vnfi.process.IsNumber := ⟨trivial, trivial⟩

theorem mem_serverProcesses_iff {serverID : Nat} {processes : List Process} :
    (serverID, processes) ∈ sib.serverProcesses.items ↔
      sib.processesOn serverID = some processes := by
  rw [Dict.mem_items_iff, get?_serverProcesses]

theorem ready_iff : sib.Ready ↔ sib.BackgroundKnown := by
  constructor
  · intro h serverID process hprocess
    obtain ⟨processes, hprocesses⟩ : ∃ processes, sib.processesOn serverID =
        some (processes ++ [process]) := by
      rw [processesOn, hprocess]
      exact ⟨_, rfl⟩
    have husable := h _ (sib.mem_serverProcesses_iff.mpr hprocesses)
    exact ⟨husable.1, husable.2 process (by simp)⟩
  · rintro h ⟨serverID, processes⟩ hmem
    rw [mem_serverProcesses_iff, processesOn] at hmem
    cases hprocess : sib.bgProcesses.get? serverID with
    | some process =>
      obtain ⟨hknown, hnumber⟩ := h serverID process hprocess
      rw [hprocess] at hmem
      obtain rfl := Option.some.inj hmem
      refine ⟨hknown, ?_⟩
      intro other hother
      rcases List.mem_append.mp hother with hother | hother
      · rw [hknown, if_pos rfl] at hother
        cases hvnfis : sib.vnfis.get? serverID with
        | none =>
          rw [hvnfis] at hother
          cases hother
        | some vnfis =>
          rw [hvnfis] at hother
          obtain ⟨vnfi, -, rfl⟩ := List.mem_map.mp hother
          exact isNumber_of_vnfi vnfi
      · obtain rfl := List.mem_singleton.mp hother
        exact hnumber
    | none =>
      rw [hprocess] at hmem
      dsimp only at hmem
      split at hmem
      case isTrue hknown =>
        obtain ⟨vnfis, -, rfl⟩ := Option.map_eq_some_iff.mp hmem
        refine ⟨hknown, ?_⟩
        intro other hother
        obtain ⟨vnfi, -, rfl⟩ := List.mem_map.mp hother
        exact isNumber_of_vnfi vnfi
      case isFalse => cases hmem

/-! ## The lists and the servers after an update -/

def taken (item : Nat × List Process) (list : ListID) : Nat :=
  match sib.servers.get? item.1 with
  | some server => if server.hugepagesTotalNum = list then server.pageUsage item.2 else 0
  | none => 0

def takenBy (items : List (Nat × List Process)) (list : ListID) : Nat :=
  (items.map fun item => sib.taken item list).sum

theorem get?_servers_afterTurn (item : Nat × List Process) (serverID : Nat) :
    (sib.afterTurn item).servers.get? serverID =
      if serverID = item.1 then
        (sib.servers.get? serverID).map fun server => server.refreshed item.2
      else sib.servers.get? serverID := by
  rw [servers_afterTurn, Dict.get?_modify]
  split
  case isTrue h => rw [h]
  case isFalse => rfl

theorem taken_afterTurn (item other : Nat × List Process) :
    (sib.afterTurn item).taken other = sib.taken other := by
  funext list
  rw [taken, taken, get?_servers_afterTurn]
  by_cases h : other.1 = item.1
  · rw [if_pos h]
    cases sib.servers.get? other.1 <;> rfl
  · rw [if_neg h]

theorem lists_afterTurn (item : Nat × List Process) (list : ListID) :
    (sib.afterTurn item).lists list = Drain.drain (sib.lists list) (sib.taken item list) := by
  rw [afterTurn, taken]
  cases sib.servers.get? item.1 with
  | none => exact (Drain.drain_zero _).symm
  | some server =>
    show Function.update sib.lists _ _ list = _
    by_cases h : server.hugepagesTotalNum = list
    · subst h
      simp
    · simp [Function.update_of_ne (Ne.symm h), h]

theorem lists_afterTurns (items : List (Nat × List Process)) (list : ListID) :
    (sib.afterTurns items).lists list =
      Drain.drain (sib.lists list) (sib.takenBy items list) := by
  induction items generalizing sib with
  | nil => exact (Drain.drain_zero _).symm
  | cons item items ih =>
    have htaken : (sib.afterTurn item).takenBy items list = sib.takenBy items list := by
      simp only [takenBy, taken_afterTurn]
    rw [takenBy, List.map_cons, List.sum_cons, ← Drain.drain_drain, ← lists_afterTurn]
    exact (ih (sib.afterTurn item)).trans (congrArg _ htaken)

theorem vnfis_afterTurns (items : List (Nat × List Process)) :
    (sib.afterTurns items).vnfis = sib.vnfis ∧
      (sib.afterTurns items).bgProcesses = sib.bgProcesses ∧
      ∀ serverID, (sib.afterTurns items).servers.contains serverID =
        sib.servers.contains serverID := by
  induction items generalizing sib with
  | nil => exact ⟨rfl, rfl, fun serverID => rfl⟩
  | cons item items ih =>
    obtain ⟨hvnfis, hbackground, hknown⟩ := ih (sib.afterTurn item)
    rw [vnfis_afterTurn] at hvnfis
    rw [bgProcesses_afterTurn] at hbackground
    simp only [contains_afterTurn] at hknown
    exact ⟨hvnfis, hbackground, hknown⟩

theorem get?_servers_updated (serverID : Nat) :
    sib.updated.servers.get? serverID =
      match sib.processesOn serverID with
      | some processes =>
          (sib.servers.get? serverID).map fun server => server.refreshed processes
      | none => sib.servers.get? serverID := by
  have hservers : sib.updated.servers = sib.serverProcesses.items.foldl
      (fun servers item => servers.modify item.1 fun server => server.refreshed item.2)
      sib.servers :=
    (List.foldl_hom ServerBase.servers fun s item => (servers_afterTurn s item).symm).symm
  rw [hservers, Dict.get?_foldl_items fun _ processes server =>
    server.map fun server => server.refreshed processes, get?_serverProcesses]
  · cases sib.processesOn serverID <;> rfl
  · intro d k v
    rw [Dict.get?_modify, if_pos rfl]
  · intro d k v k' hne
    rw [Dict.get?_modify, if_neg hne]

theorem serverProcesses_congr {sib sib' : ServerBase} (hvnfis : sib'.vnfis = sib.vnfis)
    (hbackground : sib'.bgProcesses = sib.bgProcesses)
    (hknown : ∀ serverID, sib'.servers.contains serverID =
      sib.servers.contains serverID) :
    sib'.serverProcesses = sib.serverProcesses := by
  unfold serverProcesses
  simp only [hvnfis, hbackground, hknown]

theorem contains_updated (serverID : Nat) :
    sib.updated.servers.contains serverID = sib.servers.contains serverID :=
  (sib.vnfis_afterTurns sib.serverProcesses.items).2.2 serverID

theorem serverProcesses_updated : sib.updated.serverProcesses = sib.serverProcesses := by
  obtain ⟨hvnfis, hbackground, hknown⟩ := sib.vnfis_afterTurns sib.serverProcesses.items
  exact serverProcesses_congr hvnfis hbackground hknown

theorem processesOn_updated (serverID : Nat) :
    sib.updated.processesOn serverID = sib.processesOn serverID := by
  rw [← get?_serverProcesses, serverProcesses_updated, get?_serverProcesses]

theorem ready_updated : sib.updated.Ready ↔ sib.Ready := by
  simp only [Ready, serverProcesses_updated, Usable, contains_updated]

def pagesTaken (list : ListID) : Nat := sib.takenBy sib.serverProcesses.items list

theorem taken_updated (item : Nat × List Process) (list : ListID) :
    sib.updated.taken item list = sib.taken item list := by
  rw [taken, taken, get?_servers_updated]
  cases sib.processesOn item.1 <;> cases sib.servers.get? item.1 <;> rfl

theorem pagesTaken_updated (list : ListID) :
    sib.updated.pagesTaken list = sib.pagesTaken list := by
  simp only [pagesTaken, serverProcesses_updated, takenBy, taken_updated]

theorem lists_updated (list : ListID) :
    sib.updated.lists list = Drain.drain (sib.lists list) (sib.pagesTaken list) :=
  sib.lists_afterTurns sib.serverProcesses.items list

/-! ## Repeated updates -/

def updatedTimes (n : Nat) : ServerBase := updated^[n] sib

theorem updatedTimes_succ (n : Nat) :
    sib.updatedTimes (n + 1) = sib.updated.updatedTimes n := rfl

theorem lists_updatedTimes (n : Nat) (list : ListID) :
    (sib.updatedTimes n).lists list =
      Drain.drain (sib.lists list) (n * sib.pagesTaken list) := by
  induction n generalizing sib with
  | zero =>
    rw [Nat.zero_mul, Drain.drain_zero]
    rfl
  | succ n ih =>
    rw [updatedTimes_succ, ih, pagesTaken_updated, lists_updated, Drain.drain_drain,
      Nat.succ_mul, Nat.add_comm]

theorem get?_servers_updatedTimes (n serverID : Nat) :
    (sib.updatedTimes (n + 1)).servers.get? serverID =
      sib.updated.servers.get? serverID := by
  induction n generalizing sib with
  | zero => rfl
  | succ n ih =>
    rw [updatedTimes_succ, ih, get?_servers_updated, processesOn_updated,
      get?_servers_updated]
    cases sib.processesOn serverID with
    | none => rfl
    | some processes => cases sib.servers.get? serverID <;> rfl

end ServerBase

/-- `updateServerResource`, so many times. -/
def updateTimes : Nat → PyM ServerBase PUnit
  | 0 => pure ⟨⟩
  | n + 1 => do
      updateServerResource
      updateTimes n

theorem run_updateTimes {sib : ServerBase} (h : sib.Ready) (n : Nat) :
    (updateTimes n).run sib = .ok ⟨⟩ (sib.updatedTimes n) := by
  induction n generalizing sib with
  | zero => rfl
  | succ n ih =>
    rw [updateTimes, PyM.run_bind_ok (run_updateServerResource h),
      ih (sib.ready_updated.mpr h)]
    rfl

/-! ## The utilization of the cores -/

section Cores

variable {n : Nat}

/-- The loop breaks off a node; it then does nothing on the next one. -/
theorem fillNUMA_append (cores cores' : List (Fin n)) (s : NNRat × (Fin n → NNRat)) :
    fillNUMA cores' (fillNUMA cores s) = fillNUMA (cores ++ cores') s := by
  induction cores generalizing s with
  | nil => rfl
  | cons core cores ih =>
    obtain ⟨cpu, utilization⟩ := s
    by_cases hcpu : cpu ≤ 0
    · have hstop : ∀ l : List (Fin n), fillNUMA l (cpu, utilization) = (cpu, utilization) := by
        intro l
        cases l with
        | nil => rfl
        | cons core l => rw [fillNUMA, if_pos hcpu]
      rw [hstop, hstop, hstop]
    · rw [fillNUMA, if_neg hcpu, List.cons_append, fillNUMA, if_neg hcpu]
      exact ih _

theorem utilizationFor_eq (server : Server) (cpu : NNRat) :
    server.utilizationFor cpu =
      (fillNUMA server.coreNUMADistribution.flatten (cpu, fun _ => 0)).2 := by
  have hfold : ∀ (nodes : List (List (Fin server.coresNum))) s,
      nodes.foldl (fun s singleCpu => fillNUMA singleCpu s) s =
        fillNUMA nodes.flatten s := by
    intro nodes
    induction nodes with
    | nil => exact fun s => rfl
    | cons singleCpu nodes ih =>
      intro s
      rw [List.foldl_cons, ih, List.flatten_cons, fillNUMA_append]
  rw [Server.utilizationFor, hfold]

theorem fst_fillNUMA (cores : List (Fin n)) (cpu : NNRat) (utilization : Fin n → NNRat) :
    (fillNUMA cores (cpu, utilization)).1 = cpu - 100 * cores.length := by
  induction cores generalizing cpu utilization with
  | nil => simp [fillNUMA]
  | cons core cores ih =>
    rw [fillNUMA]
    split
    case isTrue hcpu =>
      rw [nonpos_iff_eq_zero.mp hcpu, zero_tsub]
    case isFalse =>
      rw [ih, tsub_min, tsub_tsub, List.length_cons]
      push_cast
      ring_nf

/-- No part of the amount gets lost. -/
theorem sum_fillNUMA {cores : List (Fin n)} (hnodup : cores.Nodup) (cpu : NNRat)
    {utilization : Fin n → NNRat} (hfree : ∀ core ∈ cores, utilization core = 0) :
    (fillNUMA cores (cpu, utilization)).1 +
        ∑ core, (fillNUMA cores (cpu, utilization)).2 core =
      cpu + ∑ core, utilization core := by
  induction cores generalizing cpu utilization with
  | nil => rfl
  | cons core cores ih =>
    rw [List.nodup_cons] at hnodup
    rw [List.forall_mem_cons] at hfree
    rw [fillNUMA]
    split
    case isTrue => rfl
    case isFalse =>
      rw [ih hnodup.2]
      · have hadd := Fintype.sum_eq_add_sum_compl core utilization
        have hadd' := Fintype.sum_eq_add_sum_compl core
          (Function.update utilization core (min cpu 100))
        have hsame : ∑ other ∈ {core}ᶜ, Function.update utilization core (min cpu 100) other =
            ∑ other ∈ {core}ᶜ, utilization other := by
          apply Finset.sum_congr rfl
          intro other hother
          rw [Function.update_of_ne (by simpa using hother)]
        rw [hadd', hsame, Function.update_self, hadd, hfree.1, zero_add, ← add_assoc,
          tsub_add_cancel_of_le (min_le_left cpu 100)]
      · intro other hother
        rw [Function.update_of_ne]
        · exact hfree.2 other hother
        · rintro rfl
          exact hnodup.1 hother

theorem sum_utilizationFor (server : Server) (cpu : NNRat) :
    ∑ core, server.utilizationFor cpu core =
      min cpu (100 * server.coreNUMADistribution.flatten.length) := by
  have hfree : ∀ core ∈ server.coreNUMADistribution.flatten,
      (fun _ : Fin server.coresNum => (0 : NNRat)) core = 0 := fun core _ => rfl
  have hsum := sum_fillNUMA server.nodup_cores cpu hfree
  rw [fst_fillNUMA, ← utilizationFor_eq, Finset.sum_const_zero, add_zero] at hsum
  rcases le_total cpu (100 * server.coreNUMADistribution.flatten.length) with h | h
  · rw [min_eq_left h]
    rwa [tsub_eq_zero_of_le h, zero_add] at hsum
  · rw [min_eq_right h]
    apply add_left_cancel (a := cpu - 100 * server.coreNUMADistribution.flatten.length)
    rw [hsum, tsub_add_cancel_of_le h]

end Cores

/-! ## The figures -/

/-- The figures of a server: its free hugepages and all of them on each NUMA node,
and the utilization of its cores. -/
structure Figures where
  free : List Nat
  total : List Nat
  utilization : List NNRat
  deriving DecidableEq

namespace ServerBase

variable (sib : ServerBase)

def figures (server : Server) : Figures where
  free := sib.lists server.hugepagesFreeNum
  total := sib.lists server.hugepagesTotalNum
  utilization := List.ofFn server.coreUtilization

/-- What is free is what there is, less what the processes on the server use. -/
def Accounts (serverID : Nat) (server : Server) (figures : Figures) : Prop :=
  let processes := (sib.processesOn serverID).getD []
  figures.free.sum = figures.total.sum - server.pageUsage processes ∧
    figures.utilization.sum =
      min (processes.map fun process => process.cpu.value).sum
        (100 * server.coreNUMADistribution.flatten.length)

/-- However often the update is made, the figures are those after the first one,
account for what is used, and leave the capacity as it is. -/
def Steady : Prop :=
  ∀ n, ∃ once many, updateServerResource.run sib = .ok ⟨⟩ once ∧
    (updateTimes (n + 1)).run sib = .ok ⟨⟩ many ∧
    ∀ serverID server, sib.servers.get? serverID = some server →
      ∃ server₁ serverₙ, once.servers.get? serverID = some server₁ ∧
        many.servers.get? serverID = some serverₙ ∧
        many.figures serverₙ = once.figures server₁ ∧
        sib.Accounts serverID server (many.figures serverₙ) ∧
        (many.figures serverₙ).total = (sib.figures server).total

/-- The processes on a server take no hugepage, or there is none to take; and a
server that no process was ever put on has figures to match. -/
structure Settled : Prop where
  background : sib.BackgroundKnown
  busy : ∀ serverID server processes, sib.servers.get? serverID = some server →
    sib.processesOn serverID = some processes →
    server.pageUsage processes = 0 ∨ (sib.lists server.hugepagesTotalNum).sum = 0
  idle : ∀ serverID server, sib.servers.get? serverID = some server →
    sib.processesOn serverID = none →
    (sib.lists server.hugepagesFreeNum).sum = (sib.lists server.hugepagesTotalNum).sum ∧
      ∑ core, server.coreUtilization core = 0

variable {sib}

theorem pageUsage_le_pagesTaken {serverID : Nat} {server : Server}
    {processes : List Process} (hserver : sib.servers.get? serverID = some server)
    (hprocesses : sib.processesOn serverID = some processes) :
    server.pageUsage processes ≤ sib.pagesTaken server.hugepagesTotalNum := by
  have hmem := sib.mem_serverProcesses_iff.mpr hprocesses
  have htaken : sib.taken (serverID, processes) server.hugepagesTotalNum =
      server.pageUsage processes := by
    rw [taken, hserver]
    exact if_pos rfl
  rw [← htaken]
  exact List.single_le_sum (fun _ _ => Nat.zero_le _) _
    (List.mem_map_of_mem (f := fun item => sib.taken item server.hugepagesTotalNum) hmem)

theorem exists_of_pagesTaken {list : ListID} (h : sib.pagesTaken list ≠ 0) :
    ∃ serverID server processes, sib.servers.get? serverID = some server ∧
      sib.processesOn serverID = some processes ∧
      server.hugepagesTotalNum = list ∧ server.pageUsage processes ≠ 0 := by
  by_contra hnone
  apply h
  rw [pagesTaken, takenBy, List.sum_eq_zero_iff]
  intro pages hpages
  obtain ⟨⟨serverID, processes⟩, hmem, rfl⟩ := List.mem_map.mp hpages
  rw [taken]
  split
  case h_1 server hserver =>
    split
    case isTrue hlist =>
      by_contra husage
      exact hnone ⟨serverID, server, processes, hserver,
        sib.mem_serverProcesses_iff.mp hmem, hlist, husage⟩
    case isFalse => rfl
  case h_2 => rfl

theorem lists_updatedTimes_of_busy
    (hbusy : ∀ serverID server processes, sib.servers.get? serverID = some server →
      sib.processesOn serverID = some processes →
      server.pageUsage processes = 0 ∨ (sib.lists server.hugepagesTotalNum).sum = 0)
    (n : Nat) : (sib.updatedTimes n).lists = sib.lists := by
  funext list
  rw [lists_updatedTimes, Drain.drain_eq_self_iff, Nat.mul_eq_zero]
  by_cases htaken : sib.pagesTaken list = 0
  · exact Or.inl (Or.inr htaken)
  · obtain ⟨serverID, server, processes, hserver, hprocesses, rfl, husage⟩ :=
      exists_of_pagesTaken htaken
    exact Or.inr ((hbusy serverID server processes hserver hprocesses).resolve_left husage)

def serverAfter (sib : ServerBase) (serverID : Nat) (server : Server) : Server :=
  match sib.processesOn serverID with
  | some processes => server.refreshed processes
  | none => server

theorem get?_updated_of_get? {serverID : Nat} {server : Server}
    (hserver : sib.servers.get? serverID = some server) :
    sib.updated.servers.get? serverID = some (sib.serverAfter serverID server) := by
  rw [get?_servers_updated, serverAfter, hserver]
  cases sib.processesOn serverID <;> rfl

theorem hugepagesTotalNum_serverAfter (serverID : Nat) (server : Server) :
    (sib.serverAfter serverID server).hugepagesTotalNum = server.hugepagesTotalNum := by
  rw [serverAfter]
  cases sib.processesOn serverID <;> rfl

/-- Where the lists are as before, the figures account for what is used just when
the server is settled. -/
theorem accounts_iff {after : ServerBase} (hlists : after.lists = sib.lists)
    (serverID : Nat) (server : Server) :
    sib.Accounts serverID server (after.figures (sib.serverAfter serverID server)) ↔
      match sib.processesOn serverID with
      | some processes => server.pageUsage processes = 0 ∨
          (sib.lists server.hugepagesTotalNum).sum = 0
      | none => (sib.lists server.hugepagesFreeNum).sum =
            (sib.lists server.hugepagesTotalNum).sum ∧
          ∑ core, server.coreUtilization core = 0 := by
  rw [Accounts, figures, hlists, hugepagesTotalNum_serverAfter, serverAfter]
  cases sib.processesOn serverID with
  | some processes =>
    have hcores : (List.ofFn (server.refreshed processes).coreUtilization).sum =
        min (processes.map fun process => process.cpu.value).sum
          (100 * server.coreNUMADistribution.flatten.length) := by
      rw [List.sum_ofFn]
      exact sum_utilizationFor server _
    simp only [Option.getD_some, Server.hugepagesFreeNum_refreshed, hcores, and_true]
    omega
  | none =>
    simp only [Option.getD_none, List.map_nil, List.sum_nil, List.sum_ofFn, zero_le,
      min_eq_left, Server.pageUsage, Nat.sub_zero]

theorem steady_of_settled (h : sib.Settled) : sib.Steady := by
  intro n
  have hready := sib.ready_iff.mpr h.background
  refine ⟨sib.updated, sib.updatedTimes (n + 1), run_updateServerResource hready,
    run_updateTimes hready (n + 1), ?_⟩
  intro serverID server hserver
  have honce : sib.updated.lists = sib.lists := lists_updatedTimes_of_busy h.busy 1
  have hmany := lists_updatedTimes_of_busy h.busy (n + 1)
  refine ⟨_, _, get?_updated_of_get? hserver,
    (sib.get?_servers_updatedTimes n serverID).trans (get?_updated_of_get? hserver),
    ?_, ?_, ?_⟩
  · simp only [figures, honce, hmany]
  · rw [accounts_iff hmany]
    cases hprocesses : sib.processesOn serverID with
    | some processes => exact h.busy serverID server processes hserver hprocesses
    | none => exact h.idle serverID server hserver hprocesses
  · simp only [figures, hmany, hugepagesTotalNum_serverAfter]

theorem settled_of_steady (h : sib.Steady) : sib.Settled := by
  obtain ⟨once, many, hrun, hruns, hfigures⟩ := h 0
  have hready := ready_of_run hrun
  obtain rfl : sib.updated = many := by
    have hruns' := run_updateTimes hready 1
    rw [hruns] at hruns'
    cases hruns'
    rfl
  have hafter : ∀ serverID server, sib.servers.get? serverID = some server →
      sib.Accounts serverID server
          (sib.updated.figures (sib.serverAfter serverID server)) ∧
        sib.updated.lists server.hugepagesTotalNum =
          sib.lists server.hugepagesTotalNum := by
    intro serverID server hserver
    obtain ⟨-, server', -, hserver', -, haccounts, htotal⟩ :=
      hfigures serverID server hserver
    obtain rfl := Option.some.inj ((get?_updated_of_get? hserver).symm.trans hserver')
    simp only [figures, hugepagesTotalNum_serverAfter] at htotal
    exact ⟨haccounts, htotal⟩
  have hbusy : ∀ serverID server processes, sib.servers.get? serverID = some server →
      sib.processesOn serverID = some processes →
      server.pageUsage processes = 0 ∨ (sib.lists server.hugepagesTotalNum).sum = 0 := by
    intro serverID server processes hserver hprocesses
    have htotal := (hafter serverID server hserver).2
    rw [lists_updated, Drain.drain_eq_self_iff] at htotal
    have hle := pageUsage_le_pagesTaken hserver hprocesses
    exact htotal.imp_left fun hzero => by omega
  refine ⟨sib.ready_iff.mp hready, hbusy, ?_⟩
  intro serverID server hserver hprocesses
  have honce : sib.updated.lists = sib.lists := lists_updatedTimes_of_busy hbusy 1
  have haccounts := (accounts_iff honce serverID server).mp (hafter serverID server hserver).1
  rw [hprocesses] at haccounts
  exact haccounts

/-- Repeated updates are steady just when nothing is there for them to take. -/
theorem steady_iff (sib : ServerBase) : sib.Steady ↔ sib.Settled :=
  ⟨settled_of_steady, steady_of_settled⟩

def twoNodes : Server where
  coresNum := 2
  coreNUMADistribution := [[0], [1]]
  nodup_cores := by decide
  coreUtilization := fun _ => 0
  hugepagesTotalNum := 0
  hugepagesFreeNum := 1
  sizePerHugepage := 1048576
  sizePerHugepage_pos := by decide

def oneVNFI : ServerBase where
  lists := fun _ => [256, 256]
  servers := Dict.empty.set 10001 twoNodes
  vnfis := Dict.empty.set 10001 [⟨1, 0, ⟨4, .server 10001, 1, 1024, none⟩, 1, 1024⟩]
  bgProcesses := .empty

/-- Each update takes a page more. -/
theorem not_steady_oneVNFI : ¬ ∀ sib : ServerBase, sib.Steady := by
  intro h
  have hbusy := (settled_of_steady (h oneVNFI)).busy 10001 twoNodes _ rfl rfl
  rcases hbusy with hpages | hsum
  · have hone : twoNodes.pages 1024 = 1 := by
      norm_num [Server.pages, twoNodes]
    have hpages' : twoNodes.pages 1024 + 0 = 0 := hpages
    omega
  · cases hsum

end ServerBase

end SelfAdaptiveMano.Simulator

import SelfAdaptiveMano.Library.Ledger
import SelfAdaptiveMano.Mapping.Reservations

/-!
# What is reserved of servers, switches and links

The maintainers of the information base keep three ledgers. Reserving and
releasing are written three times: for switches and links they do what they are
meant to, for servers a release looks for the server in the wrong dictionary,
that of the zones, and always raises.
-/

namespace SelfAdaptiveMano.Mapping.Resources

instance : Add Resources := ⟨add⟩
instance : Zero Resources := ⟨zero⟩
instance : Sub Resources := ⟨sub⟩
instance : Neg Resources := ⟨fun a => ⟨-a.cores, -a.memory, -a.bandwidth⟩⟩

theorem eq_of_parts {a b : Resources} (hcores : a.cores = b.cores)
    (hmemory : a.memory = b.memory) (hbandwidth : a.bandwidth = b.bandwidth) :
    a = b := by
  cases a
  cases b
  simp_all

instance : AddCommGroup Resources where
  add_assoc := add_add
  zero_add _ := eq_of_parts (zero_add _) (zero_add _) (zero_add _)
  add_zero := add_zero
  neg_add_cancel _ :=
    eq_of_parts (neg_add_cancel _) (neg_add_cancel _) (neg_add_cancel _)
  add_comm _ _ := eq_of_parts (add_comm ..) (add_comm ..) (add_comm ..)
  sub_eq_add_neg _ _ :=
    eq_of_parts (sub_eq_add_neg ..) (sub_eq_add_neg ..) (sub_eq_add_neg ..)
  nsmul := nsmulRec
  zsmul := zsmulRec

end SelfAdaptiveMano.Mapping.Resources

namespace SelfAdaptiveMano.Measurement

open Library Mapping

/-- The ledgers of `ServerInfoBaseMaintainer`, `SwitchInfoBaseMaintainer` and
`LinkInfoBaseMaintainer`. A server should be known by its number; what it is
known by is up to the caller. -/
structure ReservedResources (κ : Type) where
  serversReservedResources : Ledger Zone κ Resources
  switchesReservedResources : Ledger Zone Nat Int
  linksReservedResources : Ledger Zone (Nat × Nat) ℚ

namespace ReservedResources

variable {κ : Type} [DecidableEq κ]

def empty : ReservedResources κ := ⟨.empty, .empty, .empty⟩

def setServers (ledger : Ledger Zone κ Resources) (s : ReservedResources κ) :
    ReservedResources κ :=
  { s with serversReservedResources := ledger }

def setSwitches (ledger : Ledger Zone Nat Int) (s : ReservedResources κ) :
    ReservedResources κ :=
  { s with switchesReservedResources := ledger }

def setLinks (ledger : Ledger Zone (Nat × Nat) ℚ) (s : ReservedResources κ) :
    ReservedResources κ :=
  { s with linksReservedResources := ledger }

def reserveServerResources (serverID : κ) (reserved : Resources)
    (zoneName : Zone) : PyM (ReservedResources κ) Unit :=
  modify fun s => s.setServers
    (s.serversReservedResources.reserve zoneName serverID reserved)

def releaseServerResources (serverID : Nat) (_release : Resources)
    (zoneName : Zone) : PyM (ReservedResources Nat) Unit := do
  modify fun s => s.setServers (s.serversReservedResources.withZone zoneName)
  -- the number is looked for among the names of the zones, and never found
  throw (.valueError s!"Unknown serverID:{serverID}")

def reserveSwitchResource (switchID : Nat) (reservedTcamUsage : Int)
    (zoneName : Zone) : PyM (ReservedResources κ) Unit :=
  modify fun s => s.setSwitches
    (s.switchesReservedResources.reserve zoneName switchID reservedTcamUsage)

def releaseSwitchResource (switchID : Nat) (releaseTcamUsage : Int)
    (zoneName : Zone) : PyM (ReservedResources κ) Unit :=
  PyM.zoom switchesReservedResources setSwitches
    (Ledger.release (.valueError s!"Unknown switchID:{switchID}") zoneName
      switchID releaseTcamUsage)

def reserveLinkResource (srcID dstID : Nat) (reservedBandwidth : ℚ)
    (zoneName : Zone) : PyM (ReservedResources κ) Unit :=
  modify fun s => s.setLinks
    (s.linksReservedResources.reserve zoneName (srcID, dstID) reservedBandwidth)

def releaseLinkResource (srcID dstID : Nat) (releaseBandwidth : ℚ)
    (zoneName : Zone) : PyM (ReservedResources κ) Unit :=
  PyM.zoom linksReservedResources setLinks
    (Ledger.release (.valueError s!"Unknown linkKey:({srcID}, {dstID})")
      zoneName (srcID, dstID) releaseBandwidth)

end ReservedResources

open ReservedResources

/-- A call of one of the maintainers. -/
inductive Operation where
  | reserveServer (serverID : Nat) (amount : Resources) (zoneName : Zone)
  | releaseServer (serverID : Nat) (amount : Resources) (zoneName : Zone)
  | reserveSwitch (switchID : Nat) (amount : Int) (zoneName : Zone)
  | releaseSwitch (switchID : Nat) (amount : Int) (zoneName : Zone)
  | reserveLink (linkID : Nat × Nat) (amount : ℚ) (zoneName : Zone)
  | releaseLink (linkID : Nat × Nat) (amount : ℚ) (zoneName : Zone)
  deriving DecidableEq

namespace Operation

def perform : Operation → PyM (ReservedResources Nat) Unit
  | .reserveServer serverID amount zoneName =>
      reserveServerResources serverID amount zoneName
  | .releaseServer serverID amount zoneName =>
      releaseServerResources serverID amount zoneName
  | .reserveSwitch switchID amount zoneName =>
      reserveSwitchResource switchID amount zoneName
  | .releaseSwitch switchID amount zoneName =>
      releaseSwitchResource switchID amount zoneName
  | .reserveLink linkID amount zoneName =>
      reserveLinkResource linkID.1 linkID.2 amount zoneName
  | .releaseLink linkID amount zoneName =>
      releaseLinkResource linkID.1 linkID.2 amount zoneName

def reservation : Operation → Option Operation
  | .releaseServer serverID amount zoneName =>
      some (.reserveServer serverID amount zoneName)
  | .releaseSwitch switchID amount zoneName =>
      some (.reserveSwitch switchID amount zoneName)
  | .releaseLink linkID amount zoneName =>
      some (.reserveLink linkID amount zoneName)
  | _ => none

def ReleasesServer : Operation → Prop
  | .releaseServer .. => True
  | _ => False

def serverAmount (zoneName : Zone) (serverID : Nat) :
    Operation → Option Resources
  | .reserveServer serverID' amount zoneName' =>
      if zoneName = zoneName' ∧ serverID = serverID' then some amount else none
  | .releaseServer serverID' amount zoneName' =>
      if zoneName = zoneName' ∧ serverID = serverID' then some (-amount)
      else none
  | _ => none

def switchAmount (zoneName : Zone) (switchID : Nat) : Operation → Option Int
  | .reserveSwitch switchID' amount zoneName' =>
      if zoneName = zoneName' ∧ switchID = switchID' then some amount else none
  | .releaseSwitch switchID' amount zoneName' =>
      if zoneName = zoneName' ∧ switchID = switchID' then some (-amount)
      else none
  | _ => none

def linkAmount (zoneName : Zone) (linkID : Nat × Nat) : Operation → Option ℚ
  | .reserveLink linkID' amount zoneName' =>
      if zoneName = zoneName' ∧ linkID = linkID' then some amount else none
  | .releaseLink linkID' amount zoneName' =>
      if zoneName = zoneName' ∧ linkID = linkID' then some (-amount) else none
  | _ => none

end Operation

open Operation

def ReleasesFollow (ops : List Operation) : Prop :=
  ∀ done op rest, ops = done ++ op :: rest →
    ∀ reserve ∈ op.reservation, reserve ∈ done

/-- Each element has the sum of its reservations minus its releases, and no entry
when there are none. -/
structure Recorded (ops : List Operation) (s : ReservedResources Nat) : Prop where
  servers : s.serversReservedResources.Records fun zoneName serverID =>
    ops.filterMap (serverAmount zoneName serverID)
  switches : s.switchesReservedResources.Records fun zoneName switchID =>
    ops.filterMap (switchAmount zoneName switchID)
  links : s.linksReservedResources.Records fun zoneName linkID =>
    ops.filterMap (linkAmount zoneName linkID)

def KeepsAccounts (ops : List Operation) : Prop :=
  ∃ s, (ops.forM perform).run .empty = .ok ⟨⟩ s ∧ Recorded ops s

variable {ops done : List Operation} {op : Operation} {s : ReservedResources Nat}

section Steps

variable {κ ν : Type} [DecidableEq κ] [AddCommGroup ν]
  {amount : Zone → κ → Operation → Option ν} {ledger ledger' : Ledger Zone κ ν}

theorem records_concat_of_none
    (h : ledger.Records fun zoneName k => done.filterMap (amount zoneName k))
    (hnone : ∀ zoneName k, amount zoneName k op = none) :
    ledger.Records fun zoneName k =>
      (done ++ [op]).filterMap (amount zoneName k) := by
  refine h.congr fun zoneName k => ?_
  rw [List.filterMap_append, List.filterMap_cons_none (hnone zoneName k),
    List.filterMap_nil, List.append_nil]

theorem records_concat {zoneName : Zone} {k : κ} {v : ν}
    (h : ledger.Records fun zoneName k => done.filterMap (amount zoneName k))
    (hamount : ∀ zoneName' k', amount zoneName' k' op =
      if zoneName' = zoneName ∧ k' = k then some v else none)
    (hentry : ∀ zoneName' k', ledger'.entry zoneName' k' =
      if zoneName' = zoneName ∧ k' = k then
        some ((ledger.entry zoneName k).getD 0 + v)
      else ledger.entry zoneName' k') :
    ledger'.Records fun zoneName k =>
      (done ++ [op]).filterMap (amount zoneName k) := by
  refine h.of_entry ?_ (fun zoneName' k' hne => ?_) hentry
  · rw [List.filterMap_append, List.filterMap_cons_some
      ((hamount zoneName k).trans (if_pos ⟨rfl, rfl⟩)), List.filterMap_nil]
  · rw [List.filterMap_append, List.filterMap_cons_none
      ((hamount zoneName' k').trans (if_neg hne)), List.filterMap_nil,
      List.append_nil]

theorem entry_of_mem {zoneName : Zone} {k : κ} {v : ν}
    (h : ledger.Records fun zoneName k => done.filterMap (amount zoneName k))
    (hmem : op ∈ done) (hamount : amount zoneName k op = some v) :
    ∃ old, ledger.entry zoneName k = some old := by
  have hv : v ∈ done.filterMap (amount zoneName k) :=
    List.mem_filterMap.mpr ⟨op, hmem, hamount⟩
  have hne : ¬ (done.filterMap (amount zoneName k)).isEmpty = true := by
    rw [List.isEmpty_iff]
    exact List.ne_nil_of_mem hv
  exact ⟨_, (h zoneName k).trans (if_neg hne)⟩

end Steps

theorem perform_spec (h : Recorded done s) (hop : ¬ op.ReleasesServer)
    (hmatched : ∀ reserve ∈ op.reservation, reserve ∈ done) :
    ∃ s', op.perform.run s = .ok ⟨⟩ s' ∧ Recorded (done ++ [op]) s' := by
  cases op with
  | reserveServer serverID amount zoneName =>
      refine ⟨_, rfl, ?_, ?_, ?_⟩
      · exact records_concat h.servers (fun _ _ => rfl) Ledger.entry_reserve
      · exact records_concat_of_none h.switches fun _ _ => rfl
      · exact records_concat_of_none h.links fun _ _ => rfl
  | releaseServer serverID amount zoneName => exact absurd trivial hop
  | reserveSwitch switchID amount zoneName =>
      refine ⟨_, rfl, ?_, ?_, ?_⟩
      · exact records_concat_of_none h.servers fun _ _ => rfl
      · exact records_concat h.switches (fun _ _ => rfl) Ledger.entry_reserve
      · exact records_concat_of_none h.links fun _ _ => rfl
  | releaseSwitch switchID amount zoneName =>
      obtain ⟨old, hold⟩ := entry_of_mem h.switches (hmatched _ rfl)
        (if_pos ⟨rfl, rfl⟩)
      obtain ⟨ledger, hrun, hentry⟩ := Ledger.run_release
        (.valueError s!"Unknown switchID:{switchID}") hold
      refine ⟨_, PyM.run_zoom_ok hrun, ?_, ?_, ?_⟩
      · exact records_concat_of_none h.servers fun _ _ => rfl
      · refine records_concat h.switches (fun _ _ => rfl) ?_
        rw [hold, Option.getD_some, ← sub_eq_add_neg]
        exact hentry
      · exact records_concat_of_none h.links fun _ _ => rfl
  | reserveLink linkID amount zoneName =>
      refine ⟨_, rfl, ?_, ?_, ?_⟩
      · exact records_concat_of_none h.servers fun _ _ => rfl
      · exact records_concat_of_none h.switches fun _ _ => rfl
      · exact records_concat h.links (fun _ _ => rfl) Ledger.entry_reserve
  | releaseLink linkID amount zoneName =>
      obtain ⟨old, hold⟩ := entry_of_mem h.links (hmatched _ rfl)
        (if_pos ⟨rfl, rfl⟩)
      obtain ⟨ledger, hrun, hentry⟩ := Ledger.run_release
        (.valueError s!"Unknown linkKey:({linkID.1}, {linkID.2})") hold
      refine ⟨_, PyM.run_zoom_ok hrun, ?_, ?_, ?_⟩
      · exact records_concat_of_none h.servers fun _ _ => rfl
      · exact records_concat_of_none h.switches fun _ _ => rfl
      · refine records_concat h.links (fun _ _ => rfl) ?_
        rw [hold, Option.getD_some, ← sub_eq_add_neg]
        exact hentry

theorem recorded_empty : Recorded [] .empty :=
  ⟨Ledger.records_empty, Ledger.records_empty, Ledger.records_empty⟩

/-- A sequence of operations ends with the right records, or it raises at the
first release of a server. -/
theorem run_perform (hmatched : ReleasesFollow ops) :
    (∃ s, (ops.forM perform).run .empty = .ok ⟨⟩ s ∧
        (∀ op ∈ ops, ¬ op.ReleasesServer) ∧ Recorded ops s) ∨
      ((∃ op ∈ ops, op.ReleasesServer) ∧
        ∃ e s, (ops.forM perform).run .empty = .error e s) := by
  refine PyM.run_forM_or recorded_empty fun done op rest s hops hrecorded => ?_
  by_cases hop : op.ReleasesServer
  · refine Or.inr ⟨hop, ?_⟩
    cases op with
    | releaseServer serverID amount zoneName => exact ⟨_, _, rfl⟩
    | _ => exact absurd hop id
  · obtain ⟨s', hrun, hrecorded'⟩ :=
      perform_spec hrecorded hop (hmatched done op rest hops)
    exact Or.inl ⟨s', hrun, hop, hrecorded'⟩

theorem not_keepsAccounts (hmatched : ReleasesFollow ops) (hmem : op ∈ ops)
    (hop : op.ReleasesServer) : ¬ KeepsAccounts ops := by
  rintro ⟨s, hrun, -⟩
  obtain ⟨_, -, hgood, -⟩ | ⟨-, e, s', hrun'⟩ := run_perform hmatched
  · exact hgood op hmem hop
  · cases hrun'.symm.trans hrun

/-- The accounts are kept exactly by the sequences that release no server. -/
theorem keepsAccounts_iff (hmatched : ReleasesFollow ops) :
    KeepsAccounts ops ↔ ∀ op ∈ ops, ¬ op.ReleasesServer := by
  constructor
  · exact fun hkeeps op hmem hop => not_keepsAccounts hmatched hmem hop hkeeps
  · intro hgood
    obtain ⟨s, hrun, -, hrecorded⟩ | ⟨⟨op, hmem, hop⟩, -⟩ := run_perform hmatched
    · exact ⟨s, hrun, hrecorded⟩
    · exact absurd hop (hgood op hmem)

theorem releasesFollow_nil : ReleasesFollow [] := by
  intro done op rest hops
  simp at hops

theorem ReleasesFollow.concat (h : ReleasesFollow ops)
    (hop : ∀ reserve ∈ op.reservation, reserve ∈ ops) :
    ReleasesFollow (ops ++ [op]) := by
  intro done op' rest hops
  obtain rfl | ⟨rest, last, rfl⟩ := List.eq_nil_or_concat rest
  · obtain ⟨rfl, heq⟩ := List.append_inj' hops rfl
    obtain rfl := (List.cons.inj heq).1
    exact hop
  · rw [List.concat_eq_append, ← List.cons_append, ← List.append_assoc] at hops
    exact h done op' rest (List.append_inj' hops rfl).1

def linkReleased : List Operation :=
  [.reserveLink (1, 2) 3 .turbonet, .reserveLink (1, 2) 5 .turbonet,
    .releaseLink (1, 2) 3 .turbonet]

theorem keepsAccounts_iff_linkReleased : KeepsAccounts linkReleased := by
  have hfirst : ReleasesFollow (linkReleased.take 1) :=
    releasesFollow_nil.concat (by simp [reservation])
  have hsecond : ReleasesFollow (linkReleased.take 2) :=
    hfirst.concat (by simp [reservation])
  have hmatched : ReleasesFollow linkReleased :=
    hsecond.concat (by simp [reservation, linkReleased])
  refine (keepsAccounts_iff hmatched).mpr ?_
  simp [linkReleased, ReleasesServer]

def serverReleased : List Operation :=
  [.reserveServer 10001 ⟨1, 1, 1⟩ .turbonet,
    .releaseServer 10001 ⟨1, 1, 1⟩ .turbonet]

/-- The release raises. -/
theorem release_of_server_raises :
    ¬ ∀ ops, ReleasesFollow ops → KeepsAccounts ops := by
  intro h
  have hfirst : ReleasesFollow (serverReleased.take 1) :=
    releasesFollow_nil.concat (by simp [reservation])
  have hmatched : ReleasesFollow serverReleased :=
    hfirst.concat (by simp [reservation, serverReleased])
  have hmem : .releaseServer 10001 ⟨1, 1, 1⟩ .turbonet ∈ serverReleased :=
    List.mem_cons_of_mem _ List.mem_cons_self
  exact not_keepsAccounts hmatched hmem trivial (h serverReleased hmatched)

end SelfAdaptiveMano.Measurement

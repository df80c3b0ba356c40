import SelfAdaptiveMano.Mapping.InfoBase
import SelfAdaptiveMano.Orchestration.SubZone

/-!
# Pruning the information base

An orchestrator keeps of the topology what belongs to its sub-zone. The links
are looked through, and each of them tells from its ends what is to be deleted:
switches outside the sub-zone, servers at them, and the links of both. What was
found is deleted afterwards.
-/

namespace SelfAdaptiveMano.Mapping.DCNInfoBase

open Library

/-- `del table[zoneName][k]` -/
def delEntry {κ ν : Type} [DecidableEq κ] (zoneName : Zone)
    (table : Dict Zone (Dict κ ν)) (k : κ) :
    Except PyError (Dict Zone (Dict κ ν)) :=
  match table.get? zoneName with
  | none => .error .keyError
  | some entries =>
      if entries.contains k then .ok (table.set zoneName (entries.erase k))
      else .error .keyError

def setServers (dib : DCNInfoBase) (servers : Dict Zone (Dict Nat ServerInfo)) :
    DCNInfoBase :=
  { dib with servers := servers }

def setSwitches (dib : DCNInfoBase)
    (switches : Dict Zone (Dict Nat SwitchInfo)) : DCNInfoBase :=
  { dib with switches := switches }

def setLinks (dib : DCNInfoBase)
    (links : Dict Zone (Dict (Nat × Nat) LinkInfo)) : DCNInfoBase :=
  { dib with links := links }

def delServer (zoneName : Zone) (dib : DCNInfoBase) (serverID : Nat) :
    Except PyError DCNInfoBase :=
  dib.setServers <$> delEntry zoneName dib.servers serverID

def delSwitch (zoneName : Zone) (dib : DCNInfoBase) (switchID : Nat) :
    Except PyError DCNInfoBase :=
  dib.setSwitches <$> delEntry zoneName dib.switches switchID

def delLink (zoneName : Zone) (dib : DCNInfoBase) (linkID : Nat × Nat) :
    Except PyError DCNInfoBase :=
  dib.setLinks <$> delEntry zoneName dib.links linkID

end SelfAdaptiveMano.Mapping.DCNInfoBase

namespace SelfAdaptiveMano.Mapping.DCNInfoBase

open Library

section Entries

variable {κ ν : Type} [DecidableEq κ] {zoneName : Zone}
  {table : Dict Zone (Dict κ ν)}

/-- `table[zoneName][k]`, if it is there. -/
def entry (zoneName : Zone) (table : Dict Zone (Dict κ ν)) (k : κ) : Option ν :=
  (table.get? zoneName).bind fun entries => entries.get? k

theorem delEntry_of_mem {k : κ} (h : entry zoneName table k ≠ none) :
    ∃ table', delEntry zoneName table k = .ok table' ∧ ∀ k' v,
      entry zoneName table' k' = some v ↔
        entry zoneName table k' = some v ∧ k' ≠ k := by
  rw [entry] at h
  cases hentries : table.get? zoneName with
  | none =>
      rw [hentries] at h
      exact absurd rfl h
  | some entries =>
      rw [hentries] at h
      have hcontains : entries.contains k = true :=
        Dict.contains_eq_true_iff.mpr h
      refine ⟨_, by rw [delEntry, hentries]; exact if_pos hcontains, ?_⟩
      intro k' v
      rw [entry, entry, Dict.get?_set_self, hentries, Option.bind_some,
        Option.bind_some, Dict.get?_erase]
      split
      · next heq => simp [heq]
      · next hne => simp [hne]

theorem delEntries_of_mem (zoneName : Zone) (table : Dict Zone (Dict κ ν))
    {l : List κ} (hl : l.Nodup) (h : ∀ k ∈ l, entry zoneName table k ≠ none) :
    ∃ table', l.foldlM (delEntry zoneName) table = .ok table' ∧ ∀ k' v,
      entry zoneName table' k' = some v ↔
        entry zoneName table k' = some v ∧ k' ∉ l := by
  induction l generalizing table with
  | nil => exact ⟨table, rfl, fun k' v => by simp⟩
  | cons k l ih =>
      obtain ⟨hk, hl⟩ := List.nodup_cons.mp hl
      obtain ⟨hhead, hrest⟩ := List.forall_mem_cons.mp h
      obtain ⟨table₁, hdel, hget⟩ := delEntry_of_mem hhead
      have hrest' : ∀ k' ∈ l, entry zoneName table₁ k' ≠ none := by
        intro k' hk'
        obtain ⟨v, hv⟩ := Option.ne_none_iff_exists'.mp (hrest k' hk')
        have hne : k' ≠ k := by
          rintro rfl
          exact hk hk'
        rw [(hget k' v).mpr ⟨hv, hne⟩]
        exact Option.some_ne_none v
      obtain ⟨table₂, hdels, hget'⟩ := ih table₁ hl hrest'
      refine ⟨table₂, ?_, fun k' v => ?_⟩
      · rw [List.foldlM_cons, hdel]
        exact hdels
      · rw [hget', hget, and_assoc, List.mem_cons, not_or]

end Entries

variable {dib : DCNInfoBase} {zoneName : Zone}

theorem serverInfo_eq_entry {serverID : Nat} {info : ServerInfo} :
    dib.serverInfo zoneName serverID = .ok info ↔
      entry zoneName dib.servers serverID = some info := by
  rw [serverInfo, entry]
  split
  · next heq => simp [heq]
  · next heq => simp [heq]

theorem switchInfo_eq_entry {switchID : Nat} {info : SwitchInfo} :
    dib.switchInfo zoneName switchID = .ok info ↔
      entry zoneName dib.switches switchID = some info := by
  rw [switchInfo, entry]
  split
  · next heq => simp [heq]
  · next heq => simp [heq]

theorem linkInfo_eq_entry {linkID : Nat × Nat} {info : LinkInfo} :
    dib.linkInfo zoneName linkID.1 linkID.2 = .ok info ↔
      entry zoneName dib.links linkID = some info := by
  rw [linkInfo, entry]
  split
  · next heq => simp [heq]
  · next heq => simp [heq]

/-! ### Topologies -/

variable (dib zoneName)

def HasServer (serverID : Nat) : Prop :=
  ∃ info, dib.serverInfo zoneName serverID = .ok info

def HasSwitch (switchID : Nat) : Prop :=
  ∃ info, dib.switchInfo zoneName switchID = .ok info

def HasLink (linkID : Nat × Nat) : Prop :=
  ∃ info, dib.linkInfo zoneName linkID.1 linkID.2 = .ok info

def HasNode (nodeID : Nat) : Prop :=
  dib.HasSwitch zoneName nodeID ∨ dib.HasServer zoneName nodeID

def Attached (serverID switchID : Nat) : Prop :=
  dib.HasSwitch zoneName switchID ∧
    (dib.HasLink zoneName (serverID, switchID) ∨
      dib.HasLink zoneName (switchID, serverID))

/-- Each link joins two switches, or a server and a switch; each switch has a
link, and each server is attached to one switch. Servers and switches are told
apart by their identifiers. -/
structure Topology : Prop where
  linksInfo : ∃ linksInfo, dib.links.get? zoneName = some linksInfo
  ends : ∀ linkID, dib.HasLink zoneName linkID →
    (dib.HasSwitch zoneName linkID.1 ∧ dib.HasSwitch zoneName linkID.2) ∨
    (dib.HasServer zoneName linkID.1 ∧ dib.HasSwitch zoneName linkID.2) ∨
    (dib.HasSwitch zoneName linkID.1 ∧ dib.HasServer zoneName linkID.2)
  linked : ∀ switchID, dib.HasSwitch zoneName switchID →
    ∃ linkID, dib.HasLink zoneName linkID ∧
      (switchID = linkID.1 ∨ switchID = linkID.2)
  attached : ∀ serverID, dib.HasServer zoneName serverID →
    ∃! switchID, dib.Attached zoneName serverID switchID
  disjoint : ∀ nodeID, dib.isServerID nodeID = true →
    dib.isSwitchID nodeID = false

end SelfAdaptiveMano.Mapping.DCNInfoBase

namespace SelfAdaptiveMano.Orchestrator

open Library Mapping

/-- What is found to be deleted. -/
structure DelCandidates where
  delServerCandidateDict : Dict Nat Nat
  delSwitchCandidateDict : Dict Nat Nat
  delLinkCandidateDict : Dict (Nat × Nat) Nat

namespace DelCandidates

def empty : DelCandidates := ⟨.empty, .empty, .empty⟩

variable (c : DelCandidates)

def addServer (serverID : Nat) : DelCandidates :=
  { c with delServerCandidateDict := c.delServerCandidateDict.set serverID 1 }

def addSwitch (switchID : Nat) : DelCandidates :=
  { c with delSwitchCandidateDict := c.delSwitchCandidateDict.set switchID 1 }

def addLink (linkID : Nat × Nat) : DelCandidates :=
  { c with delLinkCandidateDict := c.delLinkCandidateDict.set linkID 1 }

end DelCandidates

section Source

variable (topoType : TopoType) {podNum : Nat} (I : PodInterval podNum)
  (dib : DCNInfoBase)

/-- The loop over the ends of a link, each with the other end. It stops at a
server. -/
def examineEnds (linkID : Nat × Nat) :
    List (Nat × Nat) → DelCandidates → Except PyError DelCandidates
  | [], c => .ok c
  | (nodeID, otherID) :: ends, c =>
      if dib.isServerID nodeID then
        if dib.isSwitchID otherID then do
          if ← isSwitchInSubTopologyZone topoType I otherID then return c
          else return ((c.addServer nodeID).addSwitch otherID).addLink linkID
        else examineEnds linkID ends c
      else if dib.isSwitchID nodeID then do
        if ← isSwitchInSubTopologyZone topoType I nodeID then
          examineEnds linkID ends c
        else examineEnds linkID ends ((c.addSwitch nodeID).addLink linkID)
      else examineEnds linkID ends c

def examineLink (c : DelCandidates) (linkID : Nat × Nat) :
    Except PyError DelCandidates :=
  examineEnds topoType I dib linkID
    [(linkID.1, linkID.2), (linkID.2, linkID.1)] c

/-- `_prepareSubZoneSwitchesIdxInfo` knows two types of topologies. -/
def checkTopoType : Except PyError Unit :=
  match topoType with
  | .fatTree => .ok ()
  | .testbedSw1 => .ok ()
  | .other _ => .error (.valueError "Unimplementation topo type")

/-- The loops over what was found. -/
def deleteCandidates (zoneName : Zone) (c : DelCandidates) :
    Except PyError DCNInfoBase := do
  let dib ← c.delServerCandidateDict.keys.foldlM
    (DCNInfoBase.delServer zoneName) dib
  let dib ← c.delSwitchCandidateDict.keys.foldlM
    (DCNInfoBase.delSwitch zoneName) dib
  c.delLinkCandidateDict.keys.foldlM (DCNInfoBase.delLink zoneName) dib

def pruneDib (zoneName : Zone) : Except PyError DCNInfoBase := do
  checkTopoType topoType
  match dib.links.get? zoneName with
  | none => throw .keyError
  | some linksInfo =>
      let c ← linksInfo.keys.foldlM (examineLink topoType I dib) .empty
      deleteCandidates dib zoneName c

end Source

variable {topoType : TopoType} {podNum : Nat} {I : PodInterval podNum}
  {dib dib' : DCNInfoBase} {zoneName : Zone}

/-- What is left of the topology: the switches of the sub-zone, the servers that
are attached to them, and the links whose ends are both left. -/
structure Pruned (topoType : TopoType) (I : PodInterval podNum)
    (zoneName : Zone) (dib dib' : DCNInfoBase) : Prop where
  switches : ∀ switchID info, dib'.switchInfo zoneName switchID = .ok info ↔
    dib.switchInfo zoneName switchID = .ok info ∧
      isSwitchInSubTopologyZone topoType I switchID = .ok true
  servers : ∀ serverID info, dib'.serverInfo zoneName serverID = .ok info ↔
    dib.serverInfo zoneName serverID = .ok info ∧
      ∃ switchID, dib.Attached zoneName serverID switchID ∧
        isSwitchInSubTopologyZone topoType I switchID = .ok true
  links : ∀ (linkID : Nat × Nat) info,
    dib'.linkInfo zoneName linkID.1 linkID.2 = .ok info ↔
      dib.linkInfo zoneName linkID.1 linkID.2 = .ok info ∧
        dib'.HasNode zoneName linkID.1 ∧ dib'.HasNode zoneName linkID.2

/-! ### What a link tells -/

inductive Candidate where
  | server (serverID : Nat)
  | switch (switchID : Nat)
  | link (linkID : Nat × Nat)

namespace DelCandidates

def Has (c : DelCandidates) : Candidate → Prop
  | .server serverID => serverID ∈ c.delServerCandidateDict.keys
  | .switch switchID => switchID ∈ c.delSwitchCandidateDict.keys
  | .link linkID => linkID ∈ c.delLinkCandidateDict.keys

variable {c : DelCandidates} {x : Candidate}

theorem not_has_empty : ¬ empty.Has x := by
  cases x <;> exact List.not_mem_nil

theorem has_addServer {serverID : Nat} :
    (c.addServer serverID).Has x ↔ c.Has x ∨ x = .server serverID := by
  cases x <;> simp [addServer, Has, Dict.mem_keys_set]

theorem has_addSwitch {switchID : Nat} :
    (c.addSwitch switchID).Has x ↔ c.Has x ∨ x = .switch switchID := by
  cases x <;> simp [addSwitch, Has, Dict.mem_keys_set]

theorem has_addLink {linkID : Nat × Nat} :
    (c.addLink linkID).Has x ↔ c.Has x ∨ x = .link linkID := by
  cases x <;> simp [addLink, Has, Dict.mem_keys_set]

end DelCandidates

/-- A switch of the zone that is not in the sub-zone. -/
def Outside (topoType : TopoType) (I : PodInterval podNum) (zoneName : Zone)
    (dib : DCNInfoBase) (switchID : Nat) : Prop :=
  dib.HasSwitch zoneName switchID ∧
    isSwitchInSubTopologyZone topoType I switchID = .ok false

def GivenUp (topoType : TopoType) (I : PodInterval podNum) (zoneName : Zone)
    (dib : DCNInfoBase) (linkID : Nat × Nat) : Candidate → Prop
  | .server serverID => dib.HasServer zoneName serverID ∧
      ((serverID = linkID.1 ∧ Outside topoType I zoneName dib linkID.2) ∨
        (serverID = linkID.2 ∧ Outside topoType I zoneName dib linkID.1))
  | .switch switchID => Outside topoType I zoneName dib switchID ∧
      (switchID = linkID.1 ∨ switchID = linkID.2)
  | .link linkID' => linkID' = linkID ∧
      (Outside topoType I zoneName dib linkID.1 ∨
        Outside topoType I zoneName dib linkID.2)

theorem givenUp_iff {linkID : Nat × Nat} {x : Candidate} :
    GivenUp topoType I zoneName dib linkID x ↔
      (Outside topoType I zoneName dib linkID.1 ∧ (x = .switch linkID.1 ∨
        x = .link linkID ∨ dib.HasServer zoneName linkID.2 ∧ x = .server linkID.2)) ∨
      (Outside topoType I zoneName dib linkID.2 ∧ (x = .switch linkID.2 ∨
        x = .link linkID ∨ dib.HasServer zoneName linkID.1 ∧ x = .server linkID.1)) := by
  cases x with
  | server serverID =>
      simp only [GivenUp, reduceCtorEq, Candidate.server.injEq, false_or]
      constructor
      · rintro ⟨hserver, ⟨rfl, hout⟩ | ⟨rfl, hout⟩⟩
        · exact Or.inr ⟨hout, hserver, rfl⟩
        · exact Or.inl ⟨hout, hserver, rfl⟩
      · rintro (⟨hout, hserver, rfl⟩ | ⟨hout, hserver, rfl⟩)
        · exact ⟨hserver, Or.inr ⟨rfl, hout⟩⟩
        · exact ⟨hserver, Or.inl ⟨rfl, hout⟩⟩
  | switch switchID =>
      simp only [GivenUp, reduceCtorEq, Candidate.switch.injEq, and_false, or_false]
      constructor
      · rintro ⟨hout, rfl | rfl⟩
        · exact Or.inl ⟨hout, rfl⟩
        · exact Or.inr ⟨hout, rfl⟩
      · rintro (⟨hout, rfl⟩ | ⟨hout, rfl⟩)
        · exact ⟨hout, Or.inl rfl⟩
        · exact ⟨hout, Or.inr rfl⟩
  | link linkID' =>
      simp only [GivenUp, reduceCtorEq, Candidate.link.injEq, and_false, or_false,
        false_or]
      rw [← or_and_right, and_comm]

theorem isSwitchInSubTopologyZone_total
    (htype : checkTopoType topoType = .ok ()) (switchID : Nat) :
    isSwitchInSubTopologyZone topoType I switchID = .ok true ∨
      isSwitchInSubTopologyZone topoType I switchID = .ok false := by
  cases topoType with
  | fatTree =>
      rw [isSwitchInSubTopologyZone]
      rw [Except.ok.injEq, Except.ok.injEq]
      exact Bool.eq_false_or_eq_true _
  | testbedSw1 => exact Or.inl rfl
  | other name => cases htype

theorem isServerID_of_hasServer {serverID : Nat}
    (h : dib.HasServer zoneName serverID) : dib.isServerID serverID = true := by
  obtain ⟨info, hinfo⟩ := h
  rw [DCNInfoBase.serverInfo_eq_entry, DCNInfoBase.entry,
    Option.bind_eq_some_iff] at hinfo
  obtain ⟨servers, hservers, hget⟩ := hinfo
  rw [DCNInfoBase.isServerID, List.any_eq_true]
  refine ⟨servers, Dict.mem_values_iff.mpr ⟨zoneName, hservers⟩, ?_⟩
  simp [Dict.contains, hget]

theorem isSwitchID_of_hasSwitch {switchID : Nat}
    (h : dib.HasSwitch zoneName switchID) : dib.isSwitchID switchID = true := by
  obtain ⟨info, hinfo⟩ := h
  rw [DCNInfoBase.switchInfo_eq_entry, DCNInfoBase.entry,
    Option.bind_eq_some_iff] at hinfo
  obtain ⟨switches, hswitches, hget⟩ := hinfo
  rw [DCNInfoBase.isSwitchID, List.any_eq_true]
  refine ⟨switches, Dict.mem_values_iff.mpr ⟨zoneName, hswitches⟩, ?_⟩
  simp [Dict.contains, hget]

theorem not_isServerID_of_hasSwitch (htopo : dib.Topology zoneName)
    {switchID : Nat} (h : dib.HasSwitch zoneName switchID) :
    dib.isServerID switchID = false := by
  cases hserver : dib.isServerID switchID with
  | false => rfl
  | true =>
      have hnot := htopo.disjoint switchID hserver
      rw [isSwitchID_of_hasSwitch h] at hnot
      cases hnot

theorem not_hasSwitch_of_hasServer (htopo : dib.Topology zoneName)
    {serverID : Nat} (h : dib.HasServer zoneName serverID) :
    ¬ dib.HasSwitch zoneName serverID := by
  intro hswitch
  have hnot := not_isServerID_of_hasSwitch htopo hswitch
  rw [isServerID_of_hasServer h] at hnot
  cases hnot

theorem examineEnds_switch (htopo : dib.Topology zoneName)
    (htype : checkTopoType topoType = .ok ()) {linkID : Nat × Nat}
    {nodeID otherID : Nat} (hnode : dib.HasSwitch zoneName nodeID)
    (ends : List (Nat × Nat)) (c : DelCandidates) :
    ∃ c', examineEnds topoType I dib linkID ((nodeID, otherID) :: ends) c =
        examineEnds topoType I dib linkID ends c' ∧ ∀ x,
      c'.Has x ↔ c.Has x ∨ (Outside topoType I zoneName dib nodeID ∧
        (x = .switch nodeID ∨ x = .link linkID)) := by
  rw [examineEnds, not_isServerID_of_hasSwitch htopo hnode,
    isSwitchID_of_hasSwitch hnode]
  obtain hin | hout :=
    isSwitchInSubTopologyZone_total (I := I) htype nodeID
  · refine ⟨c, by rw [hin]; rfl, fun x => ?_⟩
    simp [Outside, hin]
  · refine ⟨(c.addSwitch nodeID).addLink linkID, by rw [hout]; rfl, fun x => ?_⟩
    simp [Outside, hnode, hout, DelCandidates.has_addLink,
      DelCandidates.has_addSwitch, or_assoc]

/-- A server at a switch outside the sub-zone is given up together with the
switch and the link, and the other end is not looked at. -/
theorem examineEnds_server (htype : checkTopoType topoType = .ok ())
    {linkID : Nat × Nat} {nodeID otherID : Nat}
    (hnode : dib.HasServer zoneName nodeID)
    (hother : dib.HasSwitch zoneName otherID) (ends : List (Nat × Nat))
    (c : DelCandidates) :
    ∃ c', examineEnds topoType I dib linkID ((nodeID, otherID) :: ends) c =
        .ok c' ∧ ∀ x,
      c'.Has x ↔ c.Has x ∨ (Outside topoType I zoneName dib otherID ∧
        (x = .server nodeID ∨ x = .switch otherID ∨ x = .link linkID)) := by
  rw [examineEnds, isServerID_of_hasServer hnode, isSwitchID_of_hasSwitch hother]
  obtain hin | hout :=
    isSwitchInSubTopologyZone_total (I := I) htype otherID
  · refine ⟨c, by rw [hin]; rfl, fun x => ?_⟩
    simp [Outside, hin]
  · refine ⟨((c.addServer nodeID).addSwitch otherID).addLink linkID,
      by rw [hout]; rfl, fun x => ?_⟩
    simp [Outside, hother, hout, DelCandidates.has_addLink,
      DelCandidates.has_addSwitch, DelCandidates.has_addServer, or_assoc]

theorem examineLink_spec (htopo : dib.Topology zoneName)
    (htype : checkTopoType topoType = .ok ()) {linkID : Nat × Nat}
    (hlink : dib.HasLink zoneName linkID) (c : DelCandidates) :
    ∃ c', examineLink topoType I dib c linkID = .ok c' ∧ ∀ x,
      c'.Has x ↔ c.Has x ∨ GivenUp topoType I zoneName dib linkID x := by
  obtain ⟨a, b⟩ := linkID
  have hnot : ∀ {nodeID}, dib.HasServer zoneName nodeID →
      ¬ Outside topoType I zoneName dib nodeID :=
    fun hserver hout => not_hasSwitch_of_hasServer htopo hserver hout.1
  rw [examineLink]
  obtain ⟨ha, hb⟩ | ⟨ha, hb⟩ | ⟨ha, hb⟩ := htopo.ends _ hlink
  · -- two switches
    have hserverA : ¬ dib.HasServer zoneName a :=
      fun h => not_hasSwitch_of_hasServer htopo h ha
    have hserverB : ¬ dib.HasServer zoneName b :=
      fun h => not_hasSwitch_of_hasServer htopo h hb
    obtain ⟨c₁, heq₁, hiff₁⟩ := examineEnds_switch htopo htype ha [(b, a)] c
    obtain ⟨c₂, heq₂, hiff₂⟩ := examineEnds_switch htopo htype hb [] c₁
    refine ⟨c₂, heq₁.trans heq₂, fun x => ?_⟩
    rw [hiff₂, hiff₁, or_assoc, givenUp_iff]
    simp [hserverA, hserverB]
  · -- a server and its switch
    obtain ⟨c', heq, hiff⟩ := examineEnds_server htype ha hb [(b, a)] c
    refine ⟨c', heq, fun x => ?_⟩
    have hin := hnot ha
    rw [hiff, givenUp_iff]
    tauto
  · -- a switch and its server
    obtain ⟨c₁, heq₁, hiff₁⟩ := examineEnds_switch htopo htype ha [(b, a)] c
    obtain ⟨c₂, heq₂, hiff₂⟩ := examineEnds_server htype hb ha [] c₁
    refine ⟨c₂, heq₁.trans heq₂, fun x => ?_⟩
    have hin := hnot hb
    rw [hiff₂, hiff₁, or_assoc, givenUp_iff]
    tauto

/-! ### What is deleted -/

/-- What is deleted, and only that, is not there any more. -/
structure Deleted (zoneName : Zone) (c : DelCandidates) (dib dib' : DCNInfoBase) :
    Prop where
  servers : ∀ serverID info, dib'.serverInfo zoneName serverID = .ok info ↔
    dib.serverInfo zoneName serverID = .ok info ∧ ¬ c.Has (.server serverID)
  switches : ∀ switchID info, dib'.switchInfo zoneName switchID = .ok info ↔
    dib.switchInfo zoneName switchID = .ok info ∧ ¬ c.Has (.switch switchID)
  links : ∀ (linkID : Nat × Nat) info,
    dib'.linkInfo zoneName linkID.1 linkID.2 = .ok info ↔
      dib.linkInfo zoneName linkID.1 linkID.2 = .ok info ∧
        ¬ c.Has (.link linkID)

theorem deleteCandidates_spec {c : DelCandidates}
    (hservers : ∀ serverID, c.Has (.server serverID) →
      dib.HasServer zoneName serverID)
    (hswitches : ∀ switchID, c.Has (.switch switchID) →
      dib.HasSwitch zoneName switchID)
    (hlinks : ∀ linkID, c.Has (.link linkID) → dib.HasLink zoneName linkID) :
    ∃ dib', deleteCandidates dib zoneName c = .ok dib' ∧
      Deleted zoneName c dib dib' := by
  obtain ⟨servers, hdelServers, hserver⟩ := DCNInfoBase.delEntries_of_mem
    zoneName dib.servers c.delServerCandidateDict.nodup_keys'
    fun serverID hmem hnone => by
      obtain ⟨info, hinfo⟩ := hservers serverID hmem
      rw [DCNInfoBase.serverInfo_eq_entry, hnone] at hinfo
      cases hinfo
  obtain ⟨switches, hdelSwitches, hswitch⟩ := DCNInfoBase.delEntries_of_mem
    zoneName dib.switches c.delSwitchCandidateDict.nodup_keys'
    fun switchID hmem hnone => by
      obtain ⟨info, hinfo⟩ := hswitches switchID hmem
      rw [DCNInfoBase.switchInfo_eq_entry, hnone] at hinfo
      cases hinfo
  obtain ⟨links, hdelLinks, hlink⟩ := DCNInfoBase.delEntries_of_mem
    zoneName dib.links c.delLinkCandidateDict.nodup_keys'
    fun linkID hmem hnone => by
      obtain ⟨info, hinfo⟩ := hlinks linkID hmem
      rw [DCNInfoBase.linkInfo_eq_entry, hnone] at hinfo
      cases hinfo
  -- each loop works on one table
  have hloopServers : c.delServerCandidateDict.keys.foldlM
      (DCNInfoBase.delServer zoneName) dib = .ok (dib.setServers servers) := by
    have hloop := except_foldlM_field DCNInfoBase.servers DCNInfoBase.setServers
      (fun _ _ => rfl) (fun _ _ _ => rfl) (fun _ => rfl)
      (DCNInfoBase.delEntry zoneName) c.delServerCandidateDict.keys dib
    rw [hdelServers] at hloop
    exact hloop
  have hloopSwitches : c.delSwitchCandidateDict.keys.foldlM
      (DCNInfoBase.delSwitch zoneName) (dib.setServers servers) =
        .ok ((dib.setServers servers).setSwitches switches) := by
    have hloop := except_foldlM_field DCNInfoBase.switches
      DCNInfoBase.setSwitches (fun _ _ => rfl) (fun _ _ _ => rfl) (fun _ => rfl)
      (DCNInfoBase.delEntry zoneName) c.delSwitchCandidateDict.keys
      (dib.setServers servers)
    rw [show (dib.setServers servers).switches = dib.switches from rfl,
      hdelSwitches] at hloop
    exact hloop
  have hloopLinks : c.delLinkCandidateDict.keys.foldlM
      (DCNInfoBase.delLink zoneName)
      ((dib.setServers servers).setSwitches switches) =
        .ok (((dib.setServers servers).setSwitches switches).setLinks
          links) := by
    have hloop := except_foldlM_field DCNInfoBase.links DCNInfoBase.setLinks
      (fun _ _ => rfl) (fun _ _ _ => rfl) (fun _ => rfl)
      (DCNInfoBase.delEntry zoneName) c.delLinkCandidateDict.keys
      ((dib.setServers servers).setSwitches switches)
    rw [show ((dib.setServers servers).setSwitches switches).links = dib.links
      from rfl, hdelLinks] at hloop
    exact hloop
  refine ⟨((dib.setServers servers).setSwitches switches).setLinks links, ?_,
    ⟨fun serverID info => ?_, fun switchID info => ?_, fun linkID info => ?_⟩⟩
  · refine except_bind_eq_ok_iff.mpr ⟨_, hloopServers, ?_⟩
    exact except_bind_eq_ok_iff.mpr ⟨_, hloopSwitches, hloopLinks⟩
  · rw [DCNInfoBase.serverInfo_eq_entry, DCNInfoBase.serverInfo_eq_entry]
    exact hserver serverID info
  · rw [DCNInfoBase.switchInfo_eq_entry, DCNInfoBase.switchInfo_eq_entry]
    exact hswitch switchID info
  · rw [DCNInfoBase.linkInfo_eq_entry, DCNInfoBase.linkInfo_eq_entry]
    exact hlink linkID info

theorem pruneDib_deletes (htopo : dib.Topology zoneName)
    (htype : checkTopoType topoType = .ok ()) :
    ∃ dib' c, pruneDib topoType I dib zoneName = .ok dib' ∧
      (∀ x, DelCandidates.Has c x ↔ ∃ linkID, dib.HasLink zoneName linkID ∧
        GivenUp topoType I zoneName dib linkID x) ∧
      Deleted zoneName c dib dib' := by
  obtain ⟨linksInfo, hlinksInfo⟩ := htopo.linksInfo
  have hkeys : ∀ linkID, linkID ∈ linksInfo.keys ↔
      dib.HasLink zoneName linkID := by
    intro linkID
    simp only [DCNInfoBase.HasLink, DCNInfoBase.linkInfo_eq_entry,
      DCNInfoBase.entry, hlinksInfo, Option.bind_some]
    exact Dict.mem_keys_iff
  obtain ⟨c, hc, hiff⟩ := except_foldlM_marks
    (fun c linkID hmem =>
      examineLink_spec htopo htype ((hkeys linkID).mp hmem) c) .empty
  have hfound : ∀ x, c.Has x ↔ ∃ linkID, dib.HasLink zoneName linkID ∧
      GivenUp topoType I zoneName dib linkID x := by
    intro x
    rw [hiff, or_iff_right DelCandidates.not_has_empty]
    exact exists_congr fun linkID => and_congr_left fun _ => hkeys linkID
  have hservers : ∀ serverID, c.Has (.server serverID) →
      dib.HasServer zoneName serverID := by
    intro serverID h
    obtain ⟨linkID, -, hserver, -⟩ := (hfound _).mp h
    exact hserver
  have hswitches : ∀ switchID, c.Has (.switch switchID) →
      dib.HasSwitch zoneName switchID := by
    intro switchID h
    obtain ⟨linkID, -, hout, -⟩ := (hfound _).mp h
    exact hout.1
  have hlinks : ∀ linkID, c.Has (.link linkID) →
      dib.HasLink zoneName linkID := by
    intro linkID h
    obtain ⟨linkID', hlink, rfl, -⟩ := (hfound _).mp h
    exact hlink
  obtain ⟨dib', hdelete, hdeleted⟩ :=
    deleteCandidates_spec hservers hswitches hlinks
  refine ⟨dib', c, ?_, hfound, hdeleted⟩
  rw [pruneDib]
  refine except_bind_eq_ok_iff.mpr ⟨(), htype, ?_⟩
  simp only [hlinksInfo]
  exact except_bind_eq_ok_iff.mpr ⟨c, hc, hdelete⟩

/-! ### What is left -/

theorem not_outside_iff (htype : checkTopoType topoType = .ok ())
    {switchID : Nat} (hswitch : dib.HasSwitch zoneName switchID) :
    ¬ Outside topoType I zoneName dib switchID ↔
      isSwitchInSubTopologyZone topoType I switchID = .ok true := by
  obtain hin | hout :=
    isSwitchInSubTopologyZone_total (I := I) htype switchID
  · simp [Outside, hin]
  · simp [Outside, hout, hswitch]

section Left

variable {c : DelCandidates} (htopo : dib.Topology zoneName)
  (htype : checkTopoType topoType = .ok ())
  (hfound : ∀ x, c.Has x ↔ ∃ linkID, dib.HasLink zoneName linkID ∧
    GivenUp topoType I zoneName dib linkID x)

include htopo htype hfound

theorem not_has_switch_iff {switchID : Nat}
    (hswitch : dib.HasSwitch zoneName switchID) :
    ¬ c.Has (.switch switchID) ↔
      isSwitchInSubTopologyZone topoType I switchID = .ok true := by
  rw [← not_outside_iff htype hswitch, hfound]
  refine not_congr ⟨?_, fun hout => ?_⟩
  · rintro ⟨_, _, hout, -⟩
    exact hout
  · obtain ⟨linkID, hlink, hend⟩ := htopo.linked switchID hswitch
    exact ⟨linkID, hlink, hout, hend⟩

theorem not_has_server_iff {serverID switchID : Nat}
    (hserver : dib.HasServer zoneName serverID)
    (hattached : dib.Attached zoneName serverID switchID) :
    ¬ c.Has (.server serverID) ↔
      isSwitchInSubTopologyZone topoType I switchID = .ok true := by
  have hunique : ∀ switchID', dib.Attached zoneName serverID switchID' →
      switchID' = switchID := by
    intro switchID' h
    exact (htopo.attached serverID hserver).unique h hattached
  rw [← not_outside_iff htype hattached.1, hfound]
  refine not_congr ⟨?_, fun hout => ?_⟩
  · rintro ⟨linkID, hlink, -, ⟨rfl, hout⟩ | ⟨rfl, hout⟩⟩
    · exact hunique linkID.2 ⟨hout.1, Or.inl hlink⟩ ▸ hout
    · exact hunique linkID.1 ⟨hout.1, Or.inr hlink⟩ ▸ hout
  · obtain hlink | hlink := hattached.2
    · exact ⟨_, hlink, hserver, Or.inl ⟨rfl, hout⟩⟩
    · exact ⟨_, hlink, hserver, Or.inr ⟨rfl, hout⟩⟩

end Left

theorem Deleted.hasServer {c : DelCandidates}
    (h : Deleted zoneName c dib dib') {serverID : Nat} :
    dib'.HasServer zoneName serverID ↔
      dib.HasServer zoneName serverID ∧ ¬ c.Has (.server serverID) := by
  simp only [DCNInfoBase.HasServer, h.servers, exists_and_right]

theorem Deleted.hasSwitch {c : DelCandidates}
    (h : Deleted zoneName c dib dib') {switchID : Nat} :
    dib'.HasSwitch zoneName switchID ↔
      dib.HasSwitch zoneName switchID ∧ ¬ c.Has (.switch switchID) := by
  simp only [DCNInfoBase.HasSwitch, h.switches, exists_and_right]

theorem pruned_of_deleted {c : DelCandidates} (htopo : dib.Topology zoneName)
    (htype : checkTopoType topoType = .ok ())
    (hfound : ∀ x, c.Has x ↔ ∃ linkID, dib.HasLink zoneName linkID ∧
      GivenUp topoType I zoneName dib linkID x)
    (hdeleted : Deleted zoneName c dib dib') :
    Pruned topoType I zoneName dib dib' := by
  have hswitchLeft : ∀ switchID, dib.HasSwitch zoneName switchID →
      (dib'.HasNode zoneName switchID ↔
        ¬ Outside topoType I zoneName dib switchID) := by
    intro switchID hswitch
    have hserver : ¬ dib.HasServer zoneName switchID :=
      fun h => not_hasSwitch_of_hasServer htopo h hswitch
    rw [DCNInfoBase.HasNode, hdeleted.hasSwitch, hdeleted.hasServer,
      not_has_switch_iff htopo htype hfound hswitch,
      not_outside_iff htype hswitch]
    simp [hswitch, hserver]
  have hserverLeft : ∀ serverID switchID, dib.HasServer zoneName serverID →
      dib.Attached zoneName serverID switchID →
      (dib'.HasNode zoneName serverID ↔
        ¬ Outside topoType I zoneName dib switchID) := by
    intro serverID switchID hserver hattached
    have hswitch : ¬ dib.HasSwitch zoneName serverID :=
      not_hasSwitch_of_hasServer htopo hserver
    rw [DCNInfoBase.HasNode, hdeleted.hasSwitch, hdeleted.hasServer,
      not_has_server_iff htopo htype hfound hserver hattached,
      not_outside_iff htype hattached.1]
    simp [hswitch, hserver]
  refine ⟨fun switchID info => ?_, fun serverID info => ?_,
    fun linkID info => ?_⟩
  · rw [hdeleted.switches]
    refine and_congr_right fun hinfo => ?_
    exact not_has_switch_iff htopo htype hfound ⟨info, hinfo⟩
  · rw [hdeleted.servers]
    refine and_congr_right fun hinfo => ?_
    obtain ⟨switchID, hattached, hunique⟩ := htopo.attached serverID ⟨info, hinfo⟩
    rw [not_has_server_iff htopo htype hfound ⟨info, hinfo⟩ hattached]
    constructor
    · exact fun hin => ⟨switchID, hattached, hin⟩
    · rintro ⟨switchID', hattached', hin⟩
      exact hunique switchID' hattached' ▸ hin
  · rw [hdeleted.links]
    refine and_congr_right fun hinfo => ?_
    have hlink : dib.HasLink zoneName linkID := ⟨info, hinfo⟩
    have hgiven : ¬ c.Has (.link linkID) ↔
        ¬ Outside topoType I zoneName dib linkID.1 ∧
          ¬ Outside topoType I zoneName dib linkID.2 := by
      rw [hfound, ← not_or]
      refine not_congr ⟨?_, fun hout => ⟨linkID, hlink, rfl, hout⟩⟩
      rintro ⟨_, -, rfl, hout⟩
      exact hout
    rw [hgiven]
    obtain ⟨ha, hb⟩ | ⟨ha, hb⟩ | ⟨ha, hb⟩ := htopo.ends linkID hlink
    · rw [hswitchLeft _ ha, hswitchLeft _ hb]
    · have hnot : ¬ Outside topoType I zoneName dib linkID.1 :=
        fun hout => not_hasSwitch_of_hasServer htopo ha hout.1
      rw [hswitchLeft _ hb, hserverLeft _ _ ha ⟨hb, Or.inl hlink⟩]
      simp [hnot]
    · have hnot : ¬ Outside topoType I zoneName dib linkID.2 :=
        fun hout => not_hasSwitch_of_hasServer htopo hb hout.1
      rw [hswitchLeft _ ha, hserverLeft _ _ hb ⟨ha, Or.inr hlink⟩]
      simp [hnot]

/-- Pruning ends, and leaves exactly the sub-zone. -/
theorem pruneDib_pruned (htopo : dib.Topology zoneName)
    (htype : checkTopoType topoType = .ok ()) :
    ∃ dib', pruneDib topoType I dib zoneName = .ok dib' ∧
      Pruned topoType I zoneName dib dib' := by
  obtain ⟨dib', c, hprune, hfound, hdeleted⟩ := pruneDib_deletes htopo htype
  exact ⟨dib', hprune, pruned_of_deleted htopo htype hfound hdeleted⟩

/-! ### A topology with two pods -/

def podZero : PodInterval 2 := ⟨0, 0, by decide, by decide⟩

def torSwitch (switchID netIP : Nat) : SwitchInfo :=
  ⟨⟨switchID, ⟨netIP, 27⟩, 2000, [], [], ⟨0, 0, 0, 0, 0⟩⟩, true⟩

def nfvi (serverID datapathNICIP : Nat) : ServerInfo :=
  ⟨⟨serverID, .nfvi, datapathNICIP, [], 8, 16, 10⟩, true⟩

def linkBetween (linkID : Nat × Nat) : LinkInfo :=
  ⟨⟨linkID.1, linkID.2, 10⟩, true⟩

def twoPods : DCNInfoBase where
  servers := Dict.empty.set .turbonet
    ((Dict.empty.set 10001 (nfvi 10001 33)).set 10002 (nfvi 10002 65))
  switches := Dict.empty.set .turbonet
    ((Dict.empty.set 3 (torSwitch 3 32)).set 4 (torSwitch 4 64))
  links := Dict.empty.set .turbonet
    (((Dict.empty.set (3, 4) (linkBetween (3, 4))).set (10001, 3)
      (linkBetween (10001, 3))).set (4, 10002) (linkBetween (4, 10002)))
  serversReservedResources := .empty
  switchesReservedResources := .empty
  linksReservedResources := .empty

theorem hasServer_twoPods {serverID : Nat} :
    twoPods.HasServer .turbonet serverID ↔ serverID ∈ [10001, 10002] := by
  simp only [DCNInfoBase.HasServer, DCNInfoBase.serverInfo_eq_entry]
  exact Dict.mem_keys_iff.symm

theorem hasSwitch_twoPods {switchID : Nat} :
    twoPods.HasSwitch .turbonet switchID ↔ switchID ∈ [3, 4] := by
  simp only [DCNInfoBase.HasSwitch, DCNInfoBase.switchInfo_eq_entry]
  exact Dict.mem_keys_iff.symm

theorem hasLink_twoPods {linkID : Nat × Nat} :
    twoPods.HasLink .turbonet linkID ↔
      linkID ∈ [(3, 4), (10001, 3), (4, 10002)] := by
  simp only [DCNInfoBase.HasLink, DCNInfoBase.linkInfo_eq_entry]
  exact Dict.mem_keys_iff.symm

theorem topology_twoPods : twoPods.Topology .turbonet where
  linksInfo := ⟨_, rfl⟩
  ends := by
    simp only [hasServer_twoPods, hasSwitch_twoPods, hasLink_twoPods]
    decide
  linked := by
    simp only [hasSwitch_twoPods, hasLink_twoPods]
    exact fun switchID hswitch => ⟨(3, 4), by decide, by simpa using hswitch⟩
  attached := by
    simp only [DCNInfoBase.Attached, hasServer_twoPods, hasSwitch_twoPods,
      hasLink_twoPods]
    intro serverID hserver
    obtain rfl | rfl : serverID = 10001 ∨ serverID = 10002 := by
      simpa using hserver
    · exact ⟨3, by simp, by simp⟩
    · exact ⟨4, by simp, by simp⟩
  disjoint := by
    intro nodeID hserver
    have hmem : nodeID ∈ [10001, 10002] := by
      obtain ⟨servers, hservers, hnode⟩ := List.any_eq_true.mp hserver
      obtain rfl : servers = _ := List.mem_singleton.mp hservers
      exact Dict.mem_keys_iff.mpr (Option.isSome_iff_exists.mp hnode)
    obtain rfl | rfl : nodeID = 10001 ∨ nodeID = 10002 := by
      simpa using hmem
    · decide
    · decide

/-- The orchestrator of the first pod. -/
theorem pruneDib_pruned_twoPods :
    ∃ dib', pruneDib .fatTree podZero twoPods .turbonet = .ok dib' ∧
      Pruned .fatTree podZero .turbonet twoPods dib' :=
  pruneDib_pruned topology_twoPods rfl

end SelfAdaptiveMano.Orchestrator

import SelfAdaptiveMano.Library.Hoare
import SelfAdaptiveMano.Ryu.Ufrr
import SelfAdaptiveMano.Sff.OutputGates

/-!
# The entries of UFRR and the paths

The entries of an SFCI realise its paths when each switch on a path sends the packets
of a stage to the next node, and when a switch whose next node is down sends them to
the backup path around it. A stage that leads over one switch is taken for the inside
of a server and gets no entry, also when it leads to another server.
-/

namespace SelfAdaptiveMano.Ryu

open Library
open Mapping (LayerNode)
open Sff (getPathID getSFCIStageDstIP)

namespace UFRR

/-! ## Paths -/

def hopsOf : List LayerNode → List (Nat × Nat × Nat)
  | prev :: current :: next :: rest =>
      (prev.2, current.2, next.2) :: hopsOf (current :: next :: rest)
  | _ => []

structure StagedPath where
  direction : Direction
  key : Option FrrKey
  pathID : Nat
  firstStage : Nat
  path : Mapping.ForwardingPath

/-- The ID in the key of a backup path of `MMLBSFC`. -/
def newPathIDOf : FrrKey → Nat
  | .failureNPoPID .. => 0
  | .failureLayerNodeID _ _ _ newPathID => newPathID
  | .failureNodeID _ _ newPathID => newPathID
  | .failureLinkID _ _ newPathID => newPathID

section Paths

variable (sfci : SFCI)

def primaryOf (direction : Direction) : StagedPath :=
  ⟨direction, none, getPathID direction.ID, 0,
    (_getPrimaryPath sfci (getPathID direction.ID)).getD []⟩

def backupsOf (direction : Direction) : Dict FrrKey Mapping.ForwardingPath :=
  (_getBackupPaths sfci (getPathID direction.ID)).getD .empty

def backupOf (direction : Direction) (key : FrrKey) (path : Mapping.ForwardingPath) :
    StagedPath :=
  ⟨direction, some key, newPathIDOf key,
    sfci.vnfiSequence.length + 1 - path.length, path⟩

def pathsOf (direction : Direction) : List StagedPath :=
  primaryOf sfci direction :: (backupsOf sfci direction).items.map fun (key, path) =>
    backupOf sfci direction key path

def addressOf (stageCount pathID : Nat) : Nat :=
  match getSFCIStageDstIP sfci.toSFCI stageCount pathID with
  | .ok dstIP => dstIP
  | .error _ => 0

end Paths

def EndsDiffer (segPath : List LayerNode) : Prop :=
  segPath.head?.map Prod.snd ≠ segPath.getLast?.map Prod.snd

/-- The shape of the paths of `MMLBSFC`: a segment for each stage, with switches
between its ends, and one switch at most where it ends at its start; backup paths that
start at their repair switch, one for a failed node; and an ID for each path. -/
structure Shaped (sfci : SFCI) (directions : List Direction) : Prop where
  primary : ∀ direction ∈ directions,
    (_getPrimaryPath sfci (getPathID direction.ID)).isSome = true
  backup : ∀ direction ∈ directions,
    (_getBackupPaths sfci (getPathID direction.ID)).isSome = true
  vnf : ∀ vnf ∈ sfci.vnfiSequence, vnf ≠ []
  stages : ∀ p ∈ directions.flatMap (pathsOf sfci),
    p.firstStage + p.path.length = sfci.vnfiSequence.length + 1
  segment : ∀ p ∈ directions.flatMap (pathsOf sfci), ∀ segPath ∈ p.path,
    segPath ≠ [] ∧ (∀ u ∈ segPath.tail.dropLast, u.2 < SERVERID_OFFSET) ∧
      (¬ EndsDiffer segPath →
        E2EProtection._isInnerNFVISegPath segPath = true ∨ hopsOf segPath = [])
  key : ∀ direction ∈ directions, ∀ key path,
    (backupsOf sfci direction).get? key = some path →
      ∃ failureNodeID repairSwitchID newPathID repair next segPath rest,
        key = .failureNodeID failureNodeID repairSwitchID newPathID ∧
        path = (repair :: next :: segPath) :: rest ∧ repair.2 = repairSwitchID
  once : ∀ direction ∈ directions, ∀ key ∈ (backupsOf sfci direction).keys,
    ∀ key' ∈ (backupsOf sfci direction).keys,
      ∀ failureNodeID repairSwitchID newPathID newPathID',
        key = .failureNodeID failureNodeID repairSwitchID newPathID →
        key' = .failureNodeID failureNodeID repairSwitchID newPathID' →
          newPathID = newPathID'
  pathIDs : ((directions.flatMap (pathsOf sfci)).map fun p =>
    p.pathID &&& 0xFF).Nodup

/-! ## Ports -/

/-- The switch `dpid` is connected and reaches its neighbour `nodeID`, a switch or a
server of the SFCI, through the port `portTo dpid nodeID`. -/
def Attached (topo : Topology) (sfci : SFCI) (direction : Direction)
    (portTo : Nat → Nat → Nat) (dpid nodeID : Nat) : Prop :=
  topo.dpset dpid = true ∧
    if nodeID < SERVERID_OFFSET then
      (topo.links (dpid, nodeID)).isSome = true ∧
        topo.getLocalPortByPeerPort dpid nodeID = some (portTo dpid nodeID)
    else ∃ server, getServerByServerID sfci direction nodeID = some server ∧
      topo._getPortbyIP dpid server.datapathNICIP = some (portTo dpid nodeID)

/-- Each switch reaches its neighbours on the paths, each through its own port. In the
physical environment the switches are those with group IDs. -/
structure Reachable (topo : Topology) (env : Environment) (sfci : SFCI)
    (directions : List Direction) (portTo : Nat → Nat → Nat) : Prop where
  hops : ∀ p ∈ directions.flatMap (pathsOf sfci), ∀ segPath ∈ p.path,
    ∀ hop ∈ hopsOf segPath,
      Attached topo sfci p.direction portTo hop.2.1 hop.1 ∧
        Attached topo sfci p.direction portTo hop.2.1 hop.2.2
  repair : ∀ direction ∈ directions, ∀ key repair next segPath rest,
    (backupsOf sfci direction).get? key = some ((repair :: next :: segPath) :: rest) →
      Attached topo sfci direction portTo repair.2 next.2
  own : ∀ dpid nodeID nodeID', portTo dpid nodeID = portTo dpid nodeID' →
    nodeID = nodeID'
  environment : env = .pica8AS4610 → ∀ p ∈ directions.flatMap (pathsOf sfci),
    ∀ segPath ∈ p.path, ∀ hop ∈ hopsOf segPath, hop.2.1 ∈ [1, 2, 3, 4, 5, 6]

/-! ## What the entries do -/

/-- The port and the address with which a switch sends a packet on, where the ports
`up` are live: a group takes its first bucket with a live port. -/
def forward (u : UFRR) (up : Option Nat → Bool) (dpid inPort dstIP : Nat) :
    Option (Option Nat × Nat) :=
  match u.flows.get? (dpid, ⟨some inPort, dstIP⟩) with
  | some (.output output) => some (output.port, output.ipv4_dst.getD dstIP)
  | some (.group groupID) =>
      ((u.groups.get? (dpid, groupID)).bind fun buckets =>
        buckets.find? fun bucket => up bucket.port).map fun bucket =>
          (bucket.port, bucket.ipv4_dst.getD dstIP)
  | none => none

structure Realised (sfci : SFCI) (directions : List Direction)
    (portTo : Nat → Nat → Nat) (u : UFRR) : Prop where
  path : ∀ p ∈ directions.flatMap (pathsOf sfci), ∀ i segPath,
    p.path[i]? = some segPath → EndsDiffer segPath →
      ∀ prev current next, (prev, current, next) ∈ hopsOf segPath →
        ∀ up : Option Nat → Bool, up (some (portTo current next)) = true →
          forward u up current (portTo current prev)
              (addressOf sfci (p.firstStage + i) p.pathID) =
            some (some (portTo current next),
              addressOf sfci (p.firstStage + i) p.pathID)
  repair : ∀ direction ∈ directions, ∀ stage segPath,
    (primaryOf sfci direction).path[stage]? = some segPath → EndsDiffer segPath →
      ∀ prev current next, (prev, current, next) ∈ hopsOf segPath →
        ∀ newPathID repair backupNext segPath' rest,
          (backupsOf sfci direction).get? (.failureNodeID next current newPathID) =
            some ((repair :: backupNext :: segPath') :: rest) →
          stage + (rest.length + 1) = sfci.vnfiSequence.length + 1 →
            ∀ up : Option Nat → Bool, up (some (portTo current next)) = false →
              up (some (portTo current backupNext.2)) = true →
                forward u up current (portTo current prev)
                    (addressOf sfci stage (getPathID direction.ID)) =
                  some (some (portTo current backupNext.2),
                    addressOf sfci stage newPathID)

/-- No stage leads from a server over one switch to another server. -/
def NoneSkipped (sfci : SFCI) (directions : List Direction) : Prop :=
  ∀ p ∈ directions.flatMap (pathsOf sfci), ∀ segPath ∈ p.path,
    EndsDiffer segPath → E2EProtection._isInnerNFVISegPath segPath = false

/-- Where two stages of a path have one address, a switch that gets their packets from
one node sends them to one node. -/
def NextDetermined (sfci : SFCI) (directions : List Direction) : Prop :=
  ∀ p ∈ directions.flatMap (pathsOf sfci), ∀ i segPath, p.path[i]? = some segPath →
    EndsDiffer segPath → ∀ j segPath', p.path[j]? = some segPath' →
      EndsDiffer segPath' →
        addressOf sfci (p.firstStage + i) p.pathID =
          addressOf sfci (p.firstStage + j) p.pathID →
        ∀ prev current next next', (prev, current, next) ∈ hopsOf segPath →
          (prev, current, next') ∈ hopsOf segPath' → next = next'

/-! ## Hops -/

section Hops

variable {segPath : List LayerNode} {prev current next : Nat}

def hopAt (segPath : List LayerNode) (i : Nat) : List (Nat × Nat × Nat) :=
  match segPath[i - 1]?, segPath[i]?, segPath[i + 1]? with
  | some prev, some current, some next => [(prev.2, current.2, next.2)]
  | _, _, _ => []

theorem hopAt_cons (u : LayerNode) {i : Nat} (hi : 1 ≤ i) :
    hopAt (u :: segPath) (1 + i) = hopAt segPath i := by
  obtain ⟨i, rfl⟩ := Nat.exists_eq_add_of_le hi
  rw [show 1 + (1 + i) = i + 1 + 1 by omega, show 1 + i = i + 1 by omega]
  rfl

theorem flatMap_hopAt (segPath : List LayerNode) :
    (pyRange 1 (segPath.length - 1) 1).flatMap (hopAt segPath) = hopsOf segPath := by
  rw [pyRange, Nat.sub_self, Nat.add_zero, Nat.div_one]
  induction segPath with
  | nil => rfl
  | cons prev segPath ih =>
      rcases segPath with _ | ⟨current, _ | ⟨next, rest⟩⟩
      · rfl
      · rfl
      · have hlength : (prev :: current :: next :: rest).length - 1 - 1 =
          (current :: next :: rest).length - 1 - 1 + 1 := rfl
        have hrange : ∀ n, List.range' (1 + 1) n =
            (List.range' 1 n).map (1 + ·) := fun n =>
          (List.map_add_range' 1 n 1).symm
        rw [hlength, List.range'_succ, List.flatMap_cons, hrange, List.flatMap_map,
          hopsOf, ← ih]
        refine congrArg (List.cons _) (List.flatMap_congr fun i hi => ?_)
        exact hopAt_cons prev (List.mem_range'_1.mp hi).1

theorem exists_of_mem_hopsOf (h : (prev, current, next) ∈ hopsOf segPath) :
    (∃ u ∈ segPath.dropLast, u.2 = prev) ∧
      ∃ u ∈ segPath.tail.dropLast, u.2 = current := by
  induction segPath with
  | nil => cases h
  | cons first segPath ih =>
      match segPath, ih with
      | [], _ => cases h
      | [_], _ => cases h
      | second :: third :: rest, ih =>
          rw [hopsOf] at h
          rcases List.mem_cons.mp h with heq | h
          · cases heq
            exact ⟨⟨first, List.mem_cons_self, rfl⟩, second, List.mem_cons_self, rfl⟩
          · obtain ⟨⟨u, hu, hprev⟩, v, hv, hcurrent⟩ := ih h
            exact ⟨⟨u, List.mem_cons_of_mem first hu, hprev⟩, v,
              List.mem_cons_of_mem second hv, hcurrent⟩

/-- Between two servers next to a switch there is only the switch. -/
theorem isInner_of_mem_hopsOf
    (hswitch : ∀ u ∈ segPath.tail.dropLast, u.2 < SERVERID_OFFSET)
    (h : (prev, current, next) ∈ hopsOf segPath) (hprev : SERVERID_OFFSET ≤ prev)
    (hnext : SERVERID_OFFSET ≤ next) :
    E2EProtection._isInnerNFVISegPath segPath = true := by
  match segPath with
  | [] => cases h
  | [_] => cases h
  | [_, _] => cases h
  | first :: second :: third :: rest =>
      rw [hopsOf] at h
      rcases List.mem_cons.mp h with heq | h
      · cases heq
        cases rest with
        | nil =>
            have hsecond : second.2 < SERVERID_OFFSET :=
              hswitch second List.mem_cons_self
            exact decide_eq_true ⟨hprev, hsecond, hnext⟩
        | cons fourth rest =>
            have hthird : third.2 < SERVERID_OFFSET :=
              hswitch third (List.mem_cons_of_mem second List.mem_cons_self)
            exact absurd hthird (Nat.not_lt.mpr hnext)
      · obtain ⟨⟨u, hu, rfl⟩, -⟩ := exists_of_mem_hopsOf h
        exact absurd (hswitch u hu) (Nat.not_lt.mpr hprev)

end Hops

/-! ## Group IDs -/

/-- The group ID was given on the switch. -/
def Given (env : Environment) (u : UFRR) (dpid groupID : Nat) : Prop :=
  match env with
  | .mininet => ∃ ids, u.groupIDSets.get? dpid = some ids ∧ groupID ∈ ids
  | .pica8 => groupID ≤ u.picaSwitch1
  | .pica8AS4610 =>
      if dpid ∈ [1, 5, 6] then groupID ≤ u.picaSwitch1 else groupID ≤ u.picaSwitch2
  | .pica8P3922 => groupID ≤ u.picaSwitch1

/-- The state after a group ID was given: only what was given has changed. -/
structure Gives (env : Environment) (u : UFRR) (dpid groupID : Nat) (u' : UFRR) :
    Prop where
  new : ¬ Given env u dpid groupID
  given : Given env u' dpid groupID
  kept : ∀ dpid' groupID', Given env u dpid' groupID' → Given env u' dpid' groupID'
  sfciRIB : u'.sfciRIB = u.sfciRIB
  flows : u'.flows = u.flows
  groups : u'.groups = u.groups

theorem gives_assignPicaSwitch1 {env : Environment} {u : UFRR} {dpid : Nat}
    (henv : env = .pica8 ∨ env = .pica8P3922 ∨
      env = .pica8AS4610 ∧ dpid ∈ [1, 5, 6]) :
    ∃ groupID u', (assignPicaSwitch1).run u = .ok groupID u' ∧
      Gives env u dpid groupID u' := by
  refine ⟨u.picaSwitch1 + 1, { u with picaSwitch1 := u.picaSwitch1 + 1 }, rfl, ?_⟩
  rcases henv with rfl | rfl | ⟨rfl, hdpid⟩
  · exact ⟨Nat.not_succ_le_self _, Nat.le_refl _,
      fun _ _ h => Nat.le_succ_of_le h, rfl, rfl, rfl⟩
  · exact ⟨Nat.not_succ_le_self _, Nat.le_refl _,
      fun _ _ h => Nat.le_succ_of_le h, rfl, rfl, rfl⟩
  · refine ⟨?_, ?_, fun dpid' groupID' h => ?_, rfl, rfl, rfl⟩
    · rw [Given, if_pos hdpid]
      exact Nat.not_succ_le_self _
    · rw [Given, if_pos hdpid]
    · rw [Given] at h ⊢
      split at h
      · next hdpid' => exact (if_pos hdpid').mpr (Nat.le_succ_of_le h)
      · next hdpid' => exact (if_neg hdpid').mpr h

theorem gives_assignPicaSwitch2 {u : UFRR} {dpid : Nat} (hdpid : dpid ∉ [1, 5, 6]) :
    ∃ groupID u', (assignPicaSwitch2).run u = .ok groupID u' ∧
      Gives .pica8AS4610 u dpid groupID u' := by
  refine ⟨u.picaSwitch2 + 1, { u with picaSwitch2 := u.picaSwitch2 + 1 }, rfl, ?_⟩
  refine ⟨?_, ?_, fun dpid' groupID' h => ?_, rfl, rfl, rfl⟩
  · rw [Given, if_neg hdpid]
    exact Nat.not_succ_le_self _
  · rw [Given, if_neg hdpid]
  · rw [Given] at h ⊢
    split at h
    · next hdpid' => exact (if_pos hdpid').mpr h
    · next hdpid' => exact (if_neg hdpid').mpr (Nat.le_succ_of_le h)

theorem gives_set {u : UFRR} {dpid groupID : Nat} {ids : List Nat}
    (hnew : ∀ ids', u.groupIDSets.get? dpid = some ids' →
      groupID ∉ ids' ∧ ids' ⊆ ids)
    (hmem : groupID ∈ ids) :
    Gives .mininet u dpid groupID
      { u with groupIDSets := u.groupIDSets.set dpid ids } where
  new := by
    rintro ⟨ids', hids', hmem'⟩
    exact (hnew ids' hids').1 hmem'
  given := ⟨ids, Dict.get?_set_self .., hmem⟩
  kept := by
    rintro dpid' groupID' ⟨ids', hids', hmem'⟩
    by_cases hdpid : dpid' = dpid
    · subst hdpid
      exact ⟨ids, Dict.get?_set_self .., (hnew ids' hids').2 hmem'⟩
    · exact ⟨ids', (Dict.get?_set_of_ne _ _ hdpid).trans hids', hmem'⟩
  sfciRIB := rfl
  flows := rfl
  groups := rfl

theorem gives_assignGroupID {env : Environment} (u : UFRR) {dpid : Nat}
    (henv : env = .pica8AS4610 → dpid ∈ [1, 2, 3, 4, 5, 6]) :
    ∃ groupID u', (assignGroupID env dpid).run u = .ok groupID u' ∧
      Gives env u dpid groupID u' := by
  cases env with
  | pica8 => exact gives_assignPicaSwitch1 (.inl rfl)
  | pica8P3922 => exact gives_assignPicaSwitch1 (.inr (.inl rfl))
  | pica8AS4610 =>
      rw [assignGroupID]
      by_cases hfirst : dpid ∈ [1, 5, 6]
      · rw [if_pos hfirst]
        exact gives_assignPicaSwitch1 (.inr (.inr ⟨rfl, hfirst⟩))
      · have hsecond : dpid ∈ [2, 3, 4] := by
          have hdpid := henv rfl
          simp only [List.mem_cons, List.not_mem_nil, or_false] at hdpid hfirst ⊢
          omega
        rw [if_neg hfirst, if_pos hsecond]
        exact gives_assignPicaSwitch2 hfirst
  | mininet =>
      rw [assignGroupID, PyM.run_bind_get]
      cases hids : u.groupIDSets.get? dpid with
      | none =>
          refine ⟨0, _, rfl, gives_set ?_ List.mem_cons_self⟩
          intro ids' hids'
          rw [hids] at hids'
          cases hids'
      | some ids =>
          refine ⟨_, _, rfl, gives_set ?_ List.mem_concat_self⟩
          intro ids' hids'
          rw [hids] at hids'
          obtain rfl := Option.some.inj hids'
          refine ⟨Sff.genAvailableMiniNum4List_notMem ids, fun id hid => ?_⟩
          exact List.mem_append_left _ ((List.mem_insertionSort _).mpr hid)

/-! ## Reading -/

section Reading

variable {topo : Topology} {env : Environment} {sfci : SFCI}
  {directions : List Direction} {direction : Direction} {portTo : Nat → Nat → Nat}

theorem portToServer_eq_ok {dpid serverIP : Nat} {port : Option Nat}
    (hdpset : topo.dpset dpid = true) (hport : topo._getPortbyIP dpid serverIP = port) :
    portToServer topo dpid serverIP = .ok port := by
  rw [portToServer, if_pos hdpset, hport]

theorem Attached.inputPort {prev current : Nat}
    (h : Attached topo sfci direction portTo current prev) :
    _getInputPortOfDstNode topo sfci direction prev current =
      .ok (some (portTo current prev)) := by
  obtain ⟨hdpset, hport⟩ := h
  rw [_getInputPortOfDstNode]
  split at hport
  · next hswitch => rw [if_pos hswitch, hport.2]
  · next hserver =>
      obtain ⟨server, hget, hip⟩ := hport
      rw [if_neg hserver, hget]
      exact portToServer_eq_ok hdpset hip

theorem Attached.nextHop {current next : Nat}
    (h : Attached topo sfci direction portTo current next) : ∃ srcMAC dstMAC,
      _getNextHopActionFields topo sfci direction current next =
        .ok (srcMAC, dstMAC, some (portTo current next)) := by
  obtain ⟨hdpset, hport⟩ := h
  rw [_getNextHopActionFields]
  split at hport
  · next hswitch =>
      obtain ⟨hlink, hport⟩ := hport
      obtain ⟨⟨srcMAC, dstMAC⟩, hlink⟩ := Option.isSome_iff_exists.mp hlink
      rw [if_pos hswitch, hlink, hport]
      exact ⟨_, _, rfl⟩
  · next hserver =>
      obtain ⟨server, hget, hip⟩ := hport
      rw [if_neg hserver, hget]
      dsimp only
      rw [portToServer_eq_ok hdpset hip]
      exact ⟨_, _, rfl⟩

theorem Attached.defaultBucket {current next : Nat}
    (h : Attached topo sfci direction portTo current next) : ∃ srcMAC dstMAC,
      defaultBucket topo sfci direction current next =
        .ok ⟨srcMAC, dstMAC, none, some (portTo current next)⟩ := by
  obtain ⟨srcMAC, dstMAC, hnext⟩ := h.nextHop
  rw [UFRR.defaultBucket, hnext]
  exact ⟨srcMAC, dstMAC, rfl⟩

theorem getVNFTypeByStageNum_eq_ok (hvnf : ∀ vnf ∈ sfci.vnfiSequence, vnf ≠ [])
    {stageCount : Nat} (hstage : stageCount ≤ sfci.vnfiSequence.length) :
    ∃ vnfID, sfci.getVNFTypeByStageNum stageCount = .ok vnfID := by
  rw [Sff.SFCI.getVNFTypeByStageNum]
  split
  · exact ⟨0, rfl⟩
  · next hne =>
      have hlt : stageCount < sfci.vnfiSequence.length := by omega
      obtain ⟨vnfi, rest, hfirst⟩ := List.exists_cons_of_ne_nil
        (hvnf _ (List.getElem_mem hlt))
      have hread : itemAt sfci.vnfiSequence stageCount = .ok (vnfi :: rest) := by
        rw [itemAt_eq_ok_iff, List.getElem?_eq_getElem hlt, hfirst]
      rw [if_pos hlt, hread]
      exact ⟨vnfi.vnfID, rfl⟩

theorem getSFCIStageDstIP_eq_ok (hvnf : ∀ vnf ∈ sfci.vnfiSequence, vnf ≠ [])
    {stageCount : Nat} (hstage : stageCount ≤ sfci.vnfiSequence.length)
    (pathID : Nat) :
    getSFCIStageDstIP sfci.toSFCI stageCount pathID =
      .ok (addressOf sfci stageCount pathID) := by
  have hread : ∃ dstIP,
      getSFCIStageDstIP sfci.toSFCI stageCount pathID = .ok dstIP := by
    rw [getSFCIStageDstIP]
    split
    · obtain ⟨vnfID, htype⟩ := getVNFTypeByStageNum_eq_ok hvnf hstage
      rw [htype]
      exact ⟨_, rfl⟩
    · exact ⟨_, rfl⟩
  obtain ⟨dstIP, hread⟩ := hread
  rw [addressOf, hread]

def protects (current next : Nat) : FrrKey → Bool
  | .failureNodeID failureNodeID repairSwitchID _ =>
      decide (current = repairSwitchID ∧ next = failureNodeID)
  | _ => false

theorem protects_iff {current next : Nat} {key : FrrKey} :
    protects current next key = true ↔
      ∃ newPathID, key = .failureNodeID next current newPathID := by
  cases key with
  | failureNodeID failureNodeID repairSwitchID newPathID =>
      rw [protects, decide_eq_true_eq]
      constructor
      · rintro ⟨rfl, rfl⟩
        exact ⟨newPathID, rfl⟩
      · rintro ⟨_, heq⟩
        cases heq
        exact ⟨rfl, rfl⟩
  | _ =>
      constructor
      · intro h
        cases h
      · rintro ⟨_, heq⟩
        cases heq

def secondNode (backupPaths : Dict FrrKey Mapping.ForwardingPath) (key : FrrKey) :
    Except PyError (Option Nat) :=
  match backupPaths.get? key with
  | some backupPath => do
      let segPath ← itemAt backupPath 0
      let layerNode ← itemAt segPath 1
      return some layerNode.2
  | none => .error .keyError

theorem backupNextHopIn_eq {backupPaths : Dict FrrKey Mapping.ForwardingPath}
    {current next stageCount : Nat} {keys : List FrrKey}
    (hkeys : ∀ key ∈ keys, ∃ failureNodeID repairSwitchID newPathID,
      key = .failureNodeID failureNodeID repairSwitchID newPathID) :
    backupNextHopIn backupPaths current next stageCount keys =
      match keys.find? (protects current next) with
      | some key => secondNode backupPaths key
      | none => .ok none := by
  induction keys with
  | nil => rfl
  | cons key keys ih =>
      obtain ⟨failureNodeID, repairSwitchID, newPathID, rfl⟩ :=
        hkeys key List.mem_cons_self
      have hrest := ih fun key hkey => hkeys key (List.mem_cons_of_mem _ hkey)
      rw [List.find?_cons]
      change (if protects current next (.failureNodeID failureNodeID repairSwitchID
        newPathID) = true then _ else _) = _
      split
      · next hprotects =>
          rw [hprotects]
          rfl
      · next hprotects =>
          rw [Bool.eq_false_iff.mpr hprotects]
          exact hrest

theorem newPathIDIn_eq {current next : Nat} {keys : List FrrKey}
    (hkeys : ∀ key ∈ keys, ∃ failureNodeID repairSwitchID newPathID,
      key = .failureNodeID failureNodeID repairSwitchID newPathID) :
    newPathIDIn current next keys =
      .ok ((keys.find? (protects current next)).map newPathIDOf) := by
  induction keys with
  | nil => rfl
  | cons key keys ih =>
      obtain ⟨failureNodeID, repairSwitchID, newPathID, rfl⟩ :=
        hkeys key List.mem_cons_self
      have hrest := ih fun key hkey => hkeys key (List.mem_cons_of_mem _ hkey)
      rw [List.find?_cons]
      change (if repairSwitchID = current ∧ failureNodeID = next then _ else _) = _
      split
      · next heq =>
          rw [protects_iff.mpr ⟨newPathID, by rw [heq.1, heq.2]⟩]
          rfl
      · next hne =>
          have hnot : protects current next (.failureNodeID failureNodeID
              repairSwitchID newPathID) = false := by
            rw [Bool.eq_false_iff]
            intro hprotects
            obtain ⟨_, heq⟩ := protects_iff.mp hprotects
            cases heq
            exact hne ⟨rfl, rfl⟩
          rw [hnot]
          exact hrest

theorem Shaped.backupBuckets (hshaped : Shaped sfci directions)
    (hports : Reachable topo env sfci directions portTo) (hdirection :
      direction ∈ directions) (current next : Nat) {stageCount : Nat}
    (hstage : stageCount ≤ sfci.vnfiSequence.length) : ∃ buckets,
      UFRR.backupBuckets topo sfci direction current next stageCount = .ok buckets ∧
      ∀ newPathID repair backupNext segPath rest,
        (backupsOf sfci direction).get? (.failureNodeID next current newPathID) =
          some ((repair :: backupNext :: segPath) :: rest) →
        ∃ srcMAC dstMAC, buckets = [⟨srcMAC, dstMAC,
          some (addressOf sfci stageCount newPathID),
          some (portTo current backupNext.2)⟩] := by
  obtain ⟨backupPaths, hpaths⟩ :=
    Option.isSome_iff_exists.mp (hshaped.backup direction hdirection)
  have hbackups : backupsOf sfci direction = backupPaths := by
    rw [backupsOf, hpaths]
    rfl
  have hkeys : ∀ key ∈ backupPaths.keys, ∃ failureNodeID repairSwitchID newPathID,
      key = .failureNodeID failureNodeID repairSwitchID newPathID := by
    intro key hkey
    obtain ⟨path, hget⟩ := Dict.mem_keys_iff.mp hkey
    rw [← hbackups] at hget
    obtain ⟨failureNodeID, repairSwitchID, newPathID, _, _, _, _, heq, -⟩ :=
      hshaped.key direction hdirection key path hget
    exact ⟨failureNodeID, repairSwitchID, newPathID, heq⟩
  rw [UFRR.backupBuckets, _getBackupNextHop, _getNewDstIP, hpaths]
  dsimp only
  rw [backupNextHopIn_eq hkeys, newPathIDIn_eq hkeys]
  cases hfind : backupPaths.keys.find? (protects current next) with
  | none =>
      refine ⟨[], rfl, fun newPathID _ _ _ _ hget => ?_⟩
      rw [hbackups] at hget
      have hnot := List.find?_eq_none.mp hfind _ (Dict.mem_keys_iff.mpr ⟨_, hget⟩)
      exact absurd (protects_iff.mpr ⟨newPathID, rfl⟩) hnot
  | some key =>
      obtain ⟨newPathID, rfl⟩ := protects_iff.mp (List.find?_some hfind)
      have hkey := List.mem_of_find?_eq_some hfind
      obtain ⟨path, hget⟩ := Dict.mem_keys_iff.mp hkey
      rw [← hbackups] at hget
      obtain ⟨_, _, _, repair, backupNext, segPath, rest, heq, rfl, hrepair⟩ :=
        hshaped.key direction hdirection _ path hget
      cases heq
      have hattached := hports.repair direction hdirection _ _ _ _ _ hget
      rw [hrepair] at hattached
      obtain ⟨srcMAC, dstMAC, hnext⟩ := hattached.nextHop
      rw [hbackups] at hget
      have hsecond : secondNode backupPaths (.failureNodeID next current newPathID) =
          .ok (some backupNext.2) := by
        rw [secondNode, hget]
        rfl
      dsimp only [Option.map]
      rw [hsecond]
      refine ⟨[⟨srcMAC, dstMAC, some (addressOf sfci stageCount newPathID),
        some (portTo current backupNext.2)⟩], ?_, ?_⟩
      · change ((some <$> getSFCIStageDstIP sfci.toSFCI stageCount newPathID) >>=
          fun newDstIP => _getNextHopActionFields topo sfci direction current
            backupNext.2 >>= fun fields =>
              .ok [(⟨fields.1, fields.2.1, newDstIP, fields.2.2⟩ : Output)]) = _
        rw [getSFCIStageDstIP_eq_ok hshaped.vnf hstage, hnext]
        rfl
      · intro newPathID' repair' backupNext' segPath' rest' hget'
        have hkey' : .failureNodeID next current newPathID' ∈
            (backupsOf sfci direction).keys := Dict.mem_keys_iff.mpr ⟨_, hget'⟩
        rw [← hbackups] at hkey
        obtain rfl := hshaped.once direction hdirection _ hkey _ hkey' next current
          newPathID newPathID' rfl rfl
        rw [hbackups, hget] at hget'
        cases hget'
        exact ⟨srcMAC, dstMAC, rfl⟩

end Reading

/-! ## Installation -/

/-- A switch on a path. -/
structure Hop where
  path : StagedPath
  stage : Nat
  prev : Nat
  current : Nat
  next : Nat

section Installation

variable {topo : Topology} {env : Environment} {sfci : SFCI}
  {directions : List Direction} {direction : Direction} {portTo : Nat → Nat → Nat}

variable (topo) (env) (sfci) (portTo)

def keyOf (hop : Hop) : Nat × UfrrMatch :=
  (hop.current, ⟨some (portTo hop.current hop.prev),
    addressOf sfci hop.stage hop.path.pathID⟩)

/-- The entry is that of the hop: a group on a primary path. -/
def Made (groups : Dict (Nat × Nat) (List Output)) (hop : Hop)
    (instruction : Instruction) : Prop :=
  ∃ bucket, defaultBucket topo sfci hop.path.direction hop.current hop.next =
      .ok bucket ∧
    match hop.path.key with
    | none => ∃ buckets groupID,
        backupBuckets topo sfci hop.path.direction hop.current hop.next hop.stage =
          .ok buckets ∧
        groups.get? (hop.current, groupID) = some (bucket :: buckets) ∧
        instruction = .group groupID
    | some _ => instruction = .output bucket

/-- The packets are not those of the SFCI. -/
def Foreign (fields : UfrrMatch) : Prop :=
  ∀ stageCount pathID, fields.ipv4_dst ≠ addressOf sfci stageCount pathID

/-- The entries of the SFCI are those of the hops `hops`, of which each has one. -/
structure Done (hops : List Hop) (u : UFRR) : Prop where
  sound : ∀ key instruction, u.flows.get? key = some instruction →
    Foreign sfci key.2 ∨ ∃ hop ∈ hops, keyOf sfci portTo hop = key ∧
      Made topo sfci u.groups hop instruction
  complete : ∀ hop ∈ hops, (u.flows.get? (keyOf sfci portTo hop)).isSome = true
  given : ∀ dpid groupID, u.groups.contains (dpid, groupID) = true →
    Given env u dpid groupID
  sfciRIB : u.sfciRIB = .empty

variable {topo} {env} {sfci} {portTo} {hops : List Hop} {hop : Hop} {u u' : UFRR}

theorem Done.add_flow (h : Done topo env sfci portTo hops u)
    {instruction : Instruction} (hmade : Made topo sfci u.groups hop instruction)
    {key : Nat × UfrrMatch} (hkey : keyOf sfci portTo hop = key) :
    Done topo env sfci portTo (hops ++ [hop])
      (_add_flow key.1 key.2 instruction u) where
  sound := by
    subst hkey
    intro key instruction' hget
    rw [_add_flow, Dict.get?_set] at hget
    split at hget
    · next heq =>
        cases hget
        exact .inr ⟨hop, List.mem_concat_self, heq.symm, hmade⟩
    · refine (h.sound key instruction' hget).imp_right ?_
      rintro ⟨hop', hmem, hrest⟩
      exact ⟨hop', List.mem_append_left _ hmem, hrest⟩
  complete := by
    subst hkey
    intro hop' hmem
    rw [_add_flow, Dict.get?_set]
    split
    · rfl
    · next hne =>
        rcases List.mem_append.mp hmem with hmem | hmem
        · exact h.complete hop' hmem
        · rw [List.mem_singleton.mp hmem] at hne
          exact absurd rfl hne
  given := h.given
  sfciRIB := h.sfciRIB

theorem Done.addEntry (h : Done topo env sfci portTo hops u)
    (entries : List SelfAdaptiveMano.FlowTableEntry) :
    Done topo env sfci portTo hops { u with entries } :=
  ⟨h.sound, h.complete, h.given, h.sfciRIB⟩

theorem Done.addGroup (h : Done topo env sfci portTo hops u) {dpid groupID : Nat}
    (hgives : Gives env u dpid groupID u') (buckets : List Output) :
    Done topo env sfci portTo hops (addGroup dpid groupID buckets u') ∧
      (addGroup dpid groupID buckets u').groups.get? (dpid, groupID) =
        some buckets := by
  have hnew : u.groups.contains (dpid, groupID) = false :=
    Bool.eq_false_iff.mpr fun hcontains => hgives.new (h.given _ _ hcontains)
  have hadd : UFRR.addGroup dpid groupID buckets u' =
      { u' with groups := u.groups.set (dpid, groupID) buckets } := by
    rw [UFRR.addGroup, hgives.groups, hnew]
    rfl
  rw [hadd]
  refine ⟨⟨?_, ?_, ?_, hgives.sfciRIB.trans h.sfciRIB⟩, Dict.get?_set_self ..⟩
  · intro key instruction hget
    rw [hgives.flows] at hget
    refine (h.sound key instruction hget).imp_right ?_
    rintro ⟨hop, hmem, hkey, bucket, hbucket, hmade⟩
    refine ⟨hop, hmem, hkey, bucket, hbucket, ?_⟩
    cases hpath : hop.path.key with
    | some key => rwa [hpath] at hmade
    | none =>
        rw [hpath] at hmade
        obtain ⟨buckets', groupID', hbuckets', hgroup, hinstruction⟩ := hmade
        refine ⟨buckets', groupID', hbuckets', ?_, hinstruction⟩
        rw [Dict.get?_set_of_ne _ _ ?_]
        · exact hgroup
        · intro heq
          rw [← heq, Dict.contains, hgroup] at hnew
          cases hnew
  · intro hop hmem
    rw [hgives.flows]
    exact h.complete hop hmem
  · intro dpid' groupID' hcontains
    rw [Dict.contains, Dict.get?_set] at hcontains
    split at hcontains
    · next heq =>
        cases heq
        exact hgives.given
    · exact hgives.kept _ _ (h.given _ _ hcontains)

theorem run_addUFRRSFCIGroupTable {current next stageCount groupID : Nat}
    (hdpset : topo.dpset current = true) {bucket : Output} {buckets : List Output}
    (hbucket : defaultBucket topo sfci direction current next = .ok bucket)
    (hbuckets : backupBuckets topo sfci direction current next stageCount =
      .ok buckets) :
    (_addUFRRSFCIGroupTable topo sfci direction current next stageCount groupID).run u =
      .ok () (addGroup current groupID (bucket :: buckets) u) := by
  rw [_addUFRRSFCIGroupTable, requireConnected, if_pos hdpset, hbucket, hbuckets]
  rfl

theorem exists_run_addEntry (hvnf : ∀ vnf ∈ sfci.vnfiSequence, vnf ≠ [])
    {stageCount : Nat} (hstage : stageCount ≤ sfci.vnfiSequence.length)
    (dpid pathID : Nat) (actions : SelfAdaptiveMano.Actions) : ∃ entries,
      (addEntry sfci dpid stageCount pathID actions).run u =
        .ok () { u with entries } := by
  obtain ⟨vnfID, htype⟩ := getVNFTypeByStageNum_eq_ok hvnf hstage
  rw [addEntry, htype]
  exact ⟨_, rfl⟩

theorem goesThrough_installPrimaryHop (hshaped : Shaped sfci directions)
    (hports : Reachable topo env sfci directions portTo)
    (hdirection : direction ∈ directions) {stageCount : Nat}
    (hstage : stageCount ≤ sfci.vnfiSequence.length) {segPath : List LayerNode}
    {i : Nat} {prev current next : LayerNode}
    (hprev : itemAt segPath (i - 1) = .ok prev)
    (hcurrent : itemAt segPath i = .ok current)
    (hnext : itemAt segPath (i + 1) = .ok next)
    (hattached : Attached topo sfci direction portTo current.2 prev.2 ∧
      Attached topo sfci direction portTo current.2 next.2)
    (henv : env = .pica8AS4610 → current.2 ∈ [1, 2, 3, 4, 5, 6]) :
    GoesThrough (Done topo env sfci portTo)
      (installPrimaryHop topo env sfci direction stageCount (getPathID direction.ID)
        (addressOf sfci stageCount (getPathID direction.ID)) segPath i)
      [⟨primaryOf sfci direction, stageCount, prev.2, current.2, next.2⟩] := by
  rw [installPrimaryHop]
  refine .bind_ofExcept hprev (.bind_ofExcept hcurrent
    (.bind_ofExcept hattached.1.inputPort ?_))
  intro hops u h
  obtain ⟨groupID, u₁, hassign, hgives⟩ := gives_assignGroupID u henv
  obtain ⟨srcMAC, dstMAC, hbucket⟩ := hattached.2.defaultBucket
  obtain ⟨buckets, hbuckets, -⟩ :=
    hshaped.backupBuckets hports hdirection current.2 next.2 hstage
  have hskip : _canSkipPrimaryPathFlowInstallation u₁ sfci.sfciID
      (addressOf sfci stageCount (getPathID direction.ID)) current.2 = false := by
    rw [_canSkipPrimaryPathFlowInstallation, hgives.sfciRIB, h.sfciRIB]
    rfl
  obtain ⟨h₂, hgroup⟩ := h.addGroup hgives
    (⟨srcMAC, dstMAC, none, some (portTo current.2 next.2)⟩ :: buckets)
  have hmade : Made topo sfci (addGroup current.2 groupID
      (⟨srcMAC, dstMAC, none, some (portTo current.2 next.2)⟩ :: buckets) u₁).groups
      ⟨primaryOf sfci direction, stageCount, prev.2, current.2, next.2⟩
      (.group groupID) :=
    ⟨_, hbucket, buckets, groupID, hbuckets, hgroup, rfl⟩
  obtain ⟨entries, hentry⟩ := exists_run_addEntry (u := _add_flow current.2
      ⟨some (portTo current.2 prev.2),
        addressOf sfci stageCount (getPathID direction.ID)⟩ (.group groupID)
      (addGroup current.2 groupID
        (⟨srcMAC, dstMAC, none, some (portTo current.2 next.2)⟩ :: buckets) u₁))
    hshaped.vnf hstage current.2 (getPathID direction.ID) (.gotoGroup groupID)
  refine ⟨_, ?_, (h₂.add_flow hmade rfl).addEntry entries⟩
  rw [PyM.run_bind_ok hassign, hnext]
  change EStateM.run (if _canSkipPrimaryPathFlowInstallation u₁ sfci.sfciID
    (addressOf sfci stageCount (getPathID direction.ID)) current.2 = true then _
    else _) u₁ = _
  rw [hskip, if_neg Bool.false_ne_true, PyM.run_bind_ok
    (run_addUFRRSFCIGroupTable hattached.1.1 hbucket hbuckets),
    _addUFRRSFCIFlowtable, requireConnected, if_pos hattached.1.1]
  exact hentry

theorem goesThrough_installBackupHop (hvnf : ∀ vnf ∈ sfci.vnfiSequence, vnf ≠ [])
    {stageCount : Nat} (hstage : stageCount ≤ sfci.vnfiSequence.length)
    {segPath : List LayerNode} {i : Nat} {prev current next : LayerNode}
    (hprev : itemAt segPath (i - 1) = .ok prev)
    (hcurrent : itemAt segPath i = .ok current)
    (hnext : itemAt segPath (i + 1) = .ok next)
    (hattached : Attached topo sfci direction portTo current.2 prev.2 ∧
      Attached topo sfci direction portTo current.2 next.2)
    (key : FrrKey) (path : Mapping.ForwardingPath) :
    GoesThrough (Done topo env sfci portTo)
      (installBackupHop topo sfci direction stageCount (newPathIDOf key)
        (addressOf sfci stageCount (newPathIDOf key)) segPath i)
      [⟨backupOf sfci direction key path, stageCount, prev.2, current.2, next.2⟩] := by
  rw [installBackupHop]
  refine .bind_ofExcept hprev (.bind_ofExcept hcurrent (.bind_ofExcept hnext
    (.bind_ofExcept hattached.1.inputPort ?_)))
  intro hops u h
  obtain ⟨srcMAC, dstMAC, hbucket⟩ := hattached.2.defaultBucket
  have hmade : Made topo sfci u.groups
      ⟨backupOf sfci direction key path, stageCount, prev.2, current.2, next.2⟩
      (.output ⟨srcMAC, dstMAC, none, some (portTo current.2 next.2)⟩) :=
    ⟨_, hbucket, rfl⟩
  obtain ⟨entries, hentry⟩ := exists_run_addEntry (u := _add_flow current.2
      ⟨some (portTo current.2 prev.2),
        addressOf sfci stageCount (newPathIDOf key)⟩
      (.output ⟨srcMAC, dstMAC, none, some (portTo current.2 next.2)⟩) u)
    hvnf hstage current.2 (newPathIDOf key) (.outputNodeID next.2)
  refine ⟨_, ?_, (h.add_flow hmade rfl).addEntry entries⟩
  rw [_installRouteOnBackupPath, requireConnected, if_pos hattached.1.1, hbucket]
  exact hentry

def hopsOfStage (path : StagedPath) (stage : Nat) (segPath : List LayerNode) :
    List Hop :=
  if E2EProtection._isInnerNFVISegPath segPath then []
  else (hopsOf segPath).map fun (prev, current, next) =>
    ⟨path, stage, prev, current, next⟩

def hopsOfPath (path : StagedPath) : List Hop :=
  path.path.zipIdx.flatMap fun (segPath, i) =>
    hopsOfStage path (path.firstStage + i) segPath

/-- At an inner position there is a node before and one behind. -/
theorem exists_hopAt {segPath : List LayerNode} {i : Nat}
    (hi : i ∈ pyRange 1 (segPath.length - 1) 1) : ∃ prev current next,
      itemAt segPath (i - 1) = .ok prev ∧ itemAt segPath i = .ok current ∧
        itemAt segPath (i + 1) = .ok next ∧
        hopAt segPath i = [(prev.2, current.2, next.2)] ∧
        (prev.2, current.2, next.2) ∈ hopsOf segPath := by
  have hmem := hi
  rw [mem_pyRange Nat.one_pos] at hi
  obtain ⟨hlt, j, rfl⟩ := hi
  have hat : hopAt segPath (1 + 1 * j) = [((segPath[1 + 1 * j - 1]).2,
      (segPath[1 + 1 * j]).2, (segPath[1 + 1 * j + 1]).2)] := by
    rw [hopAt, List.getElem?_eq_getElem (by omega), List.getElem?_eq_getElem (by omega),
      List.getElem?_eq_getElem (by omega)]
  refine ⟨_, _, _, itemAt_eq_ok_iff.mpr (List.getElem?_eq_getElem _),
    itemAt_eq_ok_iff.mpr (List.getElem?_eq_getElem _),
    itemAt_eq_ok_iff.mpr (List.getElem?_eq_getElem _), hat, ?_⟩
  rw [← flatMap_hopAt]
  exact List.mem_flatMap.mpr ⟨_, hmem, hat ▸ List.mem_cons_self⟩

theorem goesThrough_hops {f : Nat → PyM UFRR PUnit} {path : StagedPath} {stage : Nat}
    {segPath : List LayerNode}
    (h : ∀ i prev current next, itemAt segPath (i - 1) = .ok prev →
      itemAt segPath i = .ok current → itemAt segPath (i + 1) = .ok next →
      (prev.2, current.2, next.2) ∈ hopsOf segPath →
        GoesThrough (Done topo env sfci portTo) (f i)
          [⟨path, stage, prev.2, current.2, next.2⟩]) :
    GoesThrough (Done topo env sfci portTo)
      ((pyRange 1 (segPath.length - 1) 1).forM f)
      ((hopsOf segPath).map fun (prev, current, next) =>
        ⟨path, stage, prev, current, next⟩) := by
  rw [← flatMap_hopAt, List.map_flatMap]
  apply GoesThrough.forM
  intro i hi
  obtain ⟨prev, current, next, hprev, hcurrent, hnext, hat, hmem⟩ := exists_hopAt hi
  rw [hat]
  exact h i prev current next hprev hcurrent hnext hmem

section Shaped

variable (hshaped : Shaped sfci directions)
  (hports : Reachable topo env sfci directions portTo)
  (hdirection : direction ∈ directions)

variable (sfci) in
include hdirection in
theorem primaryOf_mem :
    primaryOf sfci direction ∈ directions.flatMap (pathsOf sfci) :=
  List.mem_flatMap.mpr ⟨direction, hdirection, List.mem_cons_self⟩

include hdirection in
theorem backupOf_mem {key : FrrKey} {path : Mapping.ForwardingPath}
    (hget : (backupsOf sfci direction).get? key = some path) :
    backupOf sfci direction key path ∈ directions.flatMap (pathsOf sfci) := by
  refine List.mem_flatMap.mpr ⟨direction, hdirection, List.mem_cons_of_mem _ ?_⟩
  exact List.mem_map.mpr ⟨(key, path), Dict.mem_items_iff.mpr hget, rfl⟩

include hshaped in
theorem stage_le {p : StagedPath} (hp : p ∈ directions.flatMap (pathsOf sfci)) {i : Nat}
    {segPath : List LayerNode} (hi : p.path[i]? = some segPath) :
    p.firstStage + i ≤ sfci.vnfiSequence.length := by
  have hlength := hshaped.stages p hp
  have hlt := (List.getElem?_eq_some_iff.mp hi).1
  omega

include hshaped hports hdirection

theorem goesThrough_installPrimaryPath :
    GoesThrough (Done topo env sfci portTo)
      (_installPrimaryPath topo env sfci direction)
      (hopsOfPath (primaryOf sfci direction)) := by
  obtain ⟨path, hpath⟩ :=
    Option.isSome_iff_exists.mp (hshaped.primary direction hdirection)
  have hprimary : (primaryOf sfci direction).path = path := by
    rw [primaryOf, hpath]
    rfl
  have hmem := primaryOf_mem sfci hdirection
  rw [_installPrimaryPath, hopsOfPath, hprimary]
  refine .bind_ofOption hpath (.forM ?_)
  rintro ⟨segPath, i⟩ hseg
  have hi : (primaryOf sfci direction).path[i]? = some segPath := by
    rw [hprimary]
    exact List.mem_zipIdx_iff_getElem?.mp hseg
  have hsegPath := List.mem_of_getElem? hi
  have hstage : i ≤ sfci.vnfiSequence.length := by
    simpa [primaryOf] using stage_le hshaped hmem hi
  dsimp only
  rw [installPrimarySegPath, hopsOfStage,
    show (primaryOf sfci direction).firstStage + i = i from Nat.zero_add i]
  split
  · exact .pure
  · have hne := (hshaped.segment _ hmem _ hsegPath).1
    have hfirst : itemAt segPath 0 = .ok (segPath.head hne) :=
      itemAt_zero_eq_ok_iff.mpr (List.head?_eq_some_head hne)
    have hlast : itemFromEnd segPath 1 = .ok (segPath.getLast hne) :=
      itemFromEnd_one_eq_ok_iff.mpr (List.getLast?_eq_some_getLast hne)
    refine .bind_ofExcept (getSFCIStageDstIP_eq_ok hshaped.vnf hstage _)
      (.bind_ofExcept hfirst (.bind_ofExcept hlast (goesThrough_hops ?_)))
    intro j prev current next hprev hcurrent hnext hhop
    exact goesThrough_installPrimaryHop hshaped hports hdirection hstage hprev hcurrent
      hnext (hports.hops _ hmem _ hsegPath _ hhop)
      fun henv => hports.environment henv _ hmem _ hsegPath _ hhop

theorem goesThrough_installBackupPath {key : FrrKey} {path : Mapping.ForwardingPath}
    (hget : (backupsOf sfci direction).get? key = some path) :
    GoesThrough (Done topo env sfci portTo)
      (installBackupPath topo sfci direction key path)
      (hopsOfPath (backupOf sfci direction key path)) := by
  have hmem := backupOf_mem hdirection hget
  have hpathID : _getNewPathIDFromKey key = .ok (newPathIDOf key) := by
    obtain ⟨_, _, _, _, _, _, _, rfl, -⟩ :=
      hshaped.key direction hdirection key path hget
    rfl
  rw [installBackupPath, hopsOfPath]
  refine .bind_ofExcept hpathID (.forM ?_)
  rintro ⟨segPath, i⟩ hseg
  have hi : (backupOf sfci direction key path).path[i]? = some segPath :=
    List.mem_zipIdx_iff_getElem?.mp hseg
  have hsegPath := List.mem_of_getElem? hi
  have hstage := stage_le hshaped hmem hi
  have hfirst : backupStage sfci path.length i =
      .ok ((backupOf sfci direction key path).firstStage + i) := by
    have hlength : sfci.vnfiSequence.length + 1 - path.length + path.length =
      sfci.vnfiSequence.length + 1 := hshaped.stages _ hmem
    rw [backupStage, if_pos (by omega), backupOf]
    exact congrArg Except.ok (by dsimp only; omega)
  dsimp only
  rw [installBackupSegPath, hopsOfStage]
  split
  · exact .pure
  · refine .bind_ofExcept hfirst
      (.bind_ofExcept (getSFCIStageDstIP_eq_ok hshaped.vnf hstage _)
        (goesThrough_hops ?_))
    intro j prev current next hprev hcurrent hnext hhop
    exact goesThrough_installBackupHop hshaped.vnf hstage hprev hcurrent hnext
      (hports.hops _ hmem _ hsegPath _ hhop) key path

theorem goesThrough_installBackupPaths :
    GoesThrough (Done topo env sfci portTo)
      (_installBackupPaths topo sfci direction)
      ((backupsOf sfci direction).items.flatMap fun (key, path) =>
        hopsOfPath (backupOf sfci direction key path)) := by
  obtain ⟨backupPaths, hpaths⟩ :=
    Option.isSome_iff_exists.mp (hshaped.backup direction hdirection)
  have hbackups : backupsOf sfci direction = backupPaths := by
    rw [backupsOf, hpaths]
    rfl
  rw [_installBackupPaths, hbackups]
  refine .bind_ofOption hpaths (.forM ?_)
  rintro ⟨key, path⟩ hitem
  rw [← hbackups] at hitem
  exact goesThrough_installBackupPath hshaped hports hdirection
    (Dict.mem_items_iff.mp hitem)

end Shaped

def installedHops (sfci : SFCI) (directions : List Direction) : List Hop :=
  (directions.flatMap (pathsOf sfci)).flatMap hopsOfPath

theorem goesThrough_addSFCIRoute (hshaped : Shaped sfci directions)
    (hports : Reachable topo env sfci directions portTo) :
    GoesThrough (Done topo env sfci portTo) (_addSFCIRoute topo env directions sfci)
      (installedHops sfci directions) := by
  rw [_addSFCIRoute, installedHops, List.flatMap_assoc]
  apply GoesThrough.forM
  intro direction hdirection
  rw [pathsOf, List.flatMap_cons, List.flatMap_map]
  exact .bind (goesThrough_installPrimaryPath hshaped hports hdirection)
    (goesThrough_installBackupPaths hshaped hports hdirection)

end Installation

/-! ## Addresses and keys -/

section Keys

variable {topo : Topology} {env : Environment} {sfci : SFCI}
  {directions : List Direction} {portTo : Nat → Nat → Nat}

theorem exists_addressOf_eq (hvnf : ∀ vnf ∈ sfci.vnfiSequence, vnf ≠ []) {stage : Nat}
    (hstage : stage ≤ sfci.vnfiSequence.length) :
    ∃ base, ∀ pathID, addressOf sfci stage pathID = base * 256 + (pathID &&& 0xFF) := by
  have haddress : ∃ vnfID, ∀ pathID, addressOf sfci stage pathID = (10 <<< 24) +
      ((vnfID &&& 0xF) <<< 20) + ((sfci.sfciID &&& 0xFFF) <<< 8)
        + (pathID &&& 0xFF) := by
    by_cases hlt : stage < sfci.vnfiSequence.length
    · obtain ⟨vnfID, htype⟩ := getVNFTypeByStageNum_eq_ok hvnf hstage
      refine ⟨vnfID, fun pathID => ?_⟩
      rw [addressOf, getSFCIStageDstIP, if_pos hlt, htype]
      rfl
    · refine ⟨Sff.VNF_TYPE_CLASSIFIER, fun pathID => ?_⟩
      rw [addressOf, getSFCIStageDstIP, if_neg hlt]
      rfl
  obtain ⟨vnfID, haddress⟩ := haddress
  refine ⟨(10 <<< 16) + ((vnfID &&& 0xF) <<< 12) + (sfci.sfciID &&& 0xFFF),
    fun pathID => ?_⟩
  rw [haddress]
  simp only [Nat.shiftLeft_eq]
  omega

theorem addressOf_congr (hvnf : ∀ vnf ∈ sfci.vnfiSequence, vnf ≠ [])
    {stage stage' : Nat} (hstage : stage ≤ sfci.vnfiSequence.length)
    (hstage' : stage' ≤ sfci.vnfiSequence.length) {pathID : Nat}
    (h : addressOf sfci stage pathID = addressOf sfci stage' pathID) (pathID' : Nat) :
    addressOf sfci stage pathID' = addressOf sfci stage' pathID' := by
  obtain ⟨base, hbase⟩ := exists_addressOf_eq hvnf hstage
  obtain ⟨base', hbase'⟩ := exists_addressOf_eq hvnf hstage'
  rw [hbase, hbase'] at h ⊢
  omega

theorem eq_of_addressOf_eq (hshaped : Shaped sfci directions) {p p' : StagedPath}
    (hp : p ∈ directions.flatMap (pathsOf sfci))
    (hp' : p' ∈ directions.flatMap (pathsOf sfci)) {stage stage' : Nat}
    (hstage : stage ≤ sfci.vnfiSequence.length)
    (hstage' : stage' ≤ sfci.vnfiSequence.length)
    (h : addressOf sfci stage p.pathID = addressOf sfci stage' p'.pathID) : p = p' := by
  obtain ⟨base, hbase⟩ := exists_addressOf_eq hshaped.vnf hstage
  obtain ⟨base', hbase'⟩ := exists_addressOf_eq hshaped.vnf hstage'
  have hlt : ∀ pathID : Nat, pathID &&& 0xFF < 256 := fun pathID =>
    Nat.lt_of_le_of_lt Nat.and_le_right (by decide)
  have hid : p.pathID &&& 0xFF = p'.pathID &&& 0xFF := by
    have hfirst := hlt p.pathID
    have hsecond := hlt p'.pathID
    rw [hbase, hbase'] at h
    omega
  exact List.inj_on_of_nodup_map hshaped.pathIDs hp hp' hid

theorem mem_installedHops {hop : Hop} : hop ∈ installedHops sfci directions ↔
    hop.path ∈ directions.flatMap (pathsOf sfci) ∧ ∃ i segPath,
      hop.path.path[i]? = some segPath ∧
        E2EProtection._isInnerNFVISegPath segPath = false ∧
        hop.stage = hop.path.firstStage + i ∧
        (hop.prev, hop.current, hop.next) ∈ hopsOf segPath := by
  rw [installedHops, List.mem_flatMap]
  constructor
  · rintro ⟨p, hp, hhop⟩
    obtain ⟨⟨segPath, i⟩, hseg, hhop⟩ := List.mem_flatMap.mp hhop
    have hi := List.mem_zipIdx_iff_getElem?.mp hseg
    dsimp only at hhop hi
    rw [hopsOfStage] at hhop
    split at hhop
    · cases hhop
    · next hinner =>
        obtain ⟨⟨prev, current, next⟩, hmem, rfl⟩ := List.mem_map.mp hhop
        exact ⟨hp, i, segPath, hi, Bool.eq_false_iff.mpr hinner, rfl, hmem⟩
  · rintro ⟨hp, i, segPath, hi, hinner, hstage, hmem⟩
    refine ⟨hop.path, hp, List.mem_flatMap.mpr ⟨(segPath, i),
      List.mem_zipIdx_iff_getElem?.mpr hi, ?_⟩⟩
    dsimp only
    rw [hopsOfStage, hinner, ← hstage]
    exact List.mem_map.mpr ⟨_, hmem, rfl⟩

theorem of_keyOf_eq (hshaped : Shaped sfci directions)
    (hports : Reachable topo env sfci directions portTo) {hop hop' : Hop}
    (hp : hop.path ∈ directions.flatMap (pathsOf sfci))
    (hp' : hop'.path ∈ directions.flatMap (pathsOf sfci))
    (hstage : hop.stage ≤ sfci.vnfiSequence.length)
    (hstage' : hop'.stage ≤ sfci.vnfiSequence.length)
    (h : keyOf sfci portTo hop' = keyOf sfci portTo hop) :
    hop'.path = hop.path ∧ hop'.prev = hop.prev ∧ hop'.current = hop.current ∧
      addressOf sfci hop'.stage hop.path.pathID =
        addressOf sfci hop.stage hop.path.pathID := by
  obtain ⟨hcurrent, hfields⟩ := Prod.mk.inj h
  obtain ⟨hport, haddress⟩ := UfrrMatch.mk.inj hfields
  have hpath := eq_of_addressOf_eq hshaped hp' hp hstage' hstage haddress
  rw [hcurrent] at hport
  rw [hpath] at haddress
  exact ⟨hpath, hports.own _ _ _ (Option.some.inj hport), hcurrent, haddress⟩

end Keys

/-! ## The entries of the hops -/

section Entries

variable {topo : Topology} {env : Environment} {sfci : SFCI}
  {directions : List Direction} {portTo : Nat → Nat → Nat} {u : UFRR} {hop : Hop}

theorem Made.forward {instruction : Instruction}
    (h : Made topo sfci u.groups hop instruction)
    (hattached : Attached topo sfci hop.path.direction portTo hop.current hop.next)
    {inPort dstIP : Nat}
    (hget : u.flows.get? (hop.current, ⟨some inPort, dstIP⟩) = some instruction)
    (up : Option Nat → Bool) (hup : up (some (portTo hop.current hop.next)) = true) :
    UFRR.forward u up hop.current inPort dstIP =
      some (some (portTo hop.current hop.next), dstIP) := by
  obtain ⟨bucket, hbucket, hmade⟩ := h
  obtain ⟨srcMAC, dstMAC, hdefault⟩ := hattached.defaultBucket
  rw [hdefault] at hbucket
  obtain rfl := Except.ok.inj hbucket
  rw [UFRR.forward, hget]
  cases hkey : hop.path.key with
  | some key =>
      rw [hkey] at hmade
      rw [hmade]
      rfl
  | none =>
      rw [hkey] at hmade
      obtain ⟨buckets, groupID, -, hgroup, rfl⟩ := hmade
      have hfirst : List.find? (fun bucket : Output => up bucket.port)
          (⟨srcMAC, dstMAC, none, some (portTo hop.current hop.next)⟩ :: buckets) =
          some ⟨srcMAC, dstMAC, none, some (portTo hop.current hop.next)⟩ :=
        List.find?_cons_of_pos hup
      dsimp only
      rw [hgroup, Option.bind_some, hfirst]
      rfl

theorem Made.forward_backup {instruction : Instruction}
    (h : Made topo sfci u.groups hop instruction) (hkey : hop.path.key = none)
    (hattached : Attached topo sfci hop.path.direction portTo hop.current hop.next)
    {inPort dstIP : Nat}
    (hget : u.flows.get? (hop.current, ⟨some inPort, dstIP⟩) = some instruction)
    {srcMAC : Option Nat} {dstMAC newDstIP backupPort : Nat}
    (hbackup : backupBuckets topo sfci hop.path.direction hop.current hop.next
      hop.stage = .ok [⟨srcMAC, dstMAC, some newDstIP, some backupPort⟩])
    {up : Option Nat → Bool} (hdown : up (some (portTo hop.current hop.next)) = false)
    (hup : up (some backupPort) = true) :
    UFRR.forward u up hop.current inPort dstIP = some (some backupPort, newDstIP) := by
  obtain ⟨bucket, hbucket, hmade⟩ := h
  obtain ⟨srcMAC', dstMAC', hdefault⟩ := hattached.defaultBucket
  rw [hdefault] at hbucket
  obtain rfl := Except.ok.inj hbucket
  rw [hkey] at hmade
  obtain ⟨buckets, groupID, hbuckets, hgroup, rfl⟩ := hmade
  rw [hbackup] at hbuckets
  obtain rfl := Except.ok.inj hbuckets
  have hsecond : List.find? (fun bucket : Output => up bucket.port)
      [⟨srcMAC', dstMAC', none, some (portTo hop.current hop.next)⟩,
        ⟨srcMAC, dstMAC, some newDstIP, some backupPort⟩] =
      some ⟨srcMAC, dstMAC, some newDstIP, some backupPort⟩ := by
    simp [hdown, hup]
  rw [UFRR.forward, hget]
  dsimp only
  rw [hgroup, Option.bind_some, hsecond]
  rfl

theorem Done.exists_hop (hop : Hop) (hdone : Done topo env sfci portTo
      (installedHops sfci directions) u) (hshaped : Shaped sfci directions)
    (hports : Reachable topo env sfci directions portTo)
    (hp : hop.path ∈ directions.flatMap (pathsOf sfci))
    (hstage : hop.stage ≤ sfci.vnfiSequence.length) {instruction : Instruction}
    (hget : u.flows.get? (keyOf sfci portTo hop) = some instruction) :
    ∃ next j segPath, hop.path.path[j]? = some segPath ∧
      E2EProtection._isInnerNFVISegPath segPath = false ∧
      (hop.prev, hop.current, next) ∈ hopsOf segPath ∧
      addressOf sfci (hop.path.firstStage + j) hop.path.pathID =
        addressOf sfci hop.stage hop.path.pathID ∧
      Made topo sfci u.groups
        ⟨hop.path, hop.path.firstStage + j, hop.prev, hop.current, next⟩
        instruction := by
  rcases hdone.sound _ _ hget with hforeign | ⟨hop', hmem, hkey, hmade⟩
  · exact absurd rfl (hforeign hop.stage hop.path.pathID)
  · obtain ⟨hp', j, segPath, hj, hinner, hstage', hhop⟩ := mem_installedHops.mp hmem
    have hle := stage_le hshaped hp' hj
    rw [← hstage'] at hle
    obtain ⟨hpath, hprev, hcurrent, haddress⟩ :=
      of_keyOf_eq hshaped hports hp hp' hstage hle hkey
    obtain ⟨path, stage, prev, current, next⟩ := hop'
    dsimp only at hpath hprev hcurrent hstage' hj hhop haddress
    subst hpath hprev hcurrent hstage'
    exact ⟨next, j, segPath, hj, hinner, hhop, haddress, hmade⟩

/-! ## The paths are realised -/

theorem Shaped.repairBuckets (hshaped : Shaped sfci directions)
    (hports : Reachable topo env sfci directions portTo) {direction : Direction}
    (hdirection : direction ∈ directions) {current next stageCount : Nat}
    (hstage : stageCount ≤ sfci.vnfiSequence.length) {newPathID : Nat}
    {repair backupNext : LayerNode} {segPath : List LayerNode}
    {rest : Mapping.ForwardingPath}
    (hget : (backupsOf sfci direction).get? (.failureNodeID next current newPathID) =
      some ((repair :: backupNext :: segPath) :: rest)) : ∃ srcMAC dstMAC,
      UFRR.backupBuckets topo sfci direction current next stageCount =
        .ok [⟨srcMAC, dstMAC, some (addressOf sfci stageCount newPathID),
          some (portTo current backupNext.2)⟩] := by
  obtain ⟨buckets, hbuckets, hrepair⟩ :=
    hshaped.backupBuckets hports hdirection current next hstage
  obtain ⟨srcMAC, dstMAC, rfl⟩ := hrepair _ _ _ _ _ hget
  exact ⟨srcMAC, dstMAC, hbuckets⟩

end Entries

/-- No entry is for packets of the SFCI, and each group has a group ID that was given
on its switch. The information base of UFRR never lists an entry. -/
structure Fresh (env : Environment) (sfci : SFCI) (u : UFRR) : Prop where
  foreign : ∀ key instruction, u.flows.get? key = some instruction → Foreign sfci key.2
  given : ∀ dpid groupID, u.groups.contains (dpid, groupID) = true →
    Given env u dpid groupID
  sfciRIB : u.sfciRIB = .empty

section Realised

variable {topo : Topology} {env : Environment} {sfci : SFCI}
  {directions : List Direction} {portTo : Nat → Nat → Nat} {u : UFRR}

theorem Fresh.done (h : Fresh env sfci u) : Done topo env sfci portTo [] u where
  sound key instruction hget := .inl (h.foreign key instruction hget)
  complete _ hmem := nomatch hmem
  given := h.given
  sfciRIB := h.sfciRIB

theorem Fresh.done_addSFCIRoute (h : Fresh env sfci u)
    (hshaped : Shaped sfci directions)
    (hports : Reachable topo env sfci directions portTo) :
    Done topo env sfci portTo (installedHops sfci directions)
      ((_addSFCIRoute topo env directions sfci).finalState u) := by
  obtain ⟨u', hrun, hdone⟩ := goesThrough_addSFCIRoute hshaped hports [] u h.done
  rw [PyM.finalState_of_ok hrun]
  exact hdone

theorem exists_flow_of_forward {up : Option Nat → Bool} {dpid inPort dstIP : Nat}
    {output : Option Nat × Nat}
    (h : forward u up dpid inPort dstIP = some output) :
    ∃ instruction,
      u.flows.get? (dpid, ⟨some inPort, dstIP⟩) = some instruction := by
  rw [forward] at h
  cases hget : u.flows.get? (dpid, ⟨some inPort, dstIP⟩) with
  | some instruction => exact ⟨instruction, rfl⟩
  | none =>
      rw [hget] at h
      cases h

/-- A stage over one switch between two servers has no entry. -/
theorem Done.noneSkipped (hdone : Done topo env sfci portTo
      (installedHops sfci directions) u) (hshaped : Shaped sfci directions)
    (hports : Reachable topo env sfci directions portTo)
    (h : Realised sfci directions portTo u) : NoneSkipped sfci directions := by
  intro p hp segPath hsegPath hends
  apply Bool.eq_false_iff.mpr
  intro hinner
  obtain ⟨i, hi⟩ := List.mem_iff_getElem?.mp hsegPath
  match segPath, hinner with
  | [first, switch, last], hinner =>
      have hservers := of_decide_eq_true hinner
      have hforward := h.path p hp i _ hi hends first.2 switch.2 last.2
        List.mem_cons_self (fun _ => true) rfl
      obtain ⟨instruction, hget⟩ := exists_flow_of_forward hforward
      obtain ⟨next, j, segPath, hj, hnot, hhop, -, hmade⟩ := hdone.exists_hop
        ⟨p, p.firstStage + i, first.2, switch.2, last.2⟩ hshaped hports hp
        (stage_le hshaped hp hi) hget
      have hmem := List.mem_of_getElem? hj
      have hattached := (hports.hops p hp segPath hmem _ hhop).2
      have hnext := hmade.forward hattached hget (fun _ => true) rfl
      dsimp only at hnext
      rw [hforward] at hnext
      have hport := Option.some.inj (Prod.mk.inj (Option.some.inj hnext)).1
      have hsame : last.2 = next := hports.own _ _ _ hport
      rw [← hsame] at hhop
      have hswitches := (hshaped.segment p hp segPath hmem).2.1
      rw [isInner_of_mem_hopsOf hswitches hhop hservers.1 hservers.2.2] at hnot
      cases hnot

theorem nextDetermined_of_realised
    (hports : Reachable topo env sfci directions portTo)
    (h : Realised sfci directions portTo u) : NextDetermined sfci directions := by
  intro p hp i segPath hi hends j segPath' hj hends' haddress prev current next next'
    hhop hhop'
  have hfirst := h.path p hp i segPath hi hends prev current next hhop
    (fun _ => true) rfl
  have hsecond := h.path p hp j segPath' hj hends' prev current next' hhop'
    (fun _ => true) rfl
  rw [haddress, hsecond] at hfirst
  have hport := Option.some.inj (Prod.mk.inj (Option.some.inj hfirst)).1
  exact hports.own _ _ _ hport.symm

theorem Done.exists_made (hdone : Done topo env sfci portTo
      (installedHops sfci directions) u) (hshaped : Shaped sfci directions)
    (hports : Reachable topo env sfci directions portTo)
    (hnone : NoneSkipped sfci directions) (hnext : NextDetermined sfci directions)
    {p : StagedPath} (hp : p ∈ directions.flatMap (pathsOf sfci)) {i : Nat}
    {segPath : List LayerNode} (hi : p.path[i]? = some segPath)
    (hends : EndsDiffer segPath) {prev current next : Nat}
    (hhop : (prev, current, next) ∈ hopsOf segPath) : ∃ instruction stage,
      u.flows.get? (current, ⟨some (portTo current prev),
        addressOf sfci (p.firstStage + i) p.pathID⟩) = some instruction ∧
      stage ≤ sfci.vnfiSequence.length ∧
      addressOf sfci stage p.pathID = addressOf sfci (p.firstStage + i) p.pathID ∧
      Made topo sfci u.groups ⟨p, stage, prev, current, next⟩ instruction := by
  have hmem : (⟨p, p.firstStage + i, prev, current, next⟩ : Hop) ∈
      installedHops sfci directions :=
    mem_installedHops.mpr ⟨hp, i, segPath, hi,
      hnone p hp segPath (List.mem_of_getElem? hi) hends, rfl, hhop⟩
  obtain ⟨instruction, hget⟩ :=
    Option.isSome_iff_exists.mp (hdone.complete _ hmem)
  obtain ⟨next', j, segPath', hj, hnot, hhop', haddress, hmade⟩ :=
    hdone.exists_hop _ hshaped hports hp (stage_le hshaped hp hi) hget
  have hends' : EndsDiffer segPath' := by
    by_contra hsame
    rcases (hshaped.segment p hp segPath' (List.mem_of_getElem? hj)).2.2 hsame with
      hinner | hempty
    · rw [hinner] at hnot
      cases hnot
    · rw [hempty] at hhop'
      cases hhop'
  obtain rfl := hnext p hp i segPath hi hends j segPath' hj hends' haddress.symm prev
    current next next' hhop hhop'
  exact ⟨instruction, p.firstStage + j, hget, stage_le hshaped hp hj, haddress, hmade⟩

theorem Done.realised (hdone : Done topo env sfci portTo
      (installedHops sfci directions) u) (hshaped : Shaped sfci directions)
    (hports : Reachable topo env sfci directions portTo)
    (hnone : NoneSkipped sfci directions) (hnext : NextDetermined sfci directions) :
    Realised sfci directions portTo u where
  path := by
    intro p hp i segPath hi hends prev current next hhop up hup
    obtain ⟨instruction, stage, hget, -, -, hmade⟩ :=
      hdone.exists_made hshaped hports hnone hnext hp hi hends hhop
    have hattached := hports.hops p hp segPath (List.mem_of_getElem? hi) _ hhop
    exact hmade.forward hattached.2 hget up hup
  repair := by
    intro direction hdirection stage segPath hi hends prev current next hhop newPathID
      repair backupNext segPath' rest hbackup _ up hdown hup
    have hp := primaryOf_mem sfci hdirection
    obtain ⟨instruction, stage', hget, hle, haddress, hmade⟩ :=
      hdone.exists_made hshaped hports hnone hnext hp hi hends hhop
    have hfirst : (primaryOf sfci direction).firstStage + stage = stage :=
      Nat.zero_add stage
    rw [hfirst] at hget haddress
    have hattached := hports.hops _ hp segPath (List.mem_of_getElem? hi) _ hhop
    obtain ⟨srcMAC, dstMAC, hbuckets⟩ :=
      hshaped.repairBuckets hports hdirection hle hbackup
    have hstage := stage_le hshaped hp hi
    rw [hfirst] at hstage
    rw [← addressOf_congr hshaped.vnf hle hstage haddress newPathID]
    exact hmade.forward_backup rfl hattached.2 hget hbuckets hdown hup

/-- The entries realise the paths exactly where no stage is taken for the inside of a
server and no entry replaces another one. -/
theorem realised_iff (hshaped : Shaped sfci directions)
    (hports : Reachable topo env sfci directions portTo)
    (hfresh : Fresh env sfci u) :
    Realised sfci directions portTo
        ((_addSFCIRoute topo env directions sfci).finalState u) ↔
      NoneSkipped sfci directions ∧ NextDetermined sfci directions := by
  have hdone := hfresh.done_addSFCIRoute hshaped hports
  constructor
  · intro h
    exact ⟨hdone.noneSkipped hshaped hports h, nextDetermined_of_realised hports h⟩
  · rintro ⟨hnone, hnext⟩
    exact hdone.realised hshaped hports hnone hnext

end Realised

/-! ## A chain with one firewall -/

instance (segPath : List LayerNode) : Decidable (EndsDiffer segPath) :=
  inferInstanceAs (Decidable (_ ≠ _))

section Example

def exampleServer (serverID : Nat) : Sff.Server := ⟨serverID, serverID, 0⟩

def exampleDirection : Direction := ⟨0, exampleServer 10001, exampleServer 10001⟩

def exampleTopology : Topology where
  dpset := fun _ => true
  links := fun _ => some (0, 0)
  getLocalPortByPeerPort := fun _ nodeID => some nodeID
  _getPortbyIP := fun _ serverIP => some serverIP
  getMacByLocalPort := fun _ _ => none

def exampleStart : UFRR where
  groupIDSets := .empty
  picaSwitch1 := 0
  picaSwitch2 := 0
  sfciRIB := .empty
  entries := []
  flows := .empty
  groups := .empty

def exampleSFCI (primary : Mapping.ForwardingPath)
    (backups : Dict FrrKey Mapping.ForwardingPath) : SFCI where
  sfciID := 1
  vnfiSequence := [[⟨4, ⟨1, 2⟩, .server (exampleServer 10002)⟩,
    ⟨4, ⟨1, 3⟩, .server (exampleServer 10003)⟩]]
  primaryForwardingPath := Dict.empty.set 1 primary
  backupForwardingPath := Dict.empty.set 1 backups

/-- The firewall is behind the switch 2. Around it the switch 1 leads to the switch 3
with the other firewall. -/
def detourSFCI : SFCI :=
  exampleSFCI [[(0, 10001), (0, 1), (0, 2), (0, 10002)],
      [(1, 10002), (1, 2), (1, 1), (1, 10001)]]
    (Dict.empty.set (.failureNodeID 2 1 2)
      [[(0, 1), (0, 3), (0, 10003)], [(1, 10003), (1, 3), (1, 1), (1, 10001)]])

def sameSwitchSFCI : SFCI :=
  exampleSFCI [[(0, 10001), (0, 1), (0, 10002)], [(1, 10002), (1, 1), (1, 10001)]]
    .empty

variable {sfci : SFCI}

def Known (sfci : SFCI) (nodeID : Nat) : Prop :=
  nodeID < SERVERID_OFFSET ∨
    getServerByServerID sfci exampleDirection nodeID = some (exampleServer nodeID)

instance (sfci : SFCI) (nodeID : Nat) : Decidable (Known sfci nodeID) :=
  inferInstanceAs (Decidable (_ ∨ _))

theorem Known.attached {nodeID : Nat} (h : Known sfci nodeID) (dpid : Nat) :
    Attached exampleTopology sfci exampleDirection (fun _ nodeID => nodeID) dpid
      nodeID := by
  refine ⟨rfl, ?_⟩
  split
  · exact ⟨rfl, rfl⟩
  · next hserver => exact ⟨exampleServer nodeID, h.resolve_left hserver, rfl⟩

theorem reachable_example
    (hhops : ∀ p ∈ [exampleDirection].flatMap (pathsOf sfci), ∀ segPath ∈ p.path,
      ∀ hop ∈ hopsOf segPath, Known sfci hop.1 ∧ Known sfci hop.2.2)
    (hbackups : ∀ item ∈ (backupsOf sfci exampleDirection).items,
      ∀ segPath ∈ item.2, ∀ u ∈ segPath, Known sfci u.2) :
    Reachable exampleTopology .mininet sfci [exampleDirection]
      fun _ nodeID => nodeID where
  hops := by
    intro p hp segPath hsegPath hop hhop
    have hdirection : p.direction = exampleDirection := by
      rw [List.flatMap_singleton, pathsOf] at hp
      rcases List.mem_cons.mp hp with rfl | hp
      · rfl
      · obtain ⟨item, -, rfl⟩ := List.mem_map.mp hp
        rfl
    obtain ⟨hprev, hnext⟩ := hhops p hp segPath hsegPath hop hhop
    rw [hdirection]
    exact ⟨hprev.attached _, hnext.attached _⟩
  repair := by
    intro direction hdirection key repair next segPath rest hget
    obtain rfl := List.mem_singleton.mp hdirection
    refine (hbackups _ (Dict.mem_items_iff.mpr hget) (repair :: next :: segPath)
      List.mem_cons_self next ?_).attached _
    exact List.mem_cons_of_mem repair List.mem_cons_self
  own _ _ _ h := h
  environment h := nomatch h

theorem nextDetermined_of_forall {directions : List Direction}
    (h : ∀ p ∈ directions.flatMap (pathsOf sfci), ∀ a ∈ p.path.zipIdx,
      ∀ b ∈ p.path.zipIdx, addressOf sfci (p.firstStage + a.2) p.pathID =
          addressOf sfci (p.firstStage + b.2) p.pathID →
        ∀ hop ∈ hopsOf a.1, ∀ hop' ∈ hopsOf b.1, hop.1 = hop'.1 →
          hop.2.1 = hop'.2.1 → hop.2.2 = hop'.2.2) :
    NextDetermined sfci directions := by
  intro p hp i segPath hi _ j segPath' hj _ haddress prev current next next' hhop hhop'
  exact h p hp (segPath, i) (List.mem_zipIdx_iff_getElem?.mpr hi) (segPath', j)
    (List.mem_zipIdx_iff_getElem?.mpr hj) haddress _ hhop _ hhop' rfl rfl

theorem fresh_example : Fresh .mininet sfci exampleStart where
  foreign _ _ h := nomatch h
  given _ _ h := nomatch h
  sfciRIB := rfl

theorem shaped_detour : Shaped detourSFCI [exampleDirection] where
  primary := by decide
  backup := by decide
  vnf := by decide
  stages := by decide
  segment := by decide
  key := by
    intro direction hdirection key path hget
    obtain rfl := List.mem_singleton.mp hdirection
    have hitem := Dict.mem_items_iff.mpr hget
    obtain ⟨rfl, rfl⟩ := Prod.mk.inj (List.mem_singleton.mp hitem)
    exact ⟨2, 1, 2, _, _, _, _, rfl, rfl, rfl⟩
  once := by
    intro direction hdirection key hkey key' hkey' failureNodeID repairSwitchID
      newPathID newPathID' heq heq'
    obtain rfl := List.mem_singleton.mp hdirection
    have hfirst := List.mem_singleton.mp hkey
    have hsecond := List.mem_singleton.mp hkey'
    rw [hfirst.trans hsecond.symm, heq'] at heq
    cases heq
    rfl
  pathIDs := by decide

theorem shaped_sameSwitch : Shaped sameSwitchSFCI [exampleDirection] where
  primary := by decide
  backup := by decide
  vnf := by decide
  stages := by decide
  segment := by decide
  key := by
    intro direction hdirection key path hget
    obtain rfl := List.mem_singleton.mp hdirection
    cases hget
  once := by
    intro direction hdirection key hkey
    obtain rfl := List.mem_singleton.mp hdirection
    cases hkey
  pathIDs := by decide

/-- The paths around the switch 2 are realised. -/
theorem realised_iff_detour :
    (NoneSkipped detourSFCI [exampleDirection] ∧
      NextDetermined detourSFCI [exampleDirection]) ∧
    Realised detourSFCI [exampleDirection] (fun _ nodeID => nodeID)
      ((_addSFCIRoute exampleTopology .mininet [exampleDirection]
        detourSFCI).finalState exampleStart) := by
  have hports : Reachable exampleTopology .mininet detourSFCI [exampleDirection]
      fun _ nodeID => nodeID :=
    reachable_example (by decide) (by decide)
  have hnone : NoneSkipped detourSFCI [exampleDirection] := by
    unfold NoneSkipped
    decide
  have hnext : NextDetermined detourSFCI [exampleDirection] :=
    nextDetermined_of_forall (by decide)
  exact ⟨⟨hnone, hnext⟩,
    (realised_iff shaped_detour hports fresh_example).mpr ⟨hnone, hnext⟩⟩

/-- The stages over the switch of both servers have no entries. -/
theorem not_realised_sameSwitch :
    Shaped sameSwitchSFCI [exampleDirection] ∧
      Reachable exampleTopology .mininet sameSwitchSFCI [exampleDirection]
        (fun _ nodeID => nodeID) ∧
      Fresh .mininet sameSwitchSFCI exampleStart ∧
      ¬ Realised sameSwitchSFCI [exampleDirection] (fun _ nodeID => nodeID)
        ((_addSFCIRoute exampleTopology .mininet [exampleDirection]
          sameSwitchSFCI).finalState exampleStart) := by
  have hports : Reachable exampleTopology .mininet sameSwitchSFCI [exampleDirection]
      fun _ nodeID => nodeID :=
    reachable_example (by decide) (by decide)
  refine ⟨shaped_sameSwitch, hports, fresh_example, fun h => ?_⟩
  have hnone := (fresh_example.done_addSFCIRoute shaped_sameSwitch hports).noneSkipped
    shaped_sameSwitch hports h
  have hinner := hnone (primaryOf sameSwitchSFCI exampleDirection) List.mem_cons_self
    [(0, 10001), (0, 1), (0, 10002)] List.mem_cons_self (by decide)
  cases hinner

end Example

end UFRR

end SelfAdaptiveMano.Ryu

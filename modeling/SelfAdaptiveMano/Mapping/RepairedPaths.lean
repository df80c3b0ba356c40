import SelfAdaptiveMano.Mapping.MMLBSFC

/-!
# What a repaired path says

The primary path goes from the ingress to the egress through the hosts of its
VNFs. The backup path takes over at the node before the failed one. What is left
of the primary path and the backup path together are a path of the same kind,
without the failed node, if the VNFs from there on are placed as they must be.
-/

namespace SelfAdaptiveMano.Mapping

open Library LayeredWalk MultiLayerGraph

/-! ## Paths that serve a chain -/

section Serves

variable (dib : DCNInfoBase) (zoneName : Zone) (sfc : SFC)

def IsSwitch (nodeID : Nat) : Prop :=
  ∃ info, dib.switchInfo zoneName nodeID = .ok info

def IsServer (nodeID : Nat) : Prop :=
  ∃ info, dib.serverInfo zoneName nodeID = .ok info

def Adjacent (a b : Nat) : Prop :=
  (∃ links info, dib.links.get? zoneName = some links ∧ info ∈ links.values ∧
    info.link.srcID = a ∧ info.link.dstID = b) ∨
  Connected dib zoneName a b ∨ Connected dib zoneName b a

theorem mem_keys_of_isSwitch {dib : DCNInfoBase} {zoneName : Zone} {nodeID : Nat}
    {switches : Dict Nat SwitchInfo} (h : IsSwitch dib zoneName nodeID)
    (hswitches : dib.switches.get? zoneName = some switches) :
    nodeID ∈ switches.keys := by
  obtain ⟨info, hinfo⟩ := h
  rw [DCNInfoBase.switchInfo, hswitches, Option.bind_some] at hinfo
  split at hinfo
  next info' hget => exact Dict.mem_keys_iff.mpr ⟨info', hget⟩
  next => cases hinfo

theorem mem_keys_of_isServer {dib : DCNInfoBase} {zoneName : Zone} {nodeID : Nat}
    {servers : Dict Nat ServerInfo} (h : IsServer dib zoneName nodeID)
    (hservers : dib.servers.get? zoneName = some servers) :
    nodeID ∈ servers.keys := by
  obtain ⟨info, hinfo⟩ := h
  rw [DCNInfoBase.serverInfo, hservers, Option.bind_some] at hinfo
  split at hinfo
  next info' hget => exact Dict.mem_keys_iff.mpr ⟨info', hget⟩
  next => cases hinfo

def Moves (u v : LayerNode) : Prop :=
  v.2 = u.2 ∨ Adjacent dib zoneName u.2 v.2

def IsDeviceOf (vnf : VNF) (nodeID : Nat) : Prop :=
  (vnf.preferredDeviceType = .server ∧ IsServer dib zoneName nodeID) ∨
    (vnf.preferredDeviceType = .p4 ∧ IsSwitch dib zoneName nodeID)

/-- A contiguous path from the ingress to the egress that goes through hosts of
the VNFs, in their order. -/
structure Serves (ingID egID : Nat) (forwardingPath : ForwardingPath) : Prop where
  length : forwardingPath.length = sfc.getSFCLength + 1
  layers : ∀ (i : Nat) (segPath : List LayerNode),
    forwardingPath[i]? = some segPath → ∀ u ∈ segPath, u.1 = i
  first : forwardingPath.head?.bind List.head? = some (0, ingID)
  last : forwardingPath.getLast?.bind List.getLast? =
    some (sfc.getSFCLength, egID)
  contiguous : ∀ segPath ∈ forwardingPath, segPath.IsChain (Moves dib zoneName)
  hosts : ∀ i < sfc.getSFCLength, ∃ vnf host, sfc.vnfSequence[i]? = some vnf ∧
    IsDeviceOf dib zoneName vnf host ∧
    forwardingPath[i]?.bind List.getLast? = some (i, host) ∧
    forwardingPath[i + 1]?.bind List.head? = some (i + 1, host)

end Serves

/-! ## Where the path is cut -/

theorem mem_of_mem_steps {segPath : List LayerNode} {step : LayerNode × LayerNode}
    (h : step ∈ steps segPath) : step.1 ∈ segPath ∧ step.2 ∈ segPath :=
  ⟨(List.of_mem_zip h).1, List.mem_of_mem_tail (List.of_mem_zip h).2⟩

namespace MMLBSFC

variable {failureID : Nat}

/-- The path is cut at the first place of the failed node, after the node before
it. -/
structure CutAt (failureID : Nat) (forwardingPath : ForwardingPath)
    (before : ForwardingPath) (start : List LayerNode) (repair : LayerNode) :
    Prop where
  split : ∃ failed rest after, failed.2 = failureID ∧
    forwardingPath = before ++ (start ++ repair :: failed :: rest) :: after
  notBefore : ∀ segPath ∈ before, ∀ u ∈ segPath, u.2 ≠ failureID
  notStart : ∀ u ∈ start ++ [repair], u.2 ≠ failureID

theorem find?_steps {start rest : List LayerNode} {repair failed : LayerNode}
    (hstart : ∀ u ∈ start ++ [repair], u.2 ≠ failureID)
    (hfailed : failed.2 = failureID) :
    (steps (start ++ repair :: failed :: rest)).find?
      (fun step => step.2.2 == failureID) = some (repair, failed) := by
  induction start with
  | nil => simp [steps_cons_cons, hfailed]
  | cons u start ih =>
      have hstart' : ∀ u ∈ start ++ [repair], u.2 ≠ failureID :=
        fun v hv => hstart v (List.mem_cons_of_mem u hv)
      cases start with
      | nil =>
          have hne : repair.2 ≠ failureID := hstart' repair (by simp)
          simp [steps_cons_cons, hne, hfailed]
      | cons v start =>
          have hne : v.2 ≠ failureID := hstart' v (by simp)
          have ih := ih hstart'
          rw [List.cons_append] at ih
          rw [List.cons_append, List.cons_append, steps_cons_cons,
            List.find?_cons_of_neg (by simpa using hne)]
          exact ih

theorem takeWhile_start {start rest : List LayerNode} {repair failed : LayerNode}
    (hstart : ∀ u ∈ start ++ [repair], u.2 ≠ failureID)
    (hfailed : failed.2 = failureID) :
    (start ++ repair :: failed :: rest).takeWhile
      (fun u => decide (u.2 ≠ failureID)) = start ++ [repair] := by
  rw [show start ++ repair :: failed :: rest =
    (start ++ [repair]) ++ failed :: rest by simp, List.takeWhile_append_of_pos,
    List.takeWhile_cons_of_neg (by simpa using hfailed), List.append_nil]
  intro u hu
  exact decide_eq_true (hstart u hu)

/-- A node that is not the first one has a node before it. -/
theorem exists_split {segPath : List LayerNode} {u : LayerNode}
    (hhead : segPath.head? = some u) (hu : u.2 ≠ failureID)
    (hmem : failureID ∈ segPath.map Prod.snd) :
    ∃ start repair failed rest, segPath = start ++ repair :: failed :: rest ∧
      failed.2 = failureID ∧ ∀ v ∈ start ++ [repair], v.2 ≠ failureID := by
  obtain ⟨ids, ids', hids, hnot⟩ := List.eq_append_cons_of_mem hmem
  obtain ⟨before, tail, rfl, rfl, htail⟩ := List.map_eq_append_iff.mp hids
  obtain ⟨failed, rest, rfl, hfailed, -⟩ := List.map_eq_cons_iff.mp htail
  obtain rfl | ⟨start, repair, rfl⟩ := List.eq_nil_or_concat' before
  · rw [List.nil_append, List.head?_cons, Option.some.injEq] at hhead
    exact absurd (hhead ▸ hfailed) hu
  · refine ⟨start, repair, failed, rest, by simp, hfailed, ?_⟩
    intro v hv heq
    exact hnot (heq ▸ List.mem_map_of_mem hv)

theorem CutAt.cons {segPath start : List LayerNode} {repair : LayerNode}
    {before forwardingPath : ForwardingPath}
    (hsegPath : ∀ u ∈ segPath, u.2 ≠ failureID)
    (h : CutAt failureID forwardingPath before start repair) :
    CutAt failureID (segPath :: forwardingPath) (segPath :: before) start
      repair := by
  obtain ⟨⟨failed, rest, after, hfailed, rfl⟩, hbefore, hstart⟩ := h
  exact ⟨⟨failed, rest, after, hfailed, rfl⟩,
    List.forall_mem_cons.mpr ⟨hsegPath, hbefore⟩, hstart⟩

/-- If there is a repair switch, it is the node before the failed one, and the
unaffected part ends there. -/
theorem cutAt_of_hasRepairSwitchIn {dib : DCNInfoBase}
    {forwardingPath : ForwardingPath}
    (h : hasRepairSwitchIn dib failureID forwardingPath = .ok true) :
    ∃ before start repair, CutAt failureID forwardingPath before start repair ∧
      getRepairSwitchLayerSwitchID failureID forwardingPath = .ok repair ∧
      getUnaffectedPart failureID forwardingPath =
        before ++ [start ++ [repair]] := by
  induction forwardingPath with
  | nil => cases h
  | cons segPath forwardingPath ih =>
      obtain ⟨⟨layer, nodeID⟩, hfirst, h⟩ := except_bind_eq_ok_iff.mp h
      have hfirst := itemAt_zero_eq_ok_iff.mp hfirst
      dsimp only at h
      split at h
      · cases h
      next hne =>
        by_cases hmem : failureID ∈ segPath.map Prod.snd
        · obtain ⟨start, repair, failed, rest, rfl, hfailed, hstart⟩ :=
            exists_split hfirst hne hmem
          refine ⟨[], start, repair, ⟨⟨failed, rest, forwardingPath, hfailed, rfl⟩,
            by simp, hstart⟩, ?_, ?_⟩
          · rw [getRepairSwitchLayerSwitchID, find?_steps hstart hfailed]
          · rw [getUnaffectedPart, if_pos hmem, takeWhile_start hstart hfailed,
              List.nil_append]
        · have hnot : ∀ u ∈ segPath, u.2 ≠ failureID := by
            intro u hu heq
            exact hmem (heq ▸ List.mem_map_of_mem hu)
          have hsteps : ∀ step ∈ steps segPath, ¬ step.2.2 = failureID :=
            fun step hstep => hnot step.2 (mem_of_mem_steps hstep).2
          split at h
          next hany =>
            obtain ⟨step, hstep, htest⟩ := List.any_eq_true.mp hany
            simp only [Bool.and_eq_true, beq_iff_eq] at htest
            exact absurd htest.1 (hsteps step hstep)
          next =>
            obtain ⟨before, start, repair, hcut, hrepair, hunaffected⟩ := ih h
            refine ⟨segPath :: before, start, repair, hcut.cons hnot, ?_, ?_⟩
            · have hnone : (steps segPath).find?
                  (fun step => step.2.2 == failureID) = none := by
                simpa using hsteps
              rw [getRepairSwitchLayerSwitchID, hnone]
              exact hrepair
            · rw [getUnaffectedPart, if_neg hmem, hunaffected, List.cons_append]

theorem of_hasRepairSwitch {dib : DCNInfoBase} {forwardingPath : ForwardingPath}
    (h : hasRepairSwitch dib forwardingPath failureID = .ok true) :
    hasRepairSwitchIn dib failureID forwardingPath = .ok true ∧
      ∀ u, forwardingPath.getLast?.bind List.getLast? = some u →
        u.2 ≠ failureID := by
  obtain ⟨firstSegPath, -, h⟩ := except_bind_eq_ok_iff.mp h
  obtain ⟨lastSegPath, hlastSegPath, h⟩ := except_bind_eq_ok_iff.mp h
  obtain ⟨source, -, h⟩ := except_bind_eq_ok_iff.mp h
  obtain ⟨firstSff, -, h⟩ := except_bind_eq_ok_iff.mp h
  obtain ⟨destination, hdestination, h⟩ := except_bind_eq_ok_iff.mp h
  obtain ⟨lastSff, -, h⟩ := except_bind_eq_ok_iff.mp h
  split at h
  · cases h
  next hnot =>
    refine ⟨h, fun u hu heq => hnot ?_⟩
    rw [itemFromEnd_one_eq_ok_iff.mp hlastSegPath, Option.bind_some,
      itemFromEnd_one_eq_ok_iff.mp hdestination] at hu
    obtain rfl := Option.some.inj hu
    simp [heq]

/-! ## What is computed -/

variable {b : MMLBSFC} {finder : PathFinder} {repair : LayerNode}
  {path forwardingPath : ForwardingPath}

theorem of_genBackupPath
    (h : b.genBackupPath finder failureID forwardingPath =
      .ok (some (repair, path))) :
    hasRepairSwitch b.dib forwardingPath failureID = .ok true ∧
      getRepairSwitchLayerSwitchID failureID forwardingPath = .ok repair ∧
      ∃ capacityAwareFlag, b.tryBackupPath finder failureID repair
        capacityAwareFlag = .ok path := by
  rw [genBackupPath] at h
  split at h
  · cases h
  · cases h
  next hswitch =>
    split at h
    · cases h
    next repair' hrepair =>
      obtain ⟨path', hpath, h⟩ := except_bind_eq_ok_iff.mp h
      obtain ⟨rfl, rfl⟩ := Prod.mk.inj (Option.some.inj (Except.ok.inj h))
      refine ⟨hswitch, hrepair, ?_⟩
      rw [getBackupPath] at hpath
      split at hpath
      next htry =>
        obtain rfl := Except.ok.inj hpath
        exact ⟨true, htry⟩
      next => exact ⟨false, hpath⟩

/-- The graph of the network without the failed node. -/
def graph (b : MMLBSFC) (failureID : Nat) : MultiLayerGraph :=
  ⟨b.dib, b.zoneName, b.sfc, false, b.weight, some [failureID], some []⟩

structure Attempt (b : MMLBSFC) (failureID : Nat) (repair : LayerNode)
    (edges : List Edge) (nodes : List LayerNode) : Prop where
  isGraph : ∃ capacityAwareFlag,
    (b.graph failureID).trans2MLG capacityAwareFlag = .ok edges
  isChain : nodes.IsChain (HasEdge edges)
  head : nodes.head? = some repair
  last : nodes.getLast? = some (b.sfc.getSFCLength, b.egSwitchID)

theorem of_tryBackupPath {capacityAwareFlag : Bool}
    (h : b.tryBackupPath finder failureID repair capacityAwareFlag = .ok path) :
    ∃ edges nodes, Attempt b failureID repair edges nodes ∧
      b.selectNPoPNodeAndServers failureID nodes = .ok path := by
  obtain ⟨g, hg, h⟩ := except_bind_eq_ok_iff.mp h
  obtain rfl : b.graph failureID = g := Except.ok.inj hg
  obtain ⟨edges, hedges, h⟩ := except_bind_eq_ok_iff.mp h
  split at h
  · cases h
  next nodes hnodes =>
    obtain ⟨hchain, hhead, hlast⟩ := finder.path_spec hnodes
    exact ⟨edges, nodes, ⟨⟨capacityAwareFlag, hedges⟩, hchain, hhead, hlast⟩, h⟩

namespace Attempt

variable {edges : List Edge} {nodes : List LayerNode} {u v : LayerNode}

theorem edge (h : Attempt b failureID repair edges nodes)
    (hedge : HasEdge edges u v) :
    (v.1 = u.1 ∧ (b.graph failureID).Linked u.2 v.2) ∨
      (v = (u.1 + 1, u.2) ∧ IsSwitch b.dib b.zoneName u.2) := by
  obtain ⟨capacityAwareFlag, hgraph⟩ := h.isGraph
  obtain hlinked | ⟨hnext, -, vnf, info, -, hinfo, -⟩ :=
    linked_of_hasEdge hgraph hedge
  · exact Or.inl hlinked
  · exact Or.inr ⟨hnext, info, hinfo⟩

theorem layered (h : Attempt b failureID repair edges nodes) :
    Layered (HasEdge edges) := by
  intro u v hedge
  obtain ⟨hlayer, -⟩ | ⟨rfl, -⟩ := h.edge hedge
  · exact Or.inl hlayer
  · exact Or.inr rfl

theorem through (h : Attempt b failureID repair edges nodes) :
    ∃ m, repair.1 + m = b.sfc.getSFCLength ∧
      Through nodes repair.1 repair.2 m b.egSwitchID := by
  obtain ⟨rest, rfl⟩ := List.head?_eq_some_iff.mp h.head
  have hle := le_of_mem h.layered h.isChain (List.mem_of_getLast? h.last)
  obtain ⟨m, hm⟩ := Nat.exists_eq_add_of_le hle
  refine ⟨m, hm.symm, h.isChain.imp fun u v hedge => ?_, rfl, hm ▸ h.last⟩
  obtain ⟨hlayer, -⟩ | ⟨hnext, -⟩ := h.edge hedge
  · exact Or.inl hlayer
  · exact Or.inr hnext

theorem ne_failureID (h : Attempt b failureID repair edges nodes)
    (hrepair : repair.2 ≠ failureID) : ∀ u ∈ nodes, u.2 ≠ failureID := by
  obtain ⟨rest, rfl⟩ := List.head?_eq_some_iff.mp h.head
  apply h.isChain.induction
  · intro u v hedge hu
    obtain ⟨-, -, -, nodes', hnodes', -, hv⟩ | ⟨rfl, -⟩ := h.edge hedge
    · obtain rfl := Option.some.inj hnodes'
      simpa using hv
    · exact hu
  · exact fun _ => hrepair

theorem moves (h : Attempt b failureID repair edges nodes)
    (hedge : HasEdge edges u v) : Moves b.dib b.zoneName u v := by
  obtain ⟨-, ⟨links, info, hlinks, hinfo, -, hsrc, hdst⟩, -⟩ | ⟨rfl, -⟩ :=
    h.edge hedge
  · exact Or.inr (Or.inl ⟨links, info, hlinks, hinfo, hsrc, hdst⟩)
  · exact Or.inl rfl

theorem isSwitch {i k host : Nat} (h : Attempt b failureID repair edges nodes)
    (hhost : nodes[k]? = some (i, host))
    (hhost' : nodes[k + 1]? = some (i + 1, host)) :
    IsSwitch b.dib b.zoneName host := by
  obtain ⟨hlayer, -⟩ | ⟨-, hswitch⟩ :=
    h.edge (edge_of_getElem? h.isChain hhost hhost')
  · exact absurd hlayer (Nat.succ_ne_self i)
  · exact hswitch

end Attempt

/-! ## The segments of the backup path -/

theorem selectServer4ServerList_ne_ok {f : PathServerFiller}
    (hpM : f.hasPM = false) {vnfType : Nat} {trafficDemand : ℚ}
    {serverList : List Server} {server : Server} :
    f.selectServer4ServerList vnfType trafficDemand serverList ≠ .ok server := by
  intro h
  cases serverList with
  | nil => cases h
  | cons server' serverList =>
      obtain ⟨enough, henough, -⟩ := except_bind_eq_ok_iff.mp h
      rw [PathServerFiller.hasEnoughResource, hpM] at henough
      cases henough

theorem of_selectNFVI4EachStage {f : PathServerFiller}
    {dividedPath : ForwardingPath} {abandonElementIDList : List Nat}
    {servers : List (Option Server)} (hpM : f.hasPM = false)
    (h : f.selectNFVI4EachStage dividedPath abandonElementIDList = .ok servers) :
    servers.length = dividedPath.length - 1 ∧ ∀ i < servers.length,
      servers[i]? = some none ∧ ∃ vnf, f.sfc.vnfSequence[i]? = some vnf ∧
        vnf.preferredDeviceType = .p4 := by
  obtain ⟨hlength, hturns⟩ := of_mapM_range h
  refine ⟨hlength, fun i hi => ?_⟩
  obtain ⟨choice, hchoice, hturn⟩ := hturns i (hlength ▸ hi)
  obtain ⟨vnf, hvnf, ⟨-, server, vnfType, serverList, -, hserver⟩ |
    ⟨hdevice, rfl⟩⟩ := PathServerFiller.of_selectNFVI4Stage hturn
  · exact absurd hserver (selectServer4ServerList_ne_ok hpM)
  · exact ⟨hchoice, vnf, hvnf, hdevice⟩

def segment (b : MMLBSFC) (nodes : List LayerNode) (s m i : Nat) :
    List LayerNode :=
  layer nodes (s + i) ++ if i = m then [(s + m, b.egressID)] else []

theorem of_selectNPoPNodeAndServers {nodes : List LayerNode} {s first m last : Nat}
    (hnodes : Through nodes s first m last)
    (h : b.selectNPoPNodeAndServers failureID nodes = .ok path) :
    ∃ servers : List (Option Server), servers.length = m ∧
      (∀ i < m, servers[i]? = some none ∧
        ∃ vnf, b.sfc.vnfSequence[i]? = some vnf ∧
          vnf.preferredDeviceType = .p4) ∧
      path = (List.range (m + 1)).map
        (PathServerFiller.filled servers s (b.segment nodes s m)) := by
  obtain ⟨dividedPath, hdivided, h⟩ := except_bind_eq_ok_iff.mp h
  obtain ⟨servers, hservers, h⟩ := except_bind_eq_ok_iff.mp h
  obtain ⟨u, hu⟩ : ∃ u, (layer nodes (s + m)).head? = some u :=
    ⟨_, List.head?_eq_some_head
      (List.ne_nil_of_mem (List.mem_of_getLast? hnodes.getLast?_layer))⟩
  have hlayer : u.1 = s + m := (mem_layer.mp (List.mem_of_head? hu)).2
  rw [PathServerFiller.dividePath_eq hnodes,
    PathServerFiller.addEndNodeID2DividedPath_eq (F := fun i => layer nodes (s + i))
      hu, hlayer] at hdivided
  obtain rfl := Except.ok.inj hdivided
  obtain ⟨hlength, hchoice⟩ := of_selectNFVI4EachStage rfl hservers
  rw [List.length_map, List.length_range, Nat.add_sub_cancel] at hlength
  subst hlength
  have hhead : (b.segment nodes s servers.length 0).head? = some (s, first) := by
    rw [segment, Nat.add_zero, List.head?_append, hnodes.head?_layer]
    rfl
  have hpath : PathServerFiller.addNFVI2Path ((List.range (servers.length + 1)).map
    (b.segment nodes s servers.length)) servers = _ :=
      PathServerFiller.addNFVI2Path_eq hhead
  exact ⟨servers, rfl, hchoice, Except.ok.inj (h.symm.trans hpath)⟩

/-- The segments of a backup path: contiguous, from the repair switch to the egress,
through switches where the layer changes, and without the failed node. -/
structure Continues (b : MMLBSFC) (failureID : Nat) (repair : LayerNode) (m : Nat)
    (G : Nat → List LayerNode) : Prop where
  layers : ∀ i ≤ m, ∀ u ∈ G i, u.1 = repair.1 + i
  first : (G 0).head? = some repair
  last : (G m).getLast? = some (repair.1 + m, b.egressID)
  contiguous : ∀ i ≤ m, (G i).IsChain (Moves b.dib b.zoneName)
  switches : ∀ i < m, ∃ host, IsSwitch b.dib b.zoneName host ∧
    (G i).getLast? = some (repair.1 + i, host) ∧
    (G (i + 1)).head? = some (repair.1 + i + 1, host)
  notFailed : ∀ i ≤ m, ∀ u ∈ G i, u.2 ≠ failureID

section Segments

variable {nodes : List LayerNode} {s first m i : Nat}

theorem mem_segment {u : LayerNode} (hu : u ∈ b.segment nodes s m i) :
    u ∈ layer nodes (s + i) ∨ i = m ∧ u = (s + m, b.egressID) := by
  obtain hu | hu := List.mem_append.mp hu
  · exact Or.inl hu
  · split at hu
    next hi => exact Or.inr ⟨hi, List.mem_singleton.mp hu⟩
    next => cases hu

theorem segment_of_ne (hi : i ≠ m) :
    b.segment nodes s m i = layer nodes (s + i) := by
  rw [segment, if_neg hi, List.append_nil]

theorem isChain_segment {edges : List Edge}
    (h : Attempt b failureID repair edges nodes)
    (hnodes : Through nodes s first m b.egSwitchID) :
    (b.segment nodes s m i).IsChain (Moves b.dib b.zoneName) := by
  have hlayer : (layer nodes (s + i)).IsChain (Moves b.dib b.zoneName) :=
    (isChain_layer h.layered h.isChain (s + i)).imp fun u v => h.moves
  rw [segment]
  split
  next hi =>
    subst hi
    refine List.isChain_append.mpr ⟨hlayer, List.isChain_singleton _, ?_⟩
    intro u hu v hv
    rw [hnodes.getLast?_layer] at hu
    obtain rfl := Option.some.inj hu
    obtain rfl := Option.some.inj hv
    exact Or.inr (Or.inr (Or.inl b.connected))
  next =>
    rw [List.append_nil]
    exact hlayer

variable {servers : List (Option Server)} {F : Nat → List LayerNode}

theorem isChain_filled (hservers : ∀ j < servers.length, servers[j]? = some none)
    (hF : (F i).IsChain (Moves b.dib b.zoneName)) (hne : F i ≠ [])
    (hi : i ≤ servers.length) :
    (PathServerFiller.filled servers s F i).IsChain (Moves b.dib b.zoneName) := by
  have hentry : PathServerFiller.entry servers s i = [] := by
    rw [List.eq_nil_iff_forall_not_mem]
    intro u hu
    obtain ⟨-, j, server, rfl, hserver, -⟩ := PathServerFiller.of_mem_entry hu
    rw [hservers j hi] at hserver
    cases hserver
  have hlast : (F i).getLast? = some ((F i).getLast hne) :=
    List.getLast?_eq_some_getLast hne
  rw [PathServerFiller.filled, hentry, List.nil_append]
  obtain hlt | rfl := Nat.lt_or_eq_of_le hi
  · refine List.isChain_append.mpr ⟨hF, ?_, ?_⟩
    · have hlength : (PathServerFiller.exit servers s F i).length ≤ 1 :=
        PathServerFiller.length_exit F i
      cases hexit : PathServerFiller.exit servers s F i with
      | nil => exact List.isChain_nil
      | cons u rest =>
          rw [hexit] at hlength
          obtain rfl := List.eq_nil_of_length_eq_zero
            (Nat.le_zero.mp (Nat.le_of_succ_le_succ hlength))
          exact List.isChain_singleton u
    · intro u hu v hv
      obtain rfl := Option.some.inj (hlast.symm.trans hu)
      rw [PathServerFiller.eq_of_mem_exit (hservers i hlt) hlast
        (List.mem_of_head? hv)]
      exact Or.inl rfl
  · rw [PathServerFiller.exit_last, List.append_nil]
    exact hF

theorem continues_filled {edges : List Edge}
    (h : Attempt b failureID repair edges nodes)
    (hnodes : Through nodes repair.1 repair.2 m b.egSwitchID)
    (hrepair : repair.2 ≠ failureID) (hegress : b.egressID ≠ failureID)
    (hlength : servers.length = m)
    (hservers : ∀ j < servers.length, servers[j]? = some none) :
    Continues b failureID repair m (PathServerFiller.filled servers repair.1
      (b.segment nodes repair.1 m)) := by
  have hmem : ∀ i u, u ∈ PathServerFiller.filled servers repair.1
      (b.segment nodes repair.1 m) i →
      u ∈ layer nodes (repair.1 + i) ∨ i = m ∧ u = (repair.1 + m, b.egressID) := by
    intro i u hu
    obtain hu | ⟨-, j, server, hserver, -⟩ := PathServerFiller.mem_filled hu
    · exact mem_segment hu
    · obtain ⟨hj, -⟩ := List.getElem?_eq_some_iff.mp hserver
      rw [hservers j hj] at hserver
      cases hserver
  have hcross : ∀ i < m, ∃ host, IsSwitch b.dib b.zoneName host ∧
      (b.segment nodes repair.1 m i).getLast? = some (repair.1 + i, host) ∧
      (b.segment nodes repair.1 m (i + 1)).head? =
        some (repair.1 + i + 1, host) := by
    intro i hi
    obtain ⟨k, host, hhost, hhost', hlast, hhead⟩ := hnodes.crosses hi
    refine ⟨host, h.isSwitch hhost hhost', ?_, ?_⟩
    · rw [segment_of_ne (Nat.ne_of_lt hi), hlast]
    · rw [segment, List.head?_append, ← Nat.add_assoc, hhead]
      rfl
  constructor
  · intro i hi u hu
    obtain hu | ⟨rfl, rfl⟩ := hmem i u hu
    · exact (mem_layer.mp hu).2
    · rfl
  · rw [PathServerFiller.filled, PathServerFiller.entry, List.nil_append, segment,
      Nat.add_zero, List.head?_append, List.head?_append, hnodes.head?_layer]
    rfl
  · rw [PathServerFiller.filled, ← hlength, PathServerFiller.exit_last,
      List.append_nil, segment, if_pos rfl, ← List.append_assoc,
      List.getLast?_concat]
  · intro i hi
    apply isChain_filled hservers (isChain_segment h hnodes) _ (hlength ▸ hi)
    obtain hlt | rfl := Nat.lt_or_eq_of_le hi
    · obtain ⟨host, -, hlast, -⟩ := hcross i hlt
      exact List.ne_nil_of_mem (List.mem_of_getLast? hlast)
    · rw [segment, if_pos rfl]
      exact List.append_ne_nil_of_right_ne_nil _ (List.cons_ne_nil _ _)
  · intro i hi
    obtain ⟨host, hswitch, hlast, hhead⟩ := hcross i hi
    have hserver := hservers i (hlength ▸ hi)
    exact ⟨host, hswitch, PathServerFiller.getLast?_filled_of_none hserver hlast,
      PathServerFiller.head?_filled_of_none hserver hhead⟩
  · intro i hi u hu
    obtain hu | ⟨-, rfl⟩ := hmem i u hu
    · exact h.ne_failureID hrepair u (mem_layer.mp hu).1
    · exact hegress

end Segments

/-! ## The repaired path -/

/-- The segments of the backup path, the first one after what is left of the
segment that is cut. -/
def extended (start : List LayerNode) (G : Nat → List LayerNode) (i : Nat) :
    List LayerNode :=
  (if i = 0 then start else []) ++ G i

section Merge

variable {before : ForwardingPath} {start : List LayerNode} {m i : Nat}
  {G : Nat → List LayerNode}

theorem mergePath2UFP_eq (h : (G 0).head? = some repair) :
    mergePath2UFP ((List.range (m + 1)).map G) (before ++ [start ++ [repair]]) =
      .ok (before ++ (List.range (m + 1)).map (extended start G)) := by
  obtain ⟨rest, hrest⟩ := List.head?_eq_some_iff.mp h
  rw [mergePath2UFP, itemAt_map_range (Nat.succ_pos m)]
  simp only [bind, Except.bind, hrest, List.length_append, List.length_singleton,
    Nat.add_sub_cancel, List.tail_cons, changeItem_concat]
  simp [List.range_succ_eq_map, extended, hrest, Function.comp_def, pure,
    Except.pure]

theorem head?_extended_succ :
    (extended start G (i + 1)).head? = (G (i + 1)).head? := by
  rw [extended, if_neg (Nat.succ_ne_zero i), List.nil_append]

theorem getLast?_extended (h : G i ≠ []) :
    (extended start G i).getLast? = (G i).getLast? := by
  rw [extended, List.getLast?_append_of_ne_nil _ h]

theorem head?_extended_zero (h : (G 0).head? = some repair)
    (rest : List LayerNode) :
    (extended start G 0).head? = (start ++ repair :: rest).head? := by
  rw [extended, if_pos rfl, List.head?_append, h, List.head?_append]
  rfl

theorem getElem?_before {after : ForwardingPath} (hi : i < before.length) :
    (before ++ after)[i]? = before[i]? :=
  List.getElem?_append_left hi

theorem getElem?_after {F : Nat → List LayerNode} (hi : i ≤ m) :
    (before ++ (List.range (m + 1)).map F)[before.length + i]? = some (F i) := by
  rw [List.getElem?_append_right (Nat.le_add_right _ i), Nat.add_sub_cancel_left,
    List.getElem?_map, List.getElem?_range (Nat.lt_succ_of_le hi)]
  rfl

variable {ingID : Nat}

theorem CutAt.layer_eq (hcut : CutAt failureID forwardingPath before start repair)
    (hserves : Serves b.dib b.zoneName b.sfc ingID b.egressID forwardingPath) :
    repair.1 = before.length ∧ ∀ u ∈ start, u.1 = before.length := by
  obtain ⟨⟨failed, rest, after, -, rfl⟩, -, -⟩ := hcut
  have hlayers := hserves.layers before.length
    (start ++ repair :: failed :: rest) (by simp)
  exact ⟨hlayers repair (by simp),
    fun u hu => hlayers u (List.mem_append_left _ hu)⟩

theorem isChain_extended
    (hcut : CutAt failureID forwardingPath before start repair)
    (hserves : Serves b.dib b.zoneName b.sfc ingID b.egressID forwardingPath)
    (hG : Continues b failureID repair m G) (hi : i ≤ m) :
    (extended start G i).IsChain (Moves b.dib b.zoneName) := by
  have hchain := hG.contiguous i hi
  rw [extended]
  split
  next hzero =>
    subst hzero
    obtain ⟨⟨failed, rest, after, -, rfl⟩, -, -⟩ := hcut
    have hcontiguous := hserves.contiguous (start ++ repair :: failed :: rest)
      (by simp)
    obtain ⟨rest', hrest'⟩ := List.head?_eq_some_iff.mp hG.first
    rw [hrest'] at hchain ⊢
    exact List.isChain_split.mpr ⟨(List.isChain_split.mp hcontiguous).1, hchain⟩
  next => exact hchain

theorem serves_of_inP4 (hcut : CutAt failureID forwardingPath before start repair)
    (hserves : Serves b.dib b.zoneName b.sfc ingID b.egressID forwardingPath)
    (hG : Continues b failureID repair m G)
    (hm : before.length + m = b.sfc.getSFCLength)
    (hP4 : ∀ i < m, ∃ vnf, b.sfc.vnfSequence[before.length + i]? = some vnf ∧
      vnf.preferredDeviceType = .p4) :
    Serves b.dib b.zoneName b.sfc ingID b.egressID
      (before ++ (List.range (m + 1)).map (extended start G)) := by
  obtain ⟨hrepair, hstart⟩ := hcut.layer_eq hserves
  have hchain := fun i => isChain_extended (i := i) hcut hserves hG
  have hfirst := hG.first
  obtain ⟨⟨failed, rest, after, -, rfl⟩, -, -⟩ := hcut
  have hsegment : (before ++ (start ++ repair :: failed :: rest) :: after)[
      before.length]? = some (start ++ repair :: failed :: rest) := by simp
  constructor
  · rw [List.length_append, List.length_map, List.length_range, ← hm]
    rfl
  · intro i segPath hseg u hu
    obtain hlt | ⟨j, rfl⟩ : i < before.length ∨ ∃ j, i = before.length + j :=
      (Nat.lt_or_ge i before.length).imp_right Nat.exists_eq_add_of_le
    · apply hserves.layers i segPath _ u hu
      rw [getElem?_before hlt] at hseg ⊢
      exact hseg
    · have hj : j ≤ m := by
        have hlt := (List.getElem?_eq_some_iff.mp hseg).1
        simp only [List.length_append, List.length_map, List.length_range] at hlt
        omega
      rw [getElem?_after hj, Option.some.injEq] at hseg
      subst hseg
      obtain hu | hu := List.mem_append.mp hu
      · split at hu
        next hzero =>
          rw [hzero, Nat.add_zero]
          exact hstart u hu
        next => cases hu
      · rw [hG.layers j hj u hu, hrepair]
  · have hstarts := hserves.first
    cases before with
    | nil =>
        rw [List.nil_append, List.head?_cons, Option.bind_some] at hstarts
        rw [List.nil_append, List.head?_eq_getElem?, List.getElem?_map,
          List.getElem?_range (Nat.succ_pos m), Option.map_some, Option.bind_some,
          head?_extended_zero hfirst, hstarts]
    | cons segPath before => exact hstarts
  · rw [List.range_succ, List.map_append, ← List.append_assoc, List.map_singleton,
      List.getLast?_concat, Option.bind_some, getLast?_extended, hG.last, hrepair,
      hm]
    exact List.ne_nil_of_mem (List.mem_of_getLast? hG.last)
  · intro segPath hseg
    obtain hseg | hseg := List.mem_append.mp hseg
    · exact hserves.contiguous segPath (List.mem_append_left _ hseg)
    · obtain ⟨i, hi, rfl⟩ := List.mem_map.mp hseg
      exact hchain i (Nat.le_of_lt_succ (List.mem_range.mp hi))
  · intro i hi
    obtain hlt | ⟨j, rfl⟩ : i < before.length ∨ ∃ j, i = before.length + j :=
      (Nat.lt_or_ge i before.length).imp_right Nat.exists_eq_add_of_le
    · obtain ⟨vnf, host, hvnf, hdevice, hlast, hhead⟩ := hserves.hosts i hi
      refine ⟨vnf, host, hvnf, hdevice, ?_, ?_⟩
      · rw [getElem?_before hlt] at hlast ⊢
        exact hlast
      · obtain hlt' | heq := Nat.lt_or_eq_of_le (Nat.succ_le_of_lt hlt)
        · rw [getElem?_before hlt'] at hhead ⊢
          exact hhead
        · have hafter : (before ++ (List.range (m + 1)).map (extended start G))[
              before.length + 0]? = some (extended start G 0) :=
            getElem?_after (Nat.zero_le m)
          rw [Nat.add_zero, ← heq] at hafter
          rw [← heq] at hsegment
          rw [hsegment, Option.bind_some] at hhead
          rw [hafter, Option.bind_some, head?_extended_zero hfirst, hhead]
    · have hj : j < m := by omega
      obtain ⟨vnf, hvnf, hdevice⟩ := hP4 j hj
      obtain ⟨host, hswitch, hlast, hhead⟩ := hG.switches j hj
      refine ⟨vnf, host, hvnf, Or.inr ⟨hdevice, hswitch⟩, ?_, ?_⟩
      · rw [getElem?_after hj.le, Option.bind_some, getLast?_extended, hlast,
          hrepair]
        exact List.ne_nil_of_mem (List.mem_of_getLast? hlast)
      · rw [Nat.add_assoc, getElem?_after hj, Option.bind_some,
          head?_extended_succ, hhead, hrepair]
        rfl

theorem inP4_of_serves
    (hdisjoint : ∀ nodeID, IsSwitch b.dib b.zoneName nodeID →
      ¬ IsServer b.dib b.zoneName nodeID)
    (hG : Continues b failureID repair m G) (hrepair : repair.1 = before.length)
    (hm : before.length + m = b.sfc.getSFCLength)
    (h : Serves b.dib b.zoneName b.sfc ingID b.egressID
      (before ++ (List.range (m + 1)).map (extended start G))) (hi : i < m) :
    ∃ vnf, b.sfc.vnfSequence[before.length + i]? = some vnf ∧
      vnf.preferredDeviceType = .p4 := by
  obtain ⟨vnf, host, hvnf, hdevice, hlast, -⟩ :=
    h.hosts (before.length + i) (by omega)
  obtain ⟨host', hswitch, hlast', -⟩ := hG.switches i hi
  refine ⟨vnf, hvnf, ?_⟩
  rw [getElem?_after hi.le, Option.bind_some, getLast?_extended
    (List.ne_nil_of_mem (List.mem_of_getLast? hlast')), hlast', hrepair] at hlast
  obtain ⟨-, rfl⟩ := Prod.mk.inj (Option.some.inj hlast)
  obtain ⟨-, hserver⟩ | ⟨hp4, -⟩ := hdevice
  · exact absurd hserver (hdisjoint host' hswitch)
  · exact hp4

end Merge

/-- The repair switch comes right before the failed node on the primary path, and
what is left of the primary path with the backup path serves the chain without the
failed node. -/
structure Repaired (b : MMLBSFC) (ingID failureID : Nat)
    (forwardingPath : ForwardingPath) (repair : LayerNode)
    (path : ForwardingPath) : Prop where
  adjacent : ∃ before start, CutAt failureID forwardingPath before start repair
  merged : ∃ merged,
    mergePath2UFP path (getUnaffectedPart failureID forwardingPath) =
      .ok merged ∧
    Serves b.dib b.zoneName b.sfc ingID b.egressID merged ∧
    ∀ segPath ∈ merged, ∀ u ∈ segPath, u.2 ≠ failureID

/-- Each VNF is for a P4 switch whose segment comes with or after the first one
that the failed node is in. -/
def InP4From (sfc : SFC) (failureID : Nat) (forwardingPath : ForwardingPath) :
    Prop :=
  ∀ i < sfc.getSFCLength,
    (∃ j ≤ i, ∃ segPath, forwardingPath[j]? = some segPath ∧
      failureID ∈ segPath.map Prod.snd) →
    ∃ vnf, sfc.vnfSequence[i]? = some vnf ∧ vnf.preferredDeviceType = .p4

theorem CutAt.inP4From_iff {sfc : SFC} {before : ForwardingPath}
    {start : List LayerNode} {m : Nat}
    (hcut : CutAt failureID forwardingPath before start repair)
    (hm : before.length + m = sfc.getSFCLength) :
    InP4From sfc failureID forwardingPath ↔
      ∀ i < m, ∃ vnf, sfc.vnfSequence[before.length + i]? = some vnf ∧
        vnf.preferredDeviceType = .p4 := by
  obtain ⟨⟨failed, rest, after, hfailed, rfl⟩, hbefore, -⟩ := hcut
  constructor
  · intro h i hi
    apply h (before.length + i) (by omega)
    refine ⟨before.length, Nat.le_add_right _ i,
      start ++ repair :: failed :: rest, by simp, ?_⟩
    simp [hfailed]
  · rintro h i hi ⟨j, hji, segPath, hseg, hmem⟩
    have hge : before.length ≤ j := by
      by_contra hlt
      rw [getElem?_before (Nat.lt_of_not_le hlt)] at hseg
      obtain ⟨u, hu, heq⟩ := List.mem_map.mp hmem
      exact hbefore segPath (List.mem_of_getElem? hseg) u hu heq
    obtain ⟨d, rfl⟩ := Nat.exists_eq_add_of_le (hge.trans hji)
    exact h d (by omega)

/-- A backup path repairs the primary path exactly when each VNF from the failure
on is for a P4 switch. -/
theorem repaired_genBackupPath_iff {ingID : Nat}
    (hdisjoint : ∀ nodeID, IsSwitch b.dib b.zoneName nodeID →
      ¬ IsServer b.dib b.zoneName nodeID)
    (hprimary : Serves b.dib b.zoneName b.sfc ingID b.egressID forwardingPath)
    (h : b.genBackupPath finder failureID forwardingPath =
      .ok (some (repair, path))) :
    Repaired b ingID failureID forwardingPath repair path ↔
      InP4From b.sfc failureID forwardingPath := by
  obtain ⟨hswitch, hrepair, capacityAwareFlag, htry⟩ := of_genBackupPath h
  obtain ⟨hswitchIn, hlast⟩ := of_hasRepairSwitch hswitch
  obtain ⟨before, start, repair', hcut, hrepair', hunaffected⟩ :=
    cutAt_of_hasRepairSwitchIn hswitchIn
  obtain rfl := Except.ok.inj (hrepair'.symm.trans hrepair)
  obtain ⟨edges, nodes, hattempt, hselect⟩ := of_tryBackupPath htry
  obtain ⟨m, hm, hnodes⟩ := hattempt.through
  obtain ⟨servers, hlength, hservers, rfl⟩ :=
    of_selectNPoPNodeAndServers hnodes hselect
  have hG := continues_filled hattempt hnodes (hcut.notStart repair' (by simp))
    (hlast _ hprimary.last) hlength fun j hj => (hservers j (hlength ▸ hj)).1
  have hmerge : mergePath2UFP _ (before ++ [start ++ [repair']]) = _ :=
    mergePath2UFP_eq (m := m) hG.first
  obtain ⟨hlayer, -⟩ := hcut.layer_eq hprimary
  rw [hlayer] at hm
  rw [hcut.inP4From_iff hm]
  constructor
  · rintro ⟨-, merged, hmerged, hserves, -⟩ i hi
    rw [hunaffected, hmerge] at hmerged
    obtain rfl := Except.ok.inj hmerged
    exact inP4_of_serves hdisjoint hG hlayer hm hserves hi
  · intro hP4
    refine ⟨⟨before, start, hcut⟩, _, hunaffected ▸ hmerge,
      serves_of_inP4 hcut hprimary hG hm hP4, ?_⟩
    intro segPath hseg u hu
    obtain hseg | hseg := List.mem_append.mp hseg
    · exact hcut.notBefore segPath hseg u hu
    · obtain ⟨i, hi, rfl⟩ := List.mem_map.mp hseg
      obtain hu | hu := List.mem_append.mp hu
      · split at hu
        · exact hcut.notStart u (List.mem_append_left _ hu)
        · cases hu
      · exact hG.notFailed i (Nat.le_of_lt_succ (List.mem_range.mp hi)) u hu

/-- Two ways from one switch to another, with the ingress `9` at the one, and the
egress `8` and an NFVI at the other. -/
def twoWays : DCNInfoBase where
  servers := Dict.empty.set .simulator
    (((Dict.empty.set 9 ⟨⟨9, .normal, 34, [], 12, 64, 10⟩, true⟩).set 8
      ⟨⟨8, .normal, 98, [], 12, 64, 10⟩, true⟩).set 7
      ⟨⟨7, .nfvi, 99, [3, 4], 12, 64, 10⟩, true⟩)
  switches := Dict.empty.set .simulator
    ((((Dict.empty.set 1 ⟨⟨1, ⟨32, 27⟩, 2000, [], [], ⟨0, 0, 0, 0, 0⟩⟩, true⟩).set 2
      ⟨⟨2, ⟨64, 27⟩, 2000, [], [], ⟨0, 0, 0, 0, 0⟩⟩, true⟩).set 3
      ⟨⟨3, ⟨96, 27⟩, 2000, [], [3, 4], ⟨0, 0, 0, 0, 0⟩⟩, true⟩).set 4
      ⟨⟨4, ⟨128, 27⟩, 2000, [], [], ⟨0, 0, 0, 0, 0⟩⟩, true⟩)
  links := Dict.empty.set .simulator
    ((((Dict.empty.set (1, 2) ⟨⟨1, 2, 10⟩, true⟩).set (2, 3)
      ⟨⟨2, 3, 10⟩, true⟩).set (1, 4) ⟨⟨1, 4, 10⟩, true⟩).set (4, 3)
      ⟨⟨4, 3, 10⟩, true⟩)
  serversReservedResources := .empty
  switchesReservedResources := .empty
  linksReservedResources := .empty

theorem connected_twoWays : Connected twoWays .simulator 3 8 :=
  ⟨_, _, _, rfl, rfl, .tail _ (.head _), rfl, rfl⟩

def twoVNFs (deviceType : DeviceType) : MMLBSFC where
  dib := twoWays
  zoneName := .simulator
  sfc := ⟨[4, 3], [⟨4, none, .p4⟩, ⟨3, none, deviceType⟩], 1, none⟩
  egressID := 8
  egSwitchID := 3
  connected := connected_twoWays
  weight := fun _ _ => .ok 1

def onlyPath (nodes : List LayerNode) : PathFinder where
  dijkstra edges source target :=
    if nodes.IsChain (HasEdge edges) ∧ nodes.head? = some source ∧
      nodes.getLast? = some target then some nodes else none
  path_spec h := by
    obtain ⟨hpath, hnodes⟩ := Option.ite_none_right_eq_some.mp h
    obtain rfl := Option.some.inj hnodes
    exact hpath

theorem disjoint_twoWays (nodeID : Nat)
    (hswitch : IsSwitch twoWays .simulator nodeID) :
    ¬ IsServer twoWays .simulator nodeID := by
  intro hserver
  have hswitches := mem_keys_of_isSwitch hswitch rfl
  have hservers := mem_keys_of_isServer hserver rfl
  have hdisjoint : ∀ switchID ∈ [1, 2, 3, 4], switchID ∉ [9, 8, 7] := by decide
  exact hdisjoint nodeID hswitches hservers

theorem adjacent_twoWays : ∀ step ∈ [(9, 1), (1, 2), (2, 3), (3, 7), (7, 3), (3, 8)],
    Adjacent twoWays .simulator step.1 step.2 := by
  intro step hstep
  simp only [List.mem_cons, List.not_mem_nil, or_false] at hstep
  obtain rfl | rfl | rfl | rfl | rfl | rfl := hstep
  · exact Or.inr (Or.inr ⟨_, _, _, rfl, rfl,
      Dict.mem_values_iff.mpr ⟨9, rfl⟩, rfl, rfl⟩)
  · exact Or.inl ⟨_, _, rfl, Dict.mem_values_iff.mpr ⟨(1, 2), rfl⟩, rfl, rfl⟩
  · exact Or.inl ⟨_, _, rfl, Dict.mem_values_iff.mpr ⟨(2, 3), rfl⟩, rfl, rfl⟩
  · exact Or.inr (Or.inl ⟨_, _, _, rfl, rfl,
      Dict.mem_values_iff.mpr ⟨7, rfl⟩, rfl, rfl⟩)
  · exact Or.inr (Or.inr ⟨_, _, _, rfl, rfl,
      Dict.mem_values_iff.mpr ⟨7, rfl⟩, rfl, rfl⟩)
  · exact Or.inr (Or.inl ⟨_, _, _, rfl, rfl,
      Dict.mem_values_iff.mpr ⟨8, rfl⟩, rfl, rfl⟩)

/-- The second VNF in the switch `3`, or in the server there. -/
def primaryPath : DeviceType → ForwardingPath
  | .server =>
      [[(0, 9), (0, 1)], [(1, 1), (1, 2), (1, 3), (1, 7)],
        [(2, 7), (2, 3), (2, 8)]]
  | _ => [[(0, 9), (0, 1)], [(1, 1), (1, 2), (1, 3)], [(2, 3), (2, 8)]]

theorem contiguous_primaryPath (deviceType : DeviceType) :
    ∀ segPath ∈ primaryPath deviceType,
      segPath.IsChain (Moves twoWays .simulator) := by
  have hmoves : ∀ {layer layer' a b : Nat},
      (a, b) ∈ [(9, 1), (1, 2), (2, 3), (3, 7), (7, 3), (3, 8)] →
      Moves twoWays .simulator (layer, a) (layer', b) :=
    fun hstep => Or.inr (adjacent_twoWays _ hstep)
  cases deviceType <;> simp [primaryPath, hmoves]

theorem serves_primaryPath {deviceType : DeviceType} (h : deviceType ≠ .other) :
    Serves twoWays .simulator (twoVNFs deviceType).sfc 9 8
      (primaryPath deviceType) := by
  have hlength : (primaryPath deviceType).length = 3 := by cases deviceType <;> rfl
  have hlayers : ∀ i < 3, ∀ u ∈ (primaryPath deviceType)[i]?.getD [],
      u.1 = i := by
    cases deviceType <;> decide
  refine ⟨hlength, ?_, ?_, ?_, contiguous_primaryPath deviceType, ?_⟩
  · intro i segPath hseg u hu
    obtain ⟨hi, -⟩ := List.getElem?_eq_some_iff.mp hseg
    apply hlayers i (hlength ▸ hi)
    rw [hseg]
    exact hu
  · cases deviceType <;> rfl
  · cases deviceType <;> rfl
  · intro i hi
    match i, hi with
    | 0, _ =>
        refine ⟨_, 1, rfl, Or.inr ⟨rfl, _, rfl⟩, ?_⟩
        cases deviceType <;> exact ⟨rfl, rfl⟩
    | 1, _ =>
        cases deviceType with
        | server => exact ⟨_, 7, rfl, Or.inl ⟨rfl, _, rfl⟩, rfl, rfl⟩
        | p4 => exact ⟨_, 3, rfl, Or.inr ⟨rfl, _, rfl⟩, rfl, rfl⟩
        | other => exact absurd rfl h

/-- The backup path around the switch `2` is the same for each device. -/
theorem genBackupPath_twoVNFs (deviceType : DeviceType) :
    (twoVNFs deviceType).genBackupPath
      (onlyPath [(1, 1), (1, 4), (1, 3), (2, 3)]) 2 (primaryPath deviceType) =
    .ok (some ((1, 1), [[(1, 1), (1, 4), (1, 3)], [(2, 3), (2, 8)]])) := by
  cases deviceType <;> decide +kernel

theorem repaired_genBackupPath_iff_twoP4 :
    Repaired (twoVNFs .p4) 9 2 (primaryPath .p4) (1, 1)
      [[(1, 1), (1, 4), (1, 3)], [(2, 3), (2, 8)]] := by
  apply (repaired_genBackupPath_iff disjoint_twoWays
    (serves_primaryPath (by decide)) (genBackupPath_twoVNFs .p4)).mpr
  intro i hi _
  match i, hi with
  | 0, _ => exact ⟨_, rfl, rfl⟩
  | 1, _ => exact ⟨_, rfl, rfl⟩

/-- The second VNF is for a server, but the device of the first one is read. -/
theorem not_repaired_oneP4 :
    Serves twoWays .simulator (twoVNFs .server).sfc 9 8 (primaryPath .server) ∧
    (twoVNFs .server).genBackupPath
      (onlyPath [(1, 1), (1, 4), (1, 3), (2, 3)]) 2 (primaryPath .server) =
        .ok (some ((1, 1), [[(1, 1), (1, 4), (1, 3)], [(2, 3), (2, 8)]])) ∧
    ¬ Repaired (twoVNFs .server) 9 2 (primaryPath .server) (1, 1)
      [[(1, 1), (1, 4), (1, 3)], [(2, 3), (2, 8)]] := by
  refine ⟨serves_primaryPath (by decide), genBackupPath_twoVNFs .server, ?_⟩
  rintro ⟨-, merged, hmerged, hserves, -⟩
  obtain rfl : [[(0, 9), (0, 1)], [(1, 1), (1, 4), (1, 3)], [(2, 3), (2, 8)]] =
    merged := Except.ok.inj hmerged
  obtain ⟨vnf, host, hvnf, ⟨-, hserver⟩ | ⟨hp4, -⟩, hlast, -⟩ :=
    hserves.hosts 1 (by decide)
  · obtain rfl : 3 = host := (Prod.mk.inj (Option.some.inj hlast)).2
    exact disjoint_twoWays 3 ⟨_, rfl⟩ hserver
  · obtain rfl := Option.some.inj hvnf
    cases hp4

end MMLBSFC

end SelfAdaptiveMano.Mapping

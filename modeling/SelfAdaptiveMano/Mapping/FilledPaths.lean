import SelfAdaptiveMano.Mapping.PathServerFiller
import SelfAdaptiveMano.Mapping.LayeredPaths

/-!
# What a filled path says

A path that goes through the layers in order, with a server chosen for each VNF
that needs one, becomes a forwarding path: one segment for each layer, each ending
at the host of its VNF, where the next one starts. Only the last segment may be
too short, since no VNF looks after it.
-/

namespace SelfAdaptiveMano.Mapping

open Library LayeredWalk

/-! ## Connected servers -/

def Connected (dib : DCNInfoBase) (zoneName : Zone) (switchID serverID : Nat) :
    Prop :=
  ∃ switchInfo servers serverInfo,
    dib.switchInfo zoneName switchID = .ok switchInfo ∧
    dib.servers.get? zoneName = some servers ∧ serverInfo ∈ servers.values ∧
    serverInfo.server.serverID = serverID ∧
    DCNInfoBase.isServerConnectSwitch switchInfo.switch serverInfo.server = true

namespace PathServerFiller

variable {path : List LayerNode} {first last ingID egID s m : Nat}
  {servers : List (Option Server)} {F : Nat → List LayerNode}

/-! ## The segments before the servers -/

theorem dividePath_eq (h : Through path s first m last) :
    dividePath path = (List.range (m + 1)).map fun i => layer path (s + i) := by
  obtain ⟨rest, rfl⟩ := List.head?_eq_some_iff.mp h.head
  rw [dividePath, Grouping.values_group,
    keys_group_fst layered_stepsOn h.steps h.last, List.range'_eq_map_range,
    List.map_map, show s + m + 1 - s = m + 1 by omega]
  rfl

variable {c : Nat}

theorem getFirstNodeID4DividedPath_eq {n : Nat} {u : LayerNode}
    (h : (F 0).head? = some u) :
    getFirstNodeID4DividedPath ((List.range (n + 1)).map F) = .ok u.2 := by
  rw [getFirstNodeID4DividedPath, itemAt_map_range (Nat.succ_pos n),
    except_bind_eq_ok_iff]
  refine ⟨F 0, rfl, ?_⟩
  rw [itemAt_zero_eq_ok_iff.mpr h]
  rfl

theorem getLastNodeID4DividedPath_eq {n : Nat} {u : LayerNode}
    (h : (F n).getLast? = some u) :
    getLastNodeID4DividedPath ((List.range (n + 1)).map F) = .ok u.2 := by
  rw [getLastNodeID4DividedPath, itemFromEnd_map_range, except_bind_eq_ok_iff]
  refine ⟨F n, rfl, ?_⟩
  rw [itemFromEnd_one_eq_ok_iff.mpr h]
  rfl

def startOf (first ingID i : Nat) : List LayerNode :=
  if i = 0 ∧ first ≠ ingID then [(0, ingID)] else []

def endOf (c last egID i : Nat) : List LayerNode :=
  if i = c ∧ last ≠ egID then [(c, egID)] else []

theorem startOf_succ (i : Nat) : startOf first ingID (i + 1) = [] := by
  simp [startOf]

theorem mem_startOf {i : Nat} {u : LayerNode} (h : u ∈ startOf first ingID i) :
    i = 0 ∧ u = (0, ingID) := by
  rw [startOf] at h
  split at h
  next hi => exact ⟨hi.1, List.mem_singleton.mp h⟩
  next => cases h

theorem mem_endOf {i : Nat} {u : LayerNode} (h : u ∈ endOf c last egID i) :
    i = c ∧ u = (c, egID) := by
  rw [endOf] at h
  split at h
  next hi => exact ⟨hi.1, List.mem_singleton.mp h⟩
  next => cases h

theorem endOf_of_lt {i : Nat} (h : i < c) : endOf c last egID i = [] := by
  rw [List.eq_nil_iff_forall_not_mem]
  intro u hu
  have heq := (mem_endOf hu).1
  omega

theorem length_startOf (i : Nat) : (startOf first ingID i).length ≤ 1 := by
  rw [startOf]
  split <;> simp

theorem length_endOf (i : Nat) : (endOf c last egID i).length ≤ 1 := by
  rw [endOf]
  split <;> simp

theorem addIngress_eq (h : Through path 0 first c last) (ingID : Nat) :
    addIngress (dividePath path) ingID = .ok ((List.range (c + 1)).map fun i =>
      startOf first ingID i ++ layer path i) := by
  simp only [startOf]
  simp only [dividePath_eq h, Nat.zero_add]
  rw [addIngress, getFirstNodeID4DividedPath_eq h.head?_layer]
  by_cases hing : first = ingID
  · simp [hing, bind, Except.bind, pure, Except.pure]
  · simp only [bind, Except.bind, ne_eq, hing, not_false_eq_true, if_true,
      addStartNodeID2DividedPath, changeItem_map_range (Nat.succ_pos c), and_true]
    congr 1
    apply List.map_congr_left
    intro i _
    split <;> simp

theorem addEndNodeID2DividedPath_eq {F : Nat → List LayerNode} {u : LayerNode}
    (hhead : (F c).head? = some u) (endNodeID : Nat) :
    addEndNodeID2DividedPath ((List.range (c + 1)).map F) endNodeID =
      .ok ((List.range (c + 1)).map fun i =>
        F i ++ if i = c then [(u.1, endNodeID)] else []) := by
  simp only [addEndNodeID2DividedPath, itemFromEnd_map_range, bind, Except.bind,
    itemAt_zero_eq_ok_iff.mpr hhead, List.length_map, List.length_range,
    Nat.add_sub_cancel, changeItem_map_range (Nat.lt_succ_self c)]
  congr 1
  apply List.map_congr_left
  intro i _
  split <;> simp

theorem addEgress_eq {F : Nat → List LayerNode} {u : LayerNode} (egID : Nat)
    (hlast : (F c).getLast? = some (c, last)) (hhead : (F c).head? = some u)
    (hlayer : u.1 = c) :
    addEgress ((List.range (c + 1)).map F) egID =
      .ok ((List.range (c + 1)).map fun i =>
        F i ++ endOf c last egID i) := by
  simp only [endOf]
  rw [addEgress, getLastNodeID4DividedPath_eq hlast]
  by_cases heg : last = egID
  · simp [heg, bind, Except.bind, pure, Except.pure]
  · simp only [bind, Except.bind, ne_eq, heg, not_false_eq_true, if_true,
      addEndNodeID2DividedPath_eq hhead, and_true, hlayer]

def withEnds (path : List LayerNode) (first c last ingID egID i : Nat) :
    List LayerNode :=
  startOf first ingID i ++ layer path i ++ endOf c last egID i

theorem dividePathWithEnds_eq (h : Through path 0 first c last)
    (ingID egID : Nat) :
    dividePathWithEnds path ingID egID = .ok ((List.range (c + 1)).map
      (withEnds path first c last ingID egID)) := by
  have hgetLast := h.getLast?_layer
  rw [Nat.zero_add] at hgetLast
  have hlast : (startOf first ingID c ++ layer path c).getLast? =
      some (c, last) := by
    rw [List.getLast?_append, hgetLast]
    rfl
  obtain ⟨u, hu⟩ : ∃ u, (startOf first ingID c ++ layer path c).head? = some u :=
    ⟨_, List.head?_eq_some_head (List.ne_nil_of_mem (List.mem_of_getLast? hlast))⟩
  have hlayer : u.1 = c := by
    obtain hmem | hmem := List.mem_append.mp (List.mem_of_head? hu)
    · obtain ⟨hc, rfl⟩ := mem_startOf hmem
      exact hc.symm
    · exact (mem_layer.mp hmem).2
  rw [dividePathWithEnds, addIngress_eq h ingID]
  exact addEgress_eq egID hlast hu hlayer

/-! ## The servers -/

/-- The server that is added before a segment. -/
def entry (servers : List (Option Server)) (s : Nat) : Nat → List LayerNode
  | 0 => []
  | i + 1 =>
      match servers[i]? with
      | some (some server) => [(i + 1 + s, server.serverID)]
      | _ => []

/-- What is added after a segment: the server, or the switch a second time. -/
def exit (servers : List (Option Server)) (s : Nat) (F : Nat → List LayerNode)
    (i : Nat) : List LayerNode :=
  match servers[i]? with
  | some (some server) => [(i + s, server.serverID)]
  | some none =>
      if (entry servers s i ++ F i).length = 1 then entry servers s i ++ F i else []
  | none => []

/-- The segments after `k` turns of the loop. -/
def afterTurns (servers : List (Option Server)) (s : Nat)
    (F : Nat → List LayerNode) (k i : Nat) : List LayerNode :=
  (if i ≤ k then entry servers s i else []) ++ F i ++
    if i < k then exit servers s F i else []

theorem afterTurns_of_lt {k i : Nat} (h : i < k) :
    afterTurns servers s F k i =
      entry servers s i ++ F i ++ exit servers s F i := by
  rw [afterTurns, if_pos (Nat.le_of_lt h), if_pos h]

theorem afterTurns_self (k : Nat) :
    afterTurns servers s F k k = entry servers s k ++ F k := by
  rw [afterTurns, if_pos le_rfl, if_neg (Nat.lt_irrefl k), List.append_nil]

theorem afterTurns_of_gt {k i : Nat} (h : k < i) :
    afterTurns servers s F k i = F i := by
  rw [afterTurns, if_neg (by omega), if_neg (by omega), List.nil_append,
    List.append_nil]

theorem afterTurns_succ {k i : Nat} :
    afterTurns servers s F (k + 1) i =
      if i = k then afterTurns servers s F k k ++ exit servers s F k
      else if i = k + 1 then entry servers s (k + 1) ++ afterTurns servers s F k i
      else afterTurns servers s F k i := by
  obtain hlt | rfl | rfl | hgt :
      i < k ∨ i = k ∨ i = k + 1 ∨ k + 1 < i := by omega
  · rw [if_neg (by omega), if_neg (by omega), afterTurns_of_lt hlt,
      afterTurns_of_lt (by omega)]
  · rw [if_pos rfl, afterTurns_self, afterTurns_of_lt (Nat.lt_succ_self i)]
  · rw [if_neg (by omega), if_pos rfl, afterTurns_self,
      afterTurns_of_gt (Nat.lt_succ_self k)]
  · rw [if_neg (by omega), if_neg (by omega), afterTurns_of_gt hgt,
      afterTurns_of_gt (by omega)]

theorem addNFVI_eq {k : Nat} (hk : k < servers.length) :
    addNFVI servers s ((List.range (servers.length + 1)).map
      (afterTurns servers s F k)) k =
        .ok ((List.range (servers.length + 1)).map
          (afterTurns servers s F (k + 1))) := by
  have hserver : servers[k]? = some servers[k] := List.getElem?_eq_getElem hk
  have hk' : k < servers.length + 1 := Nat.lt_succ_of_lt hk
  rw [addNFVI, itemAt_eq_ok_iff.mpr hserver]
  cases hcase : servers[k] with
  | some server =>
      rw [hcase] at hserver
      simp only [bind, Except.bind, changeItem_map_range hk',
        changeItem_map_range (Nat.succ_lt_succ hk)]
      congr 1
      apply List.map_congr_left
      intro i _
      rw [afterTurns_succ]
      obtain rfl | rfl | hne : i = k ∨ i = k + 1 ∨ (i ≠ k ∧ i ≠ k + 1) := by
        omega
      · simp [exit, hserver]
      · simp [entry, hserver]
      · simp [hne]
  | none =>
      rw [hcase] at hserver
      have hentry : entry servers s (k + 1) = [] := by
        rw [entry, hserver]
      simp only [bind, Except.bind, itemAt_map_range hk', afterTurns_self]
      split
      next hone =>
        have hexit : exit servers s F k = entry servers s k ++ F k := by
          rw [exit, hserver]
          exact if_pos hone
        obtain ⟨u, hu⟩ := List.length_eq_one_iff.mp hone
        simp only [hu, itemAt_zero_eq_ok_iff.mpr List.head?_cons,
          changeItem_map_range hk']
        congr 1
        apply List.map_congr_left
        intro i _
        rw [afterTurns_succ, hentry, hexit, hu, afterTurns_self, hu]
        by_cases hi : i = k
        · simp [hi, afterTurns_self, hu]
        · simp [hi]
      next hmany =>
        have hexit : exit servers s F k = [] := by
          rw [exit, hserver]
          exact if_neg hmany
        apply congrArg Except.ok
        apply List.map_congr_left
        intro i _
        rw [afterTurns_succ, hentry, hexit, List.append_nil, List.nil_append,
          ite_self]
        by_cases hi : i = k
        · rw [if_pos hi, hi]
        · rw [if_neg hi]

def filled (servers : List (Option Server)) (s : Nat) (F : Nat → List LayerNode)
    (i : Nat) : List LayerNode :=
  entry servers s i ++ F i ++ exit servers s F i

theorem foldlM_addNFVI_eq {k : Nat} (hk : k ≤ servers.length) :
    (List.range k).foldlM (addNFVI servers s)
      ((List.range (servers.length + 1)).map F) =
        .ok ((List.range (servers.length + 1)).map
          (afterTurns servers s F k)) := by
  induction k with
  | zero =>
      apply congrArg Except.ok
      apply List.map_congr_left
      rintro (_ | i) _
      · rw [afterTurns_self]
        rfl
      · rw [afterTurns_of_gt (Nat.succ_pos i)]
  | succ k ih =>
      rw [List.range_succ (n := k), List.foldlM_append, ih (Nat.le_of_succ_le hk),
        except_bind_eq_ok_iff]
      exact ⟨_, rfl, by rw [List.foldlM_cons, addNFVI_eq hk]; rfl⟩

theorem addNFVI2Path_eq {u : LayerNode} (hhead : (F 0).head? = some u) :
    addNFVI2Path ((List.range (servers.length + 1)).map F) servers =
      .ok ((List.range (servers.length + 1)).map (filled servers u.1 F)) := by
  rw [addNFVI2Path, itemAt_map_range (Nat.succ_pos _)]
  simp only [bind, Except.bind, itemAt_zero_eq_ok_iff.mpr hhead]
  rw [foldlM_addNFVI_eq le_rfl]
  apply congrArg Except.ok
  apply List.map_congr_left
  intro i hi
  obtain hlt | rfl := Nat.lt_or_eq_of_le (Nat.le_of_lt_succ (List.mem_range.mp hi))
  · exact afterTurns_of_lt hlt
  · rw [afterTurns_self, filled, exit, List.getElem?_eq_none le_rfl,
      List.append_nil]

/-! ## Where two segments meet -/

theorem getLast?_filled_of_server {i : Nat} {server : Server}
    (h : servers[i]? = some (some server)) :
    (filled servers s F i).getLast? = some (i + s, server.serverID) := by
  rw [filled, exit, h, List.getLast?_concat]

theorem head?_filled_of_server {i : Nat} {server : Server}
    (h : servers[i]? = some (some server)) :
    (filled servers s F (i + 1)).head? = some (i + 1 + s, server.serverID) := by
  rw [filled, entry, h]
  rfl

/-- The copy of a switch that would be alone is the switch. -/
theorem eq_of_mem_exit {i : Nat} {u v : LayerNode} (h : servers[i]? = some none)
    (hlast : (F i).getLast? = some u) (hv : v ∈ exit servers s F i) : v = u := by
  have hend : (entry servers s i ++ F i).getLast? = some u := by
    rw [List.getLast?_append, hlast]
    rfl
  rw [exit, h] at hv
  simp only at hv
  split at hv
  next hone =>
    obtain ⟨w, hw⟩ := List.length_eq_one_iff.mp hone
    rw [hw] at hend hv
    rw [List.mem_singleton.mp hv]
    exact Option.some.inj hend
  next => cases hv

theorem getLast?_filled_of_none {i : Nat} {u : LayerNode}
    (h : servers[i]? = some none) (hlast : (F i).getLast? = some u) :
    (filled servers s F i).getLast? = some u := by
  rw [filled, List.getLast?_append]
  cases hafter : (exit servers s F i).getLast? with
  | none =>
      rw [List.getLast?_append, hlast]
      rfl
  | some v =>
      rw [eq_of_mem_exit h hlast (List.mem_of_getLast? hafter)]
      rfl

theorem head?_filled_of_none {i : Nat} {u : LayerNode}
    (h : servers[i]? = some none) (hhead : (F (i + 1)).head? = some u) :
    (filled servers s F (i + 1)).head? = some u := by
  rw [filled, entry, h, List.nil_append, List.head?_append, hhead]
  rfl

/-! ## The choice of servers -/

variable {f : PathServerFiller} {dividedPath : ForwardingPath}
  {abandonElementIDList : List Nat}

/-- The VNF `i` is in the server chosen for it, or in the P4 switch where the path
goes on to the next layer. -/
def HostOf (f : PathServerFiller) (servers : List (Option Server))
    (path : List LayerNode) (i host : Nat) : Prop :=
  ∃ vnf, f.sfc.vnfSequence[i]? = some vnf ∧
    ((vnf.preferredDeviceType = .server ∧
      ∃ server, servers[i]? = some (some server) ∧ server.serverID = host) ∨
    (vnf.preferredDeviceType = .p4 ∧ servers[i]? = some none ∧
      ∃ k, path[k]? = some (i, host) ∧ path[k + 1]? = some (i + 1, host)))

/-- A turn chooses a server unless the VNF is for a P4 switch. -/
theorem of_selectNFVI4Stage {i : Nat} {choice : Option Server}
    (h : f.selectNFVI4Stage dividedPath abandonElementIDList i = .ok choice) :
    ∃ vnf, f.sfc.vnfSequence[i]? = some vnf ∧
      ((vnf.preferredDeviceType = .server ∧ ∃ server vnfType serverList,
          choice = some server ∧ f.selectServer4ServerList vnfType
            f.sfc.getSFCTrafficDemand serverList = .ok server) ∨
        (vnf.preferredDeviceType = .p4 ∧ choice = none)) := by
  obtain ⟨vnf, hvnf, h⟩ := except_bind_eq_ok_iff.mp h
  refine ⟨vnf, itemAt_eq_ok_iff.mp hvnf, ?_⟩
  cases hdevice : vnf.preferredDeviceType with
  | server =>
      rw [hdevice] at h
      obtain ⟨segPath, -, h⟩ := except_bind_eq_ok_iff.mp h
      obtain ⟨layerNode, -, h⟩ := except_bind_eq_ok_iff.mp h
      obtain ⟨vnfType, -, h⟩ := except_bind_eq_ok_iff.mp h
      obtain ⟨switchNode, -, h⟩ := except_bind_eq_ok_iff.mp h
      obtain ⟨connected, -, h⟩ := except_bind_eq_ok_iff.mp h
      obtain ⟨server, hserver, h⟩ := except_bind_eq_ok_iff.mp h
      exact Or.inl ⟨rfl, server, vnfType, _, (Except.ok.inj h).symm, hserver⟩
  | p4 =>
      rw [hdevice] at h
      exact Or.inr ⟨rfl, (Except.ok.inj h).symm⟩
  | other =>
      rw [hdevice] at h
      cases h

/-- There is a choice for each segment but the last. -/
theorem of_selectNFVI4EachStage
    (h : f.selectNFVI4EachStage dividedPath abandonElementIDList = .ok servers) :
    servers.length = dividedPath.length - 1 ∧ ∀ i < servers.length,
      ∃ vnf, f.sfc.vnfSequence[i]? = some vnf ∧
        ((vnf.preferredDeviceType = .server ∧
          ∃ server, servers[i]? = some (some server)) ∨
        (vnf.preferredDeviceType = .p4 ∧ servers[i]? = some none)) := by
  obtain ⟨hlength, hturns⟩ := of_mapM_range h
  refine ⟨hlength, fun i hi => ?_⟩
  obtain ⟨choice, hchoice, hturn⟩ := hturns i (hlength ▸ hi)
  obtain ⟨vnf, hvnf, ⟨hdevice, server, -, -, rfl, -⟩ | ⟨hdevice, rfl⟩⟩ :=
    of_selectNFVI4Stage hturn
  · exact ⟨vnf, hvnf, Or.inl ⟨hdevice, server, hchoice⟩⟩
  · exact ⟨vnf, hvnf, Or.inr ⟨hdevice, hchoice⟩⟩

/-! ## The contract -/

/-- A forwarding path as it is used: numbered segments of two nodes or more, from
the ingress to the egress, that meet at the hosts of the VNFs and go through the
switches of the path. -/
structure Filled (f : PathServerFiller) (path : List LayerNode)
    (c ingID egID : Nat) (servers : List (Option Server)) (r : ForwardingPath) :
    Prop where
  length : r.length = c + 1
  layers : ∀ (i : Nat) (segPath : List LayerNode), r[i]? = some segPath →
    ∀ u ∈ segPath, u.1 = i
  twoNodes : ∀ segPath ∈ r, 2 ≤ segPath.length
  first : r.head?.bind List.head? = some (0, ingID)
  last : r.getLast?.bind List.getLast? = some (c, egID)
  hosts : ∀ i < c, ∃ host, HostOf f servers path i host ∧
    r[i]?.bind List.getLast? = some (i, host) ∧
    r[i + 1]?.bind List.head? = some (i + 1, host)
  switches : ∀ (i : Nat) (segPath : List LayerNode), r[i]? = some segPath →
    ∃ before after, segPath = before ++ layer path i ++ after ∧
    before.length ≤ 1 ∧ after.length ≤ 1 ∧
    (∀ u ∈ before, u = (0, ingID) ∨ ∃ j, i = j + 1 ∧
      HostOf f servers path j u.2) ∧
    (∀ u ∈ after, u = (c, egID) ∨ HostOf f servers path i u.2)

/-- The last layer has one node, which is the egress, and nothing is added before
it: the last VNF is in a P4 switch, or there is none and the node is the ingress. -/
def LastAlone (f : PathServerFiller) (path : List LayerNode)
    (first c last ingID egID : Nat) : Prop :=
  (layer path c).length = 1 ∧ last = egID ∧
    if c = 0 then first = ingID
    else ∃ vnf, f.sfc.vnfSequence[c - 1]? = some vnf ∧
      vnf.preferredDeviceType = .p4

section Contract

variable (h : Through path 0 first c last) (hlength : servers.length = c)
  (hchoice : ∀ i < c, ∃ vnf, f.sfc.vnfSequence[i]? = some vnf ∧
    ((vnf.preferredDeviceType = .server ∧
      ∃ server, servers[i]? = some (some server)) ∨
    (vnf.preferredDeviceType = .p4 ∧ servers[i]? = some none)))

include h in
theorem head?_withEnds :
    (withEnds path first c last ingID egID 0).head? = some (0, ingID) := by
  rw [withEnds, startOf, List.append_assoc, List.head?_append,
    List.head?_append, h.head?_layer]
  by_cases hing : first = ingID <;> simp [hing]

include h in
theorem getLast?_withEnds :
    (withEnds path first c last ingID egID c).getLast? = some (c, egID) := by
  have hlast := h.getLast?_layer
  rw [Nat.zero_add] at hlast
  rw [withEnds, endOf, List.getLast?_append, List.getLast?_append, hlast]
  by_cases heg : last = egID <;> simp [heg]

theorem exit_last {F : Nat → List LayerNode} : exit servers s F servers.length = [] := by
  rw [exit, List.getElem?_eq_none le_rfl]

theorem length_entry (i : Nat) : (entry servers s i).length ≤ 1 := by
  cases i with
  | zero => exact Nat.zero_le 1
  | succ i =>
      rw [entry]
      split <;> simp

theorem layer_of_mem_withEnds {i : Nat} {u : LayerNode}
    (hu : u ∈ withEnds path first c last ingID egID i) : u.1 = i := by
  obtain hu | hu := List.mem_append.mp hu
  · obtain hu | hu := List.mem_append.mp hu
    · obtain ⟨rfl, rfl⟩ := mem_startOf hu
      rfl
    · exact (mem_layer.mp hu).2
  · obtain ⟨rfl, rfl⟩ := mem_endOf hu
    rfl

theorem of_mem_entry {i : Nat} {u : LayerNode} (hu : u ∈ entry servers s i) :
    u.1 = i + s ∧ ∃ (j : Nat) (server : Server), i = j + 1 ∧
      servers[j]? = some (some server) ∧ server.serverID = u.2 := by
  cases i with
  | zero => cases hu
  | succ j =>
      rw [entry] at hu
      split at hu
      next server hserver =>
        obtain rfl := List.mem_singleton.mp hu
        exact ⟨rfl, j, server, rfl, hserver, rfl⟩
      next => cases hu

theorem mem_filled {i : Nat} {u : LayerNode} (hu : u ∈ filled servers s F i) :
    u ∈ F i ∨ u.1 = i + s ∧ ∃ (j : Nat) (server : Server),
      servers[j]? = some (some server) ∧ server.serverID = u.2 := by
  have hbefore : ∀ u ∈ entry servers s i ++ F i, u ∈ F i ∨ u.1 = i + s ∧
      ∃ (j : Nat) (server : Server),
        servers[j]? = some (some server) ∧ server.serverID = u.2 := by
    intro u hu
    obtain hu | hu := List.mem_append.mp hu
    · obtain ⟨hlayer, j, server, -, hserver, hhost⟩ := of_mem_entry hu
      exact Or.inr ⟨hlayer, j, server, hserver, hhost⟩
    · exact Or.inl hu
  obtain hu | hu := List.mem_append.mp hu
  · exact hbefore u hu
  · rw [exit] at hu
    split at hu
    next server hserver =>
      rw [List.mem_singleton.mp hu]
      exact Or.inr ⟨rfl, i, server, hserver, rfl⟩
    next hserver =>
      split at hu
      · exact hbefore u hu
      · cases hu
    next => cases hu

include h in
theorem hosts_filled (hchoice : ∀ i < c, ∃ vnf, f.sfc.vnfSequence[i]? = some vnf ∧
      ((vnf.preferredDeviceType = .server ∧
        ∃ server, servers[i]? = some (some server)) ∨
      (vnf.preferredDeviceType = .p4 ∧ servers[i]? = some none)))
    {i : Nat} (hi : i < c) :
    ∃ host, HostOf f servers path i host ∧
      (filled servers 0 (withEnds path first c last ingID egID) i).getLast? =
        some (i, host) ∧
      (filled servers 0 (withEnds path first c last ingID egID)
        (i + 1)).head? = some (i + 1, host) ∧
      ∀ u ∈ exit servers 0 (withEnds path first c last ingID egID) i,
        u = (i, host) := by
  obtain ⟨vnf, hvnf, ⟨hdevice, server, hserver⟩ | ⟨hdevice, hserver⟩⟩ :=
    hchoice i hi
  · refine ⟨server.serverID,
      ⟨vnf, hvnf, Or.inl ⟨hdevice, server, hserver, rfl⟩⟩,
      getLast?_filled_of_server hserver, head?_filled_of_server hserver, ?_⟩
    intro u hu
    rw [exit, hserver] at hu
    exact List.mem_singleton.mp hu
  · obtain ⟨k, host, hk, hk', hlast, hhead⟩ := h.crosses hi
    simp only [Nat.zero_add] at hk hk' hlast hhead
    have hlast' : (withEnds path first c last ingID egID i).getLast? =
        some (i, host) := by
      rw [withEnds, endOf_of_lt hi, List.append_nil, List.getLast?_append, hlast]
      rfl
    have hhead' : (withEnds path first c last ingID egID (i + 1)).head? =
        some (i + 1, host) := by
      rw [withEnds, startOf_succ, List.nil_append, List.head?_append, hhead]
      rfl
    exact ⟨host, ⟨vnf, hvnf, Or.inr ⟨hdevice, hserver, k, hk, hk'⟩⟩,
      getLast?_filled_of_none hserver hlast', head?_filled_of_none hserver hhead',
      fun u => eq_of_mem_exit hserver hlast'⟩

theorem length_exit (F : Nat → List LayerNode) (i : Nat) :
    (exit servers s F i).length ≤ 1 := by
  rw [exit]
  split
  · exact le_rfl
  next =>
    split
    next hone => exact hone.le
    next => exact Nat.zero_le 1
  · exact Nat.zero_le 1

theorem length_endOf_append_exit {c : Nat} (hlength : servers.length = c) (i : Nat)
    (F : Nat → List LayerNode) :
    (endOf c last egID i ++ exit servers s F i).length ≤ 1 := by
  by_cases hi : i = c
  · subst hi
    rw [← hlength, exit_last, List.append_nil]
    exact length_endOf _
  · rw [endOf, if_neg (fun heq => hi heq.1), List.nil_append]
    exact length_exit F i

theorem length_entry_append_startOf (i : Nat) :
    (entry servers s i ++ startOf first ingID i).length ≤ 1 := by
  cases i with
  | zero => exact length_startOf 0
  | succ i =>
      rw [startOf_succ, List.append_nil]
      exact length_entry (i + 1)

theorem two_le_length_filled {F : Nat → List LayerNode} {i : Nat}
    (hi : i < servers.length) (hne : F i ≠ []) :
    2 ≤ (filled servers s F i).length := by
  have hpos := List.length_pos_iff.mpr hne
  have hserver : servers[i]? = some servers[i] := List.getElem?_eq_getElem hi
  rw [filled, exit, hserver, List.length_append]
  cases servers[i] with
  | some server =>
      simp only [List.length_append, List.length_singleton]
      omega
  | none =>
      simp only
      split
      next hone => omega
      next hmany =>
        rw [List.length_append] at hmany ⊢
        simp only [List.length_nil]
        omega

include h in
theorem length_filled_last (hlength : servers.length = c)
    (hchoice : ∀ i < c, ∃ vnf, f.sfc.vnfSequence[i]? = some vnf ∧
      ((vnf.preferredDeviceType = .server ∧
        ∃ server, servers[i]? = some (some server)) ∨
      (vnf.preferredDeviceType = .p4 ∧ servers[i]? = some none))) :
    2 ≤ (filled servers 0 (withEnds path first c last ingID egID) c).length ↔
      ¬ LastAlone f path first c last ingID egID := by
  have hpos : 0 < (layer path c).length := by
    have hlast := h.getLast?_layer
    rw [Nat.zero_add] at hlast
    exact List.length_pos_of_mem (List.mem_of_getLast? hlast)
  have hend : (endOf c last egID c).length = if last = egID then 0 else 1 := by
    by_cases heg : last = egID <;> simp [endOf, heg]
  have hexit : exit servers 0 (withEnds path first c last ingID egID) c = [] := by
    rw [← hlength, exit_last]
  have hsum : (filled servers 0 (withEnds path first c last ingID egID)
      c).length = (entry servers 0 c).length + (startOf first ingID c).length +
        (layer path c).length + (endOf c last egID c).length := by
    rw [filled, hexit, withEnds]
    simp only [List.length_append, List.length_nil]
    omega
  rw [hsum, hend, LastAlone]
  cases c with
  | zero =>
      have hstart : (startOf first ingID 0).length =
          if first = ingID then 0 else 1 := by
        by_cases hing : first = ingID <;> simp [startOf, hing]
      rw [hstart, if_pos rfl, entry]
      simp only [List.length_nil]
      split <;> split <;> omega
  | succ j =>
      obtain ⟨vnf, hvnf, ⟨hdevice, server, hserver⟩ | ⟨hdevice, hserver⟩⟩ :=
        hchoice j (Nat.lt_succ_self j)
      · rw [startOf_succ, entry, hserver]
        simp only [Nat.add_sub_cancel, hvnf, List.length_singleton,
          List.length_nil]
        have hnot : ¬ ∃ vnf', some vnf = some vnf' ∧
            vnf'.preferredDeviceType = .p4 := by
          rintro ⟨vnf', heq, hp4⟩
          obtain rfl := Option.some.inj heq
          rw [hdevice] at hp4
          cases hp4
        simp only [Nat.succ_ne_zero, if_false, hnot, and_false, not_false_eq_true,
          iff_true]
        omega
      · have hp4 : ∃ vnf', some vnf = some vnf' ∧
            vnf'.preferredDeviceType = .p4 := ⟨vnf, rfl, hdevice⟩
        rw [startOf_succ, entry, hserver]
        simp only [Nat.add_sub_cancel, hvnf, List.length_nil, Nat.succ_ne_zero,
          if_false, hp4, and_true]
        split <;> omega

include h in
theorem filled_of_twoNodes (hlength : servers.length = c)
    (hchoice : ∀ i < c, ∃ vnf, f.sfc.vnfSequence[i]? = some vnf ∧
      ((vnf.preferredDeviceType = .server ∧
        ∃ server, servers[i]? = some (some server)) ∨
      (vnf.preferredDeviceType = .p4 ∧ servers[i]? = some none)))
    (htwo : ∀ i ≤ c,
      2 ≤ (filled servers 0 (withEnds path first c last ingID egID) i).length) :
    Filled f path c ingID egID servers ((List.range (c + 1)).map
      (filled servers 0 (withEnds path first c last ingID egID))) := by
  have hget : ∀ {i : Nat} {segPath : List LayerNode},
      ((List.range (c + 1)).map (filled servers 0
        (withEnds path first c last ingID egID)))[i]? = some segPath →
      i ≤ c ∧ filled servers 0 (withEnds path first c last ingID egID) i =
        segPath := by
    intro i segPath hseg
    rw [List.getElem?_map, Option.map_eq_some_iff] at hseg
    obtain ⟨j, hj, rfl⟩ := hseg
    obtain ⟨hi, rfl⟩ := List.getElem?_eq_some_iff.mp hj
    rw [List.length_range] at hi
    rw [List.getElem_range]
    exact ⟨Nat.le_of_lt_succ hi, rfl⟩
  have hsome : ∀ i ≤ c, ((List.range (c + 1)).map (filled servers 0
      (withEnds path first c last ingID egID)))[i]? =
        some (filled servers 0 (withEnds path first c last ingID egID) i) := by
    intro i hi
    rw [List.getElem?_map, List.getElem?_range (Nat.lt_succ_of_le hi)]
    rfl
  refine ⟨by simp, ?_, ?_, ?_, ?_, ?_, ?_⟩
  · intro i segPath hseg u hu
    obtain ⟨-, rfl⟩ := hget hseg
    obtain hu | ⟨hlayer, -⟩ := mem_filled hu
    · exact layer_of_mem_withEnds hu
    · exact hlayer
  · intro segPath hseg
    obtain ⟨i, hi, rfl⟩ := List.mem_map.mp hseg
    exact htwo i (Nat.le_of_lt_succ (List.mem_range.mp hi))
  · rw [List.head?_eq_getElem?, hsome 0 (Nat.zero_le c), Option.bind_some, filled,
      entry, List.nil_append, List.head?_append, head?_withEnds h]
    rfl
  · rw [List.getLast?_eq_getElem?, List.length_map, List.length_range,
      Nat.add_sub_cancel, hsome c le_rfl, Option.bind_some, filled, ← hlength,
      exit_last, List.append_nil, hlength, List.getLast?_append,
      getLast?_withEnds h]
    rfl
  · intro i hi
    obtain ⟨host, hhost, hlast, hhead, -⟩ := hosts_filled h hchoice hi
    rw [hsome i (Nat.le_of_lt hi), hsome (i + 1) hi]
    exact ⟨host, hhost, hlast, hhead⟩
  · intro i segPath hseg
    obtain ⟨hi, rfl⟩ := hget hseg
    refine ⟨entry servers 0 i ++ startOf first ingID i,
      endOf c last egID i ++ exit servers 0
        (withEnds path first c last ingID egID) i, ?_,
      length_entry_append_startOf i, length_endOf_append_exit hlength i _, ?_, ?_⟩
    · simp only [filled, withEnds, List.append_assoc]
    · intro u hu
      obtain hu | hu := List.mem_append.mp hu
      · obtain ⟨-, j, server, rfl, hserver, hhost⟩ := of_mem_entry hu
        obtain ⟨vnf, hvnf, ⟨hdevice, -⟩ | ⟨-, hnone⟩⟩ := hchoice j hi
        · exact Or.inr ⟨j, rfl, vnf, hvnf,
            Or.inl ⟨hdevice, server, hserver, hhost⟩⟩
        · rw [hserver] at hnone
          cases hnone
      · exact Or.inl (mem_startOf hu).2
    · intro u hu
      obtain hu | hu := List.mem_append.mp hu
      · exact Or.inl (mem_endOf hu).2
      · obtain hlt | rfl := Nat.lt_or_eq_of_le hi
        · obtain ⟨host, hhost, -, -, hexit⟩ := hosts_filled h hchoice hlt
          rw [hexit u hu]
          exact Or.inr hhost
        · rw [← hlength, exit_last] at hu
          cases hu

end Contract

/-- A path through the layers, with the servers chosen, becomes a forwarding path
as it is used exactly when its last segment does not stand alone. -/
theorem filled_selectNPoPNodeAndServers_iff (h : Through path 0 first c last)
    (hdivided : dividePathWithEnds path ingID egID = .ok dividedPath)
    (hservers : f.selectNFVI4EachStage dividedPath abandonElementIDList =
      .ok servers) :
    ∃ r, f.selectNPoPNodeAndServers path ingID egID abandonElementIDList = .ok r ∧
      (Filled f path c ingID egID servers r ↔
        ¬ LastAlone f path first c last ingID egID) := by
  have hends := dividePathWithEnds_eq h ingID egID
  obtain rfl := Except.ok.inj (hdivided.symm.trans hends)
  obtain ⟨hlength, hchoice⟩ := of_selectNFVI4EachStage hservers
  simp only [List.length_map, List.length_range, Nat.add_sub_cancel] at hlength
  rw [hlength] at hchoice
  have hhead : (withEnds path first c last ingID egID 0).head? =
      some (0, ingID) := head?_withEnds h
  have hadd : addNFVI2Path ((List.range (servers.length + 1)).map
      (withEnds path first c last ingID egID)) servers = _ := addNFVI2Path_eq hhead
  rw [hlength] at hadd
  refine ⟨_, except_bind_eq_ok_iff.mpr ⟨_, hdivided,
    except_bind_eq_ok_iff.mpr ⟨servers, hservers, hadd⟩⟩, ?_⟩
  rw [← length_filled_last h hlength hchoice]
  constructor
  · intro hfilled
    apply hfilled.twoNodes
    exact List.mem_map.mpr ⟨c, List.mem_range.mpr (Nat.lt_succ_self c), rfl⟩
  · intro hlast
    apply filled_of_twoNodes h hlength hchoice
    intro i hi
    obtain hlt | rfl := Nat.lt_or_eq_of_le hi
    · apply two_le_length_filled (hlength ▸ hlt)
      obtain ⟨k, host, -, -, hmem, -⟩ := h.crosses hlt
      rw [Nat.zero_add] at hmem
      have hmem := List.mem_of_getLast? hmem
      exact List.ne_nil_of_mem
        (List.mem_append_left _ (List.mem_append_right _ hmem))
    · exact hlast

def oneServer : PathServerFiller :=
  ⟨MultiLayerGraph.twoSwitches, .simulator, MultiLayerGraph.oneVNF.sfc, true⟩

theorem filled_selectNPoPNodeAndServers_iff_oneServer :
    ∃ r servers, oneServer.selectNPoPNodeAndServers
      [(0, 1), (0, 2), (1, 2), (1, 1)] 9 8 [] = .ok r ∧
      Filled oneServer [(0, 1), (0, 2), (1, 2), (1, 1)] 1 9 8 servers r := by
  have hpath : Through [(0, 1), (0, 2), (1, 2), (1, 1)] 0 1 1 1 :=
    ⟨by simp [StepsOn], rfl, rfl⟩
  have hservers : oneServer.selectNFVI4EachStage
      [[(0, 9), (0, 1), (0, 2)], [(1, 2), (1, 1), (1, 8)]] [] =
        .ok [some ⟨7, .nfvi, 34, [3], 12, 64, 10⟩] := by
    decide +kernel
  obtain ⟨r, hr, hfilled⟩ := filled_selectNPoPNodeAndServers_iff hpath
    (dividePathWithEnds_eq hpath 9 8) hservers
  exact ⟨r, _, hr, hfilled.mpr fun halone => absurd halone.1 (by decide)⟩

def oneP4 : PathServerFiller :=
  ⟨MultiLayerGraph.twoSwitches, .simulator, ⟨[4], [⟨4, none, .p4⟩], 1, none⟩,
    true⟩

theorem not_filled_oneP4 :
    oneP4.selectNPoPNodeAndServers [(0, 2), (1, 2)] 9 2 [] =
      .ok [[(0, 9), (0, 2)], [(1, 2)]] ∧
    ¬ ∃ servers, Filled oneP4 [(0, 2), (1, 2)] 1 9 2 servers
      [[(0, 9), (0, 2)], [(1, 2)]] := by
  refine ⟨by decide, ?_⟩
  rintro ⟨servers, hfilled⟩
  have htwo := hfilled.twoNodes [(1, 2)] (by decide)
  exact absurd htwo (by decide)

end PathServerFiller

end SelfAdaptiveMano.Mapping

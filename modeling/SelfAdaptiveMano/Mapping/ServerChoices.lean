import SelfAdaptiveMano.Library.RemovingLoop
import SelfAdaptiveMano.Mapping.RestartedStages

/-!
# Admission of a switch and the choice of a server under it

A switch is admitted for a VNF when the servers under it have together more left
than the VNF takes. The server for the VNF is chosen later, and it has to have
room for the whole VNF. What is left may be spread over the servers, so that no
one of them has the room.

The servers that are given up are taken out of the list before the choice, by a
loop that removes from the list it goes through. One that stands after a removed
one stays, and may be chosen.
-/

namespace SelfAdaptiveMano.Mapping

open Library LayeredWalk

/-! ## The servers under a switch -/

namespace DCNInfoBase

variable {dib : DCNInfoBase} {zoneName : Zone} {switchID : Nat}
  {servers : List Server}

theorem getConnectedNFVIs_eq_filter {pruneInactiveServers : Bool}
    (h : dib.getConnectedNFVIs zoneName switchID [] pruneInactiveServers =
      .ok servers) (abandonServerIDList : List Nat) :
    dib.getConnectedNFVIs zoneName switchID abandonServerIDList
        pruneInactiveServers =
      .ok (servers.filter fun server =>
        decide (server.serverID ∉ abandonServerIDList)) := by
  rw [getConnectedNFVIs] at h ⊢
  obtain ⟨infos, hinfos, h⟩ := except_bind_eq_ok_iff.mp h
  obtain ⟨info, hinfo, h⟩ := except_bind_eq_ok_iff.mp h
  obtain rfl := Except.ok.inj h
  rw [hinfos, hinfo]
  simp only [bind, Except.bind, pure, Except.pure, List.filter_map, List.filter_filter]
  congr 2
  apply List.filter_congr
  intro info _
  rw [Bool.eq_iff_iff]
  simp only [Bool.and_eq_true, Function.comp_apply, decide_eq_true_eq,
    Bool.not_eq_true', List.contains_eq_mem, decide_eq_false_iff_not,
    List.not_mem_nil, not_false_eq_true, and_true]
  tauto

end DCNInfoBase

namespace PathServerFiller

variable (f : PathServerFiller) (abandonElementIDList : List Nat)
  (vnfType switchID : Nat)

/-- The test of a server in the loop of `_selectServer4ServerList`. -/
def suits (server : Server) : Except PyError Bool := do
  return (← f.hasEnoughResource server vnfType f.sfc.getSFCTrafficDemand) &&
    server.serverType == .nfvi && decide (vnfType ∈ server.supportVNFSet)

/-- An active NFVI under the switch that is not given up and suits the VNF. -/
def Suitable (server : Server) : Prop :=
  ∃ servers, f.dib.getConnectedNFVIs f.zoneName switchID abandonElementIDList true =
      .ok servers ∧
    server ∈ servers ∧ f.suits vnfType server = .ok true

/-- The choice under a switch, in `_selectNFVI4EachStage`. -/
def selectServerUnder : Except PyError Server := do
  let servers ← f.dib.getConnectedNFVIs f.zoneName switchID [] true
  f.selectServer4ServerList vnfType f.sfc.getSFCTrafficDemand
    (delAbandonedServer abandonElementIDList servers)

/-- The servers of the list that are given up and directly follow one another at its
end. -/
def abandonedRun (servers : List Server) : List Server :=
  servers.rtakeWhile fun server => decide (server.serverID ∈ abandonElementIDList)

/-- Some one server that is not given up suits the VNF, and those before it do not,
unless they end an odd number of servers that are given up. -/
def FirstSuits : Prop :=
  ∃ servers before server after,
    f.dib.getConnectedNFVIs f.zoneName switchID [] true = .ok servers ∧
    servers = before ++ server :: after ∧
    server.serverID ∉ abandonElementIDList ∧ f.suits vnfType server = .ok true ∧
    ∀ first next, first ++ [next] <+: before →
      Odd (abandonedRun abandonElementIDList (first ++ [next])).length ∨
        f.suits vnfType next = .ok false

variable {f abandonElementIDList vnfType switchID}

theorem selectServer4ServerList_cons (server : Server) (servers : List Server) :
    f.selectServer4ServerList vnfType f.sfc.getSFCTrafficDemand
        (server :: servers) = (do
      if ← f.suits vnfType server then return server
      else f.selectServer4ServerList vnfType f.sfc.getSFCTrafficDemand servers) := by
  rw [selectServer4ServerList, suits]
  cases f.hasEnoughResource server vnfType f.sfc.getSFCTrafficDemand <;> rfl

theorem selectServer4ServerList_eq_ok_iff {servers : List Server} {server : Server} :
    f.selectServer4ServerList vnfType f.sfc.getSFCTrafficDemand servers =
        .ok server ↔
      f.suits vnfType server = .ok true ∧
        ∃ before after, servers = before ++ server :: after ∧
          ∀ other ∈ before, f.suits vnfType other = .ok false := by
  induction servers with
  | nil => simp [selectServer4ServerList]
  | cons head servers ih =>
    rw [selectServer4ServerList_cons, except_bind_eq_ok_iff]
    constructor
    · rintro ⟨suited, hsuited, h⟩
      cases suited with
      | true =>
        obtain rfl := Except.ok.inj h
        exact ⟨hsuited, [], servers, rfl, by simp⟩
      | false =>
        obtain ⟨hserver, before, after, rfl, hbefore⟩ := ih.mp h
        exact ⟨hserver, head :: before, after, rfl,
          List.forall_mem_cons.mpr ⟨hsuited, hbefore⟩⟩
    · rintro ⟨hserver, before, after, hservers, hbefore⟩
      cases before with
      | nil =>
        obtain ⟨rfl, rfl⟩ := List.cons.inj hservers
        exact ⟨true, hserver, rfl⟩
      | cons other before =>
        obtain ⟨rfl, rfl⟩ := List.cons.inj hservers
        obtain ⟨hother, hbefore⟩ := List.forall_mem_cons.mp hbefore
        exact ⟨false, hother, ih.mpr ⟨hserver, before, after, rfl, hbefore⟩⟩

theorem delAbandonedServer_eq_left (servers : List Server) :
    delAbandonedServer abandonElementIDList servers =
      RemovingLoop.left
        (fun server => decide (server.serverID ∈ abandonElementIDList)) servers := by
  induction servers using delAbandonedServer.induct abandonElementIDList with
  | case1 => rfl
  | case2 server h => simp [delAbandonedServer, RemovingLoop.left, h]
  | case3 server h => simp [delAbandonedServer, RemovingLoop.left, h]
  | case4 server next servers h ih =>
    rw [delAbandonedServer, if_pos h, RemovingLoop.left, if_pos (by simpa using h), ih]
  | case5 server next servers h ih =>
    rw [delAbandonedServer, if_neg h, RemovingLoop.left, if_neg (by simpa using h), ih]

theorem selectServerUnder_eq_ok_iff {servers : List Server} {server : Server}
    (h : f.dib.getConnectedNFVIs f.zoneName switchID [] true = .ok servers) :
    f.selectServerUnder abandonElementIDList vnfType switchID = .ok server ↔
      f.suits vnfType server = .ok true ∧
        ∃ before after, servers = before ++ server :: after ∧
          ¬ Odd (abandonedRun abandonElementIDList (before ++ [server])).length ∧
          ∀ first next, first ++ [next] <+: before →
            Odd (abandonedRun abandonElementIDList (first ++ [next])).length ∨
              f.suits vnfType next = .ok false := by
  rw [selectServerUnder, h]
  dsimp only [bind, Except.bind]
  rw [delAbandonedServer_eq_left]
  exact selectServer4ServerList_eq_ok_iff.trans
    (and_congr_right fun _ => RemovingLoop.exists_left_eq_iff)

theorem suitable_iff {servers : List Server} {server : Server}
    (h : f.dib.getConnectedNFVIs f.zoneName switchID [] true = .ok servers) :
    f.Suitable abandonElementIDList vnfType switchID server ↔
      server ∈ servers ∧ server.serverID ∉ abandonElementIDList ∧
        f.suits vnfType server = .ok true := by
  rw [Suitable, DCNInfoBase.getConnectedNFVIs_eq_filter h]
  simp only [Except.ok.injEq, exists_eq_left', List.mem_filter, decide_eq_true_eq,
    and_assoc]

theorem not_odd_abandonedRun {before : List Server} {server : Server}
    (h : server.serverID ∉ abandonElementIDList) :
    ¬ Odd (abandonedRun abandonElementIDList (before ++ [server])).length := by
  have hempty : abandonedRun abandonElementIDList (before ++ [server]) = [] := by
    apply List.rtakeWhile_concat_neg
    simpa using h
  rw [hempty]
  simp

theorem selectServerUnder_suitable_iff :
    (∃ server,
      f.selectServerUnder abandonElementIDList vnfType switchID = .ok server ∧
        f.Suitable abandonElementIDList vnfType switchID server) ↔
      f.FirstSuits abandonElementIDList vnfType switchID := by
  constructor
  · rintro ⟨server, hserver, hsuitable⟩
    obtain ⟨servers, hservers, -⟩ := except_bind_eq_ok_iff.mp hserver
    obtain ⟨-, hnot, hsuits⟩ := (suitable_iff hservers).mp hsuitable
    obtain ⟨-, before, after, hsplit, -, hbefore⟩ :=
      (selectServerUnder_eq_ok_iff hservers).mp hserver
    exact ⟨servers, before, server, after, hservers, hsplit, hnot, hsuits, hbefore⟩
  · rintro ⟨servers, before, server, after, hservers, hsplit, hnot, hsuits, hbefore⟩
    refine ⟨server, (selectServerUnder_eq_ok_iff hservers).mpr ⟨hsuits, before, after,
      hsplit, not_odd_abandonedRun hnot, hbefore⟩, ?_⟩
    rw [suitable_iff hservers, hsplit]
    exact ⟨by simp, hnot, hsuits⟩

end PathServerFiller

/-! ## Paths through the layers -/

namespace MultiLayerGraph

open PathServerFiller

variable (g : MultiLayerGraph) (hasPM : Bool)

def filler : PathServerFiller := ⟨g.dib, g.zoneName, g.sfc, hasPM⟩

/-- The choice for the stage is a server that is suitable at the switch where the
path leaves its layer, or none where the VNF goes into the switch itself. -/
def StageFilled (path : List LayerNode) (layerNum : Nat) (choice : Option Server) :
    Prop :=
  ∃ vnf vnfType switchID, g.sfc.vnfSequence[layerNum]? = some vnf ∧
    g.sfc.vNFTypeSequence[layerNum]? = some vnfType ∧
    (layer path layerNum).getLast? = some (layerNum, switchID) ∧
    ((g.enablePreferredDeviceSelection = true ∧ vnf.preferredDeviceType = .p4 ∧
        choice = none) ∨
      (vnf.preferredDeviceType = .server ∧ ∃ server, choice = some server ∧
        (g.filler hasPM).Suitable (g.abandonNodeIDList.getD []) vnfType switchID
          server))

def PathFilled (path : List LayerNode) (ingID egID : Nat) : Prop :=
  ∃ dividedPath servers, dividePathWithEnds path ingID egID = .ok dividedPath ∧
    (g.filler hasPM).selectNFVI4EachStage dividedPath
      (g.abandonNodeIDList.getD []) = .ok servers ∧
    ∀ layerNum < g.sfc.getSFCLength, ∃ choice, servers[layerNum]? = some choice ∧
      g.StageFilled hasPM path layerNum choice

/-- Where the VNF of the layer goes into a server, some one suits it and comes
first. -/
def StageFits (path : List LayerNode) (layerNum : Nat) : Prop :=
  ∃ vnf vnfType switchID, g.sfc.vnfSequence[layerNum]? = some vnf ∧
    g.sfc.vNFTypeSequence[layerNum]? = some vnfType ∧
    (layer path layerNum).getLast? = some (layerNum, switchID) ∧
    ((g.enablePreferredDeviceSelection = true ∧ vnf.preferredDeviceType = .p4) ∨
      (vnf.preferredDeviceType = .server ∧
        (g.filler hasPM).FirstSuits (g.abandonNodeIDList.getD []) vnfType switchID))

variable {g hasPM}

section Stages

variable {path : List LayerNode} {first c last i : Nat}

theorem head?_withEnds_of_lt (hpath : Through path 0 first c last) (hi : i < c)
    (ingID egID : Nat) :
    ∃ node, (withEnds path first c last ingID egID i).head? = some (i, node) := by
  obtain ⟨-, host, -, -, hlast, -⟩ := hpath.crosses hi
  rw [Nat.zero_add] at hlast
  have hmem : (i, host) ∈ withEnds path first c last ingID egID i :=
    List.mem_append_left _ (List.mem_append_right _ (List.mem_of_getLast? hlast))
  have hhead := List.head?_eq_some_head (List.ne_nil_of_mem hmem)
  have hlayer := layer_of_mem_withEnds (List.mem_of_head? hhead)
  exact ⟨_, hhead.trans (congrArg some (Prod.ext hlayer rfl))⟩

theorem getLast?_withEnds_of_lt {ingID egID switchID : Nat} (hi : i < c)
    (hswitch : (layer path i).getLast? = some (i, switchID)) :
    (withEnds path first c last ingID egID i).getLast? = some (i, switchID) := by
  rw [withEnds, endOf_of_lt hi, List.append_nil, List.getLast?_append, hswitch]
  rfl

theorem selectNFVI4Stage_withEnds (hpath : Through path 0 first c last) (hi : i < c)
    (ingID egID : Nat) (f : PathServerFiller) (abandonElementIDList : List Nat)
    {vnf : VNF} {vnfType switchID : Nat} (hvnf : f.sfc.vnfSequence[i]? = some vnf)
    (htype : f.sfc.vNFTypeSequence[i]? = some vnfType)
    (hswitch : (layer path i).getLast? = some (i, switchID)) :
    f.selectNFVI4Stage ((List.range (c + 1)).map
        (withEnds path first c last ingID egID)) abandonElementIDList i =
      match vnf.preferredDeviceType with
      | .server => do
          let server ← f.selectServerUnder abandonElementIDList vnfType switchID
          return some server
      | .p4 => .ok none
      | .other => .error (.valueError "Unknown preferred device type") := by
  have hsegment : ((List.range (c + 1)).map
      (withEnds path first c last ingID egID))[i]? =
        some (withEnds path first c last ingID egID i) := by
    rw [List.getElem?_map, List.getElem?_range (Nat.lt_succ_of_lt hi), Option.map_some]
  obtain ⟨node, hhead⟩ := head?_withEnds_of_lt hpath hi ingID egID
  rw [selectNFVI4Stage_eq hvnf hsegment hhead htype]
  cases vnf.preferredDeviceType with
  | server =>
    rw [selectByDevice, selectServerAt,
      itemFromEnd_one_eq_ok_iff.mpr (getLast?_withEnds_of_lt hi hswitch)]
    rfl
  | p4 => rfl
  | other => rfl

theorem exists_stageFilled_iff
    (hpath : Through path 0 first g.sfc.getSFCLength last)
    (hi : i < g.sfc.getSFCLength) (ingID egID : Nat) :
    (∃ choice, (g.filler hasPM).selectNFVI4Stage
          ((List.range (g.sfc.getSFCLength + 1)).map
            (withEnds path first g.sfc.getSFCLength last ingID egID))
          (g.abandonNodeIDList.getD []) i = .ok choice ∧
        g.StageFilled hasPM path i choice) ↔
      g.StageFits hasPM path i := by
  constructor
  · rintro ⟨choice, hchoice, vnf, vnfType, switchID, hvnf, htype, hswitch, hfilled⟩
    refine ⟨vnf, vnfType, switchID, hvnf, htype, hswitch, ?_⟩
    rcases hfilled with ⟨henabled, hdevice, rfl⟩ | ⟨hdevice, server, rfl, hsuitable⟩
    · exact Or.inl ⟨henabled, hdevice⟩
    · rw [selectNFVI4Stage_withEnds hpath hi ingID egID _ _ hvnf htype hswitch,
        hdevice] at hchoice
      obtain ⟨server', hserver, hsome⟩ := except_bind_eq_ok_iff.mp hchoice
      obtain rfl := Option.some.inj (Except.ok.inj hsome)
      exact Or.inr ⟨hdevice, selectServerUnder_suitable_iff.mp
        ⟨server', hserver, hsuitable⟩⟩
  · rintro ⟨vnf, vnfType, switchID, hvnf, htype, hswitch, hfits⟩
    have hchoice := selectNFVI4Stage_withEnds hpath hi ingID egID (g.filler hasPM)
      (g.abandonNodeIDList.getD []) hvnf htype hswitch
    rcases hfits with ⟨henabled, hdevice⟩ | ⟨hdevice, hfirst⟩
    · rw [hdevice] at hchoice
      exact ⟨none, hchoice, vnf, vnfType, switchID, hvnf, htype, hswitch,
        Or.inl ⟨henabled, hdevice, rfl⟩⟩
    · obtain ⟨server, hserver, hsuitable⟩ := selectServerUnder_suitable_iff.mpr hfirst
      rw [hdevice, hserver] at hchoice
      exact ⟨some server, hchoice, vnf, vnfType, switchID, hvnf, htype, hswitch,
        Or.inr ⟨hdevice, server, rfl, hsuitable⟩⟩

theorem pathFilled_iff (hpath : Through path 0 first g.sfc.getSFCLength last)
    (ingID egID : Nat) :
    g.PathFilled hasPM path ingID egID ↔
      ∀ layerNum < g.sfc.getSFCLength, g.StageFits hasPM path layerNum := by
  have hlength : ((List.range (g.sfc.getSFCLength + 1)).map
      (withEnds path first g.sfc.getSFCLength last ingID egID)).length - 1 =
        g.sfc.getSFCLength := by
    simp
  rw [PathFilled, dividePathWithEnds_eq hpath]
  simp only [Except.ok.injEq, exists_eq_left', exists_and_left]
  constructor
  · rintro ⟨servers, hservers, hfilled⟩ layerNum hlt
    rw [selectNFVI4EachStage, hlength] at hservers
    obtain ⟨choice, hchoice, hturn⟩ := (of_mapM_range hservers).2 layerNum hlt
    obtain ⟨choice', hchoice', hstage⟩ := hfilled layerNum hlt
    obtain rfl := Option.some.inj (hchoice.symm.trans hchoice')
    exact (exists_stageFilled_iff hpath hlt ingID egID).mp ⟨choice, hturn, hstage⟩
  · intro hfits
    have hturns : ∀ layerNum < g.sfc.getSFCLength, ∃ choice,
        (g.filler hasPM).selectNFVI4Stage ((List.range (g.sfc.getSFCLength + 1)).map
            (withEnds path first g.sfc.getSFCLength last ingID egID))
          (g.abandonNodeIDList.getD []) layerNum = .ok choice ∧
        g.StageFilled hasPM path layerNum choice :=
      fun layerNum hlt =>
        (exists_stageFilled_iff hpath hlt ingID egID).mpr (hfits layerNum hlt)
    obtain ⟨servers, hservers⟩ := except_mapM_of_ok fun layerNum hmem =>
      (hturns layerNum (List.mem_range.mp hmem)).imp fun _ hturn => hturn.1
    refine ⟨servers, by rw [selectNFVI4EachStage, hlength, hservers], ?_⟩
    intro layerNum hlt
    obtain ⟨choice, hchoice, hturn⟩ := (of_mapM_range hservers).2 layerNum hlt
    obtain ⟨choice', hturn', hstage⟩ := hturns layerNum hlt
    obtain rfl := Except.ok.inj (hturn.symm.trans hturn')
    exact ⟨choice, hchoice, hstage⟩

end Stages

/-- Where a switch is admitted for a VNF, a suitable server is chosen under it just
when some one server suits the VNF and comes first; and a path of the graph is
filled just when that holds of each of its stages. -/
theorem filled_iff_of_admitted (g : MultiLayerGraph) (hasPM : Bool) :
    (∀ (layerNum vnfType switchID : Nat) (expected : Resources),
      g.sfc.vNFTypeSequence[layerNum]? = some vnfType →
      g.getExpectedServerResource layerNum = .ok expected →
      g.dib.hasEnoughNPoPServersResources g.zoneName switchID expected
        (g.abandonNodeIDList.getD []) = .ok true →
      ((∃ server, (g.filler hasPM).selectServerUnder (g.abandonNodeIDList.getD [])
          vnfType switchID = .ok server ∧
        (g.filler hasPM).Suitable (g.abandonNodeIDList.getD []) vnfType switchID
          server) ↔
      (g.filler hasPM).FirstSuits (g.abandonNodeIDList.getD []) vnfType switchID)) ∧
    ∀ (edges : List Edge) (path : List LayerNode) (ingress egress ingID egID : Nat),
      g.trans2MLG true = .ok edges → path.IsChain (HasEdge edges) →
      path.head? = some (0, ingress) →
      path.getLast? = some (g.sfc.getSFCLength, egress) →
      (g.PathFilled hasPM path ingID egID ↔
        ∀ layerNum < g.sfc.getSFCLength, g.StageFits hasPM path layerNum) := by
  constructor
  · intro layerNum vnfType switchID expected _ _ _
    exact selectServerUnder_suitable_iff
  · intro edges path ingress egress ingID egID hedges hchain hfirst hlast
    exact pathFilled_iff (through_of_path hedges hchain hfirst hlast) ingID egID

/-- One of the servers under the second switch is given up, and one is too small; the
first switch takes monitors. -/
def threeServers : DCNInfoBase :=
  { twoSwitches with
    servers := Dict.empty.set .simulator
      (((Dict.empty.set 6 ⟨⟨6, .nfvi, 33, [3], 12, 64, 10⟩, true⟩).set 7
        ⟨⟨7, .nfvi, 34, [3], 3, 64, 10⟩, true⟩).set 8
          ⟨⟨8, .nfvi, 35, [3], 12, 64, 10⟩, true⟩)
    switches := Dict.empty.set .simulator
      ((Dict.empty.set 1 ⟨⟨1, ⟨0, 27⟩, 2000, [4], [], ⟨0, 0, 0, 0, 0⟩⟩, true⟩).set 2
        ⟨⟨2, ⟨32, 27⟩, 2000, [], [3], ⟨0, 0, 0, 0, 0⟩⟩, true⟩) }

def monitorAndServer : MultiLayerGraph :=
  { load threeServers .simulator
      ⟨[4, 3], [⟨4, none, .p4⟩, ⟨3, none, .server⟩], 1, none⟩ true fun _ _ => .ok 1 with
    abandonNodeIDList := some [6] }

theorem trans2MLG_monitorAndServer : monitorAndServer.trans2MLG true = .ok
    [⟨(0, 1), (0, 2), 1⟩, ⟨(0, 2), (0, 1), 1⟩, ⟨(1, 1), (1, 2), 1⟩,
      ⟨(1, 2), (1, 1), 1⟩, ⟨(2, 1), (2, 2), 1⟩, ⟨(2, 2), (2, 1), 1⟩,
      ⟨(0, 1), (1, 1), 1⟩, ⟨(1, 2), (2, 2), 1⟩] := by
  decide +kernel

theorem firstSuits_monitorAndServer :
    (monitorAndServer.filler true).FirstSuits [6] 3 2 := by
  refine ⟨[⟨6, .nfvi, 33, [3], 12, 64, 10⟩, ⟨7, .nfvi, 34, [3], 3, 64, 10⟩,
      ⟨8, .nfvi, 35, [3], 12, 64, 10⟩],
    [⟨6, .nfvi, 33, [3], 12, 64, 10⟩, ⟨7, .nfvi, 34, [3], 3, 64, 10⟩],
    ⟨8, .nfvi, 35, [3], 12, 64, 10⟩, [], by decide +kernel, rfl, by decide,
    by decide +kernel, ?_⟩
  intro first next hprefix
  obtain ⟨rest, hrest⟩ := hprefix
  obtain _ | ⟨server, first⟩ := first
  · -- the first server is given up
    obtain ⟨rfl, -⟩ := List.cons.inj hrest
    exact Or.inl (by decide)
  · obtain ⟨rfl, htail⟩ := List.cons.inj hrest
    obtain _ | ⟨server, first⟩ := first
    · obtain ⟨rfl, -⟩ := List.cons.inj htail
      exact Or.inr (by decide +kernel)
    · simp at htail

theorem filled_monitorAndServer :
    (∃ server, (monitorAndServer.filler true).selectServerUnder [6] 3 2 =
        .ok server ∧
      (monitorAndServer.filler true).Suitable [6] 3 2 server) ∧
    monitorAndServer.PathFilled true [(0, 1), (1, 1), (1, 2), (2, 2), (2, 1)] 9 8 := by
  have h := filled_iff_of_admitted monitorAndServer true
  constructor
  · apply (h.1 1 3 2 ⟨4, 1, 1⟩ rfl (by decide +kernel) (by decide +kernel)).mpr
    exact firstSuits_monitorAndServer
  · apply (h.2 _ _ 1 1 9 8 trans2MLG_monitorAndServer (by simp [HasEdge]) rfl rfl).mpr
    intro layerNum hlt
    obtain rfl | rfl : layerNum = 0 ∨ layerNum = 1 := by
      have hlt' : layerNum < 2 := hlt
      omega
    · exact ⟨_, _, _, rfl, rfl, rfl, Or.inl ⟨rfl, rfl⟩⟩
    · exact ⟨_, _, _, rfl, rfl, rfl, Or.inr ⟨rfl, firstSuits_monitorAndServer⟩⟩

def twoServers : MultiLayerGraph :=
  .load { twoSwitches with
    servers := Dict.empty.set .simulator
      ((Dict.empty.set 7 ⟨⟨7, .nfvi, 34, [3], 3, 64, 10⟩, true⟩).set 8
        ⟨⟨8, .nfvi, 35, [3], 3, 64, 10⟩, true⟩) }
    .simulator ⟨[3], [⟨3, none, .server⟩], 1, none⟩ false fun _ _ => .ok 1

theorem not_filled_twoServers :
    ¬ ∀ (g : MultiLayerGraph) (layerNum vnfType switchID : Nat)
      (expected : Resources), g.sfc.vNFTypeSequence[layerNum]? = some vnfType →
      g.getExpectedServerResource layerNum = .ok expected →
      g.dib.hasEnoughNPoPServersResources g.zoneName switchID expected
        (g.abandonNodeIDList.getD []) = .ok true →
      ∃ server, (g.filler true).selectServerUnder (g.abandonNodeIDList.getD [])
          vnfType switchID = .ok server ∧
        (g.filler true).Suitable (g.abandonNodeIDList.getD []) vnfType switchID
          server := by
  intro h
  obtain ⟨server, hserver, -⟩ := h twoServers 0 3 2 ⟨4, 1, 1⟩ rfl (by decide +kernel)
    (by decide +kernel)
  have hnone : (twoServers.filler true).selectServerUnder [] 3 2 =
      .error (.valueError "No available server resource") := by
    decide +kernel
  cases hnone.symm.trans hserver

end MultiLayerGraph

end SelfAdaptiveMano.Mapping

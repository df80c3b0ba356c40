import SelfAdaptiveMano.Library.Machine
import SelfAdaptiveMano.Mapping.Rejections

/-!
# When the reservations stay within the capacities

A server that is used for one VNF of a chain is used for the next ones too, while
it does not have room for them, so that it has to have room for the rest of the
chain at once. The links stay within their capacities as long as each path is
found: without one, what was reserved for the request is reserved twice.
-/

namespace SelfAdaptiveMano.Mapping

open Library Library.PyM

/-! ## What the rest of a chain needs -/

namespace Resources

/-- No part is negative. -/
def Nonneg (a : Resources) : Prop := zero.Within a

theorem Nonneg.add {a b : Resources} (ha : a.Nonneg) (hb : b.Nonneg) :
    (a.add b).Nonneg :=
  ⟨add_nonneg ha.1 hb.1, add_nonneg ha.2.1 hb.2.1, add_nonneg ha.2.2 hb.2.2⟩

theorem Within.of_add_right {a b c d : Resources}
    (h : (a.add (b.add c)).Within d) (hc : c.Nonneg) : (a.add b).Within d := by
  simp only [Nonneg, Within, zero, cores_add, memory_add, bandwidth_add] at *
  exact ⟨by linarith, by linarith, by linarith⟩

theorem Within.of_add_left {a b c d : Resources}
    (h : (a.add (b.add c)).Within d) (hb : b.Nonneg) : (a.add c).Within d := by
  simp only [Nonneg, Within, zero, cores_add, memory_add, bandwidth_add] at *
  exact ⟨by linarith, by linarith, by linarith⟩

end Resources

namespace NetPack

variable {nP : NetPack} {request : PathRequest} {serversList : List Server}

theorem nonneg_of_getExpectedServerResource {vnfType : Nat} {trafficDemand : ℚ}
    {demand : Resources} (hdemand : 0 ≤ trafficDemand)
    (h : PerformanceModel.getExpectedServerResource vnfType trafficDemand =
      .ok demand) : demand.Nonneg := by
  obtain ⟨⟨cores, memory⟩, hratio, h⟩ := except_bind_eq_ok_iff.mp h
  cases h
  have hpos : ∀ c ∈ PerformanceModel.coresPer1GTraffic, 0 ≤ c := by
    decide +kernel
  rw [PerformanceModel.getResourceConsumeRatioOfVNF] at hratio
  split at hratio
  next c hc =>
    cases hratio
    have hcores := hpos cores (List.mem_of_getElem? hc)
    refine ⟨?_, ?_, hdemand⟩
    · exact Int.cast_nonneg (Int.ceil_nonneg (mul_nonneg hcores hdemand))
    · exact Int.cast_nonneg
        (Int.ceil_nonneg (mul_nonneg zero_le_one hdemand))
  next => cases hratio

def restDemand (trafficDemand : ℚ) : List Nat → Except PyError Resources
  | [] => .ok .zero
  | vnfType :: vnfTypes => do
      let demand ←
        PerformanceModel.getExpectedServerResource vnfType trafficDemand
      return demand.add (← restDemand trafficDemand vnfTypes)

theorem restDemand_cons {trafficDemand : ℚ} {vnfType : Nat} {vnfTypes : List Nat}
    {demand sum : Resources}
    (hdemand : PerformanceModel.getExpectedServerResource vnfType trafficDemand =
      .ok demand)
    (h : restDemand trafficDemand (vnfType :: vnfTypes) = .ok sum) :
    ∃ rest, restDemand trafficDemand vnfTypes = .ok rest ∧ sum = demand.add rest := by
  obtain ⟨demand', hdemand', h⟩ := except_bind_eq_ok_iff.mp h
  obtain ⟨rest, hrest, h⟩ := except_bind_eq_ok_iff.mp h
  obtain rfl := Except.ok.inj (hdemand.symm.trans hdemand')
  exact ⟨rest, hrest, (Except.ok.inj h).symm⟩

theorem nonneg_of_restDemand {trafficDemand : ℚ} {vnfTypes : List Nat}
    {sum : Resources} (htraffic : 0 ≤ trafficDemand)
    (h : restDemand trafficDemand vnfTypes = .ok sum) : sum.Nonneg := by
  induction vnfTypes generalizing sum with
  | nil =>
      cases h
      exact ⟨le_rfl, le_rfl, le_rfl⟩
  | cons vnfType vnfTypes ih =>
      obtain ⟨demand, hdemand, h⟩ := except_bind_eq_ok_iff.mp h
      obtain ⟨rest, hrest, h⟩ := except_bind_eq_ok_iff.mp h
      cases h
      exact (nonneg_of_getExpectedServerResource htraffic hdemand).add (ih hrest)

/-! ## The servers of a chain -/

/-- A server of the list with room for one VNF of the chain has room for it and
all VNFs after it. -/
def ServersOk (nP : NetPack) (request : PathRequest) (dib : DCNInfoBase)
    (serversList : List Server) : Prop :=
  ∀ before vnfType vnfTypes,
    request.sfc.vNFTypeSequence = before ++ vnfType :: vnfTypes →
    ∀ demand, PerformanceModel.getExpectedServerResource vnfType
      request.sfc.getSFCTrafficDemand = .ok demand →
    ∀ server ∈ serversList, HasRoom nP dib server demand →
      ∃ sum, restDemand request.sfc.getSFCTrafficDemand (vnfType :: vnfTypes) =
        .ok sum ∧ HasRoom nP dib server sum

def ServersWithin (nP : NetPack) (dib : DCNInfoBase) : Prop :=
  ∀ serverID info, dib.serverInfo nP.zoneName serverID = .ok info →
    (dib.getServerReservedResources nP.zoneName serverID).Within
      (DCNInfoBase.capacity info.server)

/-- The information bases are the same but for what is reserved of the servers. -/
structure SameLinks (dib dib' : DCNInfoBase) : Prop where
  servers : dib'.servers = dib.servers
  switches : dib'.switches = dib.switches
  links : dib'.links = dib.links
  linksReserved : dib'.linksReservedResources = dib.linksReservedResources

/-- The switch of the ingress, of the egress or of a server of the list. -/
def IsTerminal (nP : NetPack) (request : PathRequest) (dib : DCNInfoBase)
    (serversList : List Server) (switchID : Nat) : Prop :=
  switchID = request.ingSwitchID ∨ switchID = request.egSwitchID ∨
    ∃ server ∈ serversList, ∃ switch,
      dib.getConnectedSwitch nP.zoneName server.serverID = .ok (some switch) ∧
        switch.switchID = switchID

def HasRestRoom (nP : NetPack) (request : PathRequest) (dib : DCNInfoBase)
    (vnfTypes : List Nat) (server : Server) : Prop :=
  ∃ sum, restDemand request.sfc.getSFCTrafficDemand vnfTypes = .ok sum ∧
    HasRoom nP dib server sum

/-- The invariant of the loop over the VNFs, which started with `dib`: a server that
is in use has room for the rest. -/
structure Placing (nP : NetPack) (request : PathRequest) (dib : DCNInfoBase)
    (serversList : List Server) (vnfTypes : List Nat) (places : Places)
    (s : NetPackState) : Prop where
  same : SameLinks dib s.dib
  within : ServersWithin nP s.dib
  rest : ∃ before, request.sfc.vNFTypeSequence = before ++ vnfTypes
  length : places.vnf2SwitchID.length + vnfTypes.length =
    request.sfc.vNFTypeSequence.length
  room : ∀ server ∈ serversList,
    s.dib.getServerReservedResources nP.zoneName server.serverID =
      dib.getServerReservedResources nP.zoneName server.serverID ∨
    HasRestRoom nP request s.dib vnfTypes server
  last : ∀ server, places.lastServer = some server → server ∈ serversList ∧
    HasRestRoom nP request s.dib vnfTypes server
  terminals : ∀ switchID ∈ places.vnf2SwitchID,
    IsTerminal nP request dib serversList switchID

theorem hasRoom_iff {dib : DCNInfoBase} {server : Server} {demand : Resources} :
    HasRoom nP dib server demand ↔
      ∃ info, dib.serverInfo nP.zoneName server.serverID = .ok info ∧
        ((dib.getServerReservedResources nP.zoneName server.serverID).add
          demand).Within (DCNInfoBase.capacity info.server) :=
  DCNInfoBase.hasEnoughServerResources_eq_ok_true_iff

theorem HasRoom.congr {dib dib' : DCNInfoBase} {server : Server}
    {demand : Resources} (h : HasRoom nP dib server demand)
    (hservers : dib'.servers = dib.servers)
    (hreserved : dib'.getServerReservedResources nP.zoneName server.serverID =
      dib.getServerReservedResources nP.zoneName server.serverID) :
    HasRoom nP dib' server demand := by
  obtain ⟨info, hinfo, hwithin⟩ := hasRoom_iff.mp h
  refine hasRoom_iff.mpr ⟨info, ?_, hreserved ▸ hwithin⟩
  rw [DCNInfoBase.serverInfo, hservers]
  exact hinfo

section Placing

variable {dib : DCNInfoBase} {vnfType : Nat} {vnfTypes : List Nat}
  {places : Places} {s s₁ : NetPackState} {server : Server} {demand : Resources}

theorem Placing.hasRestRoom_of_chosen
    (h : Placing nP request dib serversList (vnfType :: vnfTypes) places s)
    (hok : ServersOk nP request dib serversList)
    (hdemand : PerformanceModel.getExpectedServerResource vnfType
      request.sfc.getSFCTrafficDemand = .ok demand)
    (hchosen : Chosen nP s.dib serversList places.lastServer demand
      (some server)) :
    server ∈ serversList ∧
      HasRestRoom nP request s.dib (vnfType :: vnfTypes) server := by
  cases hchosen with
  | kept hlast hno =>
      obtain ⟨-, sum, hsum, hroom⟩ := h.last server hlast
      obtain ⟨rest, hrest, rfl⟩ := restDemand_cons hdemand hsum
      obtain ⟨info, hinfo, hwithin⟩ := hasRoom_iff.mp hroom
      have hnonneg := nonneg_of_restDemand request.demand_nonneg hrest
      exact absurd (hasRoom_iff.mpr ⟨info, hinfo, hwithin.of_add_right hnonneg⟩) hno
  | found hmem hroom =>
      refine ⟨hmem, ?_⟩
      obtain hsame | hrest := h.room server hmem
      · obtain ⟨before, hbefore⟩ := h.rest
        obtain ⟨sum, hsum, hsumRoom⟩ := hok before vnfType vnfTypes hbefore demand
          hdemand server hmem (hroom.congr h.same.servers.symm hsame.symm)
        exact ⟨sum, hsum, hsumRoom.congr h.same.servers hsame⟩
      · exact hrest

/-- A server that has room for the rest still has it after the VNF was placed. -/
theorem HasRestRoom.reserve {server' : Server}
    (h : HasRestRoom nP request s.dib (vnfType :: vnfTypes) server')
    (hdemand : PerformanceModel.getExpectedServerResource vnfType
      request.sfc.getSFCTrafficDemand = .ok demand)
    (hdib : s₁.dib = s.dib.reserveServerResources nP.zoneName server.serverID
      demand) : HasRestRoom nP request s₁.dib vnfTypes server' := by
  obtain ⟨sum, hsum, hroom⟩ := h
  obtain ⟨rest, hrest, rfl⟩ := restDemand_cons hdemand hsum
  obtain ⟨info, hinfo, hwithin⟩ := hasRoom_iff.mp hroom
  refine ⟨rest, hrest, hasRoom_iff.mpr ⟨info, hdib ▸ hinfo, ?_⟩⟩
  rw [hdib, DCNInfoBase.getServerReservedResources_reserve]
  split
  next heq =>
    rw [← heq, Resources.add_add]
    exact hwithin
  next =>
    exact hwithin.of_add_left
      (nonneg_of_getExpectedServerResource request.demand_nonneg hdemand)

theorem Placing.next {switch : Switch}
    (h : Placing nP request dib serversList (vnfType :: vnfTypes) places s)
    (hok : ServersOk nP request dib serversList)
    (hdemand : PerformanceModel.getExpectedServerResource vnfType
      request.sfc.getSFCTrafficDemand = .ok demand)
    (hchosen : Chosen nP s.dib serversList places.lastServer demand
      (some server))
    (hdib : s₁.dib = s.dib.reserveServerResources nP.zoneName server.serverID
      demand)
    (hswitch : s₁.dib.getConnectedSwitch nP.zoneName server.serverID =
      .ok (some switch)) :
    Placing nP request dib serversList vnfTypes
      ⟨some server, places.vnf2SwitchID ++ [switch.switchID],
        places.vnfi2Server ++ [server]⟩ s₁ := by
  obtain ⟨hmem, hrest⟩ := h.hasRestRoom_of_chosen hok hdemand hchosen
  have hsame : SameLinks dib s₁.dib := by
    rw [hdib]
    exact ⟨h.same.servers, h.same.switches, h.same.links, h.same.linksReserved⟩
  refine ⟨hsame, ?_, ?_, ?_, ?_, ?_, ?_⟩
  · intro serverID info hinfo
    rw [hdib] at hinfo ⊢
    rw [DCNInfoBase.getServerReservedResources_reserve]
    split
    next heq =>
      subst heq
      obtain ⟨sum, hsum, hroom⟩ := hrest
      obtain ⟨rest, hrest, rfl⟩ := restDemand_cons hdemand hsum
      obtain ⟨info', hinfo', hwithin⟩ := hasRoom_iff.mp hroom
      obtain rfl := Except.ok.inj (hinfo'.symm.trans hinfo)
      exact hwithin.of_add_right (nonneg_of_restDemand request.demand_nonneg hrest)
    next => exact h.within serverID info hinfo
  · obtain ⟨before, hbefore⟩ := h.rest
    exact ⟨before ++ [vnfType], by simp [hbefore]⟩
  · have hlength := h.length
    simp only [List.length_append, List.length_cons, List.length_nil] at hlength ⊢
    omega
  · intro server' hmem'
    obtain hunused | hused := h.room server' hmem'
    · by_cases heq : server'.serverID = server.serverID
      · right
        obtain ⟨sum, hsum, hroom⟩ := hrest.reserve hdemand hdib
        refine ⟨sum, hsum, ?_⟩
        rw [HasRoom, heq]
        exact hroom
      · left
        rw [hdib, DCNInfoBase.getServerReservedResources_reserve, if_neg heq]
        exact hunused
    · exact Or.inr (hused.reserve hdemand hdib)
  · intro server' hlast
    obtain rfl := Option.some.inj hlast
    exact ⟨hmem, hrest.reserve hdemand hdib⟩
  · intro switchID hswitchID
    obtain hbefore | hlast := List.mem_append.mp hswitchID
    · exact h.terminals switchID hbefore
    · rw [List.mem_singleton.mp hlast]
      refine Or.inr (Or.inr ⟨server, hmem, switch, ?_, rfl⟩)
      rw [DCNInfoBase.getConnectedSwitch, DCNInfoBase.serverInfo] at hswitch ⊢
      rw [← hsame.switches, ← hsame.servers]
      exact hswitch

/-- The loop places all VNFs, or gives the list up before it reserves anything. -/
theorem Placing.of_placeVNFs {r : Option Places} {s' : NetPackState}
    (h : Placing nP request dib serversList vnfTypes places s)
    (hok : ServersOk nP request dib serversList)
    (hrun : (nP.placeVNFs request serversList vnfTypes places).run s = .ok r s') :
    s'.graph = s.graph ∧ ∀ places', r = some places' →
      Placing nP request dib serversList [] places' s' := by
  induction vnfTypes generalizing places s with
  | nil =>
      cases hrun
      refine ⟨rfl, fun places' hplaces => ?_⟩
      obtain rfl := Option.some.inj hplaces
      exact h
  | cons vnfType vnfTypes ih =>
      obtain ⟨demand, hdemand, ⟨rfl, -, -, -, hgraph⟩ |
        ⟨server, switch, s₁, hchosen, hdib, hgraph, hswitch, hrest⟩⟩ :=
        of_placeVNFs_cons hrun
      · exact ⟨hgraph, nofun⟩
      · obtain ⟨hgraph', hplaces⟩ :=
          ih (h.next hok hdemand hchosen hdib hswitch) hrest
        exact ⟨hgraph'.trans hgraph, hplaces⟩

end Placing

/-! ## The links of a chain -/

def LinksWithin (nP : NetPack) (dib : DCNInfoBase) : Prop :=
  ∀ srcID dstID info, dib.linkInfo nP.zoneName srcID dstID = .ok info →
    dib.getLinkReservedResource nP.zoneName srcID dstID ≤ info.link.bandwidth

/-- Links are stored under their ends, the working graph has only links, and
nothing negative is reserved. -/
structure WellFormed (nP : NetPack) (s : NetPackState) : Prop where
  keyed : ∀ srcID dstID info,
    s.dib.linkInfo nP.zoneName srcID dstID = .ok info →
      info.link.srcID = srcID ∧ info.link.dstID = dstID
  graph : ∀ edge ∈ s.graph, ∃ info,
    s.dib.linkInfo nP.zoneName edge.1 edge.2 = .ok info
  nonneg : ∀ srcID dstID,
    0 ≤ s.dib.getLinkReservedResource nP.zoneName srcID dstID

/-- Whatever is reserved for the chain so far, up to its demand for each VNF, the
links with room for the demand connect its terminals. -/
def PathsOk (nP : NetPack) (request : PathRequest) (s : NetPackState)
    (serversList : List Server) : Prop :=
  tolerance < request.sfc.getSFCTrafficDemand →
  ∀ dib' : DCNInfoBase, dib'.links = s.dib.links →
  (∀ srcID dstID, s.dib.getLinkReservedResource nP.zoneName srcID dstID ≤
      dib'.getLinkReservedResource nP.zoneName srcID dstID ∧
    dib'.getLinkReservedResource nP.zoneName srcID dstID ≤
      s.dib.getLinkReservedResource nP.zoneName srcID dstID +
        request.sfc.getSFCLength * request.sfc.getSFCTrafficDemand) →
  ∀ linkList, nP.getInsufficientBWLinks dib' request.sfc.getSFCTrafficDemand =
    .ok linkList →
  ∀ u v, IsTerminal nP request s.dib serversList u →
    IsTerminal nP request s.dib serversList v → u ≠ v →
    ∃ path, nP.search.bidirectionalShortestPath
      (removeEdgesFrom s.graph linkList) u v = some path

theorem linkInfo_eq_ok_iff {dib : DCNInfoBase} {zoneName : Zone}
    {srcID dstID : Nat} {info : LinkInfo} :
    dib.linkInfo zoneName srcID dstID = .ok info ↔ ∃ links,
      dib.links.get? zoneName = some links ∧
        links.get? (srcID, dstID) = some info := by
  rw [DCNInfoBase.linkInfo]
  cases dib.links.get? zoneName with
  | none => simp
  | some links =>
      cases hget : links.get? (srcID, dstID) with
      | none => simp [hget]
      | some info' => simp [hget]

theorem mem_getInsufficientBWLinks {dib : DCNInfoBase} {bandwidth : ℚ}
    {linkList : List (Nat × Nat)} {edge : Nat × Nat}
    (h : nP.getInsufficientBWLinks dib bandwidth = .ok linkList) :
    edge ∈ linkList ↔ ∃ info,
      dib.linkInfo nP.zoneName edge.1 edge.2 = .ok info ∧
        dib.hasEnoughLinkResource nP.zoneName info.link bandwidth = false := by
  rw [getInsufficientBWLinks] at h
  split at h
  · cases h
  next links hlinks =>
    obtain rfl := Except.ok.inj h
    rw [List.mem_map]
    constructor
    · rintro ⟨⟨key, info⟩, hitem, rfl⟩
      obtain ⟨hmem, hnot⟩ := List.mem_filter.mp hitem
      exact ⟨info, linkInfo_eq_ok_iff.mpr
        ⟨links, hlinks, Dict.mem_items_iff.mp hmem⟩, by simpa using hnot⟩
    · rintro ⟨info, hinfo, hnot⟩
      obtain ⟨links', hlinks', hget⟩ := linkInfo_eq_ok_iff.mp hinfo
      obtain rfl := Option.some.inj (hlinks.symm.trans hlinks')
      exact ⟨(edge, info), List.mem_filter.mpr
        ⟨Dict.mem_items_iff.mpr hget, by simp [hnot]⟩, rfl⟩

/-- A link that lacks room still lacks it when more is reserved. -/
theorem mem_getInsufficientBWLinks_of_le {dib dib' : DCNInfoBase} {bandwidth : ℚ}
    {linkList linkList' : List (Nat × Nat)} {edge : Nat × Nat}
    (h : nP.getInsufficientBWLinks dib bandwidth = .ok linkList)
    (h' : nP.getInsufficientBWLinks dib' bandwidth = .ok linkList')
    (hlinks : dib'.links = dib.links)
    (hle : ∀ srcID dstID, dib.getLinkReservedResource nP.zoneName srcID dstID ≤
      dib'.getLinkReservedResource nP.zoneName srcID dstID)
    (hedge : edge ∈ linkList) : edge ∈ linkList' := by
  obtain ⟨info, hinfo, hnot⟩ := (mem_getInsufficientBWLinks h).mp hedge
  refine (mem_getInsufficientBWLinks h').mpr ⟨info, ?_, ?_⟩
  · rw [linkInfo_eq_ok_iff] at hinfo ⊢
    rw [hlinks]
    exact hinfo
  · have hle := hle info.link.srcID info.link.dstID
    simp only [DCNInfoBase.hasEnoughLinkResource, decide_eq_false_iff_not,
      not_lt] at hnot ⊢
    linarith

theorem removeEdgesFrom_removeEdgesFrom {graph edges edges' : List (Nat × Nat)}
    (h : ∀ edge ∈ edges, edge ∈ edges') :
    removeEdgesFrom (removeEdgesFrom graph edges) edges' =
      removeEdgesFrom graph edges' := by
  rw [removeEdgesFrom, removeEdgesFrom, removeEdgesFrom, List.filter_filter]
  apply List.filter_congr
  intro edge _
  by_cases hedge : edge ∈ edges'
  · simp [hedge]
  · have hnot : edge ∉ edges := fun hmem => hedge (h edge hmem)
    simp [hedge, hnot]

/-! ### Reserving bandwidth along a path -/

theorem of_mem_edges {R : Nat → Nat → Prop} {path : List Nat} {edge : Nat × Nat}
    (h : path.IsChain R) (hedge : edge ∈ edges path) : R edge.1 edge.2 := by
  induction path with
  | nil => cases hedge
  | cons a path ih =>
      cases path with
      | nil => cases hedge
      | cons b path =>
          obtain ⟨hstep, hrest⟩ := List.isChain_cons_cons.mp h
          obtain rfl | hedge := List.mem_cons.mp hedge
          · exact hstep
          · exact ih hrest hedge

theorem nodup_edges {path : List Nat} (h : path.Nodup) : (edges path).Nodup := by
  induction path with
  | nil => exact List.nodup_nil
  | cons a path ih =>
      cases path with
      | nil => exact List.nodup_nil
      | cons b path =>
          obtain ⟨hnot, hrest⟩ := List.nodup_cons.mp h
          refine List.nodup_cons.mpr ⟨fun hedge => hnot ?_, ih hrest⟩
          exact (List.of_mem_zip hedge).1

theorem minBandwidth_eq {dib : DCNInfoBase} {bandwidth : ℚ} {path : List Nat}
    (h : ∀ edge ∈ edges path, ∃ residual,
      dib.getLinkResidualResource nP.zoneName edge.1 edge.2 = .ok residual ∧
        bandwidth ≤ residual) :
    nP.minBandwidth dib bandwidth path = .ok bandwidth := by
  rw [minBandwidth]
  generalize edges path = l at h ⊢
  induction l with
  | nil => rfl
  | cons edge l ih =>
      obtain ⟨residual, hresidual, hle⟩ := h edge List.mem_cons_self
      rw [List.foldlM_cons, hresidual]
      simp only [bind, Except.bind, pure, Except.pure, min_eq_left hle]
      exact ih fun edge' hedge' => h edge' (List.mem_cons_of_mem edge hedge')

theorem of_reserveEdges (bandwidth : ℚ) {l : List (Nat × Nat)} (s : NetPackState)
    (hnodup : l.Nodup)
    (hmore : ∀ edge ∈ l, tolerance <
      s.dib.getLinkReservedResource nP.zoneName edge.1 edge.2 + bandwidth) :
    (l.foldl (fun s edge => nP.reserveEdge bandwidth edge s) s).graph = s.graph ∧
    (l.foldl (fun s edge => nP.reserveEdge bandwidth edge s) s).dib.links =
      s.dib.links ∧
    ∀ srcID dstID, (l.foldl (fun s edge => nP.reserveEdge bandwidth edge s)
      s).dib.getLinkReservedResource nP.zoneName srcID dstID =
        s.dib.getLinkReservedResource nP.zoneName srcID dstID +
          if (srcID, dstID) ∈ l then bandwidth else 0 := by
  induction l generalizing s with
  | nil => exact ⟨rfl, rfl, fun _ _ => by simp⟩
  | cons edge l ih =>
      obtain ⟨hnot, hrest⟩ := List.nodup_cons.mp hnodup
      have hreserved : ∀ srcID dstID, (nP.reserveEdge bandwidth edge
          s).dib.getLinkReservedResource nP.zoneName srcID dstID =
          s.dib.getLinkReservedResource nP.zoneName srcID dstID +
            if (srcID, dstID) = edge then bandwidth else 0 := by
        intro srcID dstID
        rw [reserveEdge, DCNInfoBase.getLinkReservedResource_reserve]
        split
        next heq =>
          obtain ⟨rfl, rfl⟩ := Prod.mk.inj heq
          simp
        next => simp
      have hgraph : (nP.reserveEdge bandwidth edge s).graph = s.graph := by
        have hmore := hmore edge List.mem_cons_self
        rw [reserveEdge, DCNInfoBase.getLinkReservedResource_reserve, if_pos rfl,
          if_neg (not_le.mpr hmore)]
      obtain ⟨hgraph', hlinks', hreserved'⟩ :=
        ih (nP.reserveEdge bandwidth edge s) hrest fun edge' hedge' => by
          have hne : edge' ≠ edge := fun heq => hnot (heq ▸ hedge')
          rw [hreserved, if_neg hne, add_zero]
          exact hmore edge' (List.mem_cons_of_mem edge hedge')
      refine ⟨hgraph'.trans hgraph, hlinks', fun srcID dstID => ?_⟩
      rw [List.foldl_cons, hreserved', hreserved]
      by_cases heq : (srcID, dstID) = edge
      · simp [heq, hnot]
      · simp [heq]

/-! ### The loop over the segments -/

/-- The invariant of the loop over the segments, which started in `s`, before the
segment `k`. -/
structure Allocating (nP : NetPack) (request : PathRequest) (s : NetPackState)
    (k : Nat) (s' : NetPackState) : Prop where
  links : s'.dib.links = s.dib.links
  lower : ∀ srcID dstID, s.dib.getLinkReservedResource nP.zoneName srcID dstID ≤
    s'.dib.getLinkReservedResource nP.zoneName srcID dstID
  upper : ∀ srcID dstID, s'.dib.getLinkReservedResource nP.zoneName srcID dstID ≤
    s.dib.getLinkReservedResource nP.zoneName srcID dstID +
      k * request.sfc.getSFCTrafficDemand
  within : LinksWithin nP s'.dib
  subgraph : ∀ edge ∈ s'.graph, edge ∈ s.graph
  graph : ∀ (dib' : DCNInfoBase) (linkList : List (Nat × Nat)),
    dib'.links = s.dib.links →
    (∀ srcID dstID, s'.dib.getLinkReservedResource nP.zoneName srcID dstID ≤
      dib'.getLinkReservedResource nP.zoneName srcID dstID) →
    nP.getInsufficientBWLinks dib' request.sfc.getSFCTrafficDemand =
      .ok linkList →
    removeEdgesFrom s'.graph linkList = removeEdgesFrom s.graph linkList

section Allocating

variable {s s₁ s₂ : NetPackState} {k : Nat}

theorem Allocating.start (h : LinksWithin nP s.dib) :
    Allocating nP request s 0 s :=
  ⟨rfl, fun _ _ => le_rfl, fun _ _ => by simp, h, fun _ hedge => hedge,
    fun _ _ _ _ _ => rfl⟩

theorem Allocating.skip (h : Allocating nP request s k s₁) :
    Allocating nP request s (k + 1) s₁ := by
  refine ⟨h.links, h.lower, fun srcID dstID => (h.upper srcID dstID).trans ?_,
    h.within, h.subgraph, h.graph⟩
  have hnonneg := request.demand_nonneg
  push_cast
  linarith

theorem Allocating.residual_of_mem (h : Allocating nP request s k s₁)
    (hwell : WellFormed nP s) {linkList : List (Nat × Nat)}
    (hlinkList : nP.getInsufficientBWLinks s₁.dib
      request.sfc.getSFCTrafficDemand = .ok linkList) {edge : Nat × Nat}
    (hedge : edge ∈ removeEdgesFrom s₁.graph linkList) :
    ∃ info, s₁.dib.linkInfo nP.zoneName edge.1 edge.2 = .ok info ∧
      request.sfc.getSFCTrafficDemand < info.link.bandwidth -
        s₁.dib.getLinkReservedResource nP.zoneName edge.1 edge.2 := by
  rw [h.graph s₁.dib linkList h.links (fun _ _ => le_rfl) hlinkList] at hedge
  obtain ⟨hgraph, hnot⟩ := List.mem_filter.mp hedge
  obtain ⟨info, hinfo⟩ := hwell.graph edge hgraph
  obtain ⟨hsrc, hdst⟩ := hwell.keyed edge.1 edge.2 info hinfo
  have hinfo₁ : s₁.dib.linkInfo nP.zoneName edge.1 edge.2 = .ok info := by
    rw [linkInfo_eq_ok_iff] at hinfo ⊢
    rw [h.links]
    exact hinfo
  refine ⟨info, hinfo₁, ?_⟩
  by_contra hless
  refine of_decide_eq_true hnot
    ((mem_getInsufficientBWLinks hlinkList).mpr ⟨info, hinfo₁, ?_⟩)
  rw [DCNInfoBase.hasEnoughLinkResource, hsrc, hdst]
  exact decide_eq_false hless

theorem Allocating.reserve (h : Allocating nP request s k s₁)
    (hwell : WellFormed nP s)
    (hdemand : tolerance < request.sfc.getSFCTrafficDemand)
    {linkList : List (Nat × Nat)} {path : List Nat}
    (hlinkList : nP.getInsufficientBWLinks s₁.dib
      request.sfc.getSFCTrafficDemand = .ok linkList)
    (hchain : path.IsChain fun a b =>
      (a, b) ∈ removeEdgesFrom s₁.graph linkList) (hnodup : path.Nodup) :
    nP.minBandwidth s₁.dib request.sfc.getSFCTrafficDemand path =
        .ok request.sfc.getSFCTrafficDemand ∧
      Allocating nP request s (k + 1) ((edges path).foldl
        (fun s edge => nP.reserveEdge request.sfc.getSFCTrafficDemand edge s)
        { s₁ with graph := removeEdgesFrom s₁.graph linkList }) := by
  have hresidual : ∀ edge ∈ edges path, ∃ info,
      s₁.dib.linkInfo nP.zoneName edge.1 edge.2 = .ok info ∧
        request.sfc.getSFCTrafficDemand < info.link.bandwidth -
          s₁.dib.getLinkReservedResource nP.zoneName edge.1 edge.2 :=
    fun _ hedge => h.residual_of_mem hwell hlinkList (of_mem_edges hchain hedge)
  have hnonneg := request.demand_nonneg
  obtain ⟨hgraph, hlinks, hreserved⟩ := of_reserveEdges
    request.sfc.getSFCTrafficDemand
    { s₁ with graph := removeEdgesFrom s₁.graph linkList }
    (nodup_edges hnodup) fun edge _ => by
      have hzero := (hwell.nonneg edge.1 edge.2).trans (h.lower edge.1 edge.2)
      exact lt_add_of_nonneg_of_lt hzero hdemand
  constructor
  · apply minBandwidth_eq
    intro edge hedge
    obtain ⟨info, hinfo, hlt⟩ := hresidual edge hedge
    exact ⟨_, except_bind_eq_ok_iff.mpr ⟨info, hinfo, rfl⟩, hlt.le⟩
  · refine ⟨hlinks.trans h.links, ?_, ?_, ?_, ?_, ?_⟩
    · intro srcID dstID
      rw [hreserved]
      have hlower := h.lower srcID dstID
      split <;> linarith
    · intro srcID dstID
      rw [hreserved]
      have hupper := h.upper srcID dstID
      push_cast
      split <;> linarith
    · intro srcID dstID info hinfo
      have hinfo₁ : s₁.dib.linkInfo nP.zoneName srcID dstID = .ok info := by
        rw [linkInfo_eq_ok_iff] at hinfo ⊢
        rw [hlinks] at hinfo
        exact hinfo
      rw [hreserved]
      split
      next hedge =>
        obtain ⟨info', hinfo', hlt⟩ := hresidual (srcID, dstID) hedge
        obtain rfl := Except.ok.inj (hinfo₁.symm.trans hinfo')
        show s₁.dib.getLinkReservedResource nP.zoneName srcID dstID + _ ≤ _
        linarith
      next =>
        rw [add_zero]
        exact h.within srcID dstID info hinfo₁
    · intro edge hedge
      rw [hgraph] at hedge
      exact h.subgraph edge (List.mem_filter.mp hedge).1
    · intro dib' linkList' hlinks' hle hlinkList'
      have hle₁ : ∀ srcID dstID,
          s₁.dib.getLinkReservedResource nP.zoneName srcID dstID ≤
            dib'.getLinkReservedResource nP.zoneName srcID dstID := by
        intro srcID dstID
        have hle := hle srcID dstID
        rw [hreserved] at hle
        refine le_trans ?_ hle
        show s₁.dib.getLinkReservedResource nP.zoneName srcID dstID ≤ _
        split <;> linarith
      rw [hgraph, removeEdgesFrom_removeEdgesFrom fun edge hedge =>
        mem_getInsufficientBWLinks_of_le hlinkList hlinkList'
          (hlinks'.trans h.links.symm) hle₁ hedge]
      exact h.graph dib' linkList' hlinks' hle₁ hlinkList'

def OnlyLinks (nP : NetPack) (s : NetPackState) (allocation : Allocation) : Prop :=
  ∀ edge ∈ allocation.linkList, ∃ info,
    s.dib.linkInfo nP.zoneName edge.1 edge.2 = .ok info

variable {u v idx : Nat} {servers : List Server} {allocation : Allocation}

/-- The paths between two switches: one turn reserves all, and the next ends. -/
theorem Allocating.of_allocateBandwidth (h : Allocating nP request s k s₁)
    (hwell : WellFormed nP s) (honly : OnlyLinks nP s allocation)
    (hpath : tolerance < request.sfc.getSFCTrafficDemand → ∀ linkList,
      nP.getInsufficientBWLinks s₁.dib request.sfc.getSFCTrafficDemand =
        .ok linkList →
      ∃ path, nP.search.bidirectionalShortestPath
        (removeEdgesFrom s₁.graph linkList) u v = some path)
    {fuel : Nat} {r : Option (List LayerNode × Allocation)}
    (hrun : (nP.allocateBandwidth u v idx servers fuel
      request.sfc.getSFCTrafficDemand [] allocation).run s₁ = .ok r s₂) :
    Allocating nP request s (k + 1) s₂ ∧
      ∃ paths allocation', r = some (paths, allocation') ∧
        OnlyLinks nP s allocation' := by
  cases fuel with
  | zero => cases hrun
  | succ fuel =>
      obtain ⟨-, rfl, rfl⟩ | ⟨hdemand, linkList, hlinkList,
        ⟨hnone, -, -⟩ | ⟨path, minBW, hsome, hminBW, hrest⟩⟩ :=
        of_allocateBandwidth_succ hrun
      · exact ⟨h.skip, _, _, rfl, honly⟩
      · obtain ⟨path, hsome⟩ := hpath hdemand linkList hlinkList
        rw [hnone] at hsome
        cases hsome
      · obtain ⟨hchain, -, -, hnodup⟩ := nP.search.path_spec hsome
        obtain ⟨hminBW', hnext⟩ :=
          h.reserve hwell hdemand hlinkList hchain hnodup
        obtain rfl := Except.ok.inj (hminBW.symm.trans hminBW')
        cases fuel with
        | zero => cases hrest
        | succ fuel =>
            rw [sub_self] at hrest
            obtain ⟨-, rfl, rfl⟩ | ⟨hmore, -⟩ := of_allocateBandwidth_succ hrest
            · refine ⟨hnext, _, _, rfl, fun edge hedge => ?_⟩
              obtain ⟨info, hinfo, -⟩ :=
                (mem_getInsufficientBWLinks hlinkList).mp hedge
              rw [linkInfo_eq_ok_iff] at hinfo
              rw [h.links] at hinfo
              exact ⟨info, linkInfo_eq_ok_iff.mpr hinfo⟩
            · exact absurd hmore (by norm_num [tolerance])

theorem Allocating.of_allocateSegments (h : Allocating nP request s idx s₁)
    (hwell : WellFormed nP s) (honly : OnlyLinks nP s allocation)
    (hpaths : PathsOk nP request s serversList) {switchIDs : List Nat}
    (hlength : idx + switchIDs.length ≤ request.sfc.getSFCLength + 2)
    (hterminals : ∀ switchID ∈ switchIDs,
      IsTerminal nP request s.dib serversList switchID)
    {r : Option Allocation}
    (hrun : (nP.allocateSegments request.sfc.getSFCTrafficDemand servers idx
      switchIDs allocation).run s₁ = .ok r s₂) :
    ∃ n allocation', Allocating nP request s n s₂ ∧ r = some allocation' ∧
      OnlyLinks nP s allocation' := by
  induction switchIDs generalizing idx allocation s₁ with
  | nil =>
      cases hrun
      exact ⟨idx, allocation, h, rfl, honly⟩
  | cons u switchIDs ih =>
      cases switchIDs with
      | nil =>
          cases hrun
          exact ⟨idx, allocation, h, rfl, honly⟩
      | cons v switchIDs =>
          obtain ⟨allocation', s₃, hsegment, hrest⟩ :=
            PyM.run_bind_eq_ok_iff.mp hrun
          simp only [List.length_cons] at hlength
          have hsegment' : Allocating nP request s (idx + 1) s₃ ∧
              ∃ allocation'', allocation' = some allocation'' ∧
                OnlyLinks nP s allocation'' := by
            rw [allocateSegment] at hsegment
            split at hsegment
            · cases hsegment
              exact ⟨h.skip, _, rfl, honly⟩
            next hne =>
              obtain ⟨paths, s₄, hpath, hsegment⟩ :=
                PyM.run_bind_eq_ok_iff.mp hsegment
              obtain ⟨hnext, paths', allocation'', rfl, honly'⟩ :=
                h.of_allocateBandwidth hwell honly (fun hdemand linkList
                  hlinkList => by
                    rw [h.graph s₁.dib linkList h.links (fun _ _ => le_rfl)
                      hlinkList]
                    apply hpaths hdemand s₁.dib h.links _ linkList hlinkList u v
                      (hterminals u (by simp)) (hterminals v (by simp)) hne
                    intro srcID dstID
                    refine ⟨h.lower srcID dstID, (h.upper srcID dstID).trans ?_⟩
                    have hle : (idx : ℚ) ≤ request.sfc.getSFCLength := by
                      exact_mod_cast (by omega : idx ≤ request.sfc.getSFCLength)
                    have hmul := mul_le_mul_of_nonneg_right hle
                      request.demand_nonneg
                    linarith) hpath
              cases hsegment
              exact ⟨hnext, _, rfl, honly'⟩
          obtain ⟨hnext, allocation'', rfl, honly'⟩ := hsegment'
          apply ih hnext honly' _ _ hrest
          · simp only [List.length_cons]
            omega
          · exact fun switchID hmem =>
              hterminals switchID (List.mem_cons_of_mem u hmem)

end Allocating

/-! ## Accepted requests -/

/-- No server and no link is overcommitted, and the state is well formed. -/
structure Sound (nP : NetPack) (s : NetPackState) : Prop where
  servers : ServersWithin nP s.dib
  links : LinksWithin nP s.dib
  wellFormed : WellFormed nP s

section Sound

variable {s s' : NetPackState}

theorem SameLinks.getLinkReservedResource {dib dib' : DCNInfoBase}
    (h : SameLinks dib dib') (zoneName : Zone) (srcID dstID : Nat) :
    dib'.getLinkReservedResource zoneName srcID dstID =
      dib.getLinkReservedResource zoneName srcID dstID := by
  rw [DCNInfoBase.getLinkReservedResource, DCNInfoBase.getLinkReservedResource,
    h.linksReserved]

theorem SameLinks.linkInfo {dib dib' : DCNInfoBase} (h : SameLinks dib dib')
    (srcID dstID : Nat) :
    dib'.linkInfo nP.zoneName srcID dstID = dib.linkInfo nP.zoneName srcID dstID := by
  rw [DCNInfoBase.linkInfo, DCNInfoBase.linkInfo, h.links]

theorem SameLinks.isTerminal {dib dib' : DCNInfoBase} (h : SameLinks dib dib')
    (switchID : Nat) :
    IsTerminal nP request dib' serversList switchID ↔
      IsTerminal nP request dib serversList switchID := by
  simp only [IsTerminal, DCNInfoBase.getConnectedSwitch, DCNInfoBase.serverInfo,
    h.servers, h.switches]

theorem PathsOk.congr (h : PathsOk nP request s serversList)
    (hsame : SameLinks s.dib s'.dib) (hgraph : s'.graph = s.graph) :
    PathsOk nP request s' serversList := by
  intro hdemand dib' hlinks hbounds linkList hlinkList u v hu hv hne
  rw [hgraph]
  refine h hdemand dib' (hlinks.trans hsame.links) (fun srcID dstID => ?_) linkList
    hlinkList u v ((hsame.isTerminal u).mp hu) ((hsame.isTerminal v).mp hv) hne
  rw [← hsame.getLinkReservedResource nP.zoneName]
  exact hbounds srcID dstID

theorem WellFormed.congr (h : WellFormed nP s) (hsame : SameLinks s.dib s'.dib)
    (hgraph : s'.graph = s.graph) : WellFormed nP s' := by
  refine ⟨fun srcID dstID info hinfo => ?_, fun edge hedge => ?_,
    fun srcID dstID => ?_⟩
  · rw [hsame.linkInfo] at hinfo
    exact h.keyed srcID dstID info hinfo
  · rw [hsame.linkInfo]
    exact h.graph edge (hgraph ▸ hedge)
  · rw [hsame.getLinkReservedResource]
    exact h.nonneg srcID dstID

theorem mem_addEdgesFrom {graph edges : List (Nat × Nat)} {edge : Nat × Nat} :
    edge ∈ addEdgesFrom graph edges ↔ edge ∈ graph ∨ edge ∈ edges := by
  induction edges generalizing graph with
  | nil => simp [addEdgesFrom]
  | cons edge' edges ih =>
      rw [addEdgesFrom, ih, List.mem_cons]
      split
      next hmem =>
        constructor
        · exact Or.imp_right Or.inr
        · rintro (hgraph | rfl | hedges)
          · exact Or.inl hgraph
          · exact Or.inl hmem
          · exact Or.inr hedges
      next => rw [List.mem_append, List.mem_singleton, or_assoc]

theorem Sound.of_allocatePaths {s₁ : NetPackState} {places : Places}
    {r : Option ForwardingPath} (h : Sound nP s)
    (hpaths : PathsOk nP request s serversList)
    (hplaces : Placing nP request s.dib serversList [] places s₁)
    (hgraph : s₁.graph = s.graph)
    (hrun : (nP.allocatePaths request places).run s₁ = .ok r s') :
    r ≠ none ∧ Sound nP s' := by
  have hsame := hplaces.same
  have hwell := h.wellFormed.congr hsame hgraph
  have hlinks : LinksWithin nP s₁.dib := by
    intro srcID dstID info hinfo
    rw [hsame.linkInfo] at hinfo
    rw [hsame.getLinkReservedResource]
    exact h.links srcID dstID info hinfo
  have hservers : ServersWithin nP s'.dib :=
    keeps_allocatePaths (P := ServersWithin nP) (fun _ _ _ _ hdib => hdib) hrun
      hplaces.within
  obtain ⟨allocation, s₂, hallocation, hrun⟩ := PyM.run_bind_eq_ok_iff.mp hrun
  have hlength := hplaces.length
  rw [List.length_nil, add_zero] at hlength
  obtain ⟨n, allocation', hs₂, rfl, honly⟩ :=
    (Allocating.start hlinks).of_allocateSegments hwell
      (nofun : OnlyLinks nP s₁ ⟨[], [], []⟩) (hpaths.congr hsame hgraph) (by simp [SFC.getSFCLength, hlength])
      (by
        intro switchID hmem
        rw [hsame.isTerminal]
        simp only [List.cons_append, List.mem_cons, List.mem_append,
          List.not_mem_nil, or_false] at hmem
        obtain rfl | hmem | rfl := hmem
        · exact Or.inl rfl
        · exact hplaces.terminals switchID hmem
        · exact Or.inr (Or.inl rfl)) hallocation
  cases hrun
  refine ⟨Option.some_ne_none _, hservers, hs₂.within, ?_⟩
  have hinfo : ∀ srcID dstID, s₂.dib.linkInfo nP.zoneName srcID dstID =
      s₁.dib.linkInfo nP.zoneName srcID dstID := by
    intro srcID dstID
    rw [DCNInfoBase.linkInfo, DCNInfoBase.linkInfo, hs₂.links]
  refine ⟨fun srcID dstID info hlink => ?_, fun edge hedge => ?_,
    fun srcID dstID => (hwell.nonneg srcID dstID).trans (hs₂.lower srcID dstID)⟩
  · exact hwell.keyed srcID dstID info (hinfo srcID dstID ▸ hlink)
  · show ∃ info, s₂.dib.linkInfo nP.zoneName edge.1 edge.2 = .ok info
    rw [hinfo]
    obtain hedge | hedge := mem_addEdgesFrom.mp hedge
    · exact hwell.graph edge (hs₂.subgraph edge hedge)
    · exact honly edge hedge

/-- A list is given up before anything is reserved, or accepts the request. -/
theorem Sound.of_mapToServers {r : Option ForwardingPath} (h : Sound nP s)
    (hservers : ServersOk nP request s.dib serversList)
    (hpaths : PathsOk nP request s serversList)
    (hrun : (nP.mapToServers request serversList).run s = .ok r s') :
    (r = none → SameAs s s') ∧ ∀ path, r = some path → Sound nP s' := by
  by_cases hserver : HasServer nP request s.dib serversList
  · obtain ⟨places, s₁, hplaces, hrest⟩ := PyM.run_bind_eq_ok_iff.mp hrun
    have hstart : Placing nP request s.dib serversList
        request.sfc.vNFTypeSequence ⟨none, [], []⟩ s :=
      ⟨⟨rfl, rfl, rfl, rfl⟩, h.servers, ⟨[], rfl⟩, Nat.zero_add _,
        fun _ _ => Or.inl rfl, nofun, nofun⟩
    obtain ⟨hgraph, hplaced⟩ := hstart.of_placeVNFs hservers hplaces
    cases places with
    | none =>
        exact absurd rfl (of_placeVNFs_of_hasServer hplaces hserver).1
    | some places =>
        obtain ⟨hsome, hsound⟩ :=
          h.of_allocatePaths hpaths (hplaced places rfl) hgraph hrest
        exact ⟨fun hnone => absurd hnone hsome, fun _ _ => hsound⟩
  · obtain ⟨rfl, hdib, hgraph⟩ := of_mapToServers_of_not_hasServer hrun hserver
    exact ⟨fun _ => ⟨hdib, hgraph⟩, nofun⟩

def RequestOk (nP : NetPack) (s : NetPackState) (request : PathRequest) : Prop :=
  ∀ serverSet ∈ nP.serverSets, ∀ serversList ∈ serverSet,
    ServersOk nP request s.dib serversList ∧ PathsOk nP request s serversList

/-- What the loops of the mapping keep. -/
def Accepts (nP : NetPack) (s : NetPackState) (r : Option ForwardingPath)
    (s' : NetPackState) : Prop :=
  (r = none → SameAs s s') ∧ ∀ path, r = some path → Sound nP s'

theorem accepts_mapToServers (h : Sound nP s)
    (hok : ServersOk nP request s.dib serversList ∧
      PathsOk nP request s serversList) :
    Meets (SameAs s) (nP.mapToServers request serversList) (Accepts nP s)
      fun _ => True := by
  apply Meets.of_run
  rintro ⟨dib, graph, drawn⟩ r s' ⟨rfl, rfl⟩ hrun
  have hsound : Sound nP ⟨s.dib, s.graph, drawn⟩ :=
    ⟨h.servers, h.links, h.wellFormed.keyed, h.wellFormed.graph,
      h.wellFormed.nonneg⟩
  exact hsound.of_mapToServers hok.1 hok.2 hrun

theorem accepts_mapPrimaryPath (h : Sound nP s)
    {serverSet : List (List Server)}
    (hok : ∀ serversList ∈ serverSet, ServersOk nP request s.dib serversList ∧
      PathsOk nP request s serversList) :
    Meets (SameAs s) (nP.mapPrimaryPath request serverSet) (Accepts nP s)
      fun _ => True := by
  refine Meets.findSomeM? fun _ _ => ?_
  refine Meets.bind (Q := fun serverSet' s' =>
    serverSet'.Perm serverSet ∧ SameAs s s') ?_ fun serverSet' => ?_
  · apply Meets.of_run
    rintro s₁ serverSet' s₂ ⟨hdib, hgraph⟩ hrun
    obtain ⟨hperm, hdib', hgraph'⟩ := of_shuffle hrun
    exact ⟨hperm, hdib'.trans hdib, hgraph'.trans hgraph⟩
  · rintro s₁ ⟨hperm, hs₁⟩
    have hloop : Meets (SameAs s) (serverSet'.findSomeM? (nP.mapToServers request))
        (Accepts nP s) fun _ => True :=
      Meets.findSomeM? fun serversList hlist =>
        accepts_mapToServers h (hok serversList (hperm.mem_iff.mp hlist))
    exact hloop s₁ hs₁

/-- A request that the servers and links can take keeps them sound when it is
accepted. -/
theorem Sound.of_mapRequest {path : ForwardingPath} (h : Sound nP s)
    (hok : RequestOk nP s request)
    (hrun : (nP.mapRequest request).run s = .ok (some path) s') : Sound nP s' := by
  have hloop : Meets (SameAs s) (nP.mapRequest request) (Accepts nP s)
      fun _ => True :=
    Meets.findSomeM? fun serverSet hset => accepts_mapPrimaryPath h (hok serverSet hset)
  exact (hloop.of_run_ok ⟨rfl, rfl⟩ hrun).2 path rfl

theorem Sound.of_startBatch (h : Sound nP s)
    (hrun : nP.startBatch.run s = .ok ⟨⟩ s') : Sound nP s' := by
  obtain ⟨graph, hgraph, hrun⟩ := PyM.run_bind_ofExcept_eq_ok_iff.mp hrun
  cases hrun
  refine ⟨h.servers, h.links, h.wellFormed.keyed, fun edge hedge => ?_,
    h.wellFormed.nonneg⟩
  obtain ⟨infos, hinfos, hgraph⟩ := except_bind_eq_ok_iff.mp hgraph
  obtain rfl := Except.ok.inj hgraph
  obtain hedge | hedge := mem_addEdgesFrom.mp hedge
  · cases hedge
  · obtain ⟨info, hinfo, rfl⟩ := List.mem_map.mp hedge
    rw [DCNInfoBase.getLinksByZone] at hinfos
    split at hinfos
    · cases hinfos
    next links hlinks =>
      obtain rfl := Except.ok.inj hinfos
      have hvalue := List.mem_of_mem_filter (List.mem_of_mem_filter hinfo)
      obtain ⟨⟨srcID, dstID⟩, hget⟩ := Dict.mem_values_iff.mp hvalue
      have hlink : s.dib.linkInfo nP.zoneName srcID dstID = .ok info :=
        linkInfo_eq_ok_iff.mpr ⟨links, hlinks, hget⟩
      obtain ⟨rfl, rfl⟩ := h.wellFormed.keyed srcID dstID info hlink
      exact ⟨info, hlink⟩

end Sound

/-! ## Runs -/

/-- A list of requests is begun, or a request of it is mapped. -/
inductive Event where
  | startBatch
  | mapRequest (request : PathRequest)

def machine (nP : NetPack) : Machine NetPackState Event where
  init s := Sound nP s
  admits s
    | .startBatch => ∃ s', nP.startBatch.run s = .ok ⟨⟩ s'
    | .mapRequest request =>
        ∃ path s', (nP.mapRequest request).run s = .ok (some path) s'
  step s
    | .startBatch => nP.startBatch.finalState s
    | .mapRequest request => (nP.mapRequest request).finalState s

def EventOk (nP : NetPack) (s : NetPackState) : Event → Prop
  | .startBatch => True
  | .mapRequest request => RequestOk nP s request

def WithinCapacity (nP : NetPack) (s : NetPackState) : Prop :=
  ServersWithin nP s.dib ∧ LinksWithin nP s.dib

theorem Sound.of_step {s : NetPackState} {e : Event} (h : Sound nP s)
    (hadmits : (machine nP).admits s e) (hok : EventOk nP s e) :
    Sound nP ((machine nP).step s e) := by
  cases e with
  | startBatch =>
      obtain ⟨s', hrun⟩ := hadmits
      show Sound nP (nP.startBatch.finalState s)
      rw [PyM.finalState_of_ok hrun]
      exact h.of_startBatch hrun
  | mapRequest request =>
      obtain ⟨path, s', hrun⟩ := hadmits
      show Sound nP ((nP.mapRequest request).finalState s)
      rw [PyM.finalState_of_ok hrun]
      exact h.of_mapRequest hok hrun

/-- In a run whose requests can be taken, nothing is overcommitted at any time. -/
theorem withinCapacity_of_run {τ : List (NetPackState × Event)} {s : NetPackState}
    (h : (machine nP).Run τ s) (hok : ∀ e ∈ τ, EventOk nP e.1 e.2) :
    (∀ e ∈ τ, WithinCapacity nP e.1) ∧ WithinCapacity nP s := by
  obtain ⟨hbefore, hlast⟩ := h.all_of_meets (P := Sound nP) (C := EventOk nP)
    (fun _ hinit => hinit) (fun _ _ hs hadmits hmeets => hs.of_step hadmits hmeets)
    hok
  exact ⟨fun e he => ⟨(hbefore e he).servers, (hbefore e he).links⟩,
    hlast.servers, hlast.links⟩

theorem exists_of_accepts {x : PyM NetPackState (Option ForwardingPath)}
    {s : NetPackState} {p : NetPackState → Prop} [DecidablePred p]
    (h : (match x.run s with
      | .ok (some _) s' => decide (p s')
      | _ => false) = true) : ∃ path s', x.run s = .ok (some path) s' ∧ p s' := by
  split at h
  next path s' hrun => exact ⟨path, s', hrun, of_decide_eq_true h⟩
  next => cases h

theorem linkInfo_twoSwitches {srcID dstID : Nat} {info : LinkInfo}
    (h : twoSwitches.dib.linkInfo .simulator srcID dstID = .ok info) :
    (srcID, dstID) ∈ twoSwitches.graph ∧ info = ⟨⟨srcID, dstID, 10⟩, true⟩ := by
  obtain ⟨links, hlinks, hget⟩ := linkInfo_eq_ok_iff.mp h
  obtain rfl := Option.some.inj hlinks
  simp only [Dict.get?_set, Dict.get?_empty] at hget
  split at hget
  next heq =>
    obtain ⟨rfl, rfl⟩ := Prod.mk.inj heq
    exact ⟨by decide, (Option.some.inj hget).symm⟩
  next =>
    obtain ⟨heq, hinfo⟩ := Option.ite_none_right_eq_some.mp hget
    obtain ⟨rfl, rfl⟩ := Prod.mk.inj heq
    exact ⟨by decide, (Option.some.inj hinfo).symm⟩

theorem serverInfo_twoSwitches {serverID : Nat} {info : ServerInfo}
    (h : twoSwitches.dib.serverInfo .simulator serverID = .ok info) :
    info = ⟨⟨7, .nfvi, 34, [3], 12, 64, 10⟩, true⟩ := by
  rw [DCNInfoBase.serverInfo] at h
  split at h
  next info' hget =>
    obtain ⟨servers, hservers, hget⟩ := Option.bind_eq_some_iff.mp hget
    obtain rfl := Option.some.inj hservers
    rw [Dict.get?_set] at hget
    obtain ⟨-, hget⟩ := Option.ite_none_right_eq_some.mp hget
    obtain rfl := Option.some.inj hget
    exact (Except.ok.inj h).symm
  next => cases h

theorem sound_twoSwitches : Sound oneList twoSwitches := by
  refine ⟨fun serverID info hinfo => ?_, fun srcID dstID info hinfo => ?_,
    fun srcID dstID info hinfo => ?_, fun edge hedge => ?_, fun _ _ => le_rfl⟩
  · obtain rfl := serverInfo_twoSwitches hinfo
    show Resources.zero.Within ⟨12, 64, 10⟩
    decide
  · obtain ⟨-, rfl⟩ := linkInfo_twoSwitches hinfo
    show (0 : ℚ) ≤ 10
    norm_num
  · obtain ⟨-, rfl⟩ := linkInfo_twoSwitches hinfo
    exact ⟨rfl, rfl⟩
  · obtain rfl | hedge := List.mem_cons.mp hedge
    · exact ⟨_, rfl⟩
    · obtain rfl := List.mem_singleton.mp hedge
      exact ⟨_, rfl⟩

/-- Only reservations were made. -/
structure SameNetwork (s s' : NetPackState) : Prop where
  graph : s'.graph = s.graph
  servers : s'.dib.servers = s.dib.servers
  switches : s'.dib.switches = s.dib.switches
  links : s'.dib.links = s.dib.links

instance (s s' : NetPackState) : Decidable (SameNetwork s s') :=
  decidable_of_iff (s'.graph = s.graph ∧ s'.dib.servers = s.dib.servers ∧
      s'.dib.switches = s.dib.switches ∧ s'.dib.links = s.dib.links)
    ⟨fun h => ⟨h.1, h.2.1, h.2.2.1, h.2.2.2⟩,
      fun h => ⟨h.graph, h.servers, h.switches, h.links⟩⟩

/-- Where both links have room for the whole chain, they stay in use. -/
theorem pathsOk_twoSwitches {s : NetPackState} (h : SameNetwork twoSwitches s)
    {request : PathRequest}
    (hreserved : ∀ edge ∈ twoSwitches.graph,
      s.dib.getLinkReservedResource .simulator edge.1 edge.2 +
        request.sfc.getSFCLength * request.sfc.getSFCTrafficDemand +
          request.sfc.getSFCTrafficDemand < 10)
    (hing : request.ingSwitchID ∈ [1, 2]) (heg : request.egSwitchID ∈ [1, 2]) :
    PathsOk oneList request s [⟨7, .nfvi, 34, [3], 12, 64, 10⟩] := by
  intro _ dib' hlinks hbounds linkList hlinkList u v hu hv hne
  obtain rfl : linkList = [] := by
    refine List.eq_nil_iff_forall_not_mem.mpr fun edge hedge => ?_
    obtain ⟨info, hinfo, hnot⟩ :=
      (mem_getInsufficientBWLinks hlinkList).mp hedge
    have hinfo' : twoSwitches.dib.linkInfo .simulator edge.1 edge.2 =
        .ok info := by
      rw [linkInfo_eq_ok_iff] at hinfo ⊢
      rw [← h.links, ← hlinks]
      exact hinfo
    obtain ⟨hmem, rfl⟩ := linkInfo_twoSwitches hinfo'
    have hnot' : 10 - dib'.getLinkReservedResource .simulator edge.1 edge.2 ≤
        request.sfc.getSFCTrafficDemand := not_lt.mp (of_decide_eq_false hnot)
    have hle : dib'.getLinkReservedResource .simulator edge.1 edge.2 ≤
        s.dib.getLinkReservedResource .simulator edge.1 edge.2 +
          request.sfc.getSFCLength * request.sfc.getSFCTrafficDemand :=
      (hbounds edge.1 edge.2).2
    linarith [hreserved edge hmem]
  have hswitch : ∀ switchID, IsTerminal oneList request s.dib
      [⟨7, .nfvi, 34, [3], 12, 64, 10⟩] switchID → switchID ∈ [1, 2] := by
    rintro switchID (rfl | rfl | ⟨server, hserver, switch, hconnected, rfl⟩)
    · exact hing
    · exact heg
    · obtain rfl := List.mem_singleton.mp hserver
      have hsecond : twoSwitches.dib.getConnectedSwitch .simulator 7 =
          .ok (some ⟨2, ⟨32, 27⟩, 2000, [], [3], ⟨0, 0, 0, 0, 0⟩⟩) := by
        decide
      have hsame : s.dib.getConnectedSwitch .simulator 7 =
          twoSwitches.dib.getConnectedSwitch .simulator 7 := by
        simp only [DCNInfoBase.getConnectedSwitch, DCNInfoBase.serverInfo,
          h.servers, h.switches]
      obtain rfl := Option.some.inj
        (Except.ok.inj (hsecond.symm.trans (hsame.symm.trans hconnected)))
      decide
  have hu' := hswitch u hu
  have hv' := hswitch v hv
  simp only [List.mem_cons, List.not_mem_nil, or_false] at hu' hv'
  rw [h.graph]
  obtain rfl | rfl := hu' <;> obtain rfl | rfl := hv'
  · exact absurd rfl hne
  · exact ⟨[1, 2], rfl⟩
  · exact ⟨[2, 1], rfl⟩
  · exact absurd rfl hne

/-- The server and the links have room for a little traffic. -/
theorem requestOk_oneVNF :
    RequestOk oneList twoSwitches (oneVNF 1 (by norm_num)) := by
  intro serverSet hset serversList hlist
  obtain rfl := List.mem_singleton.mp hset
  obtain rfl := List.mem_singleton.mp hlist
  refine ⟨?_, pathsOk_twoSwitches ⟨rfl, rfl, rfl, rfl⟩ (by decide +kernel) (by decide)
    (by decide)⟩
  intro before vnfType vnfTypes hsequence demand hdemand server hserver hroom
  obtain ⟨rfl, h⟩ | ⟨_, rfl, h⟩ := List.cons_eq_append_iff.mp hsequence
  · obtain ⟨rfl, rfl⟩ := List.cons.inj h
    refine ⟨demand.add .zero, ?_, by rwa [Resources.add_zero]⟩
    exact except_bind_eq_ok_iff.mpr ⟨demand, hdemand, rfl⟩
  · simp at h

def smallChain : PathRequest where
  sfc := ⟨[1, 1], [⟨1, none, .server⟩, ⟨1, none, .server⟩], 2, none⟩
  ingSwitchID := 2
  egSwitchID := 1
  hasVNF := List.cons_ne_nil 1 [1]
  demand_nonneg := by decide

structure LeavesRoom (s : NetPackState) : Prop where
  same : SameNetwork twoSwitches s
  links : ∀ edge ∈ twoSwitches.graph,
    s.dib.getLinkReservedResource .simulator edge.1 edge.2 ≤ 2
  server : s.dib.hasEnoughServerResources .simulator 7 ⟨2, 4, 4⟩ = .ok true

instance (s : NetPackState) : Decidable (LeavesRoom s) :=
  decidable_of_iff (SameNetwork twoSwitches s ∧
      (∀ edge ∈ twoSwitches.graph,
        s.dib.getLinkReservedResource .simulator edge.1 edge.2 ≤ 2) ∧
      s.dib.hasEnoughServerResources .simulator 7 ⟨2, 4, 4⟩ = .ok true)
    ⟨fun h => ⟨h.1, h.2.1, h.2.2⟩, fun h => ⟨h.same, h.links, h.server⟩⟩

theorem requestOk_smallChain {s : NetPackState} (h : LeavesRoom s) :
    RequestOk oneList s smallChain := by
  intro serverSet hset serversList hlist
  obtain rfl := List.mem_singleton.mp hset
  obtain rfl := List.mem_singleton.mp hlist
  refine ⟨?_, pathsOk_twoSwitches h.same (fun edge hedge => ?_) (by decide)
    (by decide)⟩
  · intro before vnfType vnfTypes hsequence demand hdemand server hserver hroom
    obtain ⟨rfl, hfirst⟩ | ⟨before, rfl, hrest⟩ :=
      List.cons_eq_append_iff.mp hsequence
    · obtain ⟨rfl, rfl⟩ := List.cons.inj hfirst
      obtain rfl := List.mem_singleton.mp hserver
      exact ⟨⟨2, 4, 4⟩, by decide +kernel, h.server⟩
    · obtain ⟨rfl, hlast⟩ | ⟨_, rfl, hnone⟩ := List.cons_eq_append_iff.mp hrest
      · obtain ⟨rfl, rfl⟩ := List.cons.inj hlast
        refine ⟨demand.add .zero, ?_, by rwa [Resources.add_zero]⟩
        exact except_bind_eq_ok_iff.mpr ⟨demand, hdemand, rfl⟩
      · simp at hnone
  · have hlink := h.links edge hedge
    show _ + (2 : ℕ) * (2 : ℚ) + 2 < 10
    push_cast
    linarith

def firstTaken : NetPackState :=
  (oneList.mapRequest (oneVNF 1 (by norm_num))).finalState twoSwitches

/-- Both requests are accepted. -/
theorem withinCapacity_of_run_twoRequests :
    ∃ s, (machine oneList).Run
        [(twoSwitches, .mapRequest (oneVNF 1 (by norm_num))),
          (firstTaken, .mapRequest smallChain)] s ∧
      WithinCapacity oneList firstTaken ∧ WithinCapacity oneList s := by
  obtain ⟨path, s, hrun, hroom⟩ := exists_of_accepts (s := twoSwitches)
    (x := oneList.mapRequest (oneVNF 1 (by norm_num))) (p := LeavesRoom)
    (by decide +kernel)
  obtain ⟨path', s', hrun', -⟩ := exists_of_accepts (s := firstTaken)
    (x := oneList.mapRequest smallChain) (p := fun _ => True) (by decide +kernel)
  have hfirst : (machine oneList).Run
      [(twoSwitches, .mapRequest (oneVNF 1 (by norm_num)))] firstTaken :=
    .step (.start sound_twoSwitches) ⟨path, s, hrun⟩
  have hboth : (machine oneList).Run
      [(twoSwitches, .mapRequest (oneVNF 1 (by norm_num))),
        (firstTaken, .mapRequest smallChain)] _ :=
    .step hfirst ⟨path', s', hrun'⟩
  obtain ⟨hbefore, hlast⟩ := withinCapacity_of_run hboth (by
    simp only [List.forall_mem_cons]
    refine ⟨requestOk_oneVNF, ?_, List.forall_mem_nil _⟩
    rw [firstTaken, PyM.finalState_of_ok hrun]
    exact requestOk_smallChain hroom)
  exact ⟨_, hboth, hbefore (firstTaken, .mapRequest smallChain)
    (List.mem_cons_of_mem _ List.mem_cons_self), hlast⟩

def twoVNFs : PathRequest where
  sfc := ⟨[3, 3], [⟨3, none, .server⟩, ⟨3, none, .server⟩], 2, none⟩
  ingSwitchID := 2
  egSwitchID := 2
  hasVNF := List.cons_ne_nil 3 [3]
  demand_nonneg := by decide

/-- The server is used for the second VNF too, as it has no room for it. -/
theorem not_withinCapacity_twoVNFs :
    ∃ s, (machine oneList).Run [(twoSwitches, .mapRequest twoVNFs)] s ∧
      ¬ WithinCapacity oneList s := by
  obtain ⟨path, s', hrun, hinfo, hreserved⟩ := exists_of_accepts
    (s := twoSwitches) (x := oneList.mapRequest twoVNFs)
    (p := fun s => s.dib.serverInfo .simulator 7 =
        .ok ⟨⟨7, .nfvi, 34, [3], 12, 64, 10⟩, true⟩ ∧
      ¬ (s.dib.getServerReservedResources .simulator 7).Within ⟨12, 64, 10⟩)
    (by decide +kernel)
  have hruns : (machine oneList).Run [(twoSwitches, .mapRequest twoVNFs)] _ :=
    .step (.start sound_twoSwitches) ⟨path, s', hrun⟩
  refine ⟨_, hruns, ?_⟩
  rintro ⟨hservers, -⟩
  change ServersWithin oneList ((oneList.mapRequest twoVNFs).finalState
    twoSwitches).dib at hservers
  rw [PyM.finalState_of_ok hrun] at hservers
  exact hreserved (hservers 7 _ hinfo)

end NetPack

end SelfAdaptiveMano.Mapping

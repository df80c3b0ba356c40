import SelfAdaptiveMano.Library.Hoare
import SelfAdaptiveMano.Mapping.LayeredPaths
import SelfAdaptiveMano.Mapping.NetPack
import Mathlib.Algebra.Order.Ring.Star
import Mathlib.Data.Rat.Star

/-!
# What a rejected request leaves behind

A list of servers without room for the first VNF is left alone. Once a server is
reserved for the first VNF, it stays reserved: when there is no path for the chain,
only bandwidth is given back, and that in the wrong direction.
-/

namespace SelfAdaptiveMano.Mapping

namespace NetPack

open Library Library.PyM

variable {nP : NetPack} {request : PathRequest} {serversList : List Server}

/-! ## What the parts of a request do -/

theorem of_choice {servers : List Server} {server : Server} {s s' : NetPackState}
    (h : (nP.choice servers).run s = .ok server s') :
    server ∈ servers ∧ s'.dib = s.dib ∧ s'.graph = s.graph := by
  have hchoice : (PyM.ofExcept (nP.draws.choice s.drawn servers)).run
    { s with drawn := s.drawn + 1 } = .ok server s' := h
  cases hdraw : nP.draws.choice s.drawn servers with
  | error e =>
      rw [hdraw] at hchoice
      cases hchoice
  | ok server' =>
      rw [hdraw] at hchoice
      cases hchoice
      exact ⟨nP.draws.choice_mem hdraw, rfl, rfl⟩

def HasRoom (nP : NetPack) (dib : DCNInfoBase) (server : Server)
    (demand : Resources) : Prop :=
  dib.hasEnoughServerResources nP.zoneName server.serverID demand = .ok true

/-- What can come of the choice of a server: the last one although it has no room,
one of the list with room, or none, for want of room. -/
inductive Chosen (nP : NetPack) (dib : DCNInfoBase) (serversList : List Server)
    (last : Option Server) (demand : Resources) : Option Server → Prop where
  | kept {server : Server} : last = some server →
      ¬ HasRoom nP dib server demand →
      Chosen nP dib serversList last demand (some server)
  | found {server : Server} : server ∈ serversList →
      HasRoom nP dib server demand →
      Chosen nP dib serversList last demand (some server)
  | nobody : (∀ server ∈ serversList, ¬ HasRoom nP dib server demand) →
      Chosen nP dib serversList last demand none

theorem mem_selectValidServerList {dib : DCNInfoBase} {demand : Resources}
    {valid : List Server} {server : Server}
    (h : nP.selectValidServerList dib serversList demand = .ok valid) :
    server ∈ valid ↔ server ∈ serversList ∧ HasRoom nP dib server demand := by
  rw [mem_of_collect h]
  constructor
  · rintro ⟨server', hmem, hturn⟩
    obtain ⟨enough, henough, hturn⟩ := except_bind_eq_ok_iff.mp hturn
    cases enough with
    | false => cases hturn
    | true =>
        cases hturn
        exact ⟨hmem, henough⟩
  · rintro ⟨hmem, hroom⟩
    exact ⟨server, hmem, except_bind_eq_ok_iff.mpr ⟨true, hroom, rfl⟩⟩

theorem of_chooseServer {last r : Option Server} {demand : Resources}
    {s s' : NetPackState}
    (h : (nP.chooseServer serversList last demand).run s = .ok r s') :
    Chosen nP s.dib serversList last demand r ∧ s'.dib = s.dib ∧
      s'.graph = s.graph := by
  obtain ⟨chooses, hchooses, h⟩ := PyM.run_bind_ofExcept_eq_ok_iff.mp h
  split at h
  · obtain ⟨valid, hvalid, h⟩ := PyM.run_bind_ofExcept_eq_ok_iff.mp h
    split at h
    next hnone =>
      cases h
      refine ⟨.nobody fun server hmem hroom => ?_, rfl, rfl⟩
      have hin := (mem_selectValidServerList hvalid).mpr ⟨hmem, hroom⟩
      rw [hnone] at hin
      cases hin
    next =>
      obtain ⟨server, s₁, hchoice, h⟩ := PyM.run_bind_eq_ok_iff.mp h
      cases h
      obtain ⟨hmem, hdib, hgraph⟩ := of_choice hchoice
      obtain ⟨hlist, hroom⟩ := (mem_selectValidServerList hvalid).mp hmem
      exact ⟨.found hlist hroom, hdib, hgraph⟩
  next hno =>
    cases h
    cases last with
    | none => exact absurd (Except.ok.inj hchooses).symm hno
    | some server =>
        refine ⟨.kept rfl fun hroom => hno ?_, rfl, rfl⟩
        exact Except.ok.inj (hchooses.symm.trans hroom)

theorem of_placeAt {server : Server} {demand : Resources} {places places' : Places}
    {s s' : NetPackState}
    (h : (nP.placeAt server demand places).run s = .ok places' s') :
    s' = { s with
      dib := s.dib.reserveServerResources nP.zoneName server.serverID demand } ∧
    ∃ switch, s'.dib.getConnectedSwitch nP.zoneName server.serverID =
        .ok (some switch) ∧
      places' = ⟨some server, places.vnf2SwitchID ++ [switch.switchID],
        places.vnfi2Server ++ [server]⟩ := by
  obtain ⟨connected, hconnected, h⟩ := PyM.run_bind_ofExcept_eq_ok_iff.mp h
  cases connected with
  | none => cases h
  | some switch =>
      cases h
      exact ⟨rfl, switch, hconnected, rfl⟩

/-- Servers are not released: the attempt raises. -/
theorem releaseServers_eq_ok {trafficDemand : ℚ} {vnfTypes switchIDs : List Nat}
    {s s' : NetPackState}
    (h : (nP.releaseServers trafficDemand vnfTypes switchIDs).run s = .ok ⟨⟩ s')
    (hvnf : vnfTypes ≠ []) : switchIDs = [] ∧ s' = s := by
  obtain ⟨vnfType, vnfTypes, rfl⟩ := List.exists_cons_of_ne_nil hvnf
  cases switchIDs with
  | nil =>
      cases h
      exact ⟨rfl, rfl⟩
  | cons switchID switchIDs =>
      obtain ⟨⟨⟩, s₁, hturn, _⟩ := PyM.run_bind_eq_ok_iff.mp h
      obtain ⟨demand, -, hturn⟩ := PyM.run_bind_ofExcept_eq_ok_iff.mp hturn
      rw [PyM.run_bind_get] at hturn
      obtain ⟨dib, hdib, -⟩ := PyM.run_bind_ofExcept_eq_ok_iff.mp hturn
      cases hdib

theorem of_placeVNFs_cons {vnfType : Nat} {vnfTypes : List Nat} {places : Places}
    {r : Option Places} {s s' : NetPackState}
    (h : (nP.placeVNFs request serversList (vnfType :: vnfTypes) places).run s =
      .ok r s') :
    ∃ demand, PerformanceModel.getExpectedServerResource vnfType
        request.sfc.getSFCTrafficDemand = .ok demand ∧
      ((r = none ∧ places.vnf2SwitchID = [] ∧
          (∀ server ∈ serversList, ¬ HasRoom nP s.dib server demand) ∧
          s'.dib = s.dib ∧ s'.graph = s.graph) ∨
        ∃ server switch s₁, Chosen nP s.dib serversList places.lastServer demand
            (some server) ∧
          s₁.dib = s.dib.reserveServerResources nP.zoneName server.serverID
            demand ∧
          s₁.graph = s.graph ∧
          s₁.dib.getConnectedSwitch nP.zoneName server.serverID =
            .ok (some switch) ∧
          (nP.placeVNFs request serversList vnfTypes
            ⟨some server, places.vnf2SwitchID ++ [switch.switchID],
              places.vnfi2Server ++ [server]⟩).run s₁ = .ok r s') := by
  obtain ⟨demand, hdemand, h⟩ := PyM.run_bind_ofExcept_eq_ok_iff.mp h
  refine ⟨demand, hdemand, ?_⟩
  obtain ⟨chosen, s₁, hchosen, h⟩ := PyM.run_bind_eq_ok_iff.mp h
  obtain ⟨hchoice, hdib, hgraph⟩ := of_chooseServer hchosen
  cases chosen with
  | none =>
      obtain ⟨⟨⟩, s₂, hrelease, hnone⟩ := PyM.run_bind_eq_ok_iff.mp h
      obtain ⟨hnil, rfl⟩ := releaseServers_eq_ok hrelease request.hasVNF
      cases hnone
      cases hchoice with
      | nobody hnobody => exact Or.inl ⟨rfl, hnil, hnobody, hdib, hgraph⟩
  | some server =>
      obtain ⟨places', s₂, hplace, hrest⟩ := PyM.run_bind_eq_ok_iff.mp h
      obtain ⟨rfl, switch, hswitch, rfl⟩ := of_placeAt hplace
      exact Or.inr ⟨server, switch, { s₁ with
        dib := s₁.dib.reserveServerResources nP.zoneName server.serverID demand },
        hchoice, by rw [hdib], hgraph, hswitch, hrest⟩

theorem ne_none_of_placeVNFs {vnfTypes : List Nat} {places : Places}
    {r : Option Places} {s s' : NetPackState}
    (h : (nP.placeVNFs request serversList vnfTypes places).run s = .ok r s')
    (hplaced : places.vnf2SwitchID ≠ []) : r ≠ none := by
  induction vnfTypes generalizing places s with
  | nil =>
      cases h
      exact Option.some_ne_none places
  | cons vnfType vnfTypes ih =>
      obtain ⟨demand, -, ⟨-, hnil, -⟩ | ⟨server, switch, s₁, -, -, -, -, hrest⟩⟩ :=
        of_placeVNFs_cons h
      · exact absurd hnil hplaced
      · exact ih hrest (by simp)

theorem of_allocateBandwidth_succ {u v idx fuel : Nat} {servers : List Server}
    {bandwidth : ℚ} {paths : List LayerNode} {allocation : Allocation}
    {r : Option (List LayerNode × Allocation)} {s s' : NetPackState}
    (h : (nP.allocateBandwidth u v idx servers (fuel + 1) bandwidth paths
      allocation).run s = .ok r s') :
    (bandwidth ≤ tolerance ∧ r = some (paths, allocation) ∧ s' = s) ∨
    (tolerance < bandwidth ∧ ∃ linkList,
      nP.getInsufficientBWLinks s.dib bandwidth = .ok linkList ∧
      ((nP.search.bidirectionalShortestPath (removeEdgesFrom s.graph linkList)
          u v = none ∧ r = none ∧
        s' = nP.releaseBWFromRecordList allocation.bandwidthReservationRecordList
          { s with graph := removeEdgesFrom s.graph linkList }) ∨
      ∃ segPath minBW, nP.search.bidirectionalShortestPath
          (removeEdgesFrom s.graph linkList) u v = some segPath ∧
        nP.minBandwidth s.dib bandwidth segPath = .ok minBW ∧
        (nP.allocateBandwidth u v idx servers fuel (bandwidth - minBW)
          (trans2CompatibleFormat (addServers servers idx segPath) idx)
          { allocation with
            bandwidthReservationRecordList :=
              allocation.bandwidthReservationRecordList ++
                (edges segPath).map fun edge => (edge, minBW)
            linkList }).run ((edges segPath).foldl
              (fun s edge => nP.reserveEdge minBW edge s)
              { s with graph := removeEdgesFrom s.graph linkList }) =
          .ok r s')) := by
  rw [allocateBandwidth] at h
  split at h
  next hdone =>
    cases h
    exact Or.inl ⟨hdone, rfl, rfl⟩
  next hmore =>
    rw [PyM.run_bind_get] at h
    obtain ⟨linkList, hlinkList, h⟩ := PyM.run_bind_ofExcept_eq_ok_iff.mp h
    refine Or.inr ⟨lt_of_not_ge hmore, linkList, hlinkList, ?_⟩
    obtain ⟨⟨⟩, s₁, hset, h⟩ := PyM.run_bind_eq_ok_iff.mp h
    cases hset
    split at h
    next hnone =>
      cases h
      exact Or.inl ⟨hnone, rfl, rfl⟩
    next segPath hsegPath =>
      obtain ⟨minBW, hminBW, h⟩ := PyM.run_bind_ofExcept_eq_ok_iff.mp h
      obtain ⟨⟨⟩, s₂, hmodify, h⟩ := PyM.run_bind_eq_ok_iff.mp h
      cases hmodify
      exact Or.inr ⟨segPath, minBW, hsegPath, hminBW, h⟩

/-- Without a path there is bandwidth to reserve. -/
theorem lt_of_allocateSegments {trafficDemand : ℚ} {servers : List Server}
    {idx : Nat} {switchIDs : List Nat} {allocation : Allocation}
    {s s' : NetPackState}
    (h : (nP.allocateSegments trafficDemand servers idx switchIDs
      allocation).run s = .ok none s') : tolerance < trafficDemand := by
  induction switchIDs generalizing idx allocation s with
  | nil => cases h
  | cons u switchIDs ih =>
      cases switchIDs with
      | nil => cases h
      | cons v switchIDs =>
          obtain ⟨allocation', s₁, hsegment, h⟩ := PyM.run_bind_eq_ok_iff.mp h
          cases allocation' with
          | some allocation' => exact ih h
          | none =>
              rw [allocateSegment] at hsegment
              split at hsegment
              · cases hsegment
              · obtain ⟨paths, s₂, hpaths, hsegment⟩ :=
                  PyM.run_bind_eq_ok_iff.mp hsegment
                cases paths with
                | some paths => cases hsegment
                | none =>
                    cases hfuel : nP.fuel with
                    | zero =>
                        rw [hfuel] at hpaths
                        cases hpaths
                    | succ fuel =>
                        rw [hfuel] at hpaths
                        obtain ⟨-, hsome, -⟩ | ⟨hlt, -⟩ :=
                          of_allocateBandwidth_succ hpaths
                        · cases hsome
                        · exact hlt

section Keeps

variable {P : DCNInfoBase → Prop}

/-- The loop over the VNFs only reserves resources of servers. -/
theorem keeps_placeVNFs
    (hP : ∀ dib serverID vnfType demand,
      PerformanceModel.getExpectedServerResource vnfType
        request.sfc.getSFCTrafficDemand = .ok demand →
      P dib → P (dib.reserveServerResources nP.zoneName serverID demand))
    {vnfTypes : List Nat} {places : Places} {r : Option Places}
    {s s' : NetPackState}
    (h : (nP.placeVNFs request serversList vnfTypes places).run s = .ok r s')
    (hs : P s.dib) : P s'.dib := by
  induction vnfTypes generalizing places s with
  | nil =>
      cases h
      exact hs
  | cons vnfType vnfTypes ih =>
      obtain ⟨demand, hdemand, ⟨-, -, -, hdib, -⟩ |
        ⟨server, switch, s₁, -, hdib, -, -, hrest⟩⟩ := of_placeVNFs_cons h
      · exact hdib ▸ hs
      · exact ih hrest (hdib ▸ hP _ _ _ _ hdemand hs)

variable (hP : ∀ dib srcID dstID bandwidth, P dib →
  P (dib.reserveLinkResource nP.zoneName srcID dstID bandwidth))

include hP

theorem keeps_reserveEdges {minBW : ℚ} (l : List (Nat × Nat)) {s : NetPackState}
    (hs : P s.dib) :
    P (l.foldl (fun s edge => nP.reserveEdge minBW edge s) s).dib := by
  induction l generalizing s with
  | nil => exact hs
  | cons edge l ih => exact ih (hP _ _ _ _ hs)

theorem keeps_releaseBWFromRecordList (records : List ((Nat × Nat) × ℚ))
    {s : NetPackState} (hs : P s.dib) :
    P (nP.releaseBWFromRecordList records s).dib := by
  rw [releaseBWFromRecordList]
  induction records generalizing s with
  | nil => exact hs
  | cons record records ih => exact ih (hP _ _ _ _ hs)

/-- The paths only reserve resources of links. -/
theorem keeps_allocateBandwidth {u v idx fuel : Nat} {servers : List Server}
    {bandwidth : ℚ} {paths : List LayerNode} {allocation : Allocation}
    {r : Option (List LayerNode × Allocation)} {s s' : NetPackState}
    (h : (nP.allocateBandwidth u v idx servers fuel bandwidth paths
      allocation).run s = .ok r s') (hs : P s.dib) : P s'.dib := by
  induction fuel generalizing bandwidth paths allocation s with
  | zero => cases h
  | succ fuel ih =>
      obtain ⟨-, -, rfl⟩ | ⟨-, linkList, -, ⟨-, -, rfl⟩ |
        ⟨segPath, minBW, -, -, hrest⟩⟩ := of_allocateBandwidth_succ h
      · exact hs
      · exact keeps_releaseBWFromRecordList hP _ hs
      · exact ih hrest (keeps_reserveEdges hP _ hs)

theorem keeps_allocateSegments {trafficDemand : ℚ} {servers : List Server}
    {idx : Nat} {switchIDs : List Nat} {allocation : Allocation}
    {r : Option Allocation} {s s' : NetPackState}
    (h : (nP.allocateSegments trafficDemand servers idx switchIDs
      allocation).run s = .ok r s') (hs : P s.dib) : P s'.dib := by
  induction switchIDs generalizing idx allocation s with
  | nil =>
      cases h
      exact hs
  | cons u switchIDs ih =>
      cases switchIDs with
      | nil =>
          cases h
          exact hs
      | cons v switchIDs =>
          obtain ⟨allocation', s₁, hsegment, h⟩ := PyM.run_bind_eq_ok_iff.mp h
          have hs₁ : P s₁.dib := by
            rw [allocateSegment] at hsegment
            split at hsegment
            · cases hsegment
              exact hs
            · obtain ⟨paths, s₂, hpaths, hsegment⟩ :=
                PyM.run_bind_eq_ok_iff.mp hsegment
              have hs₂ := keeps_allocateBandwidth hP hpaths hs
              cases paths with
              | none =>
                  cases hsegment
                  exact hs₂
              | some paths =>
                  cases hsegment
                  exact hs₂
          cases allocation' with
          | none =>
              cases h
              exact hs₁
          | some allocation' => exact ih h hs₁

theorem keeps_allocatePaths {places : Places} {r : Option ForwardingPath}
    {s s' : NetPackState}
    (h : (nP.allocatePaths request places).run s = .ok r s') (hs : P s.dib) :
    P s'.dib := by
  obtain ⟨allocation, s₁, hallocation, h⟩ := PyM.run_bind_eq_ok_iff.mp h
  have hs₁ := keeps_allocateSegments hP hallocation hs
  cases allocation with
  | none =>
      cases h
      exact hs₁
  | some allocation =>
      cases h
      exact hs₁

end Keeps

/-! ## Rejected requests -/

def serverBandwidth (nP : NetPack) (s : NetPackState) (serverID : Nat) : ℚ :=
  (s.dib.getServerReservedResources nP.zoneName serverID).bandwidth

def HasServer (nP : NetPack) (request : PathRequest) (dib : DCNInfoBase)
    (serversList : List Server) : Prop :=
  ∃ vnfType demand, request.sfc.vNFTypeSequence.head? = some vnfType ∧
    PerformanceModel.getExpectedServerResource vnfType
      request.sfc.getSFCTrafficDemand = .ok demand ∧
    ∃ server ∈ serversList, HasRoom nP dib server demand

theorem bandwidth_of_getExpectedServerResource {vnfType : Nat} {trafficDemand : ℚ}
    {demand : Resources}
    (h : PerformanceModel.getExpectedServerResource vnfType trafficDemand =
      .ok demand) : demand.bandwidth = trafficDemand := by
  obtain ⟨ratio, -, h⟩ := except_bind_eq_ok_iff.mp h
  cases h
  rfl

theorem bandwidth_reserve (dib : DCNInfoBase) (zoneName : Zone)
    (serverID serverID' : Nat) (demand : Resources) :
    ((dib.reserveServerResources zoneName serverID
      demand).getServerReservedResources zoneName serverID').bandwidth =
      (dib.getServerReservedResources zoneName serverID').bandwidth +
        if serverID' = serverID then demand.bandwidth else 0 := by
  rw [DCNInfoBase.getServerReservedResources_reserve]
  by_cases h : serverID' = serverID
  · simp [h]
  · simp [h]

theorem le_of_placeVNFs {vnfTypes : List Nat} {places : Places}
    {r : Option Places} {s s' : NetPackState} {bound : ℚ} {serverID : Nat}
    (h : (nP.placeVNFs request serversList vnfTypes places).run s = .ok r s')
    (hbound : bound ≤ serverBandwidth nP s serverID) :
    bound ≤ serverBandwidth nP s' serverID := by
  apply keeps_placeVNFs (P := fun dib => bound ≤
    (dib.getServerReservedResources nP.zoneName serverID).bandwidth) _ h hbound
  intro dib serverID' vnfType demand hdemand hdib
  rw [bandwidth_reserve, bandwidth_of_getExpectedServerResource hdemand]
  have hnonneg := request.demand_nonneg
  split <;> linarith

theorem le_of_allocatePaths {places : Places} {r : Option ForwardingPath}
    {s s' : NetPackState} {bound : ℚ} {serverID : Nat}
    (h : (nP.allocatePaths request places).run s = .ok r s')
    (hbound : bound ≤ serverBandwidth nP s serverID) :
    bound ≤ serverBandwidth nP s' serverID :=
  keeps_allocatePaths (P := fun dib => bound ≤
    (dib.getServerReservedResources nP.zoneName serverID).bandwidth)
    (fun _ _ _ _ hdib => hdib) h hbound

theorem le_of_mapToServers {r : Option ForwardingPath} {s s' : NetPackState}
    {bound : ℚ} {serverID : Nat}
    (h : (nP.mapToServers request serversList).run s = .ok r s')
    (hbound : bound ≤ serverBandwidth nP s serverID) :
    bound ≤ serverBandwidth nP s' serverID := by
  obtain ⟨places, s₁, hplaces, h⟩ := PyM.run_bind_eq_ok_iff.mp h
  have hs₁ := le_of_placeVNFs hplaces hbound
  cases places with
  | none =>
      cases h
      exact hs₁
  | some places => exact le_of_allocatePaths h hs₁

/-- Without room for the first VNF, nothing happens. -/
theorem of_mapToServers_of_not_hasServer {r : Option ForwardingPath}
    {s s' : NetPackState}
    (h : (nP.mapToServers request serversList).run s = .ok r s')
    (hno : ¬ HasServer nP request s.dib serversList) :
    r = none ∧ s'.dib = s.dib ∧ s'.graph = s.graph := by
  obtain ⟨places, s₁, hplaces, h⟩ := PyM.run_bind_eq_ok_iff.mp h
  obtain ⟨vnfType, vnfTypes, hvnf⟩ := List.exists_cons_of_ne_nil request.hasVNF
  rw [hvnf] at hplaces
  obtain ⟨demand, hdemand, ⟨rfl, -, -, hdib, hgraph⟩ |
    ⟨server, switch, s₂, hchosen, -⟩⟩ := of_placeVNFs_cons hplaces
  · cases h
    exact ⟨rfl, hdib, hgraph⟩
  · have hhead : request.sfc.vNFTypeSequence.head? = some vnfType := by rw [hvnf]; rfl
    cases hchosen with
    | kept hlast => cases hlast
    | found hmem hroom =>
        exact absurd ⟨vnfType, demand, hhead, hdemand, server, hmem, hroom⟩ hno

theorem of_placeVNFs_of_hasServer {r : Option Places} {s s' : NetPackState}
    (h : (nP.placeVNFs request serversList request.sfc.vNFTypeSequence
      ⟨none, [], []⟩).run s = .ok r s')
    (hserver : HasServer nP request s.dib serversList) :
    r ≠ none ∧ ∃ serverID, serverBandwidth nP s serverID +
      request.sfc.getSFCTrafficDemand ≤ serverBandwidth nP s' serverID := by
  obtain ⟨vnfType, demand, hhead, hdemand, server', hmem', hroom'⟩ := hserver
  obtain ⟨vnfTypes, hvnf⟩ := List.head?_eq_some_iff.mp hhead
  rw [hvnf] at h
  obtain ⟨demand', hdemand', ⟨-, -, hnobody, -⟩ |
    ⟨server, switch, s₁, -, hdib, -, -, hrest⟩⟩ := of_placeVNFs_cons h
  · obtain rfl := Except.ok.inj (hdemand.symm.trans hdemand')
    exact absurd hroom' (hnobody server' hmem')
  · refine ⟨ne_none_of_placeVNFs hrest (by simp), server.serverID,
      le_of_placeVNFs hrest (le_of_eq ?_)⟩
    rw [serverBandwidth, serverBandwidth, hdib, bandwidth_reserve, if_pos rfl,
      bandwidth_of_getExpectedServerResource hdemand']

/-- With room for the first VNF, the request is accepted or a server stays
reserved. -/
theorem lt_of_mapToServers_of_hasServer {s s' : NetPackState}
    (h : (nP.mapToServers request serversList).run s = .ok none s')
    (hserver : HasServer nP request s.dib serversList) :
    ∃ serverID, serverBandwidth nP s serverID < serverBandwidth nP s' serverID := by
  obtain ⟨places, s₁, hplaces, h⟩ := PyM.run_bind_eq_ok_iff.mp h
  obtain ⟨hplaced, serverID, hle⟩ := of_placeVNFs_of_hasServer hplaces hserver
  cases places with
  | none => exact absurd rfl hplaced
  | some places =>
      have hlt : 0 < request.sfc.getSFCTrafficDemand := by
        obtain ⟨allocation, s₂, hallocation, h⟩ := PyM.run_bind_eq_ok_iff.mp h
        cases allocation with
        | some allocation => cases h
        | none =>
            have hlt := lt_of_allocateSegments hallocation
            rw [tolerance] at hlt
            linarith
      refine ⟨serverID, ?_⟩
      calc serverBandwidth nP s serverID
          < serverBandwidth nP s serverID + request.sfc.getSFCTrafficDemand :=
            lt_add_of_pos_right _ hlt
        _ ≤ serverBandwidth nP s₁ serverID := hle
        _ ≤ serverBandwidth nP s' serverID := le_of_allocatePaths h le_rfl

section Runs

variable {s : NetPackState}

/-- The state is as before, but for the number of draws. -/
def SameAs (s s' : NetPackState) : Prop := s'.dib = s.dib ∧ s'.graph = s.graph

/-- Of some server more is reserved than before. -/
def Grown (nP : NetPack) (s s' : NetPackState) : Prop :=
  ∃ serverID, serverBandwidth nP s serverID < serverBandwidth nP s' serverID

/-- What a loop of the mapping does: without a server it finds nothing and leaves
all as it is; with one, the request is accepted or a server stays reserved. -/
def Outcome (nP : NetPack) (s : NetPackState) (hasServer : Prop)
    (r : Option ForwardingPath) (s' : NetPackState) : Prop :=
  (¬ hasServer → r = none ∧ SameAs s s') ∧ (hasServer → r = none → Grown nP s s')

theorem grown_mapToServers :
    Meets (Grown nP s) (nP.mapToServers request serversList)
      (fun r s' => r = none → Grown nP s s') fun _ => True := by
  apply Meets.of_run
  rintro s₁ r s₂ ⟨serverID, hlt⟩ hrun _
  exact ⟨serverID, hlt.trans_le (le_of_mapToServers hrun le_rfl)⟩

theorem outcome_findSomeM? {α : Type} {l : List α} {hasServer : α → Prop}
    {f : α → PyM NetPackState (Option ForwardingPath)}
    (h : ∀ a ∈ l, Meets (SameAs s) (f a) (Outcome nP s (hasServer a))
      fun _ => True)
    (hgrown : ∀ a ∈ l, Meets (Grown nP s) (f a)
      (fun r s' => r = none → Grown nP s s') fun _ => True) :
    Meets (SameAs s) (l.findSomeM? f) (Outcome nP s (∃ a ∈ l, hasServer a))
      fun _ => True := by
  apply Meets.findSomeM?_of_acts
  · intro a ha hno
    exact (h a ha).conseq (fun _ h => h) (fun _ _ h => h.1 hno) fun _ h => h
  · intro a ha hserver
    exact (h a ha).conseq (fun _ h => h) (fun _ _ h => h.2 hserver) fun _ h => h
  · exact hgrown

theorem grown_findSomeM? {α : Type} {l : List α}
    {f : α → PyM NetPackState (Option ForwardingPath)}
    (hgrown : ∀ a ∈ l, Meets (Grown nP s) (f a)
      (fun r s' => r = none → Grown nP s s') fun _ => True) :
    Meets (Grown nP s) (l.findSomeM? f) (fun r s' => r = none → Grown nP s s')
      fun _ => True := by
  have hloop : Meets (Grown nP s) (l.findSomeM? f)
      (fun r s' => (r = none → Grown nP s s') ∧ ∀ path, r = some path → True)
      fun _ => True :=
    Meets.findSomeM? fun a ha => (hgrown a ha).conseq (fun _ h => h)
      (fun _ _ h => ⟨h, fun _ _ => trivial⟩) fun _ h => h
  exact hloop.conseq (fun _ h => h) (fun _ _ h => h.1) fun _ h => h

theorem outcome_mapToServers (serversList : List Server) :
    Meets (SameAs s) (nP.mapToServers request serversList)
      (Outcome nP s (HasServer nP request s.dib serversList)) fun _ => True := by
  apply Meets.of_run
  rintro s₁ r s₂ ⟨hdib, hgraph⟩ hrun
  rw [← hdib]
  constructor
  · intro hno
    obtain ⟨hnone, hdib', hgraph'⟩ := of_mapToServers_of_not_hasServer hrun hno
    exact ⟨hnone, hdib'.trans hdib, hgraph'.trans hgraph⟩
  · rintro hserver rfl
    obtain ⟨serverID, hlt⟩ := lt_of_mapToServers_of_hasServer hrun hserver
    refine ⟨serverID, ?_⟩
    rw [serverBandwidth, hdib] at hlt
    exact hlt

theorem of_shuffle {serverSet serverSet' : List (List Server)}
    {s₁ s₂ : NetPackState}
    (h : (nP.shuffle serverSet).run s₁ = .ok serverSet' s₂) :
    serverSet'.Perm serverSet ∧ s₂.dib = s₁.dib ∧ s₂.graph = s₁.graph := by
  cases h
  exact ⟨nP.draws.shuffle_perm _ _, rfl, rfl⟩

theorem grown_attempt (serverSet : List (List Server)) :
    Meets (Grown nP s) (nP.shuffle serverSet >>= fun serverSet =>
      serverSet.findSomeM? (nP.mapToServers request))
      (fun r s' => r = none → Grown nP s s') fun _ => True := by
  refine Meets.bind (Q := fun _ => Grown nP s) ?_ fun serverSet' =>
    grown_findSomeM? fun _ _ => grown_mapToServers
  apply Meets.of_run
  rintro s₁ serverSet' s₂ ⟨serverID, hlt⟩ hrun
  refine ⟨serverID, ?_⟩
  have hdib := (of_shuffle hrun).2.1
  rw [serverBandwidth, serverBandwidth] at hlt ⊢
  rw [hdib]
  exact hlt

theorem outcome_attempt (serverSet : List (List Server)) :
    Meets (SameAs s) (nP.shuffle serverSet >>= fun serverSet =>
      serverSet.findSomeM? (nP.mapToServers request))
      (Outcome nP s (∃ serversList ∈ serverSet,
        HasServer nP request s.dib serversList)) fun _ => True := by
  refine Meets.bind (Q := fun serverSet' s' =>
    serverSet'.Perm serverSet ∧ SameAs s s') ?_ fun serverSet' => ?_
  · apply Meets.of_run
    rintro s₁ serverSet' s₂ ⟨hdib, hgraph⟩ hrun
    obtain ⟨hperm, hdib', hgraph'⟩ := of_shuffle hrun
    exact ⟨hperm, hdib'.trans hdib, hgraph'.trans hgraph⟩
  · rintro s₁ ⟨hperm, hs₁⟩
    have hloop : Meets (SameAs s) (serverSet'.findSomeM? (nP.mapToServers request))
        (Outcome nP s (∃ serversList ∈ serverSet',
          HasServer nP request s.dib serversList)) fun _ => True :=
      outcome_findSomeM? (fun serversList _ => outcome_mapToServers serversList)
        fun _ _ => grown_mapToServers
    simp only [hperm.mem_iff] at hloop
    exact hloop s₁ hs₁

theorem outcome_mapPrimaryPath (serverSet : List (List Server)) :
    Meets (SameAs s) (nP.mapPrimaryPath request serverSet)
      (Outcome nP s (∃ serversList ∈ serverSet,
        HasServer nP request s.dib serversList)) fun _ => True := by
  have hloop : Meets (SameAs s) (nP.mapPrimaryPath request serverSet)
      (Outcome nP s (∃ _attempt ∈ List.range maxAttempts,
        ∃ serversList ∈ serverSet, HasServer nP request s.dib serversList))
      fun _ => True :=
    outcome_findSomeM? (fun _ _ => outcome_attempt serverSet)
      fun _ _ => grown_attempt serverSet
  simpa [maxAttempts] using hloop

theorem outcome_mapRequest :
    Meets (SameAs s) (nP.mapRequest request)
      (Outcome nP s (∃ serverSet ∈ nP.serverSets, ∃ serversList ∈ serverSet,
        HasServer nP request s.dib serversList)) fun _ => True :=
  outcome_findSomeM? (fun serverSet _ => outcome_mapPrimaryPath serverSet)
    fun serverSet _ => grown_findSomeM? fun _ _ => grown_attempt serverSet

end Runs

/-- The servers, the links and the working graph are as before. -/
def Unchanged (nP : NetPack) (s s' : NetPackState) : Prop :=
  (∀ serverID, s'.dib.getServerReservedResources nP.zoneName serverID =
    s.dib.getServerReservedResources nP.zoneName serverID) ∧
  (∀ srcID dstID, s'.dib.getLinkReservedResource nP.zoneName srcID dstID =
    s.dib.getLinkReservedResource nP.zoneName srcID dstID) ∧
  s'.graph = s.graph

/-- A rejected request changes nothing exactly when no list has a server with room
for its first VNF. -/
theorem unchanged_of_rejected_iff {s s' : NetPackState}
    (h : (nP.mapRequest request).run s = .ok none s') :
    Unchanged nP s s' ↔ ¬ ∃ serverSet ∈ nP.serverSets, ∃ serversList ∈ serverSet,
      HasServer nP request s.dib serversList := by
  have houtcome := outcome_mapRequest.of_run_ok ⟨rfl, rfl⟩ h
  constructor
  · rintro ⟨hservers, -, -⟩ hserver
    obtain ⟨serverID, hlt⟩ := houtcome.2 hserver rfl
    rw [serverBandwidth, serverBandwidth, hservers] at hlt
    exact lt_irrefl _ hlt
  · intro hno
    obtain ⟨-, hdib, hgraph⟩ := houtcome.1 hno
    rw [Unchanged, hdib]
    exact ⟨fun _ => rfl, fun _ _ => rfl, hgraph⟩

def directSearch : PathSearch where
  bidirectionalShortestPath graph u v :=
    if u ≠ v ∧ (u, v) ∈ graph then some [u, v] else none
  path_spec h := by
    obtain ⟨⟨hne, hedge⟩, hpath⟩ := Option.ite_none_right_eq_some.mp h
    obtain rfl := Option.some.inj hpath
    exact ⟨by simpa using hedge, rfl, rfl, by simpa using hne⟩

def firstDraws : Draws where
  shuffle _ serverSet := serverSet
  shuffle_perm _ _ := .rfl
  choice _ servers := itemAt servers 0
  choice_mem h := List.mem_of_getElem? (itemAt_eq_ok_iff.mp h)

def oneList : NetPack where
  topoType := .fatTree
  podNum := 4
  minPodIdx := 0
  maxPodIdx := 3
  zoneName := .simulator
  serverSets := [[[⟨7, .nfvi, 34, [3], 12, 64, 10⟩]]]
  draws := firstDraws
  search := directSearch
  fuel := 2
  podNum_pos := by decide

def oneVNF (throughput : ℚ) (h : 0 ≤ throughput) : PathRequest where
  sfc := ⟨[1], [⟨1, none, .server⟩], throughput, none⟩
  ingSwitchID := 1
  egSwitchID := 2
  hasVNF := List.cons_ne_nil 1 []
  demand_nonneg := h

def twoSwitches : NetPackState :=
  ⟨MultiLayerGraph.twoSwitches, [(1, 2), (2, 1)], 0⟩

theorem exists_of_rejects {x : PyM NetPackState (Option ForwardingPath)}
    {s : NetPackState} (h : (match x.run s with
      | .ok none _ => true
      | _ => false) = true) : ∃ s', x.run s = .ok none s' := by
  split at h
  next s' hrun => exact ⟨s', hrun⟩
  next => cases h

/-- The server cannot take the traffic. -/
theorem unchanged_of_rejected_iff_tooMuch :
    ∃ s', (oneList.mapRequest (oneVNF 11 (by norm_num))).run twoSwitches =
      .ok none s' ∧ Unchanged oneList twoSwitches s' := by
  obtain ⟨s', hrun⟩ := exists_of_rejects (s := twoSwitches)
    (x := oneList.mapRequest (oneVNF 11 (by norm_num))) (by decide +kernel)
  refine ⟨s', hrun, (unchanged_of_rejected_iff hrun).mpr ?_⟩
  rintro ⟨serverSet, hset, serversList, hlist, vnfType, demand, hhead, hdemand,
    server, hserver, hroom⟩
  obtain rfl := List.mem_singleton.mp hset
  obtain rfl := List.mem_singleton.mp hlist
  obtain rfl := List.mem_singleton.mp hserver
  obtain rfl := Option.some.inj hhead
  have hdemand' : PerformanceModel.getExpectedServerResource 1 11 =
      .ok ⟨1, 11, 11⟩ := by
    decide +kernel
  obtain rfl := Except.ok.inj (hdemand'.symm.trans hdemand)
  have hno : MultiLayerGraph.twoSwitches.hasEnoughServerResources .simulator 7
      ⟨1, 11, 11⟩ = .ok false := by
    decide +kernel
  cases hno.symm.trans hroom

/-- The server can take the traffic, but the link to it cannot. -/
theorem not_unchanged_fullLink :
    ∃ s', (oneList.mapRequest (oneVNF 10 (by norm_num))).run twoSwitches =
      .ok none s' ∧ ¬ Unchanged oneList twoSwitches s' := by
  obtain ⟨s', hrun⟩ := exists_of_rejects (s := twoSwitches)
    (x := oneList.mapRequest (oneVNF 10 (by norm_num))) (by decide +kernel)
  have hroom : MultiLayerGraph.twoSwitches.hasEnoughServerResources .simulator 7
      ⟨1, 10, 10⟩ = .ok true := by
    decide +kernel
  refine ⟨s', hrun, ?_⟩
  rintro ⟨hservers, -, -⟩
  obtain ⟨serverID, hlt⟩ := (outcome_mapRequest.of_run_ok ⟨rfl, rfl⟩ hrun).2
    ⟨_, List.mem_singleton_self _, _, List.mem_singleton_self _, 1, ⟨1, 10, 10⟩, rfl,
      by decide +kernel, _, List.mem_singleton_self _, hroom⟩ rfl
  rw [serverBandwidth, serverBandwidth, hservers] at hlt
  exact lt_irrefl _ hlt

end NetPack

end SelfAdaptiveMano.Mapping

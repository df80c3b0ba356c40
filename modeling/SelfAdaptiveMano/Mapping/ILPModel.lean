import SelfAdaptiveMano.Mapping.ChainFlow
import SelfAdaptiveMano.Mapping.LayeredPaths
import SelfAdaptiveMano.Mapping.NetPack
import SelfAdaptiveMano.Mapping.Reservations
import Mathlib.Algebra.Order.BigOperators.Group.Finset
import Mathlib.Algebra.BigOperators.Fin
import Mathlib.Data.List.GetD

/-!
# The ILP of NetSolver

`ILPModel` places all requests of a zone at once. The variables of the links are
continuous and those of the places are binary; besides the constraints of each chain
there is one for the cores at each switch and one for the bandwidth of each link.

What an assignment says is a placement of all requests with routes along the links that
carry some of a stage (`placement_of_feasible`), and the assignments that split no stage
are the placements within the capacities (`exists_unsplit_iff`).
-/

namespace SelfAdaptiveMano.Mapping

open Library LinearPrograms Library.Flows ShortestPaths

/-! ## Reading the information base -/

def fillDict {κ ν : Type} [DecidableEq κ] (f : κ → Except PyError ν) (keys : List κ) :
    Except PyError (Dict κ ν) :=
  keys.foldlM (fun d k => do return d.set k (← f k)) .empty

theorem fillDict_spec {κ ν : Type} [DecidableEq κ] {f : κ → Except PyError ν}
    {keys : List κ} {d : Dict κ ν} (h : fillDict f keys = .ok d) :
    (∀ k, k ∈ d.keys ↔ k ∈ keys) ∧ ∀ k v, d.get? k = some v → f k = .ok v := by
  suffices hgen : ∀ start d : Dict κ ν,
      keys.foldlM (fun d k => do return d.set k (← f k)) start = .ok d →
        (∀ k, k ∈ d.keys ↔ k ∈ start.keys ∨ k ∈ keys) ∧
        ((∀ k v, start.get? k = some v → f k = .ok v) →
          ∀ k v, d.get? k = some v → f k = .ok v) by
    obtain ⟨hkeys, hvalues⟩ := hgen .empty d h
    refine ⟨fun k => (hkeys k).trans ?_, hvalues fun k v hk => ?_⟩
    · simp [Dict.keys]
    · rw [Dict.get?_empty] at hk
      cases hk
  clear h d
  induction keys with
  | nil =>
      intro start d h
      obtain rfl := Except.ok.inj h
      exact ⟨fun k => by simp, id⟩
  | cons key keys ih =>
      intro start d h
      rw [List.foldlM_cons, except_bind_eq_ok_iff] at h
      obtain ⟨d', hd', h⟩ := h
      obtain ⟨w, hw, hset⟩ := except_bind_eq_ok_iff.mp hd'
      obtain rfl := Except.ok.inj hset
      obtain ⟨hkeys, hvalues⟩ := ih _ _ h
      refine ⟨fun k => ?_, fun hstart => hvalues fun k v hk => ?_⟩
      · rw [hkeys, Dict.mem_keys_set, List.mem_cons]
        tauto
      · rw [Dict.get?_set] at hk
        split at hk
        · next heq =>
            obtain rfl := Option.some.inj hk
            rw [heq]
            exact hw
        · exact hstart k v hk

def DCNInfoBase.getNPoPServersCapacity (dib : DCNInfoBase) (zoneName : Zone)
    (switchID : Nat) : Except PyError ℚ :=
  match dib.servers.get? zoneName with
  | none => .error .keyError
  | some servers => do
      let switch := (← dib.switchInfo zoneName switchID).switch
      return ((servers.items.filter fun item =>
        isServerConnectSwitch switch item.2.server &&
          item.2.server.serverType != .classifier).map fun item =>
            ((capacity item.2.server).sub
              (dib.getServerReservedResources zoneName item.1)).cores).sum

structure MappingRequest where
  sfc : SFC
  ingressID : Nat
  egressID : Nat

section Generation

variable (dib : DCNInfoBase) (zoneName : Zone)

def getSwitchID4Server (serverID : Nat) : Except PyError Nat := do
  match ← dib.getConnectedSwitch zoneName serverID with
  | some switch => return switch.switchID
  | none => throw .attributeError

def getIngSwitchID4Request (request : MappingRequest) : Except PyError Nat :=
  getSwitchID4Server dib zoneName request.ingressID

def getEgSwitchID4Request (request : MappingRequest) : Except PyError Nat :=
  getSwitchID4Server dib zoneName request.egressID

/-- The random choice, but for the testbed. -/
def randomSelectACoreSwitch (topoType : TopoType) (choice : Nat) : Nat :=
  match topoType with
  | .fatTree => choice
  | .testbedSw1 => 1

/-- The switches at the ends of a request; where one of the ends has none, both are
chosen among the core switches. -/
def genRequestIngAndEg (topoType : TopoType) (choice : Nat × Nat)
    (request : MappingRequest) : Nat × Nat :=
  match getIngSwitchID4Request dib zoneName request,
    getEgSwitchID4Request dib zoneName request with
  | .ok ingSwitchID, .ok egSwitchID => (ingSwitchID, egSwitchID)
  | _, _ => (randomSelectACoreSwitch topoType choice.1,
      randomSelectACoreSwitch topoType choice.2)

def genPhysicalLink : Except PyError (Dict (Nat × Nat) ℚ) :=
  match dib.links.get? zoneName with
  | none => .error .keyError
  | some links =>
      fillDict (fun key => dib.getLinkResidualResource zoneName key.1 key.2)
        (links.keys.filter fun key => !(dib.isServerID key.1 || dib.isServerID key.2))

/-- The switches with their capacities. The solver's library cannot take an empty
dictionary apart. -/
def genSwitch : Except PyError (Dict Nat ℚ) :=
  match dib.switches.get? zoneName with
  | none => .error .keyError
  | some switches =>
      if switches.keys = [] then .error (.valueError "not enough values to unpack")
      else fillDict (dib.getNPoPServersCapacity zoneName) switches.keys

def genVNFResConsume (sfc : SFC) : Except PyError (List ℚ) :=
  sfc.vNFTypeSequence.mapM fun vnfType => do
    return (← PerformanceModel.getExpectedServerResource vnfType
      sfc.getSFCTrafficDemand).cores

/-- What `getSwitch(switchID).supportVNF` is. -/
def supportVNF (switchID : Nat) : List Nat :=
  match dib.switchInfo zoneName switchID with
  | .ok info => info.switch.supportVNF
  | .error _ => []

end Generation

/-- The switches are known by their numbers, and the links that end at no server are
between them. -/
structure DCNInfoBase.Registered (dib : DCNInfoBase) (zoneName : Zone)
    (switches : Dict Nat SwitchInfo) : Prop where
  zone : dib.switches.get? zoneName = some switches
  switchID : ∀ switchID info, switches.get? switchID = some info →
    info.switch.switchID = switchID
  links : ∀ links, dib.links.get? zoneName = some links → ∀ key ∈ links.keys,
    dib.isServerID key.1 = false → dib.isServerID key.2 = false →
      key.1 ∈ switches.keys ∧ key.2 ∈ switches.keys

theorem mem_keys_of_getSwitchID4Server {dib : DCNInfoBase} {zoneName : Zone}
    {switches : Dict Nat SwitchInfo} (hdib : dib.Registered zoneName switches)
    {serverID switchID : Nat}
    (h : getSwitchID4Server dib zoneName serverID = .ok switchID) :
    switchID ∈ switches.keys := by
  obtain ⟨switch?, hswitch, h⟩ := except_bind_eq_ok_iff.mp h
  cases switch? with
  | none => cases h
  | some switch =>
      obtain rfl := Except.ok.inj h
      rw [DCNInfoBase.getConnectedSwitch, hdib.zone] at hswitch
      simp only at hswitch
      split at hswitch
      · cases hswitch
      · obtain ⟨info, -, hfind⟩ := except_bind_eq_ok_iff.mp hswitch
        have hmem := List.mem_of_find?_eq_some (Except.ok.inj hfind)
        obtain ⟨info, hinfo, rfl⟩ := List.mem_map.mp hmem
        obtain ⟨key, hkey⟩ := Dict.mem_values_iff.mp hinfo
        rw [hdib.switchID key info hkey]
        exact Dict.mem_keys_iff.mpr ⟨info, hkey⟩

structure ILPRequest where
  sfc : SFC
  ingSwitchID : Nat
  egSwitchID : Nat
  coreConsume : List ℚ

structure ILPModel where
  links : Dict (Nat × Nat) ℚ
  switches : Dict Nat ℚ
  supportVNF : Nat → List Nat
  requestList : List ILPRequest

/-- `choice` is what the random choices of core switches are, for each request. -/
def genVariablesAndConsts (dib : DCNInfoBase) (zoneName : Zone) (topoType : TopoType)
    (choice : Nat → Nat × Nat) (requestList : List MappingRequest) :
    Except PyError ILPModel := do
  let links ← genPhysicalLink dib zoneName
  let switches ← genSwitch dib zoneName
  let requestList ← requestList.zipIdx.mapM fun item => do
    let ends := genRequestIngAndEg dib zoneName topoType (choice item.2) item.1
    let coreConsume ← genVNFResConsume item.1.sfc
    return (⟨item.1.sfc, ends.1, ends.2, coreConsume⟩ : ILPRequest)
  return ⟨links, switches, supportVNF dib zoneName, requestList⟩

namespace ILPModel

section Definitions

variable (m : ILPModel)

def request (rIndex : Fin m.requestList.length) : ILPRequest := m.requestList.get rIndex

def getTrafficDemand (rIndex : Fin m.requestList.length) : ℚ :=
  (m.request rIndex).sfc.getSFCTrafficDemand

def chain (rIndex : Fin m.requestList.length) : Chain where
  switches := m.switches.keys
  physicalLink := m.links.keys
  supportVNF := m.supportVNF
  ingSwitchID := (m.request rIndex).ingSwitchID
  egSwitchID := (m.request rIndex).egSwitchID
  vnfSeq := (m.request rIndex).sfc.vNFTypeSequence

def phiKeys : List (List Nat) :=
  (List.finRange m.requestList.length).flatMap fun rIndex =>
    (m.chain rIndex).pathLinkVar [rIndex.val]

def aKeys : List (List Nat) :=
  (List.finRange m.requestList.length).flatMap fun rIndex =>
    (m.chain rIndex).vnfDeployVar [rIndex.val]

/-- `_resConsumeCoeff`, at whichever switch: none behind the last VNF. -/
def resConsumeCoeff (rIndex : Fin m.requestList.length) : List Nat → ℚ :=
  Chain.stageCoeff [rIndex.val] (m.request rIndex).coreConsume

def nodeCapExpr (switchID : Nat) : LinExpr FlowVar :=
  (List.finRange m.requestList.length).flatMap fun rIndex =>
    LinExpr.prod (m.resConsumeCoeff rIndex) .a
      (select [.one rIndex.val, .any, .one switchID] m.aKeys)

def linkCapExpr (link : Nat × Nat) : LinExpr FlowVar :=
  (List.finRange m.requestList.length).flatMap fun rIndex =>
    LinExpr.scale (m.getTrafficDemand rIndex)
      (LinExpr.sum ((select [.one rIndex.val, .any, .one link.1, .one link.2]
        m.phiKeys).map .phi))

def trans2ILP : Model FlowVar where
  vars := (m.phiKeys.map fun key => ⟨.phi key, .continuous, 0, 1⟩) ++
    m.aKeys.map fun key => ⟨.a key, .binary, 0, 1⟩
  constrs :=
    ((List.finRange m.requestList.length).flatMap fun rIndex =>
      (m.chain rIndex).chainConstrs [rIndex.val] m.phiKeys m.aKeys) ++
    (m.switches.items.map fun item => ⟨m.nodeCapExpr item.1, .le, item.2⟩) ++
    m.links.items.map fun item => ⟨m.linkCapExpr item.1, .le, item.2⟩

end Definitions

/-- The links are between the switches, the ends of each request are switches, and the
cores of each VNF are known. -/
structure WellFormed (m : ILPModel) : Prop where
  within : ∀ link ∈ m.links.keys, link.1 ∈ m.switches.keys ∧ link.2 ∈ m.switches.keys
  ends : ∀ request ∈ m.requestList,
    request.ingSwitchID ∈ m.switches.keys ∧ request.egSwitchID ∈ m.switches.keys
  cores : ∀ request ∈ m.requestList,
    request.coreConsume.length = request.sfc.vNFTypeSequence.length

variable {m : ILPModel} {x : FlowVar → ℚ}

theorem WellFormed.chain (h : m.WellFormed) (rIndex : Fin m.requestList.length) :
    (m.chain rIndex).WellFormed where
  switches := m.switches.nodup_keys
  links := m.links.nodup_keys
  within := h.within
  ingress := (h.ends _ (m.requestList.get_mem rIndex)).1
  egress := (h.ends _ (m.requestList.get_mem rIndex)).2

/-! ## The variables of a request -/

theorem select_eq_nil {n n' : Nat} (hne : n ≠ n') {keys : List (List Nat)}
    (hkeys : ∀ key ∈ keys, key.head? = some n') (back : List Pattern) :
    select (.one n :: back) keys = [] := by
  rw [select, List.filter_eq_nil_iff]
  intro key hkey
  obtain ⟨rest, rfl⟩ := List.head?_eq_some_iff.mp (hkeys key hkey)
  simp [accepts, Pattern.accepts, hne]

theorem has (m : ILPModel) (rIndex : Fin m.requestList.length) :
    (m.chain rIndex).Has [rIndex.val] m.phiKeys m.aKeys where
  phi back := by
    refine Chain.select_flatMap (List.nodup_finRange _) (List.mem_finRange rIndex) ?_
    intro other hother
    refine select_eq_nil (fun heq => hother (Fin.ext heq.symm)) (fun key hkey => ?_) back
    simp only [Chain.pathLinkVar, List.mem_flatMap, List.mem_map] at hkey
    obtain ⟨_, _, _, _, rfl⟩ := hkey
    rfl
  a back := by
    refine Chain.select_flatMap (List.nodup_finRange _) (List.mem_finRange rIndex) ?_
    intro other hother
    refine select_eq_nil (fun heq => hother (Fin.ext heq.symm)) (fun key hkey => ?_) back
    simp only [Chain.vnfDeployVar, List.mem_flatMap, List.mem_map] at hkey
    obtain ⟨_, _, _, _, rfl⟩ := hkey
    rfl

/-! ## The values of the expressions -/

section Values

variable (m) (x) (rIndex : Fin m.requestList.length)

def len : Nat := (m.request rIndex).sfc.vNFTypeSequence.length

def cores (i : Nat) : ℚ := (m.request rIndex).coreConsume.getD i 0

def phi (i : Nat) (link : Nat × Nat) : ℚ := Chain.phiOf [rIndex.val] x i link

def a (i switchID : Nat) : ℚ := Chain.aOf [rIndex.val] x i switchID

end Values

theorem eval_finRange_flatMap (g : Fin m.requestList.length → LinExpr FlowVar) :
    LinExpr.eval x ((List.finRange m.requestList.length).flatMap g) =
      ∑ rIndex, LinExpr.eval x (g rIndex) := by
  rw [LinExpr.eval_flatMap, Fin.sum_univ_def]

theorem eval_nodeCapExpr (hwf : m.WellFormed) {v : Nat} (hv : v ∈ m.switches.keys) :
    (m.nodeCapExpr v).eval x =
      ∑ rIndex, ∑ i ∈ Finset.range (m.len rIndex), m.cores rIndex i * m.a x rIndex i v := by
  rw [nodeCapExpr, eval_finRange_flatMap]
  exact Finset.sum_congr rfl fun rIndex _ =>
    Chain.eval_prod_switch (has m rIndex) (hwf.chain rIndex)
      (hwf.cores _ (m.requestList.get_mem rIndex)) hv

theorem eval_linkCapExpr (hwf : m.WellFormed) {link : Nat × Nat}
    (hlink : link ∈ m.links.keys) :
    (m.linkCapExpr link).eval x =
      ∑ rIndex, m.getTrafficDemand rIndex *
        ∑ i ∈ Finset.range (m.len rIndex + 1), m.phi x rIndex i link := by
  rw [linkCapExpr, eval_finRange_flatMap]
  refine Finset.sum_congr rfl fun rIndex _ => ?_
  rw [LinExpr.eval_scale]
  exact congrArg _ (Chain.eval_sum_link (has m rIndex) (hwf.chain rIndex) hlink)

/-! ## What the constraints say -/

/-- The assignment keeps the bounds, places every chain and stays within the capacities.
-/
structure Solves (m : ILPModel) (x : FlowVar → ℚ) : Prop where
  phi : ∀ rIndex, ∀ i ≤ m.len rIndex, ∀ link ∈ m.links.keys,
    0 ≤ m.phi x rIndex i link ∧ m.phi x rIndex i link ≤ 1
  a : ∀ rIndex, ∀ i ≤ m.len rIndex, ∀ v ∈ m.switches.keys,
    m.a x rIndex i v = 0 ∨ m.a x rIndex i v = 1
  flows : ∀ rIndex, (m.chain rIndex).Flows (m.phi x rIndex) (m.a x rIndex)
  cores : ∀ v cap, m.switches.get? v = some cap →
    ∑ rIndex, ∑ i ∈ Finset.range (m.len rIndex),
      m.cores rIndex i * m.a x rIndex i v ≤ cap
  bandwidth : ∀ link cap, m.links.get? link = some cap →
    ∑ rIndex, m.getTrafficDemand rIndex *
      ∑ i ∈ Finset.range (m.len rIndex + 1), m.phi x rIndex i link ≤ cap

theorem mem_phiKeys {key : List Nat} :
    key ∈ m.phiKeys ↔ ∃ rIndex, ∃ i ≤ m.len rIndex, ∃ link ∈ m.links.keys,
      key = [rIndex.val, i, link.1, link.2] := by
  simp only [phiKeys, Chain.pathLinkVar, List.mem_flatMap, List.mem_map, List.mem_range]
  constructor
  · rintro ⟨rIndex, -, i, hi, link, hlink, rfl⟩
    exact ⟨rIndex, i, Nat.le_of_lt_succ hi, link, hlink, rfl⟩
  · rintro ⟨rIndex, i, hi, link, hlink, rfl⟩
    exact ⟨rIndex, List.mem_finRange _, i, Nat.lt_succ_of_le hi, link, hlink, rfl⟩

theorem mem_aKeys {key : List Nat} :
    key ∈ m.aKeys ↔ ∃ rIndex, ∃ i ≤ m.len rIndex, ∃ v ∈ m.switches.keys,
      key = [rIndex.val, i, v] := by
  simp only [aKeys, Chain.vnfDeployVar, List.mem_flatMap, List.mem_map, List.mem_range]
  constructor
  · rintro ⟨rIndex, -, i, hi, v, hv, rfl⟩
    exact ⟨rIndex, i, Nat.le_of_lt_succ hi, v, hv, rfl⟩
  · rintro ⟨rIndex, i, hi, v, hv, rfl⟩
    exact ⟨rIndex, List.mem_finRange _, i, Nat.lt_succ_of_le hi, v, hv, rfl⟩

/-- The constraints say that each chain is placed and the capacities are kept. -/
theorem feasible_iff (hwf : m.WellFormed) : m.trans2ILP.Feasible x ↔ m.Solves x := by
  have hchains : (∀ constr ∈ (List.finRange m.requestList.length).flatMap fun rIndex =>
      (m.chain rIndex).chainConstrs [rIndex.val] m.phiKeys m.aKeys, constr.Holds x) ↔
        ∀ rIndex, (m.chain rIndex).Flows (m.phi x rIndex) (m.a x rIndex) := by
    simp only [List.mem_flatMap, List.mem_finRange, true_and]
    constructor
    · intro h rIndex
      exact (Chain.holds_chainConstrs_iff (has m rIndex) (hwf.chain rIndex)).mp
        fun constr hconstr => h constr ⟨rIndex, hconstr⟩
    · rintro h constr ⟨rIndex, hconstr⟩
      exact (Chain.holds_chainConstrs_iff (has m rIndex) (hwf.chain rIndex)).mpr
        (h rIndex) constr hconstr
  constructor
  · rintro ⟨hvars, hconstrs⟩
    simp only [trans2ILP, List.forall_mem_append] at hvars hconstrs
    obtain ⟨⟨hflows, hcores⟩, hbandwidth⟩ := hconstrs
    refine ⟨?_, ?_, hchains.mp hflows, ?_, ?_⟩
    · intro rIndex i hi link hlink
      have hadmits := hvars.1 _ (List.mem_map_of_mem
        (mem_phiKeys.mpr ⟨rIndex, i, hi, link, hlink, rfl⟩))
      exact ⟨hadmits.lb, hadmits.ub⟩
    · intro rIndex i hi v hv
      exact (hvars.2 _ (List.mem_map_of_mem
        (mem_aKeys.mpr ⟨rIndex, i, hi, v, hv, rfl⟩))).binary rfl
    · intro v cap hcap
      rw [← eval_nodeCapExpr hwf (Dict.mem_keys_iff.mpr ⟨cap, hcap⟩)]
      exact hcores _ (List.mem_map_of_mem (Dict.mem_items_iff.mpr hcap))
    · intro link cap hcap
      rw [← eval_linkCapExpr hwf (Dict.mem_keys_iff.mpr ⟨cap, hcap⟩)]
      exact hbandwidth _ (List.mem_map_of_mem (Dict.mem_items_iff.mpr hcap))
  · intro h
    refine ⟨?_, ?_⟩
    · simp only [trans2ILP, List.forall_mem_append, List.forall_mem_map]
      refine ⟨fun key hkey => ?_, fun key hkey => ?_⟩
      · obtain ⟨rIndex, i, hi, link, hlink, rfl⟩ := mem_phiKeys.mp hkey
        obtain ⟨hlb, hub⟩ := h.phi rIndex i hi link hlink
        exact ⟨hlb, hub, fun hbinary => absurd hbinary VarType.noConfusion⟩
      · obtain ⟨rIndex, i, hi, v, hv, rfl⟩ := mem_aKeys.mp hkey
        have hbinary := h.a rIndex i hi v hv
        refine ⟨?_, ?_, fun _ => hbinary⟩
        · obtain h0 | h1 := hbinary
          · exact h0.ge
          · exact zero_le_one.trans h1.ge
        · obtain h0 | h1 := hbinary
          · exact h0.le.trans zero_le_one
          · exact h1.le
    · simp only [trans2ILP, List.forall_mem_append, List.forall_mem_map]
      refine ⟨⟨hchains.mpr h.flows, fun item hitem => ?_⟩, fun item hitem => ?_⟩
      · have hcap := Dict.mem_items_iff.mp hitem
        rw [Constr.Holds]
        exact (eval_nodeCapExpr hwf (Dict.mem_keys_iff.mpr ⟨_, hcap⟩)).le.trans
          (h.cores _ _ hcap)
      · have hcap := Dict.mem_items_iff.mp hitem
        rw [Constr.Holds]
        exact (eval_linkCapExpr hwf (Dict.mem_keys_iff.mpr ⟨_, hcap⟩)).le.trans
          (h.bandwidth _ _ hcap)

/-! ## Placements and routes -/

def CoresFit (m : ILPModel) (host : Fin m.requestList.length → Nat → Nat) : Prop :=
  ∀ v cap, m.switches.get? v = some cap →
    ∑ rIndex, ∑ i ∈ Finset.range (m.len rIndex) with host rIndex i = v,
      m.cores rIndex i ≤ cap

def RoutesFit (m : ILPModel)
    (route : Fin m.requestList.length → Nat → List Nat) : Prop :=
  ∀ link cap, m.links.get? link = some cap →
    ∑ rIndex, ∑ i ∈ Finset.range (m.len rIndex + 1) with link ∈ pairs (route rIndex i),
      m.getTrafficDemand rIndex ≤ cap

/-- Each stage of a request has a simple path along some links, from the place of the
stage before. -/
def Routes (m : ILPModel) (links : Fin m.requestList.length → Nat → Nat → Nat → Prop)
    (host : Fin m.requestList.length → Nat → Nat)
    (route : Fin m.requestList.length → Nat → List Nat) : Prop :=
  ∀ rIndex, ∀ i ≤ m.len rIndex,
    IsPath (links rIndex i) (host rIndex i)
      ((m.chain rIndex).origin (host rIndex) i) (route rIndex i) ∧
        (route rIndex i).Nodup

/-- All requests are placed and routed within the capacities. -/
structure Embeds (m : ILPModel) (host : Fin m.requestList.length → Nat → Nat)
    (route : Fin m.requestList.length → Nat → List Nat) : Prop where
  placed : ∀ rIndex, (m.chain rIndex).Placed (host rIndex)
  routes : m.Routes (fun _ _ a b => (a, b) ∈ m.links.keys) host route
  cores : m.CoresFit host
  bandwidth : m.RoutesFit route

/-! ## From an assignment to a placement -/

theorem sum_cores_mul {f g : Nat → ℚ} {host : Nat → Nat} {n v : Nat}
    (hg : ∀ i < n, g i = if v = host i then 1 else 0) :
    ∑ i ∈ Finset.range n, f i * g i =
      ∑ i ∈ Finset.range n with host i = v, f i := by
  rw [Finset.sum_filter]
  refine Finset.sum_congr rfl fun i hi => ?_
  rw [hg i (Finset.mem_range.mp hi), mul_ite, mul_one, mul_zero]
  exact if_congr eq_comm rfl rfl

theorem Solves.exists_host (h : m.Solves x) (hwf : m.WellFormed) :
    ∃ host : Fin m.requestList.length → Nat → Nat,
      (∀ rIndex, (m.chain rIndex).Placed (host rIndex)) ∧
      (∀ rIndex, ∀ i ≤ m.len rIndex, ∀ v ∈ m.switches.keys,
        m.a x rIndex i v = if v = host rIndex i then 1 else 0) ∧ m.CoresFit host := by
  choose host hplaced ha using fun rIndex =>
    (h.flows rIndex).placed (hwf.chain rIndex) (h.a rIndex)
  refine ⟨host, hplaced, ha, fun v cap hcap => ?_⟩
  have hv : v ∈ m.switches.keys := Dict.mem_keys_iff.mpr ⟨cap, hcap⟩
  refine le_of_eq_of_le (Finset.sum_congr rfl fun rIndex _ => ?_) (h.cores v cap hcap)
  exact (sum_cores_mul fun i hi => ha rIndex i hi.le v hv).symm

/-! ## From a placement to an assignment -/

/-- The assignment of a placement. -/
def ofEmbedding (m : ILPModel) (host : Fin m.requestList.length → Nat → Nat)
    (route : Fin m.requestList.length → Nat → List Nat) : FlowVar → ℚ
  | .phi [rIndex, i, src, dst] =>
      if h : rIndex < m.requestList.length then
        along 1 (route ⟨rIndex, h⟩ i) (src, dst)
      else 0
  | .a [rIndex, i, switchID] =>
      if h : rIndex < m.requestList.length then
        if switchID = host ⟨rIndex, h⟩ i then 1 else 0
      else 0
  | _ => 0

section OfEmbedding

variable {host : Fin m.requestList.length → Nat → Nat}
  {route : Fin m.requestList.length → Nat → List Nat}

@[simp] theorem phi_ofEmbedding (rIndex : Fin m.requestList.length) (i : Nat)
    (link : Nat × Nat) :
    m.phi (m.ofEmbedding host route) rIndex i link = along 1 (route rIndex i) link := by
  simp [phi, Chain.phiOf, ofEmbedding]

@[simp] theorem a_ofEmbedding (rIndex : Fin m.requestList.length) (i v : Nat) :
    m.a (m.ofEmbedding host route) rIndex i v = if v = host rIndex i then 1 else 0 := by
  simp [a, Chain.aOf, ofEmbedding]

theorem along_one_eq (path : List Nat) (link : Nat × Nat) :
    along (1 : ℚ) path link = 0 ∨ along (1 : ℚ) path link = 1 := by
  rw [along]
  split
  · exact .inr rfl
  · exact .inl rfl

theorem demand_mul_sum_along (d : ℚ) (n : Nat) (route : Nat → List Nat)
    (link : Nat × Nat) :
    d * ∑ i ∈ Finset.range n, along 1 (route i) link =
      ∑ i ∈ Finset.range n with link ∈ pairs (route i), d := by
  rw [Finset.mul_sum, Finset.sum_filter]
  refine Finset.sum_congr rfl fun i _ => ?_
  rw [along, mul_ite, mul_one, mul_zero]

theorem Embeds.solves (h : m.Embeds host route) (hwf : m.WellFormed) :
    m.Solves (m.ofEmbedding host route) where
  phi rIndex i _ link _ := by
    rw [phi_ofEmbedding]
    obtain h0 | h1 := along_one_eq (route rIndex i) link
    · rw [h0]
      exact ⟨le_rfl, zero_le_one⟩
    · rw [h1]
      exact ⟨zero_le_one, le_rfl⟩
  a rIndex i _ v _ := by
    rw [a_ofEmbedding]
    split
    · exact .inr rfl
    · exact .inl rfl
  flows rIndex := by
    have hphi : m.phi (m.ofEmbedding host route) rIndex =
        fun i link => along 1 (route rIndex i) link :=
      funext fun i => funext (phi_ofEmbedding rIndex i)
    have ha : m.a (m.ofEmbedding host route) rIndex =
        fun i v => if v = host rIndex i then 1 else 0 :=
      funext fun i => funext (a_ofEmbedding rIndex i)
    rw [hphi, ha]
    refine Chain.flows_of_carries (h.placed rIndex) fun i hi => ?_
    obtain ⟨hpath, hnodup⟩ := h.routes rIndex i hi
    refine carries_along (hwf.chain rIndex).within_toFinset ?_ zero_le_one hnodup
      ⟨hpath.chain.imp fun a b hab => List.mem_toFinset.mpr hab, hpath.head, hpath.last⟩
    rw [List.mem_toFinset]
    cases i with
    | zero => exact (hwf.chain rIndex).ingress
    | succ i => exact (h.placed rIndex).mem i (Nat.le_of_succ_le hi)
  cores v cap hcap := by
    refine le_of_eq_of_le (Finset.sum_congr rfl fun rIndex _ => ?_) (h.cores v cap hcap)
    exact sum_cores_mul fun i _ => a_ofEmbedding rIndex i v
  bandwidth link cap hcap := by
    refine le_of_eq_of_le (Finset.sum_congr rfl fun rIndex _ => ?_)
      (h.bandwidth link cap hcap)
    simp only [phi_ofEmbedding]
    exact demand_mul_sum_along ..

end OfEmbedding

open MultiLayerGraph

/-- Two requests, which together need all cores but one of the second switch. -/
def twoRequests : ILPModel where
  links := (Dict.empty.set (1, 2) 10).set (2, 1) 10
  switches := (Dict.empty.set 1 0).set 2 12
  supportVNF := Mapping.supportVNF twoSwitches .simulator
  requestList := [⟨⟨[3], [⟨3, none, .server⟩], 1, none⟩, 1, 1, [4]⟩,
    ⟨⟨[3], [⟨3, none, .server⟩], 2, none⟩, 1, 1, [7]⟩]

def mapping (throughput : ℚ) : MappingRequest :=
  ⟨⟨[3], [⟨3, none, .server⟩], throughput, none⟩, 9, 9⟩

theorem registered_twoSwitches : twoSwitches.Registered .simulator
    ((Dict.empty.set 1 ⟨⟨1, ⟨0, 27⟩, 2000, [], [], ⟨0, 0, 0, 0, 0⟩⟩, true⟩).set 2
      ⟨⟨2, ⟨32, 27⟩, 2000, [], [3], ⟨0, 0, 0, 0, 0⟩⟩, true⟩) where
  zone := rfl
  switchID switchID info h := by
    have hall : ∀ item ∈ (twoSwitches.switches.get? .simulator).elim [] Dict.items,
        item.2.switch.switchID = item.1 := by
      decide
    exact hall (switchID, info) (Dict.mem_items_iff.mpr h)
  links links h key hkey _ _ := by
    obtain rfl := Option.some.inj h
    have hall : ∀ key ∈ (twoSwitches.links.get? .simulator).elim [] Dict.keys,
        key.1 ∈ [1, 2] ∧ key.2 ∈ [1, 2] := by
      decide
    exact hall key hkey

theorem gen_twoRequests : genVariablesAndConsts twoSwitches .simulator .fatTree
    (fun _ => (1, 1)) [mapping 1, mapping 2] = .ok twoRequests := by
  have hlinks : genPhysicalLink twoSwitches .simulator = .ok twoRequests.links := by
    decide +kernel
  have hswitches : genSwitch twoSwitches .simulator = .ok twoRequests.switches := by
    decide +kernel
  have hcores : genVNFResConsume (mapping 1).sfc = .ok [4] ∧
      genVNFResConsume (mapping 2).sfc = .ok [7] := by
    decide +kernel
  have hends : ∀ throughput, genRequestIngAndEg twoSwitches .simulator .fatTree (1, 1)
      (mapping throughput) = (1, 1) := by
    intro throughput
    rfl
  rw [genVariablesAndConsts, hlinks, hswitches]
  simp only [List.zipIdx, List.mapM_cons, List.mapM_nil, hcores.1, hcores.2, hends]
  rfl

theorem wellFormed_twoRequests : twoRequests.WellFormed :=
  ⟨by decide, by decide, by decide⟩

def secondSwitch (_ : Fin twoRequests.requestList.length) (i : Nat) : Nat :=
  if i = 0 then 2 else 1

def thereAndBack (_ : Fin twoRequests.requestList.length) (i : Nat) : List Nat :=
  if i = 0 then [1, 2] else [2, 1]

theorem embeds_twoRequests : twoRequests.Embeds secondSwitch thereAndBack where
  placed rIndex := by
    have hone : ∀ rIndex, (twoRequests.chain rIndex).vnfSeq.length = 1 := by decide
    have hmem : ∀ rIndex, ∀ i ≤ 1,
        secondSwitch rIndex i ∈ (twoRequests.chain rIndex).switches := by
      decide
    have hprovided : ∀ rIndex, ∀ i < 1,
        secondSwitch rIndex i ∈ (twoRequests.chain rIndex).providers i := by
      decide
    have hegress : ∀ rIndex,
        secondSwitch rIndex 1 = (twoRequests.chain rIndex).egSwitchID := by
      decide
    constructor <;> rw [hone]
    · exact hmem rIndex
    · exact hprovided rIndex
    · exact hegress rIndex
  routes rIndex i hi := by
    have hone : ∀ rIndex, twoRequests.len rIndex = 1 := by decide
    have hingress : ∀ rIndex, (twoRequests.chain rIndex).ingSwitchID = 1 := by decide
    have hlinks : ∀ rIndex, ∀ i ≤ 1, (thereAndBack rIndex i).IsChain
        (fun a b => (a, b) ∈ twoRequests.links.keys) ∧
          (thereAndBack rIndex i).Nodup := by
      decide
    rw [hone] at hi
    refine ⟨⟨(hlinks rIndex i hi).1, ?_, ?_⟩, (hlinks rIndex i hi).2⟩ <;>
      obtain rfl | rfl := Nat.le_one_iff_eq_zero_or_eq_one.mp hi
    · exact congrArg some (hingress rIndex).symm
    · rfl
    · rfl
    · rfl
  cores v cap hcap := by
    have hcores : ∀ item ∈ twoRequests.switches.items, ∑ rIndex,
        ∑ i ∈ Finset.range (twoRequests.len rIndex) with secondSwitch rIndex i = item.1,
          twoRequests.cores rIndex i ≤ item.2 := by
      decide +kernel
    exact hcores (v, cap) (Dict.mem_items_iff.mpr hcap)
  bandwidth link cap hcap := by
    have hbandwidth : ∀ item ∈ twoRequests.links.items, ∑ rIndex,
        ∑ i ∈ Finset.range (twoRequests.len rIndex + 1)
          with item.1 ∈ pairs (thereAndBack rIndex i),
            twoRequests.getTrafficDemand rIndex ≤ item.2 := by
      decide +kernel
    exact hbandwidth (link, cap) (Dict.mem_items_iff.mpr hcap)

/-! ## What is found -/

theorem Solves.exists_routes (hwf : m.WellFormed) (h : m.Solves x) :
    ∃ host route, (∀ rIndex, (m.chain rIndex).Placed (host rIndex)) ∧
      (∀ rIndex, ∀ i ≤ m.len rIndex, ∀ v ∈ m.switches.keys,
        m.a x rIndex i v = if v = host rIndex i then 1 else 0) ∧
      m.CoresFit host ∧
      m.Routes (fun rIndex i a b =>
        (a, b) ∈ m.links.keys ∧ 0 < m.phi x rIndex i (a, b)) host route := by
  obtain ⟨host, hplaced, ha, hcores⟩ := h.exists_host hwf
  have hpath : ∀ rIndex i, ∃ path, i ≤ m.len rIndex →
      IsPath (fun a b => (a, b) ∈ m.links.keys ∧ 0 < m.phi x rIndex i (a, b))
        (host rIndex i) ((m.chain rIndex).origin (host rIndex) i) path ∧
          path.Nodup := by
    intro rIndex i
    by_cases hi : i ≤ m.len rIndex
    · have hcarries := (h.flows rIndex).carries (hwf.chain rIndex)
        (hplaced rIndex) (ha rIndex) hi fun link hlink =>
          (h.phi rIndex i hi link hlink).1
      obtain ⟨path, hpath, hnodup⟩ := hcarries.exists_path one_pos
      refine ⟨path, fun _ => ⟨⟨hpath.chain.imp ?_, hpath.head, hpath.last⟩, hnodup⟩⟩
      rintro a b ⟨hmem, hpos⟩
      exact ⟨List.mem_toFinset.mp hmem, hpos⟩
    · exact ⟨[], fun hle => absurd hle hi⟩
  choose route hroute using hpath
  exact ⟨host, route, hplaced, ha, hcores, hroute⟩

section Generation

variable {dib : DCNInfoBase} {zoneName : Zone} {topoType : TopoType}
  {choice : Nat → Nat × Nat} {requestList : List MappingRequest}
  {switches : Dict Nat SwitchInfo}

theorem wellFormed_of_gen (hdib : dib.Registered zoneName switches)
    (hchoice : ∀ i, randomSelectACoreSwitch topoType (choice i).1 ∈ switches.keys ∧
      randomSelectACoreSwitch topoType (choice i).2 ∈ switches.keys)
    (h : genVariablesAndConsts dib zoneName topoType choice requestList = .ok m) :
    m.WellFormed := by
  obtain ⟨links, hlinks, h⟩ := except_bind_eq_ok_iff.mp h
  obtain ⟨capacities, hcapacities, h⟩ := except_bind_eq_ok_iff.mp h
  obtain ⟨requests, hrequests, h⟩ := except_bind_eq_ok_iff.mp h
  obtain rfl := Except.ok.inj h
  have hkeys : ∀ v, v ∈ capacities.keys ↔ v ∈ switches.keys := by
    rw [genSwitch, hdib.zone] at hcapacities
    simp only at hcapacities
    split at hcapacities
    · cases hcapacities
    · exact (fillDict_spec hcapacities).1
  have hrequest : ∀ request ∈ requests, (request.ingSwitchID ∈ switches.keys ∧
      request.egSwitchID ∈ switches.keys) ∧
        request.coreConsume.length = request.sfc.vNFTypeSequence.length := by
    intro request hmem
    obtain ⟨item, -, hitem⟩ := exists_of_mem_mapM hrequests hmem
    obtain ⟨coreConsume, hcores, hitem⟩ := except_bind_eq_ok_iff.mp hitem
    obtain rfl := Except.ok.inj hitem
    refine ⟨?_, (except_mapM_eq_ok_iff.mp hcores).length_eq.symm⟩
    rw [genRequestIngAndEg]
    split
    · next ingSwitchID egSwitchID hing heg =>
        exact ⟨mem_keys_of_getSwitchID4Server hdib hing,
          mem_keys_of_getSwitchID4Server hdib heg⟩
    · exact hchoice item.2
  refine ⟨fun link hlink => ?_, fun request hmem => ?_, fun request hmem =>
    (hrequest request hmem).2⟩
  · rw [genPhysicalLink] at hlinks
    split at hlinks
    · cases hlinks
    · next found hfound =>
        have hmem := ((fillDict_spec hlinks).1 link).mp hlink
        obtain ⟨hmem, hservers⟩ := List.mem_filter.mp hmem
        simp only [Bool.not_or, Bool.and_eq_true, Bool.not_eq_true'] at hservers
        simp only [hkeys]
        exact hdib.links found hfound link hmem hservers.1 hservers.2
  · simp only [hkeys]
    exact (hrequest request hmem).1

/-- Whatever the solver finds for the requests of a zone places every VNF once, at a
switch that provides it and has the cores for all VNFs that are placed there, and there
is a simple path from each stage to the next along links that carry some of the stage. -/
theorem placement_of_feasible (hdib : dib.Registered zoneName switches)
    (hchoice : ∀ i, randomSelectACoreSwitch topoType (choice i).1 ∈ switches.keys ∧
      randomSelectACoreSwitch topoType (choice i).2 ∈ switches.keys)
    (hm : genVariablesAndConsts dib zoneName topoType choice requestList = .ok m)
    (hx : m.trans2ILP.Feasible x) :
    ∃ host route, (∀ rIndex, (m.chain rIndex).Placed (host rIndex)) ∧
      (∀ rIndex, ∀ i ≤ m.len rIndex, ∀ v ∈ m.switches.keys,
        m.a x rIndex i v = if v = host rIndex i then 1 else 0) ∧
      m.CoresFit host ∧
      m.Routes (fun rIndex i a b =>
        (a, b) ∈ m.links.keys ∧ 0 < m.phi x rIndex i (a, b)) host route := by
  have hwf := wellFormed_of_gen hdib hchoice hm
  exact ((feasible_iff hwf).mp hx).exists_routes hwf

theorem placement_of_feasible_sample : ∃ host route,
    (∀ rIndex, (twoRequests.chain rIndex).Placed (host rIndex)) ∧
      (∀ rIndex, ∀ i ≤ twoRequests.len rIndex, ∀ v ∈ twoRequests.switches.keys,
        twoRequests.a (twoRequests.ofEmbedding secondSwitch thereAndBack) rIndex i v =
          if v = host rIndex i then 1 else 0) ∧
      twoRequests.CoresFit host ∧
      twoRequests.Routes (fun rIndex i a b => (a, b) ∈ twoRequests.links.keys ∧
        0 < twoRequests.phi (twoRequests.ofEmbedding secondSwitch thereAndBack) rIndex i
          (a, b)) host route :=
  placement_of_feasible registered_twoSwitches (fun _ => by decide) gen_twoRequests
    ((feasible_iff wellFormed_twoRequests).mpr
      (embeds_twoRequests.solves wellFormed_twoRequests))

theorem exists_unsplit_iff (hdib : dib.Registered zoneName switches)
    (hchoice : ∀ i, randomSelectACoreSwitch topoType (choice i).1 ∈ switches.keys ∧
      randomSelectACoreSwitch topoType (choice i).2 ∈ switches.keys)
    (hm : genVariablesAndConsts dib zoneName topoType choice requestList = .ok m)
    (hdemand : ∀ rIndex, 0 ≤ m.getTrafficDemand rIndex) :
    (∃ x, m.trans2ILP.Feasible x ∧
      ∀ key ∈ m.phiKeys, x (.phi key) = 0 ∨ x (.phi key) = 1) ↔
        ∃ host route, m.Embeds host route := by
  have hwf := wellFormed_of_gen hdib hchoice hm
  constructor
  · rintro ⟨x, hx, hunsplit⟩
    have hsolves := (feasible_iff hwf).mp hx
    obtain ⟨host, route, hplaced, -, hcores, hroutes⟩ := hsolves.exists_routes hwf
    refine ⟨host, route, hplaced, ?_, hcores, fun link cap hcap => ?_⟩
    · intro rIndex i hi
      obtain ⟨hpath, hnodup⟩ := hroutes rIndex i hi
      exact ⟨⟨hpath.chain.imp fun a b hab => hab.1, hpath.head, hpath.last⟩, hnodup⟩
    · have hlink : link ∈ m.links.keys := Dict.mem_keys_iff.mpr ⟨cap, hcap⟩
      have hbandwidth := hsolves.bandwidth link cap hcap
      refine (Finset.sum_le_sum fun rIndex _ => ?_).trans hbandwidth
      rw [← demand_mul_sum_along]
      refine mul_le_mul_of_nonneg_left (Finset.sum_le_sum fun i hi => ?_)
        (hdemand rIndex)
      have hi := Nat.le_of_lt_succ (Finset.mem_range.mp hi)
      -- a link of the route carries some of the stage, and hence all of it
      have hall := hunsplit _ (mem_phiKeys.mpr ⟨rIndex, i, hi, link, hlink, rfl⟩)
      change m.phi x rIndex i link = 0 ∨ m.phi x rIndex i link = 1 at hall
      rw [along]
      split
      · next hmem =>
          have hpos := (mem_of_isChain_pairs
            (E := fun e => e ∈ m.links.keys ∧ 0 < m.phi x rIndex i e)
            (hroutes rIndex i hi).1.chain link hmem).2
          exact (hall.resolve_left hpos.ne').ge
      · obtain h0 | h1 := hall
        · exact h0.ge
        · exact zero_le_one.trans h1.ge
  · rintro ⟨host, route, hembeds⟩
    refine ⟨m.ofEmbedding host route, (feasible_iff hwf).mpr (hembeds.solves hwf), ?_⟩
    intro key hkey
    obtain ⟨rIndex, i, -, link, -, rfl⟩ := mem_phiKeys.mp hkey
    have hphi : m.phi (m.ofEmbedding host route) rIndex i link =
        along 1 (route rIndex i) link := phi_ofEmbedding rIndex i link
    have hall := along_one_eq (route rIndex i) link
    rw [← hphi] at hall
    exact hall

end Generation

theorem exists_unsplit_iff_sample : ∃ x, twoRequests.trans2ILP.Feasible x ∧
    ∀ key ∈ twoRequests.phiKeys, x (.phi key) = 0 ∨ x (.phi key) = 1 :=
  (exists_unsplit_iff registered_twoSwitches (fun _ => by decide) gen_twoRequests
    (by decide +kernel)).mpr ⟨secondSwitch, thereAndBack, embeds_twoRequests⟩

end ILPModel

end SelfAdaptiveMano.Mapping

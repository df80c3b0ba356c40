import SelfAdaptiveMano.Mapping.FilledPaths

/-!
# The stages of a path that restarts inside the chain

A backup path starts at the layer of the repair switch. `_selectNFVI4EachStage` reads
the type of a VNF at the layer of its segment, but the preferred device at the position
of the segment in the path. The two are the same VNF on a path from the first layer on.
-/

namespace SelfAdaptiveMano.Mapping

open Library LayeredWalk

namespace PathServerFiller

variable (f : PathServerFiller)

def selectServerAt (abandonElementIDList : List Nat) (vnfType : Nat)
    (segPath : List LayerNode) : Except PyError Server := do
  let switchID := (← itemFromEnd segPath 1).2
  let servers ← f.dib.getConnectedNFVIs f.zoneName switchID [] true
  f.selectServer4ServerList vnfType f.sfc.getSFCTrafficDemand
    (delAbandonedServer abandonElementIDList servers)

def selectByDevice (abandonElementIDList : List Nat) (vnfType : Nat)
    (segPath : List LayerNode) : DeviceType → Except PyError (Option Server)
  | .server => do
      let server ← f.selectServerAt abandonElementIDList vnfType segPath
      return some server
  | .p4 => return none
  | .other => throw (.valueError "Unknown preferred device type")

/-- The choice as it is meant: everything is read at the number of the stage, the
device and type of the VNF in the chain and the switch in the layer of the path. -/
def selectNFVIOfStage (path : List LayerNode) (abandonElementIDList : List Nat)
    (stage : Nat) : Except PyError (Option Server) := do
  let vnf ← itemAt f.sfc.vnfSequence stage
  let vnfType ← itemAt f.sfc.vNFTypeSequence stage
  f.selectByDevice abandonElementIDList vnfType (layer path stage)
    vnf.preferredDeviceType

/-- For each of the `m` stages from `k` on, the server is chosen for the VNF of the
stage. -/
def ChoosesByStage (path : List LayerNode) (egID : Nat)
    (abandonElementIDList : List Nat) (k m : Nat) : Prop :=
  ∃ dividedPath, addEndNodeID2DividedPath (dividePath path) egID = .ok dividedPath ∧
    dividedPath.length = m + 1 ∧
    ∀ i < m, f.selectNFVI4Stage dividedPath abandonElementIDList i =
      f.selectNFVIOfStage path abandonElementIDList (k + i)

def deviceAt (i : Nat) : Option DeviceType :=
  f.sfc.vnfSequence[i]?.map VNF.preferredDeviceType

variable {f} {abandonElementIDList : List Nat} {vnfType : Nat}
  {segPath path : List LayerNode}

/-! ## The choices for different devices differ -/

theorem hasEnoughServerResources_ne_error {dib : DCNInfoBase} {zoneName : Zone}
    {serverID : Nat} {expected : Resources} {text : String} :
    dib.hasEnoughServerResources zoneName serverID expected ≠ .error (.valueError text) := by
  apply except_bind_ne_error
  · apply except_bind_ne_error
    · rw [DCNInfoBase.serverInfo]
      split <;> exact nofun
    · exact fun info => nofun
  · exact fun available => nofun

theorem hasEnoughResource_ne_error {server : Server} {trafficDemand : ℚ} {text : String} :
    f.hasEnoughResource server vnfType trafficDemand ≠ .error (.valueError text) := by
  have hratio : PerformanceModel.getResourceConsumeRatioOfVNF vnfType ≠
      .error (.valueError text) := by
    rw [PerformanceModel.getResourceConsumeRatioOfVNF]
    split <;> exact nofun
  rw [hasEnoughResource]
  split
  · exact nofun
  · split
    · apply except_bind_ne_error
      · exact except_bind_ne_error hratio fun ratio => nofun
      · exact fun maxThroughput => hasEnoughServerResources_ne_error
    · apply except_bind_ne_error
      · exact except_bind_ne_error hratio fun ratio => nofun
      · exact fun expected => hasEnoughServerResources_ne_error

theorem selectServer4ServerList_ne_error {trafficDemand : ℚ} {text : String}
    (h : text ≠ "No available server resource") (serverList : List Server) :
    f.selectServer4ServerList vnfType trafficDemand serverList ≠
      .error (.valueError text) := by
  induction serverList with
  | nil => exact fun heq => h (PyError.valueError.inj (Except.error.inj heq)).symm
  | cons server serverList ih =>
      rw [selectServer4ServerList]
      apply except_bind_ne_error hasEnoughResource_ne_error
      intro enough
      split
      · exact nofun
      · exact ih

theorem selectServerAt_ne_error {text : String}
    (h : text ≠ "No available server resource") :
    f.selectServerAt abandonElementIDList vnfType segPath ≠ .error (.valueError text) := by
  rw [selectServerAt]
  apply except_bind_ne_error
  · apply itemFromEnd_ne_error
    rintro ⟨⟩
  intro node
  apply except_bind_ne_error
  · apply except_bind_ne_error
    · rw [DCNInfoBase.getServersByZone]
      split <;> rintro ⟨⟩
    · intro servers
      apply except_bind_ne_error
      · rw [DCNInfoBase.switchInfo]
        split <;> rintro ⟨⟩
      · rintro info ⟨⟩
  · intro servers
    exact selectServer4ServerList_ne_error h _

theorem selectByDevice_injective :
    Function.Injective (f.selectByDevice abandonElementIDList vnfType segPath) := by
  have hserver : ∀ r, f.selectByDevice abandonElementIDList vnfType segPath .server = r →
      r ≠ .ok none ∧ r ≠ .error (.valueError "Unknown preferred device type") := by
    rintro _ rfl
    rw [selectByDevice]
    constructor
    · intro h
      rcases except_bind_eq_ok_iff.mp h with ⟨server, -, h⟩
      cases h
    · apply except_bind_ne_error (selectServerAt_ne_error (by decide))
      rintro server ⟨⟩
  intro d d' h
  cases d <;> cases d'
  case p4.p4 | server.server | other.other => rfl
  case p4.server => exact absurd rfl (hserver _ h.symm).1
  case server.p4 => exact absurd rfl (hserver _ h).1
  case other.server => exact absurd rfl (hserver _ h.symm).2
  case server.other => exact absurd rfl (hserver _ h).2
  case p4.other | other.p4 => cases h

/-! ## What is read for a stage -/

section Stage

variable {first last k m i : Nat} {vnf : VNF} {dividedPath : ForwardingPath}

theorem selectNFVIOfStage_eq (hvnf : f.sfc.vnfSequence[k]? = some vnf)
    (htype : f.sfc.vNFTypeSequence[k]? = some vnfType) :
    f.selectNFVIOfStage path abandonElementIDList k =
      f.selectByDevice abandonElementIDList vnfType (layer path k)
        vnf.preferredDeviceType := by
  rw [selectNFVIOfStage, itemAt_eq_ok_iff.mpr hvnf, itemAt_eq_ok_iff.mpr htype]
  rfl

theorem selectNFVI4Stage_eq (hvnf : f.sfc.vnfSequence[i]? = some vnf) {u : LayerNode}
    (hsegment : dividedPath[i]? = some segPath) (hhead : segPath.head? = some u)
    (htype : f.sfc.vNFTypeSequence[u.1]? = some vnfType) :
    f.selectNFVI4Stage dividedPath abandonElementIDList i =
      f.selectByDevice abandonElementIDList vnfType segPath vnf.preferredDeviceType := by
  rw [selectNFVI4Stage, itemAt_eq_ok_iff.mpr hvnf]
  dsimp only [bind, Except.bind]
  cases vnf.preferredDeviceType with
  | server =>
      rw [selectByDevice, selectServerAt, bind_assoc, itemAt_eq_ok_iff.mpr hsegment]
      dsimp only
      rw [itemAt_zero_eq_ok_iff.mpr hhead]
      dsimp only
      rw [itemAt_eq_ok_iff.mpr htype]
      cases itemFromEnd segPath 1 with
      | error e => rfl
      | ok node =>
          dsimp only [bind, Except.bind]
          cases f.dib.getConnectedNFVIs f.zoneName node.2 [] true <;> rfl
  | p4 => rfl
  | other => rfl

theorem exists_head?_layer (hpath : Through path k first m last) (hi : i ≤ m) :
    ∃ node, (layer path (k + i)).head? = some (k + i, node) := by
  cases i with
  | zero => exact ⟨first, hpath.head?_layer⟩
  | succ i =>
      rcases hpath.crosses hi with ⟨-, host, -, -, -, hhead⟩
      exact ⟨host, hhead⟩

theorem addEndNodeID2DividedPath_dividePath (hpath : Through path k first m last)
    (egID : Nat) :
    addEndNodeID2DividedPath (dividePath path) egID =
      .ok ((List.range (m + 1)).map fun i =>
        layer path (k + i) ++ if i = m then [(k + m, egID)] else []) := by
  rcases exists_head?_layer hpath le_rfl with ⟨node, hhead⟩
  rw [dividePath_eq hpath]
  exact addEndNodeID2DividedPath_eq (F := fun i => layer path (k + i)) hhead egID

theorem selectNFVI4Stage_eq_iff (hpath : Through path k first m last)
    (hchain : k + m = f.sfc.getSFCLength)
    (hvnfs : f.sfc.vnfSequence.length = f.sfc.getSFCLength)
    (hdivided : dividedPath[i]? = some (layer path (k + i))) (hi : i < m) :
    f.selectNFVI4Stage dividedPath abandonElementIDList i =
        f.selectNFVIOfStage path abandonElementIDList (k + i) ↔
      f.deviceAt i = f.deviceAt (k + i) := by
  have hlt : k + i < f.sfc.getSFCLength := by omega
  rcases exists_head?_layer hpath (Nat.le_of_lt hi) with ⟨node, hhead⟩
  have hvnf := List.getElem?_eq_getElem (hvnfs ▸ Nat.lt_of_le_of_lt (Nat.le_add_left i k) hlt)
  have hvnf' := List.getElem?_eq_getElem (hvnfs ▸ hlt)
  have htype := List.getElem?_eq_getElem (l := f.sfc.vNFTypeSequence) hlt
  rw [selectNFVI4Stage_eq hvnf hdivided hhead htype, selectNFVIOfStage_eq hvnf' htype,
    selectByDevice_injective.eq_iff, deviceAt, deviceAt, hvnf, hvnf', Option.map_some,
    Option.map_some, Option.some.injEq]

/-- The choices follow the stages exactly when the VNFs at the positions of the path
are to be placed on the same devices as those of the stages. -/
theorem choosesByStage_iff (hpath : Through path k first m last)
    (hchain : k + m = f.sfc.getSFCLength)
    (hvnfs : f.sfc.vnfSequence.length = f.sfc.getSFCLength) (egID : Nat) :
    f.ChoosesByStage path egID abandonElementIDList k m ↔
      ∀ i < m, f.deviceAt i = f.deviceAt (k + i) := by
  have hsegment : ∀ i < m, ((List.range (m + 1)).map fun i =>
      layer path (k + i) ++ if i = m then [(k + m, egID)] else [])[i]? =
        some (layer path (k + i)) := by
    intro i hi
    rw [List.getElem?_map, List.getElem?_range (Nat.lt_succ_of_lt hi), Option.map_some,
      if_neg (Nat.ne_of_lt hi), List.append_nil]
  rw [ChoosesByStage, addEndNodeID2DividedPath_dividePath hpath]
  simp only [Except.ok.injEq, exists_eq_left', List.length_map, List.length_range, true_and]
  apply forall₂_congr
  intro i hi
  exact selectNFVI4Stage_eq_iff hpath hchain hvnfs (hsegment i hi) hi

def chainOf (device device' : DeviceType) : PathServerFiller where
  dib := MultiLayerGraph.twoSwitches
  zoneName := .simulator
  sfc := ⟨[3, 3], [⟨3, none, device⟩, ⟨3, none, device'⟩], 1, none⟩
  hasPM := false

def behindFirstVNF : List LayerNode := [(1, 1), (1, 2), (2, 2)]

theorem through_behindFirstVNF : Through behindFirstVNF 1 1 1 2 where
  steps := by
    simp only [behindFirstVNF, List.isChain_cons_cons, List.isChain_singleton, and_true,
      StepsOn]
    decide
  head := rfl
  last := rfl

theorem choosesByStage_iff_servers :
    (chainOf .server .server).ChoosesByStage behindFirstVNF 8 [] 1 1 :=
  (choosesByStage_iff through_behindFirstVNF rfl rfl 8).mpr (by decide)

/-- No server is chosen for the second VNF, which is to be placed on a server, as the
first one is to be placed in a P4 switch. -/
theorem not_choosesByStage_p4First :
    ¬ (chainOf .p4 .server).ChoosesByStage behindFirstVNF 8 [] 1 1 := by
  rintro ⟨dividedPath, hdivided, -, h⟩
  cases hdivided
  have h := h 0 Nat.one_pos
  revert h
  decide

end Stage

end PathServerFiller

end SelfAdaptiveMano.Mapping

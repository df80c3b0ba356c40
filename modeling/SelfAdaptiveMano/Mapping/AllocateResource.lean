import SelfAdaptiveMano.Mapping.FrrPathIDAllocator
import SelfAdaptiveMano.Mapping.LayeredPaths
import SelfAdaptiveMano.Measurement.ReservedResources
import Mathlib.Algebra.BigOperators.Pi

/-!
# Allocating the resources of a path

A mapping algorithm reserves what a path uses: of the server of each VNF what the
VNF needs, of each switch one entry for each visit, and of each link between
switches the traffic. The server of a VNF is the first node of the stage after
it. Nodes of a path are pairs of a stage and a number, and it is the pair under
which the resources of the server are reserved.
-/

namespace SelfAdaptiveMano.Mapping

open Library Measurement ReservedResources

/-- What the ledger of the servers is asked for: a number, or a node of a path. -/
inductive ServerKey where
  | serverID (serverID : Nat)
  | node (node : LayerNode)
  deriving DecidableEq

/-- What `MappingAlgorithmBase` works with. -/
structure MappingAlgorithm where
  dib : DCNInfoBase
  zoneName : Zone
  sfc : SFC

namespace MappingAlgorithm

variable (m : MappingAlgorithm) (path : ForwardingPath)

section Source

/-- The body of the loop of `_allocateServerResource`. -/
def allocateServer (index : Nat) : PyM (ReservedResources ServerKey) Unit := do
  let segPath ← PyM.ofExcept (itemAt path index)
  -- the node, not its number
  let serverID ← PyM.ofExcept (itemAt segPath 0)
  let vnfType ← PyM.ofExcept (itemAt m.sfc.vNFTypeSequence (index - 1))
  let expected ← PyM.ofExcept
    (PerformanceModel.getExpectedServerResource vnfType
      m.sfc.getSFCTrafficDemand)
  reserveServerResources (.node serverID) expected m.zoneName

def allocateServerResource : PyM (ReservedResources ServerKey) Unit :=
  (List.range' 1 (path.length - 1)).forM (m.allocateServer path)

/-- The body of the loops of `_allocateSwitchResource`. -/
def allocateSwitch (node : LayerNode) :
    PyM (ReservedResources ServerKey) Unit :=
  if m.dib.isSwitchID node.2 then reserveSwitchResource node.2 1 m.zoneName
  else pure ()

def allocateSwitchResource : PyM (ReservedResources ServerKey) Unit :=
  path.forM fun segPath => segPath.forM m.allocateSwitch

/-- The body of the loops of `_allocateLinkResource`. -/
def allocateLink (step : LayerNode × LayerNode) :
    PyM (ReservedResources ServerKey) Unit :=
  if m.dib.isSwitchID step.1.2 && m.dib.isSwitchID step.2.2 then
    reserveLinkResource step.1.2 step.2.2 m.sfc.getSFCTrafficDemand m.zoneName
  else pure ()

def allocateLinkResource : PyM (ReservedResources ServerKey) Unit :=
  path.forM fun segPath => (steps segPath).forM m.allocateLink

def allocateResource : PyM (ReservedResources ServerKey) Unit := do
  m.allocateServerResource path
  m.allocateSwitchResource path
  m.allocateLinkResource path

end Source

abbrev Amounts := (Zone → ServerKey → Resources) × (Zone → Nat → Int) ×
  (Zone → Nat × Nat → ℚ)

structure Reserves (amounts : Amounts) (s s' : ReservedResources ServerKey) :
    Prop where
  servers : Ledger.Adds amounts.1 s.serversReservedResources
    s'.serversReservedResources
  switches : Ledger.Adds amounts.2.1 s.switchesReservedResources
    s'.switchesReservedResources
  links : Ledger.Adds amounts.2.2 s.linksReservedResources
    s'.linksReservedResources

/-- What the `i`-th VNF of the chain needs. -/
def expectedAt (i : Nat) : Resources :=
  match itemAt m.sfc.vNFTypeSequence i >>= fun vnfType =>
    PerformanceModel.getExpectedServerResource vnfType
      m.sfc.getSFCTrafficDemand with
  | .ok expected => expected
  | .error _ => 0

/-- The servers of the VNFs, and which VNFs they are: the node at which the stage
`i + 1` starts has the `i`-th VNF. -/
def placements : List (Nat × Nat) :=
  (path.tail.filterMap fun segPath => segPath.head?.map fun node =>
    (node.2, node.1 - 1)).filter fun placement => m.dib.isServerID placement.1

def visits : List Nat := (path.flatten.map Prod.snd).filter m.dib.isSwitchID

def hops : List (Nat × Nat) :=
  (path.flatMap fun segPath => (steps segPath).map fun step =>
    (step.1.2, step.2.2)).filter fun hop =>
      m.dib.isSwitchID hop.1 && m.dib.isSwitchID hop.2

def uses : Amounts :=
  (((m.placements path).map fun placement => Ledger.single m.zoneName
      (.serverID placement.1) (m.expectedAt placement.2)).sum,
    ((m.visits path).map fun switchID =>
      Ledger.single m.zoneName switchID 1).sum,
    ((m.hops path).map fun hop =>
      Ledger.single m.zoneName hop m.sfc.getSFCTrafficDemand).sum)

/-- A path through stages that follow one another, from the stage `first` on, for
a chain whose VNFs are known. Each stage starts where the one before ends. -/
structure WellFormed (first : Nat) : Prop where
  nonempty : ∀ segPath ∈ path, segPath ≠ []
  stages : ∀ i segPath, path[i]? = some segPath → ∀ node ∈ segPath,
    node.1 = first + i
  joined : path.IsChain fun segPath segPath' =>
    segPath.getLast?.map Prod.snd = segPath'.head?.map Prod.snd
  length_le : first + path.length ≤ m.sfc.vNFTypeSequence.length + 1
  known : ∀ vnfType ∈ m.sfc.vNFTypeSequence,
    vnfType ≤ PerformanceModel.VNF_TYPE_MAX

def AllocatesUse (s : ReservedResources ServerKey) : Prop :=
  ∃ s', (m.allocateResource path).run s = .ok ⟨⟩ s' ∧
    Reserves (m.uses path) s s'

variable {m path}

section Reservations

variable {s s' s'' : ReservedResources ServerKey} {amounts amounts' : Amounts}

theorem Reserves.refl (s : ReservedResources ServerKey) : Reserves 0 s s :=
  ⟨Ledger.adds_zero _, Ledger.adds_zero _, Ledger.adds_zero _⟩

theorem Reserves.trans (h : Reserves amounts s s')
    (h' : Reserves amounts' s' s'') : Reserves (amounts + amounts') s s'' :=
  ⟨h.servers.trans h'.servers, h.switches.trans h'.switches,
    h.links.trans h'.links⟩

def Reserving (x : PyM (ReservedResources ServerKey) PUnit)
    (amounts : Amounts) : Prop :=
  ∀ s, ∃ s', x.run s = .ok ⟨⟩ s' ∧ Reserves amounts s s'

theorem Reserving.bind {x y : PyM (ReservedResources ServerKey) PUnit}
    (h : Reserving x amounts) (h' : Reserving y amounts') :
    Reserving (x >>= fun _ => y) (amounts + amounts') := by
  intro s
  obtain ⟨s', hrun, hreserves⟩ := h s
  obtain ⟨s'', hrun', hreserves'⟩ := h' s'
  exact ⟨s'', (PyM.run_bind_ok hrun _).trans hrun',
    hreserves.trans hreserves'⟩

theorem Reserving.forM {α : Type} {l : List α}
    {f : α → PyM (ReservedResources ServerKey) PUnit} {amounts : α → Amounts}
    (h : ∀ a ∈ l, Reserving (f a) (amounts a)) :
    Reserving (l.forM f) (l.map amounts).sum := by
  induction l with
  | nil => exact fun s => ⟨s, rfl, .refl s⟩
  | cons a l ih =>
      rw [List.forall_mem_cons] at h
      rw [List.map_cons, List.sum_cons]
      exact h.1.bind (ih h.2)

end Reservations

section Single

def serverAmounts (amounts : Zone → ServerKey → Resources) : Amounts :=
  (amounts, 0, 0)

def switchAmounts (amounts : Zone → Nat → Int) : Amounts := (0, amounts, 0)

def linkAmounts (amounts : Zone → Nat × Nat → ℚ) : Amounts := (0, 0, amounts)

theorem sum_map_of_add {α M N : Type} [AddMonoid M] [AddMonoid N] {g : M → N}
    (hzero : g 0 = 0) (hadd : ∀ x y, g (x + y) = g x + g y) (l : List α) (f : α → M) :
    (l.map fun a => g (f a)).sum = g (l.map f).sum := by
  have hsum := map_list_sum (AddMonoidHom.mk ⟨g, hzero⟩ hadd) (l.map f)
  rw [List.map_map] at hsum
  exact hsum.symm

theorem sum_serverAmounts {α : Type} (l : List α)
    (f : α → Zone → ServerKey → Resources) :
    (l.map fun a => serverAmounts (f a)).sum =
      serverAmounts (l.map f).sum :=
  sum_map_of_add rfl (fun _ _ => by simp [serverAmounts]) l f

theorem sum_switchAmounts {α : Type} (l : List α) (f : α → Zone → Nat → Int) :
    (l.map fun a => switchAmounts (f a)).sum =
      switchAmounts (l.map f).sum :=
  sum_map_of_add rfl (fun _ _ => by simp [switchAmounts]) l f

theorem sum_linkAmounts {α : Type} (l : List α)
    (f : α → Zone → Nat × Nat → ℚ) :
    (l.map fun a => linkAmounts (f a)).sum = linkAmounts (l.map f).sum :=
  sum_map_of_add rfl (fun _ _ => by simp [linkAmounts]) l f

theorem reserving_server (key : ServerKey) (reserved : Resources)
    (zoneName : Zone) :
    Reserving (reserveServerResources key reserved zoneName)
      (serverAmounts (Ledger.single zoneName key reserved)) := by
  intro s
  refine ⟨_, rfl, ?_, Ledger.adds_zero _, Ledger.adds_zero _⟩
  exact Ledger.adds_reserve _ zoneName key reserved

theorem reserving_switch (switchID : Nat) (zoneName : Zone) :
    Reserving (reserveSwitchResource switchID 1 zoneName)
      (switchAmounts (Ledger.single zoneName switchID 1)) := by
  intro s
  refine ⟨_, rfl, Ledger.adds_zero _, ?_, Ledger.adds_zero _⟩
  exact Ledger.adds_reserve _ zoneName switchID 1

theorem reserving_link (srcID dstID : Nat) (reserved : ℚ) (zoneName : Zone) :
    Reserving (reserveLinkResource srcID dstID reserved zoneName)
      (linkAmounts (Ledger.single zoneName (srcID, dstID) reserved)) := by
  intro s
  refine ⟨_, rfl, Ledger.adds_zero _, Ledger.adds_zero _, ?_⟩
  exact Ledger.adds_reserve _ zoneName (srcID, dstID) reserved

theorem reserving_pure : Reserving (pure ⟨⟩) 0 := fun s => ⟨s, rfl, .refl s⟩

/-- A loop in which only some turns reserve something. -/
theorem Reserving.forM_filter {α : Type} {l : List α} {test : α → Bool}
    {f : α → PyM (ReservedResources ServerKey) PUnit} {amounts : α → Amounts}
    (hf : ∀ a, test a = true → Reserving (f a) (amounts a))
    (hnot : ∀ a, test a = false → f a = pure ⟨⟩) :
    Reserving (l.forM f) ((l.filter test).map amounts).sum := by
  induction l with
  | nil => exact reserving_pure
  | cons a l ih =>
      cases htest : test a with
      | true =>
          rw [List.filter_cons_of_pos htest, List.map_cons, List.sum_cons]
          exact (hf a htest).bind ih
      | false =>
          rw [List.filter_cons_of_neg (by simp [htest])]
          show Reserving (f a >>= fun _ => l.forM f) _
          rw [hnot a htest]
          exact ih

end Single

section Run

theorem getExpectedServerResource_of_known {vnfType : Nat}
    (h : vnfType ≤ PerformanceModel.VNF_TYPE_MAX) (trafficDemand : ℚ) :
    ∃ expected, PerformanceModel.getExpectedServerResource vnfType
        trafficDemand = .ok expected ∧ expected.bandwidth = trafficDemand ∧
      (trafficDemand = 0 → expected = 0) := by
  have hlt : vnfType < PerformanceModel.coresPer1GTraffic.length :=
    Nat.lt_succ_of_le h
  have hratio : PerformanceModel.getResourceConsumeRatioOfVNF vnfType =
      .ok (PerformanceModel.coresPer1GTraffic[vnfType], 1) := by
    rw [PerformanceModel.getResourceConsumeRatioOfVNF,
      List.getElem?_eq_getElem hlt]
  refine ⟨_, except_bind_eq_ok_iff.mpr ⟨_, hratio, rfl⟩, rfl, ?_⟩
  rintro rfl
  exact Resources.eq_of_parts (by simp; rfl) (by simp; rfl) rfl

variable {first : Nat}

theorem WellFormed.expected (h : m.WellFormed path first) {i : Nat}
    (hi : i + 1 < path.length) :
    ∃ vnfType expected, itemAt m.sfc.vNFTypeSequence i = .ok vnfType ∧
      PerformanceModel.getExpectedServerResource vnfType
        m.sfc.getSFCTrafficDemand = .ok expected ∧
      m.expectedAt i = expected ∧
      expected.bandwidth = m.sfc.getSFCTrafficDemand ∧
      (m.sfc.getSFCTrafficDemand = 0 → expected = 0) := by
  have hlength := h.length_le
  have hlt : i < m.sfc.vNFTypeSequence.length := by omega
  have hitem : itemAt m.sfc.vNFTypeSequence i =
      .ok m.sfc.vNFTypeSequence[i] :=
    itemAt_eq_ok_iff.mpr (List.getElem?_eq_getElem hlt)
  obtain ⟨expected, hexpected, hrest⟩ := getExpectedServerResource_of_known
    (h.known _ (List.getElem_mem hlt)) m.sfc.getSFCTrafficDemand
  refine ⟨_, expected, hitem, hexpected, ?_, hrest⟩
  rw [expectedAt, except_bind_eq_ok_iff.mpr ⟨_, hitem, hexpected⟩]

def startOf (path : ForwardingPath) (index : Nat) : LayerNode :=
  ((path[index]?.bind List.head?).getD (0, 0))

theorem WellFormed.start (h : m.WellFormed path first) {index : Nat}
    (hindex : index < path.length) :
    ∃ segPath, itemAt path index = .ok segPath ∧
      itemAt segPath 0 = .ok (startOf path index) := by
  have hget : path[index]? = some path[index] := List.getElem?_eq_getElem hindex
  refine ⟨path[index], itemAt_eq_ok_iff.mpr hget, ?_⟩
  obtain ⟨node, hnode⟩ := Option.ne_none_iff_exists'.mp
    (mt List.head?_eq_none_iff.mp (h.nonempty _ (List.getElem_mem hindex)))
  rw [itemAt_zero_eq_ok_iff, startOf, hget, Option.bind_some, hnode]
  rfl

def reservedUnderNodes (m : MappingAlgorithm) (path : ForwardingPath) :
    Zone → ServerKey → Resources :=
  ((List.range' 1 (path.length - 1)).map fun index =>
    Ledger.single m.zoneName (.node (startOf path index))
      (m.expectedAt (index - 1))).sum

theorem reserving_allocateServerResource (h : m.WellFormed path first) :
    Reserving (m.allocateServerResource path)
      (serverAmounts (reservedUnderNodes m path)) := by
  have hturns : ∀ index ∈ List.range' 1 (path.length - 1),
      Reserving (m.allocateServer path index)
        (serverAmounts (Ledger.single m.zoneName (.node (startOf path index))
          (m.expectedAt (index - 1)))) := by
    intro index hindex s
    obtain ⟨hpos, hlt⟩ := List.mem_range'_1.mp hindex
    have hindex : index < path.length := by omega
    have hvnf : index - 1 + 1 < path.length := by omega
    obtain ⟨segPath, hseg, hstart⟩ := h.start hindex
    obtain ⟨vnfType, expected, htype, hexpected, heq, -⟩ := h.expected hvnf
    obtain ⟨s', hrun, hreserves⟩ := reserving_server
      (.node (startOf path index)) expected m.zoneName s
    refine ⟨s', ?_, heq ▸ hreserves⟩
    refine PyM.run_bind_ofExcept_eq_ok_iff.mpr ⟨segPath, hseg, ?_⟩
    refine PyM.run_bind_ofExcept_eq_ok_iff.mpr ⟨_, hstart, ?_⟩
    refine PyM.run_bind_ofExcept_eq_ok_iff.mpr ⟨vnfType, htype, ?_⟩
    exact PyM.run_bind_ofExcept_eq_ok_iff.mpr ⟨expected, hexpected, hrun⟩
  have hloop := Reserving.forM hturns
  rw [sum_serverAmounts] at hloop
  exact hloop

theorem reserving_allocateSwitchResource (m : MappingAlgorithm)
    (path : ForwardingPath) :
    Reserving (m.allocateSwitchResource path)
      (switchAmounts ((m.visits path).map fun switchID =>
        Ledger.single m.zoneName switchID 1).sum) := by
  have hswitch : ∀ node : LayerNode, m.dib.isSwitchID node.2 = true →
      Reserving (m.allocateSwitch node)
        (switchAmounts (Ledger.single m.zoneName node.2 1)) := by
    intro node h
    rw [allocateSwitch, if_pos h]
    exact reserving_switch node.2 m.zoneName
  have hother : ∀ node : LayerNode, m.dib.isSwitchID node.2 = false →
      m.allocateSwitch node = pure ⟨⟩ := by
    intro node h
    rw [allocateSwitch, h]
    rfl
  have hloop := Reserving.forM_filter (l := path.flatMap id) hswitch hother
  rw [sum_switchAmounts, ← PyM.forM_flatMap, List.flatMap_id] at hloop
  rw [visits, List.filter_map, List.map_map]
  exact hloop

theorem reserving_allocateLinkResource (m : MappingAlgorithm)
    (path : ForwardingPath) :
    Reserving (m.allocateLinkResource path)
      (linkAmounts ((m.hops path).map fun hop =>
        Ledger.single m.zoneName hop m.sfc.getSFCTrafficDemand).sum) := by
  have hlink : ∀ step : LayerNode × LayerNode,
      (m.dib.isSwitchID step.1.2 && m.dib.isSwitchID step.2.2) = true →
      Reserving (m.allocateLink step)
        (linkAmounts (Ledger.single m.zoneName (step.1.2, step.2.2)
          m.sfc.getSFCTrafficDemand)) := by
    intro step h
    rw [allocateLink, if_pos h]
    exact reserving_link step.1.2 step.2.2 _ m.zoneName
  have hother : ∀ step : LayerNode × LayerNode,
      (m.dib.isSwitchID step.1.2 && m.dib.isSwitchID step.2.2) = false →
      m.allocateLink step = pure ⟨⟩ := by
    intro step h
    rw [allocateLink, h]
    rfl
  have hloop := Reserving.forM_filter (l := path.flatMap steps) hlink hother
  rw [sum_linkAmounts, ← PyM.forM_flatMap] at hloop
  rw [hops, ← List.map_flatMap, List.filter_map, List.map_map]
  exact hloop

theorem reserving_allocateResource (h : m.WellFormed path first) :
    Reserving (m.allocateResource path)
      (reservedUnderNodes m path, (m.uses path).2) := by
  have hall := (reserving_allocateServerResource h).bind
    ((reserving_allocateSwitchResource m path).bind
      (reserving_allocateLinkResource m path))
  have hsum : (reservedUnderNodes m path, (m.uses path).2) =
      serverAmounts (reservedUnderNodes m path) +
        (switchAmounts (m.uses path).2.1 + linkAmounts (m.uses path).2.2) := by
    simp [serverAmounts, switchAmounts, linkAmounts]
  rw [hsum]
  exact hall

theorem allocatesUse_iff_servers (h : m.WellFormed path first)
    (s : ReservedResources ServerKey) :
    m.AllocatesUse path s ↔ reservedUnderNodes m path = (m.uses path).1 := by
  obtain ⟨s', hrun, hreserves⟩ := reserving_allocateResource h s
  constructor
  · rintro ⟨s'', hrun', huses⟩
    obtain rfl : s' = s'' := by
      cases hrun.symm.trans hrun'
      rfl
    exact hreserves.servers.unique huses.servers
  · intro heq
    refine ⟨s', hrun, ?_⟩
    rw [heq] at hreserves
    exact hreserves

theorem WellFormed.expectedAt_eq_zero (h : m.WellFormed path first)
    (hdemand : m.sfc.getSFCTrafficDemand = 0) (i : Nat) :
    m.expectedAt i = 0 := by
  cases hget : m.sfc.vNFTypeSequence[i]? with
  | none =>
      rw [expectedAt, itemAt, hget]
      rfl
  | some vnfType =>
      obtain ⟨expected, hexpected, -, hzero⟩ := getExpectedServerResource_of_known
        (h.known vnfType (List.mem_of_getElem? hget)) m.sfc.getSFCTrafficDemand
      rw [expectedAt, except_bind_eq_ok_iff.mpr
        ⟨vnfType, itemAt_eq_ok_iff.mpr hget, hexpected⟩]
      exact hzero hdemand

theorem servers_eq_of_idle (h : m.WellFormed path first)
    (hidle : path.length ≤ 1 ∨ m.sfc.getSFCTrafficDemand = 0) :
    reservedUnderNodes m path = (m.uses path).1 := by
  obtain hlength | hdemand := hidle
  · have htail : path.tail = [] := by
      rw [← List.length_eq_zero_iff, List.length_tail]
      omega
    have hrange : path.length - 1 = 0 := by omega
    rw [reservedUnderNodes, uses, placements, htail, hrange]
    rfl
  · have hzero := h.expectedAt_eq_zero hdemand
    simp [reservedUnderNodes, uses, hzero, Ledger.single_zero]

theorem uses_node (m : MappingAlgorithm) (path : ForwardingPath) (zoneName : Zone)
    (node : LayerNode) : (m.uses path).1 zoneName (.node node) = 0 := by
  have hother : ∀ placement : Nat × Nat,
      Ledger.single m.zoneName (ServerKey.serverID placement.1)
        (m.expectedAt placement.2) zoneName (.node node) = 0 :=
    fun placement => if_neg (by simp)
  refine (Ledger.sum_apply _ zoneName (ServerKey.node node)).trans ?_
  refine List.sum_eq_zero fun amount hamount => ?_
  obtain ⟨amounts, hamounts, rfl⟩ := List.mem_map.mp hamount
  obtain ⟨placement, -, rfl⟩ := List.mem_map.mp hamounts
  exact hother placement

theorem bandwidth_reservedUnderNodes (h : m.WellFormed path first)
    (node : LayerNode) {l : List Nat}
    (hl : ∀ index ∈ l, 1 ≤ index ∧ index < path.length) :
    ((l.map fun index => Ledger.single m.zoneName (.node (startOf path index))
      (m.expectedAt (index - 1))).sum m.zoneName
        (ServerKey.node node)).bandwidth =
      (l.countP fun index => startOf path index = node) *
        m.sfc.getSFCTrafficDemand := by
  induction l with
  | nil => exact (zero_mul _).symm
  | cons index l ih =>
      obtain ⟨⟨hpos, hlt⟩, hl⟩ := List.forall_mem_cons.mp hl
      have hvnf : index - 1 + 1 < path.length := by omega
      obtain ⟨-, expected, -, -, heq, hbandwidth, -⟩ := h.expected hvnf
      have hterm : (Ledger.single m.zoneName (ServerKey.node (startOf path index))
          (m.expectedAt (index - 1)) m.zoneName
            (.node node)).bandwidth =
          if startOf path index = node then m.sfc.getSFCTrafficDemand else 0 := by
        rw [Ledger.single, heq]
        by_cases hstart : startOf path index = node
        · simp [hstart, hbandwidth]
        · have hne : ¬ node = startOf path index := fun heq => hstart heq.symm
          simp [hstart, hne]
          rfl
      rw [List.map_cons, List.sum_cons, List.countP_cons]
      show (Ledger.single m.zoneName (ServerKey.node (startOf path index))
        (m.expectedAt (index - 1)) m.zoneName (.node node)).bandwidth + _ = _
      rw [hterm, ih hl]
      by_cases hstart : startOf path index = node
      · simp [hstart, add_mul, add_comm]
      · simp [hstart]

theorem servers_ne_of_busy (h : m.WellFormed path first)
    (hlength : 1 < path.length) (hdemand : m.sfc.getSFCTrafficDemand ≠ 0) :
    reservedUnderNodes m path ≠ (m.uses path).1 := by
  intro heq
  have hnode := congrFun (congrFun heq m.zoneName) (.node (startOf path 1))
  rw [uses_node] at hnode
  have hrange : ∀ index ∈ List.range' 1 (path.length - 1),
      1 ≤ index ∧ index < path.length := by
    intro index hindex
    obtain ⟨hpos, hlt⟩ := List.mem_range'_1.mp hindex
    omega
  have hbandwidth := bandwidth_reservedUnderNodes h (startOf path 1) hrange
  have hfirst : 0 < (List.range' 1 (path.length - 1)).countP fun index =>
      startOf path index = startOf path 1 := by
    refine List.countP_pos_iff.mpr ⟨1, ?_, by simp⟩
    exact List.mem_range'_1.mpr (by omega)
  rw [← reservedUnderNodes, hnode] at hbandwidth
  have hzero := mul_eq_zero.mp hbandwidth.symm
  obtain hcount | hnone := hzero
  · exact absurd (Nat.cast_eq_zero.mp hcount) hfirst.ne'
  · exact hdemand hnone

end Run

theorem not_allocatesUse {first : Nat} (h : m.WellFormed path first)
    (hlength : 1 < path.length) (hdemand : m.sfc.getSFCTrafficDemand ≠ 0)
    (s : ReservedResources ServerKey) : ¬ m.AllocatesUse path s := by
  rw [allocatesUse_iff_servers h]
  exact servers_ne_of_busy h hlength hdemand

/-- The allocation is right exactly for paths without VNFs and without
traffic. -/
theorem allocatesUse_iff {first : Nat} (h : m.WellFormed path first)
    (s : ReservedResources ServerKey) :
    m.AllocatesUse path s ↔
      path.length ≤ 1 ∨ m.sfc.getSFCTrafficDemand = 0 := by
  constructor
  · intro huse
    by_contra hbusy
    obtain ⟨hlength, hdemand⟩ := not_or.mp hbusy
    exact not_allocatesUse h (not_le.mp hlength) hdemand s huse
  · exact fun hidle =>
      (allocatesUse_iff_servers h s).mpr (servers_eq_of_idle h hidle)

def twoSwitches (vNFTypeSequence : List Nat) : MappingAlgorithm where
  dib :=
    { servers := Dict.empty.set .turbonet
        ((Dict.empty.set 10001
          ⟨⟨10001, .nfvi, 33, [], 8, 16, 10⟩, true⟩).set 10002
          ⟨⟨10002, .nfvi, 65, [], 8, 16, 10⟩, true⟩)
      switches := Dict.empty.set .turbonet
        ((Dict.empty.set 1
          ⟨⟨1, ⟨32, 27⟩, 2000, [], [], ⟨0, 0, 0, 0, 0⟩⟩, true⟩).set 2
          ⟨⟨2, ⟨64, 27⟩, 2000, [], [], ⟨0, 0, 0, 0, 0⟩⟩, true⟩)
      links := .empty
      serversReservedResources := .empty
      switchesReservedResources := .empty
      linksReservedResources := .empty }
  zoneName := .turbonet
  sfc := ⟨vNFTypeSequence, [], 1, none⟩

/-- A path without VNFs. -/
theorem allocatesUse_iff_noVNF :
    (twoSwitches []).AllocatesUse [[(0, 10001), (0, 1), (0, 2), (0, 10002)]]
      .empty := by
  have hwf : (twoSwitches []).WellFormed
      [[(0, 10001), (0, 1), (0, 2), (0, 10002)]] 0 := by
    refine ⟨by decide, ?_, by decide, by decide, by decide⟩
    intro i segPath hget
    obtain rfl : i = 0 := by
      have hlt := (List.getElem?_eq_some_iff.mp hget).1
      simpa using hlt
    obtain rfl := Option.some.inj hget
    decide
  exact (allocatesUse_iff hwf .empty).mpr (Or.inl (by decide))

def oneFirewall : ForwardingPath :=
  [[(0, 10001), (0, 1), (0, 2), (0, 10002)], [(1, 10002), (1, 2), (1, 10002)]]

theorem wellFormed_oneFirewall :
    (twoSwitches [2]).WellFormed oneFirewall 0 := by
  refine ⟨by decide, ?_, by decide, by decide, by decide⟩
  intro i segPath hget
  have hlt : i < 2 := (List.getElem?_eq_some_iff.mp hget).1
  obtain rfl | rfl : i = 0 ∨ i = 1 := by omega
  · obtain rfl := Option.some.inj hget
    decide
  · obtain rfl := Option.some.inj hget
    decide

/-- The resources of the firewall are reserved under `(1, 10002)`. -/
theorem server_of_firewall_forgotten :
    ¬ ∀ (m : MappingAlgorithm) (path : ForwardingPath) (first : Nat)
      (s : ReservedResources ServerKey), m.WellFormed path first →
        m.AllocatesUse path s := by
  intro h
  refine not_allocatesUse wellFormed_oneFirewall (by decide) ?_ .empty
    (h _ _ _ .empty wellFormed_oneFirewall)
  exact one_ne_zero

end MappingAlgorithm

end SelfAdaptiveMano.Mapping

import SelfAdaptiveMano.P4.P4Controller
import SelfAdaptiveMano.Library.Tables

/-!
# What an SFCI requires of the switches

`requiredRoutes` and `requiredEntries` say which routes and which entries of the
P4 switches an SFCI requires. A well-formed command sends the required routes,
and where the network functions are ones that the P4 switch runs, adding the
SFCI adds the required entries.
-/

namespace SelfAdaptiveMano.P4

open Library

def pathIDOf (directionID : Nat) : Nat :=
  if directionID = SFC_DIRECTION_0 then DIRECTION0_PATHID_OFFSET
  else DIRECTION1_PATHID_OFFSET

/-- The route entries that an SFCI requires: one for each hop of its paths that
gets a route. -/
def requiredRoutes (sfc : SFC) (sfci : SFCI) : Set P4Entry :=
  {e | ∃ diri ∈ sfc.directions, ∃ lst,
    sfci.primaryForwardingPath.get? (pathIDOf diri.ID) = some lst ∧
      ∃ hop ∈ routeHops lst, e = p4RouteEntry hop}

def ieGressEntries (si eport spi : Nat) : List (NFKey × NFData) :=
  [(.counterIngress spi si, .hitIngress),
    (.counterEgress spi si, .hitEgress eport)]

def maskOf (morphic : RouteProtocol) (addr : Option String) : String × String :=
  (getmsk morphic addr).toOption.getD ("", "")

def firewallEntry (morphic : RouteProtocol) (si spi : Nat) (aclins : ACLTuple) :
    NFKey × NFData :=
  (.statelessFirewall morphic.version spi si (maskOf morphic aclins.srcAddr)
      (maskOf morphic aclins.dstAddr) aclins.proto 0,
    if aclins.deny then .hitDrop morphic.version else .hitPermit morphic.version)

def monitorEntry (morphic : RouteProtocol) (si spi : Nat) : NFKey × NFData :=
  if morphic = .ipv4 then
    (.flowMonitor .v4 spi si ("0.0.0.0", "0.0.0.0") ("0.0.0.0", "0.0.0.0")
      PRI_MN, .hitDigest .v4)
  else (.flowMonitor .v6 spi si ("::", "::") ("::", "::") PRI_MN, .hitDigest .v6)

def nfiEntries (morphic : RouteProtocol) (si eport : Nat) (nfi : VNFI)
    (spi : Nat) : List (NFKey × NFData) :=
  ieGressEntries si eport spi ++
    if nfi.vnfType = VNF_TYPE_FW then
      ((nfi.config.getRulesList morphic).toOption.getD []).map
        (firewallEntry morphic si spi)
    else if nfi.vnfType = VNF_TYPE_RATELIMITER then
      let ratelim := (nfi.config.maxMbps).toOption.getD 0 * 1024
      [(.rateLimiter spi si,
        .hitRatelimiter (some (ratelim, ratelim, ratelim, ratelim)))]
    else [monitorEntry morphic si spi]

/-- The entries of a VNFI on the switch `p4id` in one direction. -/
def entriesOn (p4id : Nat) (morphic : RouteProtocol) (si eport : Nat)
    (nfi : VNFI) (spi : Nat) : List ((Nat × NFKey) × NFData) :=
  (nfiEntries morphic si eport nfi spi).map fun e => ((p4id, e.1), e.2)

def nfiEntriesOn (morphic : RouteProtocol) (spis : List Nat) (si eport : Nat)
    (nfi : VNFI) : List ((Nat × NFKey) × NFData) :=
  match p4idOf nfi.node with
  | none => []
  | some p4id => spis.flatMap (entriesOn p4id morphic si eport nfi)

/-- The entries of the VNFIs that P4 switches run, each with the number of its
switch, for the stages that are left. -/
def stageEntries (morphic : RouteProtocol) (spis : List Nat) :
    List (List VNFI) → List ((Nat × NFKey) × NFData)
  | [] => []
  | nf :: nfs =>
      nf.flatMap (nfiEntriesOn morphic spis (nf :: nfs).length
          (SI_PORT_MAP.getD nfs.length 0))
        ++ stageEntries morphic spis nfs

def directionsOf (sfc : SFC) : Bool × Bool :=
  (sfc.directions.any fun d => d.ID == SFC_DIRECTION_0,
    sfc.directions.any fun d => d.ID != SFC_DIRECTION_0)

def requiredEntries (sfc : SFC) (sfci : SFCI) : List ((Nat × NFKey) × NFData) :=
  stageEntries sfci.morphicName (pathIndices (directionsOf sfc) sfci.sfciID)
    sfci.vnfiSequence

/-- A rule that can be written to a P4 switch. -/
def ACLTuple.Writable (morphic : RouteProtocol) (aclins : ACLTuple) : Prop :=
  getmsk morphic aclins.srcAddr = .ok (maskOf morphic aclins.srcAddr) ∧
    getmsk morphic aclins.dstAddr = .ok (maskOf morphic aclins.dstAddr) ∧
    aclins.proto.isSome = true

/-- A VNFI that is not on a P4 switch, or that the connected P4 switch can
run. -/
inductive Supported (morphic : RouteProtocol) (nfi : VNFI) : Prop
  | elsewhere : p4idOf nfi.node = none → Supported morphic nfi
  | firewall (rules : List ACLTuple) : p4idOf nfi.node = some 0 →
      nfi.vnfType = VNF_TYPE_FW →
      nfi.config.getRulesList morphic = .ok rules →
      (∀ aclins ∈ rules, aclins.Writable morphic) → Supported morphic nfi
  | rateLimiter (maxMbps : Nat) : p4idOf nfi.node = some 0 →
      nfi.vnfType = VNF_TYPE_RATELIMITER → nfi.config.maxMbps = .ok maxMbps →
      Supported morphic nfi
  | monitor : p4idOf nfi.node = some 0 → nfi.vnfType = VNF_TYPE_MONITOR →
      Supported morphic nfi

section Handlers

variable {τ β : Type} (platform : Platform τ β)

/-- The SFC has one or two directions, each with an id, addresses that can be
read and a path that leaves the ingress. -/
structure WellFormed (sfc : SFC) (sfci : SFCI) : Prop where
  directions : 1 ≤ sfc.directions.length ∧ sfc.directions.length ≤ 2
  directionID : ∀ diri ∈ sfc.directions,
    diri.ID = SFC_DIRECTION_0 ∨ diri.ID = SFC_DIRECTION_1
  path : ∀ diri ∈ sfc.directions, ∃ lst next,
    sfci.primaryForwardingPath.get? (pathIDOf diri.ID) = some lst ∧
      ignextnode lst = some next
  srcIP : ∀ diri ∈ sfc.directions,
    ∃ value, getintvalfromstr platform diri.srcIP = .ok value
  dstIP : ∀ diri ∈ sfc.directions,
    ∃ value, getintvalfromstr platform diri.dstIP = .ok value

def tables : Tables (P4Controller τ β) (Nat × NFKey) NFData τ where
  entry c k := (c.p4agent.get? k.1).bind fun agent =>
    platform.bfrt.entries agent k.2
  writable c k := (c.p4agent.get? k.1).isSome = true ∧ k.2.Complete
  rest c := c.turbonet

def agentTables : Tables β NFKey NFData Unit where
  entry := platform.bfrt.entries
  writable _ k := k.Complete
  rest _ := ()

variable {platform}

theorem hasDirections_eq {sfc : SFC}
    (h : 1 ≤ sfc.directions.length ∧ sfc.directions.length ≤ 2) :
    hasDirections sfc.directions = .ok (directionsOf sfc) := by
  obtain ⟨hpos, htwo⟩ := h
  rw [directionsOf]
  match hdirections : sfc.directions with
  | [] => simp [hdirections] at hpos
  | [d] => simp [hasDirections, pure, Except.pure]
  | [d, d'] => simp [hasDirections, pure, Except.pure]
  | _ :: _ :: _ :: _ => simp [hdirections] at htwo

def Turbonet.handleAll (turbonet : Turbonet τ) (cmds : List TurbonetCommand)
    (t : τ) : τ :=
  cmds.foldl (fun t cmd => turbonet.handle cmd t) t

@[simp] theorem Turbonet.handleAll_nil (turbonet : Turbonet τ) (t : τ) :
    turbonet.handleAll [] t = t := rfl

@[simp] theorem Turbonet.handleAll_cons (turbonet : Turbonet τ)
    (cmd : TurbonetCommand) (cmds : List TurbonetCommand) (t : τ) :
    turbonet.handleAll (cmd :: cmds) t =
      turbonet.handleAll cmds (turbonet.handle cmd t) := rfl

@[simp] theorem Turbonet.handleAll_append (turbonet : Turbonet τ)
    (cmds cmds' : List TurbonetCommand) (t : τ) :
    turbonet.handleAll (cmds ++ cmds') t =
      turbonet.handleAll cmds' (turbonet.handleAll cmds t) :=
  List.foldl_append

/-- `x` does nothing but send the commands `cmds`, and returns `a`. -/
def Sends {α : Type} (platform : Platform τ β) (x : PyM (P4Controller τ β) α)
    (a : α) (cmds : List TurbonetCommand) : Prop :=
  ∀ c, x.run c =
    .ok a { c with turbonet := platform.turbonet.handleAll cmds c.turbonet }

theorem Sends.pure {α : Type} (a : α) :
    Sends platform (Pure.pure a : PyM (P4Controller τ β) α) a [] :=
  fun _ => rfl

theorem Sends.bind {α α' : Type} {x : PyM (P4Controller τ β) α}
    {f : α → PyM (P4Controller τ β) α'} {a : α} {a' : α'}
    {cmds cmds' : List TurbonetCommand} (hx : Sends platform x a cmds)
    (hf : Sends platform (f a) a' cmds') :
    Sends platform (x >>= f) a' (cmds ++ cmds') := by
  intro c
  rw [PyM.run_bind_ok (hx c), hf, Turbonet.handleAll_append]

theorem Sends.bind_ofOption {α α' : Type} {e : PyError} {o : Option α} {a : α}
    {f : α → PyM (P4Controller τ β) α'} {a' : α'}
    {cmds : List TurbonetCommand} (h : o = some a)
    (hf : Sends platform (f a) a' cmds) :
    Sends platform (PyM.ofOption e o >>= f) a' cmds := by
  rw [h]
  exact hf

theorem Sends.bind_ofExcept {α α' : Type} {r : Except PyError α} {a : α}
    {f : α → PyM (P4Controller τ β) α'} {a' : α'}
    {cmds : List TurbonetCommand} (h : r = .ok a)
    (hf : Sends platform (f a) a' cmds) :
    Sends platform (PyM.ofExcept r >>= f) a' cmds := by
  rw [h]
  exact hf

theorem Sends.forM {α : Type} {l : List α}
    {f : α → PyM (P4Controller τ β) PUnit} {g : α → List TurbonetCommand}
    (h : ∀ a ∈ l, Sends platform (f a) ⟨⟩ (g a)) :
    Sends platform (l.forM f) ⟨⟩ (l.flatMap g) := by
  induction l with
  | nil => exact Sends.pure _
  | cons a l ih =>
      rw [List.flatMap_cons]
      refine Sends.bind (h a List.mem_cons_self) (ih fun a' ha' => ?_)
      exact h a' (List.mem_cons_of_mem a ha')

theorem sends_sendTurbonet (cmd : TurbonetCommand) :
    Sends platform (sendTurbonet platform cmd) () [cmd] :=
  fun _ => rfl

theorem sends_sendRoutes {routecmd : P4Entry → TurbonetCommand} {sfci : SFCI}
    {pathID : Nat} {lst : List (List (Nat × Nat))}
    (h : sfci.primaryForwardingPath.get? pathID = some lst) :
    Sends platform (sendRoutes platform routecmd sfci pathID) (ignextnode lst)
      ((routeHops lst).map fun hop => routecmd (p4RouteEntry hop)) := by
  have hloop : Sends platform ((routeHops lst).forM fun hop =>
      sendTurbonet platform (routecmd (p4RouteEntry hop))) ⟨⟩ _ :=
    Sends.forM fun hop _ => sends_sendTurbonet _
  rw [← List.map_eq_flatMap] at hloop
  rw [← List.append_nil (List.map _ _)]
  exact Sends.bind_ofOption h (Sends.bind hloop (Sends.pure (ignextnode lst)))

theorem sends_sendAt (classifiercmd : P4Entry → TurbonetCommand) (node : Node)
    (entry : Nat → P4Entry) :
    ∃ entries : List P4Entry,
      Sends platform (sendAt platform classifiercmd node entry) ()
        (entries.map classifiercmd) := by
  cases node with
  | server id => exact ⟨[], Sends.pure ()⟩
  | switch id programmable =>
      cases programmable with
      | false => exact ⟨[], Sends.pure ()⟩
      | true => exact ⟨[entry id], sends_sendTurbonet _⟩

theorem sends_sendClassifier (classifiercmd : P4Entry → TurbonetCommand)
    {sfc : SFC} {sfci : SFCI} (h : WellFormed platform sfc sfci)
    {next : Nat → Option Nat} {diri : Direction} (hdiri : diri ∈ sfc.directions)
    {ignext : Nat} (hnext : next diri.ID = some ignext) :
    ∃ entries : List P4Entry, Sends platform
      (sendClassifier platform classifiercmd sfci next diri) ()
      (entries.map classifiercmd) := by
  obtain ⟨src, hsrc⟩ := h.srcIP diri hdiri
  obtain ⟨dst, hdst⟩ := h.dstIP diri hdiri
  obtain ⟨ingress, hingress⟩ := sends_sendAt classifiercmd diri.ingress _
  obtain ⟨egress, hegress⟩ := sends_sendAt classifiercmd diri.egress _
  refine ⟨ingress ++ egress, ?_⟩
  rw [List.map_append]
  exact Sends.bind_ofExcept hsrc (Sends.bind_ofExcept hdst
    (Sends.bind_ofOption hnext (Sends.bind hingress hegress)))

theorem sends_classifiers (classifiercmd : P4Entry → TurbonetCommand)
    {sfc : SFC} {sfci : SFCI} (h : WellFormed platform sfc sfci)
    {next : Nat → Option Nat}
    (hnext : ∀ diri ∈ sfc.directions, ∃ node, next diri.ID = some node) :
    ∃ entries : List P4Entry, Sends platform
      (sfc.directions.forM fun diri =>
        sendClassifier platform classifiercmd sfci next diri) ⟨⟩
      (entries.map classifiercmd) := by
  have hall : ∀ diri ∈ sfc.directions, ∃ entries : List P4Entry, Sends platform
      (sendClassifier platform classifiercmd sfci next diri) ⟨⟩
      (entries.map classifiercmd) := by
    intro diri hdiri
    obtain ⟨node, hnode⟩ := hnext diri hdiri
    exact sends_sendClassifier classifiercmd h hdiri hnode
  generalize sfc.directions = l at hall ⊢
  induction l with
  | nil => exact ⟨[], Sends.pure _⟩
  | cons diri l ih =>
      obtain ⟨entries, hentries⟩ := hall diri List.mem_cons_self
      obtain ⟨entries', hentries'⟩ :=
        ih fun d hd => hall d (List.mem_cons_of_mem diri hd)
      refine ⟨entries ++ entries', ?_⟩
      rw [List.map_append]
      exact Sends.bind hentries hentries'

/-- The hops that the routes of the direction with the path id `pathID` are made
for, if the SFC has that direction. -/
def directionHops (sfci : SFCI) (hasdir : Bool) (pathID : Nat) :
    List (Nat × Nat) :=
  if hasdir then routeHops ((sfci.primaryForwardingPath.get? pathID).getD [])
  else []

def nextNode (sfci : SFCI) (hasdir : Bool) (pathID : Nat) : Option Nat :=
  if hasdir then (sfci.primaryForwardingPath.get? pathID).bind ignextnode
  else none

theorem sends_sendDirection (routecmd : P4Entry → TurbonetCommand) {sfci : SFCI}
    {hasdir : Bool} {pathID : Nat} (h : hasdir = true →
      (sfci.primaryForwardingPath.get? pathID).isSome = true) :
    Sends platform (sendDirection platform routecmd sfci hasdir pathID)
      (nextNode sfci hasdir pathID)
      ((directionHops sfci hasdir pathID).map fun hop =>
        routecmd (p4RouteEntry hop)) := by
  cases hasdir with
  | false => exact Sends.pure none
  | true =>
      obtain ⟨lst, hlst⟩ := Option.isSome_iff_exists.mp (h rfl)
      have hroutes : Sends platform (sendRoutes platform routecmd sfci pathID)
        _ _ := sends_sendRoutes hlst
      simpa [sendDirection, directionHops, nextNode, hlst] using hroutes

def sentRoutes (sfc : SFC) (sfci : SFCI) : List P4Entry :=
  (directionHops sfci (directionsOf sfc).1 DIRECTION0_PATHID_OFFSET ++
    directionHops sfci (directionsOf sfc).2 DIRECTION1_PATHID_OFFSET).map
      p4RouteEntry

theorem directionsOf_fst {sfc : SFC} : (directionsOf sfc).1 = true ↔
    ∃ diri ∈ sfc.directions, diri.ID = SFC_DIRECTION_0 := by
  simp [directionsOf]

theorem directionsOf_snd {sfc : SFC} : (directionsOf sfc).2 = true ↔
    ∃ diri ∈ sfc.directions, diri.ID ≠ SFC_DIRECTION_0 := by
  simp [directionsOf]

theorem mem_sentRoutes_iff {sfc : SFC} {sfci : SFCI}
    (h : WellFormed platform sfc sfci) {e : P4Entry} :
    e ∈ sentRoutes sfc sfci ↔ e ∈ requiredRoutes sfc sfci := by
  simp only [sentRoutes, List.mem_map, List.mem_append, directionHops]
  constructor
  · rintro ⟨hop, hhop | hhop, rfl⟩
    · split at hhop
      · rename_i hdir
        obtain ⟨diri, hdiri, hID⟩ := directionsOf_fst.mp hdir
        obtain ⟨lst, -, hlst, -⟩ := h.path diri hdiri
        rw [show DIRECTION0_PATHID_OFFSET = pathIDOf diri.ID from
          (if_pos hID).symm, hlst] at hhop
        exact ⟨diri, hdiri, lst, hlst, hop, hhop, rfl⟩
      · cases hhop
    · split at hhop
      · rename_i hdir
        obtain ⟨diri, hdiri, hID⟩ := directionsOf_snd.mp hdir
        obtain ⟨lst, -, hlst, -⟩ := h.path diri hdiri
        rw [show DIRECTION1_PATHID_OFFSET = pathIDOf diri.ID from
          (if_neg hID).symm, hlst] at hhop
        exact ⟨diri, hdiri, lst, hlst, hop, hhop, rfl⟩
      · cases hhop
  · rintro ⟨diri, hdiri, lst, hlst, hop, hhop, rfl⟩
    refine ⟨hop, ?_, rfl⟩
    by_cases hID : diri.ID = SFC_DIRECTION_0
    · rw [pathIDOf, if_pos hID] at hlst
      left
      rw [if_pos (directionsOf_fst.mpr ⟨diri, hdiri, hID⟩), hlst]
      exact hhop
    · rw [pathIDOf, if_neg hID] at hlst
      right
      rw [if_pos (directionsOf_snd.mpr ⟨diri, hdiri, hID⟩), hlst]
      exact hhop

theorem path_direction0 {sfc : SFC} {sfci : SFCI}
    (h : WellFormed platform sfc sfci) (hdir : (directionsOf sfc).1 = true) :
    (sfci.primaryForwardingPath.get? DIRECTION0_PATHID_OFFSET).isSome = true := by
  obtain ⟨diri, hdiri, hID⟩ := directionsOf_fst.mp hdir
  obtain ⟨lst, -, hlst, -⟩ := h.path diri hdiri
  rw [pathIDOf, if_pos hID] at hlst
  simp [hlst]

theorem path_direction1 {sfc : SFC} {sfci : SFCI}
    (h : WellFormed platform sfc sfci) (hdir : (directionsOf sfc).2 = true) :
    (sfci.primaryForwardingPath.get? DIRECTION1_PATHID_OFFSET).isSome = true := by
  obtain ⟨diri, hdiri, hID⟩ := directionsOf_snd.mp hdir
  obtain ⟨lst, -, hlst, -⟩ := h.path diri hdiri
  rw [pathIDOf, if_neg hID] at hlst
  simp [hlst]

def nextNodes (sfc : SFC) (sfci : SFCI) (directionID : Nat) : Option Nat :=
  if directionID = SFC_DIRECTION_0 then
    nextNode sfci (directionsOf sfc).1 DIRECTION0_PATHID_OFFSET
  else if directionID = SFC_DIRECTION_1 then
    nextNode sfci (directionsOf sfc).2 DIRECTION1_PATHID_OFFSET
  else none

theorem nextNode_direction {sfc : SFC} {sfci : SFCI}
    (h : WellFormed platform sfc sfci) {diri : Direction}
    (hdiri : diri ∈ sfc.directions) :
    ∃ node, nextNodes sfc sfci diri.ID = some node := by
  obtain ⟨lst, node, hlst, hignext⟩ := h.path diri hdiri
  refine ⟨node, ?_⟩
  obtain hID | hID := h.directionID diri hdiri
  · have hdir := directionsOf_fst.mpr ⟨diri, hdiri, hID⟩
    rw [pathIDOf, if_pos hID] at hlst
    rw [nextNodes, if_pos hID, nextNode, if_pos hdir, hlst]
    exact hignext
  · have hne : diri.ID ≠ SFC_DIRECTION_0 := by rw [hID]; decide
    have hdir := directionsOf_snd.mpr ⟨diri, hdiri, hne⟩
    rw [pathIDOf, if_neg hne] at hlst
    rw [nextNodes, if_neg hne, if_pos hID, nextNode, if_pos hdir, hlst]
    exact hignext

theorem sends_sendSFC (routecmd classifiercmd : P4Entry → TurbonetCommand)
    {sfc : SFC} {sfci : SFCI} (h : WellFormed platform sfc sfci) :
    ∃ entries : List P4Entry, Sends platform
      (sendSFC platform routecmd classifiercmd sfc sfci) true
      ((sentRoutes sfc sfci).map routecmd ++ entries.map classifiercmd) := by
  obtain ⟨entries, hentries⟩ := sends_classifiers classifiercmd h
    fun diri hdiri => nextNode_direction h hdiri
  refine ⟨entries, ?_⟩
  rw [sentRoutes, List.map_map, List.map_append, List.append_assoc,
    ← List.append_nil (entries.map classifiercmd)]
  exact Sends.bind_ofExcept (hasDirections_eq h.directions)
    (Sends.bind (sends_sendDirection routecmd (path_direction0 h))
      (Sends.bind (sends_sendDirection routecmd (path_direction1 h))
        (Sends.bind hentries (Sends.pure true))))

end Handlers

end SelfAdaptiveMano.P4

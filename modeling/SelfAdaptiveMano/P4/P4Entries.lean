import SelfAdaptiveMano.VnfController.VnfController
import Mathlib.Data.Set.Insert

/-!
# What a P4 controller installs

The P4 controller tells the controller of the Turbonet switches which routes and
classifier entries to add and to delete, and it writes the tables of the P4
switch that runs network functions itself. Neither the other controller nor the
runtime of the P4 switch belongs to this repository: `Turbonet` and `Bfrt` are
what is used of them, and `Lawful` says what is relied on.
-/

namespace SelfAdaptiveMano.P4

open Library

inductive RouteProtocol where
  | ipv4
  | ipv6
  | srv6
  | rocev1
  | nsh
  deriving DecidableEq, Repr

/-- An access control rule; the ports are not written to a P4 switch. -/
structure ACLTuple where
  deny : Bool
  proto : Option Nat
  srcAddr : Option String
  dstAddr : Option String
  deriving DecidableEq, Repr

/-- The rules of a firewall, one list for each routing morphic. -/
structure ACLTable where
  ipv4RulesList : List ACLTuple
  ipv6RulesList : List ACLTuple
  srv6RulesList : List ACLTuple
  rocev1RulesList : List ACLTuple
  deriving DecidableEq, Repr

def ACLTable.getRulesList (table : ACLTable) :
    RouteProtocol → Except PyError (List ACLTuple)
  | .ipv4 => pure table.ipv4RulesList
  | .ipv6 => pure table.ipv6RulesList
  | .srv6 => pure table.srv6RulesList
  | .rocev1 => pure table.rocev1RulesList
  | .nsh => throw (.valueError "Unknown route protocol NSH_ROUTE_PROTOCOL")

inductive VNFIConfig where
  | acl (table : ACLTable)
  | rateLimiter (maxMbps : Nat)
  | other
  deriving DecidableEq, Repr

def VNFIConfig.getRulesList (morphic : RouteProtocol) :
    VNFIConfig → Except PyError (List ACLTuple)
  | .acl table => table.getRulesList morphic
  | _ => throw .attributeError

def VNFIConfig.maxMbps : VNFIConfig → Except PyError Nat
  | .rateLimiter maxMbps => pure maxMbps
  | _ => throw .attributeError

/-- A switch or a server. -/
inductive Node where
  | switch (switchID : Nat) (programmable : Bool)
  | server (serverID : Nat)
  deriving DecidableEq, Repr

def Node.getNodeID : Node → Nat
  | switch switchID _ => switchID
  | server serverID => serverID

structure VNFI where
  vnfType : Nat
  config : VNFIConfig
  node : Node
  deriving DecidableEq, Repr

/-- A direction of an SFC; `destination` is the node of its destination and the
addresses are those of its match. -/
structure Direction where
  ID : Nat
  ingress : Node
  egress : Node
  destination : Option Node
  srcIP : String
  dstIP : String
  deriving DecidableEq, Repr

structure SFC where
  directions : List Direction
  deriving DecidableEq

/-- An SFCI with its primary forwarding paths: under the path id of a direction,
for each stage the nodes it passes, each with its layer. -/
structure SFCI where
  sfciID : Nat
  vnfiSequence : List (List VNFI)
  primaryForwardingPath : Dict Nat (List (List (Nat × Nat)))
  morphicName : RouteProtocol
  deriving DecidableEq

def SFC_DIRECTION_0 : Nat := 0
def SFC_DIRECTION_1 : Nat := 1
def DIRECTION0_PATHID_OFFSET : Nat := 1
def DIRECTION1_PATHID_OFFSET : Nat := 128

def ETH_TYPE_IPV4 : Nat := 0x0800
def ETH_TYPE_NSH : Nat := 0x894F

structure P4Match where
  etherType : Nat
  src : Option Nat
  srcMask : Option Nat
  dst : Option Nat
  dstMask : Option Nat
  nsh : Option Nat
  deriving DecidableEq, Repr

inductive ActionType where
  | forward
  | encapsulationNSH
  | decapsulationNSH
  deriving DecidableEq, Repr

inductive FieldType where
  | spi
  | si
  | nextProtocol
  | mdType
  | etherType
  deriving DecidableEq, Repr

structure P4Action where
  actionType : ActionType
  nextNodeID : Nat
  newFieldValueList : Option (List (FieldType × Nat))
  deriving DecidableEq, Repr

/-- `P4RouteEntry` and `P4ClassifierEntry`, which have the same fields. -/
structure P4Entry where
  nodeID : Nat
  matchFields : P4Match
  action : P4Action
  deriving DecidableEq, Repr

/-- The route that sends the packets with an NSH header from `fromnode` to
`tonode`. -/
def p4RouteEntry (hop : Nat × Nat) : P4Entry :=
  ⟨hop.1, ⟨ETH_TYPE_NSH, none, none, none, none, none⟩,
    ⟨.forward, hop.2, none⟩⟩

inductive TurbonetCommand where
  | addNSHRoute (entry : P4Entry)
  | delNSHRoute (entry : P4Entry)
  | addClassifierEntry (entry : P4Entry)
  | delClassifierEntry (entry : P4Entry)
  deriving DecidableEq, Repr

/-- The controller of the Turbonet switches: how its state changes with a
command, and which route entries are installed in a state. -/
structure Turbonet (τ : Type) where
  handle : TurbonetCommand → τ → τ
  routes : τ → Set P4Entry

/-- The route commands do what their names say, and the classifier entries are
kept apart from the routes. -/
structure Turbonet.Lawful {τ : Type} (turbonet : Turbonet τ) : Prop where
  addNSHRoute : ∀ entry t, turbonet.routes
    (turbonet.handle (.addNSHRoute entry) t) = insert entry (turbonet.routes t)
  delNSHRoute : ∀ entry t, turbonet.routes
    (turbonet.handle (.delNSHRoute entry) t) = turbonet.routes t \ {entry}
  addClassifierEntry : ∀ entry t, turbonet.routes
    (turbonet.handle (.addClassifierEntry entry) t) = turbonet.routes t
  delClassifierEntry : ∀ entry t, turbonet.routes
    (turbonet.handle (.delClassifierEntry entry) t) = turbonet.routes t

inductive IPVersion where
  | v4
  | v6
  deriving DecidableEq, Repr

/-- The keys of the tables of a P4 switch. The first two components are the
service path index and the service index; an address comes with its mask. -/
inductive NFKey where
  | counterIngress (spi si : Nat)
  | counterEgress (spi si : Nat)
  | rateLimiter (spi si : Nat)
  | statelessFirewall (version : IPVersion) (spi si : Nat)
      (srcAddr dstAddr : String × String) (nextHdr : Option Nat) (priority : Nat)
  | flowMonitor (version : IPVersion) (spi si : Nat)
      (dstAddr srcAddr : String × String) (priority : Nat)
  deriving DecidableEq, Repr

def NFKey.Complete : NFKey → Prop
  | statelessFirewall _ _ _ _ _ nextHdr _ => nextHdr.isSome = true
  | _ => True

/-- The actions of the tables, with their parameters. -/
inductive NFData where
  | hitIngress
  | hitEgress (portnum : Nat)
  | hitRatelimiter (spec : Option (Nat × Nat × Nat × Nat))
  | hitPermit (version : IPVersion)
  | hitDrop (version : IPVersion)
  | hitDigest (version : IPVersion)
  deriving DecidableEq, Repr

/-- The runtime of a P4 switch: `entry_add`, `entry_mod` and the entries that
the tables hold. -/
structure Bfrt (β : Type) where
  entryAdd : NFKey → NFData → PyM β Unit
  entryMod : NFKey → NFData → PyM β Unit
  entries : β → NFKey → Option NFData

/-- A complete key that is not in the tables can be added, and one that is can
be given other data. -/
structure Bfrt.Lawful {β : Type} (bfrt : Bfrt β) : Prop where
  entryAdd : ∀ {key b}, key.Complete → bfrt.entries b key = none → ∀ data,
    ∃ b', (bfrt.entryAdd key data).run b = .ok () b' ∧
      bfrt.entries b' = Function.update (bfrt.entries b) key (some data)
  entryMod : ∀ {key b old}, bfrt.entries b key = some old → ∀ data,
    ∃ b', (bfrt.entryMod key data).run b = .ok () b' ∧
      bfrt.entries b' = Function.update (bfrt.entries b) key (some data)

end SelfAdaptiveMano.P4

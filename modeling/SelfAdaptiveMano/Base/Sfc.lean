import Mathlib.Data.List.Basic

/-!
# Service function chains

The data that the controllers exchange: an SFC is the chain a tenant asked for,
an SFCI is one instance of it, and a VNFI is one instance of a network function
on a server or a switch. Only the fields that a modelled function reads are
kept.
-/

namespace SelfAdaptiveMano

/-- A unique identifier from `uuid.uuid1()`: the process that generated it and
the value of that process's clock. Two processes never generate the same one. -/
structure UUID where
  generator : Nat
  tick : Nat
  deriving DecidableEq, Repr

inductive Zone where
  | mininet
  | turbonet
  | simulator
  | puffer
  | project3
  | pica8
  | default
  deriving DecidableEq, Repr

def Zone.name : Zone → String
  | mininet => "MININET_ZONE"
  | turbonet => "TURBONET_ZONE"
  | simulator => "SIMULATOR_ZONE"
  | puffer => "PUFFER_ZONE"
  | project3 => "PROJECT3_ZONE"
  | pica8 => "PICA8_ZONE"
  | default => "DEFAULT_ZONE"

structure Server where
  serverID : Nat
  coreNUMADistribution : List (List Nat)
  deriving DecidableEq, Repr

/-- Where a VNFI runs. -/
inductive Node where
  | server (server : Server)
  | switch (switchID : Nat)
  deriving DecidableEq, Repr

/-- A network function of a chain; only its configuration is read. -/
structure VNF where
  config : String
  deriving DecidableEq, Repr

/-- An instance of a virtual network function. -/
structure VNFI where
  vnfType : Nat
  vnfiID : UUID
  config : String
  node : Node
  maxCPUNum : Nat
  deriving DecidableEq, Repr

/-- An instance of an SFC: for each stage of the chain, the VNFIs of that
stage. -/
structure SFCI where
  sfciID : Nat
  vnfiSequence : List (List VNFI)
  deriving DecidableEq, Repr

/-- One direction of a chain: where its traffic enters and leaves the network,
`none` as long as nothing was selected. -/
structure Direction where
  ingress : Option Node
  egress : Option Node
  deriving DecidableEq, Repr

/-- A service function chain. -/
structure SFC where
  sfcUUID : UUID
  vNFTypeSequence : List Nat
  vnfSequence : List VNF
  directions : List Direction
  zone : Zone
  deriving DecidableEq, Repr

/-- The states of an SFC or an SFCI, from `sfcConstant.py`. -/
inductive SFCState where
  | inProcessing
  | initFailed
  | active
  | inactive
  | deleted
  | undeleted
  | manual
  | recoverMode
  | scalingOutMode
  | scalingInMode
  deriving DecidableEq, Repr

/-- The column of a state may be empty, and is looked for in lists of states. -/
instance lawfulBEq_state : LawfulBEq (Option SFCState) := inferInstance

end SelfAdaptiveMano

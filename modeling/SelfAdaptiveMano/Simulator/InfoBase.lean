import SelfAdaptiveMano.Base.Command
import SelfAdaptiveMano.Library.Python
import Mathlib.Data.Finset.Basic

/-!
# The information base of the simulator

The simulator keeps the switches, servers and links of a data centre with what
the SFCIs use of them: next-hop entries in the TCAM of the switches, the users of
the links, and the VNFIs on each node. A use is recorded under the SFCI, the
direction, the stage and the number of the hop in the stage.
-/

namespace SelfAdaptiveMano.Simulator

open Library

inductive ServerType where
  | classifier
  | normal
  | nfvi
  | tester
  deriving DecidableEq, Repr

inductive SwitchType where
  | forward
  | npop
  | dcnGateway
  deriving DecidableEq, Repr

inductive Node where
  | server (serverID : Nat)
  | switch (switchID : Nat) (programmable : Bool) (switchType : SwitchType)
  | other
  deriving DecidableEq, Repr

/-- A VNFI; `maxMbps` is read from the configuration of a rate limiter, and is
`none` where that has no such field. -/
structure VNFI where
  vnfType : Nat
  node : Node
  maxCPUNum : Nat
  maxMem : Nat
  maxMbps : Option Nat
  deriving DecidableEq, Repr

structure Direction where
  ID : Nat
  ingress : Node
  egress : Node
  deriving DecidableEq, Repr

/-- An SFC; `throughput` is that of its service level objective, if it has
one. -/
structure SFC where
  sfcUUID : UUID
  directions : List Direction
  throughput : Option Nat
  deriving DecidableEq

structure SFCI where
  sfciID : Nat
  vnfiSequence : List (List VNFI)
  primaryForwardingPath : Dict Nat (List (List (Nat × Nat)))
  deriving DecidableEq

/-- `(sfciID, dirID, stage, hop)`. -/
structure HopKey where
  sfciID : Nat
  dirID : Nat
  stage : Nat
  hop : Nat
  deriving DecidableEq, Repr

/-- A switch with its `Status`. -/
structure SwitchInfo where
  tcamUsage : Nat
  tcamSize : Nat
  nextHop : Dict HopKey Nat
  deriving DecidableEq

/-- A link with its `Status`. -/
structure LinkInfo where
  usedBy : Finset HopKey
  deriving DecidableEq

structure VNFIInfo where
  sfciID : Nat
  stage : Nat
  vnfi : VNFI
  cpu : Nat
  mem : Nat
  deriving DecidableEq, Repr

structure SFCIInfo where
  sfc : SFC
  sfci : SFCI
  traffics : Dict Nat (List Nat)
  deriving DecidableEq

structure Flow where
  bw : Nat
  sfciID : Nat
  dirID : Nat
  deriving DecidableEq, Repr

/-- `SimulatorInfoBaseMaintainer`; of the paths between the top-of-rack switches
only their number is read. -/
structure Sib where
  switches : Dict Nat SwitchInfo
  servers : Dict Nat ServerType
  links : Dict (Nat × Nat) LinkInfo
  serverLinks : Dict (Nat × Nat) LinkInfo
  vnfis : Dict Nat (List VNFIInfo)
  sfcs : Dict UUID SFC
  sfcis : Dict Nat SFCIInfo
  flows : Dict Nat Flow
  torNum : Nat
  deriving DecidableEq

/-- A use of the hop from `src` to `dst`. -/
structure Hop where
  key : HopKey
  src : Nat
  dst : Nat
  deriving DecidableEq, Repr

def pathNodes (path : List (Nat × Nat)) : List Nat := path.map Prod.snd

def hopsOf (sfciID dirID : Nat) (pathlist : List (List (Nat × Nat))) :
    List Hop :=
  pathlist.zipIdx.flatMap fun (path, stage) =>
    ((pathNodes path).zip (pathNodes path).tail).zipIdx.map
      fun (ends, hop) => ⟨⟨sfciID, dirID, stage, hop⟩, ends.1, ends.2⟩

end SelfAdaptiveMano.Simulator

import SelfAdaptiveMano.Base.Sfc
import SelfAdaptiveMano.Library.Objects

/-!
# BESS, the software switch of a server

The SFF controller drives a BESS on each server. It creates ports and modules,
connects output gates of modules to other modules, and adds rules to the match
tables. BESS is not part of the repository: `Bess` is what the controller calls,
and `Bess.Lawful` what the documentation of BESS says of the calls, as far as it
is seen in the pipeline.
-/

namespace SelfAdaptiveMano.Sff

open Library

/-- The ports and modules that every server has. -/
inductive BaseName where
  | datapathNICPort
  | input0
  | output0
  | wm1
  | wm2
  | em1
  | ar
  | pr
  | sink1
  | ms
  | outmerge
  | macSwapMerge
  deriving DecidableEq, Repr

inductive NameClass where
  | pmdPort
  | queueInc
  | queueOut
  | update
  | ipChecksum
  deriving DecidableEq, Repr

/-- The name of a port or a module. The names of VNFIs are texts
`class_vnfiID_directionID`; the id of a VNFI has no underscore in it. -/
inductive Name where
  | base (name : BaseName)
  | vnfi (nameClass : NameClass) (vnfiID : UUID) (directionID : Nat)
  deriving DecidableEq, Repr

inductive ModuleClass where
  | queueInc
  | queueOut
  | update
  | ipChecksum
  | wildcardMatch
  | exactMatch
  | arpResponder
  | pingResponder
  | sink
  | macSwap
  | merge
  deriving DecidableEq, Repr

/-- The argument of a PMD port: the port of a NIC, or the virtual device of a
VNFI in a direction. -/
structure PortArg where
  loopback : Bool
  portID : Option Nat
  vdev : Option (UUID × Nat)
  deriving DecidableEq, Repr

/-- The argument of a module: its port and queue, the fields that it matches
(offset and size) or writes (offset, size and value). -/
inductive ModuleArg where
  | none
  | queue (port : Name) (qid : Nat)
  | fields (fields : List (Nat × Nat))
  | update (fields : List (Nat × Nat × Nat))
  | ipChecksum (verify : Nat)
  deriving DecidableEq, Repr

def ModuleArg.port : ModuleArg → Option Name
  | .queue port _ => some port
  | _ => .none

structure Match where
  values : List Nat
  masks : List Nat
  deriving DecidableEq, Repr

/-- The calls of the controller. -/
inductive Request where
  | pauseAll
  | resumeAll
  | resetAll
  | createPort (name : Name) (arg : PortArg)
  | destroyPort (name : Name)
  | createModule (name : Name) (mclass : ModuleClass) (arg : ModuleArg)
  | destroyModule (name : Name)
  | connectModules (m1 m2 : Name) (ogate igate : Nat)
  | disconnectModules (name : Name) (ogate : Nat)
  | addRule (table : Name) (rule : Match) (gate : Nat)
  | deleteRule (table : Name) (rule : Match)
  | setDefaultGate (table : Name) (gate : Nat)
  | addResponder (name : Name) (ip : Nat) (mac : Option Nat)
  deriving DecidableEq, Repr

/-- What the pipeline keeps things under. -/
inductive Key where
  | port (name : Name)
  | module (name : Name)
  | gate (name : Name) (ogate : Nat)
  | rule (table : Name) (rule : Match)
  deriving DecidableEq, Repr

inductive Content where
  | port
  | module (mclass : ModuleClass) (port : Option Name)
  | link (m2 : Name) (igate : Nat)
  | rule (gate : Nat)
  deriving DecidableEq, Repr

abbrev Object := Key × Content

/-- A module on a port needs the port, a link needs both modules and a rule its
table. A queue of a port is for one module. -/
def pipeline : Objects Key Content where
  needs
    | (.module _, .module _ (some port)), k => k = .port port
    | (.gate m1 _, .link m2 _), k => k = .module m1 ∨ k = .module m2
    | (.rule table _, _), k => k = .module table
    | _, _ => False
  excludes
    | (.module _, .module mclass (some port)),
      (.module _, .module mclass' (some port')) =>
        mclass = mclass' ∧ port = port'
    | _, _ => False

def Request.created : Request → Option Object
  | .createPort name _ => some (.port name, .port)
  | .createModule name mclass arg => some (.module name, .module mclass arg.port)
  | .connectModules m1 m2 ogate igate => some (.gate m1 ogate, .link m2 igate)
  | .addRule table rule gate => some (.rule table rule, .rule gate)
  | _ => none

def Request.destroyed : Request → Option Key
  | .destroyPort name => some (.port name)
  | .destroyModule name => some (.module name)
  | .disconnectModules name ogate => some (.gate name ogate)
  | .deleteRule table rule => some (.rule table rule)
  | _ => none

/-- The module that a request sets up without a change to the pipeline. -/
def Request.configured : Request → Option Name
  | .setDefaultGate table _ => some table
  | .addResponder name _ _ => some name
  | _ => none

/-- A BESS with states `β`: whether it answers, what a call returns (whether
there was no error) and does, and the objects in its pipeline. -/
structure Bess (β : Type) where
  getVersion : β → Bool
  call : Request → β → Bool × β
  entry : β → Key → Option Content

/-- The objects in a BESS are `S`. -/
def Bess.Shows {β : Type} (bess : Bess β) (b : β) (S : Set Object) : Prop :=
  ∀ k c, bess.entry b k = some c ↔ (k, c) ∈ S

/-- What BESS does. A call that creates or destroys an object succeeds where that
is possible; pausing and resuming do not touch the pipeline. -/
structure Bess.Lawful {β : Type} (bess : Bess β) : Prop where
  answers : ∀ b, bess.getVersion b = true
  pauseAll : ∀ b, bess.entry (bess.call .pauseAll b).2 = bess.entry b
  resumeAll : ∀ b, bess.entry (bess.call .resumeAll b).2 = bess.entry b
  resetAll : ∀ b, bess.entry (bess.call .resetAll b).2 = fun _ => none
  create : ∀ {request e b S}, request.created = some e → bess.Shows b S →
    pipeline.Creatable S e → (bess.call request b).1 = true ∧
      bess.Shows (bess.call request b).2 (insert e S)
  destroy : ∀ {request b S} {e : Object}, request.destroyed = some e.1 →
    bess.Shows b S → pipeline.Destroyable S e →
    (bess.call request b).1 = true ∧
      bess.Shows (bess.call request b).2 (S \ {e})
  configure : ∀ {request name b c}, request.configured = some name →
    bess.entry b (.module name) = some c → (bess.call request b).1 = true ∧
      bess.entry (bess.call request b).2 = bess.entry b

end SelfAdaptiveMano.Sff

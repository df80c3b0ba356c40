import SelfAdaptiveMano.Base.Sfc
import SelfAdaptiveMano.Library.Dict

/-!
# The BESS of a classifier

The classifier controller sets up a BESS on each server that traffic enters at.
BESS is not part of the repository: `Bess` is what the controller calls, and
`Bess.Lawful` what the documentation of BESS says of the calls, as far as it is
seen in the ports, modules, links and rules (`View`). A legal call is answered
without an error, and a call that is answered with one changes nothing. The name
of a module is not given twice, and only modules that are there are connected;
for the rest it is left open what BESS answers to a call that is not legal.
-/

namespace SelfAdaptiveMano.Classifier

open Library

/-- The port and the modules that every classifier has. -/
inductive BaseName where
  | datapathNICPort
  | input0
  | output0
  | setmetadata
  | wm1
  | ms
  | wm2
  | ar
  | ee
  | gdInit
  | etherEncapMerge
  | outmerge
  | sink1
  | sink2
  deriving DecidableEq, Repr

inductive ModuleClass where
  | queueInc
  | queueOut
  | setMetadata
  | wildcardMatch
  | macSwap
  | arpResponder
  | etherEncap
  | genericDecap
  | ipEncap
  | merge
  | sink
  | hashLB
  deriving DecidableEq, Repr

/-- The name of a port or a module: `HashLB_sfcUUID_directionID` for a direction
of an SFC, and `class_sfciID_directionID` for one of an SFCI. -/
inductive Name where
  | base (name : BaseName)
  | hashLB (sfcUUID : UUID) (directionID : Nat)
  | sfci (mclass : ModuleClass) (sfciID directionID : Nat)
  deriving DecidableEq, Repr

abbrev Bytes := List Nat

/-- An attribute of a SetMetadata module: its name and size, and the offset that
it is read from or the value that it is set to. -/
structure Attr where
  name : String
  size : Nat
  offset : Option Nat
  valueBin : Option Bytes
  deriving DecidableEq, Repr

/-- The argument of a module: its port and queue, the fields that it matches
(offset and number of bytes), the attributes that it sets, the number of bytes
that it takes off or the mode that it balances in. -/
inductive ModuleArg where
  | none
  | queue (port : Name) (qid : Nat)
  | fields (fields : List (Nat × Nat))
  | attrs (attrs : List Attr)
  | bytes (bytes : Nat)
  | mode (mode : String)
  deriving DecidableEq, Repr

structure Module where
  mclass : ModuleClass
  arg : ModuleArg
  deriving DecidableEq, Repr

def Module.port (m : Module) : Option Name :=
  match m.arg with
  | .queue port _ => some port
  | _ => none

def Module.sizes (m : Module) : List Nat :=
  match m.arg with
  | .fields fields => fields.map Prod.snd
  | _ => []

/-- A rule of a match table, with a value and a mask for each field. -/
structure Match where
  values : List Bytes
  masks : List Bytes
  deriving DecidableEq, Repr

def Match.Fits (rule : Match) (sizes : List Nat) : Prop :=
  rule.values.map List.length = sizes ∧ rule.masks.map List.length = sizes

instance (rule : Match) (sizes : List Nat) : Decidable (rule.Fits sizes) :=
  inferInstanceAs (Decidable (_ ∧ _))

/-- The calls of the controller. -/
inductive Request where
  | pauseAll
  | resumeAll
  | resetAll
  | listModules
  | createPort (name : Name) (loopback : Bool) (portID : Nat)
  | createModule (name : Name) (m : Module)
  | destroyModule (name : Name)
  | connectModules (m1 m2 : Name) (ogate igate : Nat)
  | disconnectModules (name : Name) (ogate : Nat)
  | addRule (table : Name) (rule : Match) (gate : Nat)
  | deleteRule (table : Name) (rule : Match)
  | setDefaultGate (table : Name) (gate : Nat)
  | addResponder (name : Name) (ip mac : Nat)
  | addGates (name : Name) (gates : List Nat)
  deriving DecidableEq, Repr

/-- The ports and modules of a BESS, which module each output gate is connected
to, and the gate of each rule of a match table. -/
structure View where
  ports : Name → Bool
  modules : Name → Option Module
  links : Name → Nat → Option Name
  rules : Name → Match → Option Nat

namespace View

def empty : View where
  ports _ := false
  modules _ := none
  links _ _ := none
  rules _ _ := none

/-- What a call that is answered without an error does. The links of a module
are destroyed with it, and a rule with the same values and masks is replaced. -/
def after (v : View) : Request → View
  | .resetAll => empty
  | .createPort name _ _ =>
      { v with ports := fun n => if n = name then true else v.ports n }
  | .createModule name m =>
      { v with modules := fun n => if n = name then some m else v.modules n }
  | .destroyModule name =>
      { v with
        modules := fun n => if n = name then none else v.modules n
        links := fun n g =>
          if n = name ∨ v.links n g = some name then none else v.links n g
        rules := fun n rule => if n = name then none else v.rules n rule }
  | .connectModules m1 m2 ogate _ =>
      { v with
        links := fun n g => if n = m1 ∧ g = ogate then some m2 else v.links n g }
  | .disconnectModules name ogate =>
      { v with
        links := fun n g => if n = name ∧ g = ogate then none else v.links n g }
  | .addRule table rule gate =>
      { v with
        rules := fun n r =>
          if n = table ∧ r = rule then some gate else v.rules n r }
  | .deleteRule table rule =>
      { v with
        rules := fun n r => if n = table ∧ r = rule then none else v.rules n r }
  | _ => v

def QueueFree (v : View) (m : Module) : Prop :=
  ∀ port, m.port = some port → v.ports port = true ∧
    ∀ name m', v.modules name = some m' → m'.port = some port →
      m'.mclass ≠ m.mclass

/-- The calls that are answered without an error. -/
def Legal (v : View) : Request → Prop
  | .pauseAll | .resumeAll | .resetAll | .listModules => True
  | .createPort name _ _ => v.ports name = false
  | .createModule name m => v.modules name = none ∧ v.QueueFree m
  | .destroyModule name => v.modules name ≠ none
  | .connectModules m1 m2 ogate _ =>
      v.modules m1 ≠ none ∧ v.modules m2 ≠ none ∧ v.links m1 ogate = none
  | .disconnectModules name ogate => v.links name ogate ≠ none
  | .addRule table rule _ => ∃ m, v.modules table = some m ∧
      m.mclass = .wildcardMatch ∧ rule.Fits m.sizes
  | .deleteRule table rule => v.rules table rule ≠ none
  | .setDefaultGate table _ => v.modules table ≠ none
  | .addResponder name _ _ => v.modules name ≠ none
  | .addGates _ _ => False

/-- What BESS makes sure of before it does a call. -/
def Possible (v : View) : Request → Prop
  | .createModule name _ => v.modules name = none
  | .connectModules m1 m2 _ _ => v.modules m1 ≠ none ∧ v.modules m2 ≠ none
  | _ => True

end View

/-- A BESS with states `β`: whether it answers, what a call returns (whether
there was no error) and does, and what is seen of it. -/
structure Bess (β : Type) where
  getVersion : β → Bool
  call : Request → β → Bool × β
  view : β → View

structure Bess.Lawful {β : Type} (bess : Bess β) : Prop where
  accepts : ∀ {request b}, (bess.view b).Legal request →
    (bess.call request b).1 = true
  possible : ∀ {request b}, (bess.call request b).1 = true →
    (bess.view b).Possible request
  accepted : ∀ {request b}, (bess.call request b).1 = true →
    bess.view (bess.call request b).2 = (bess.view b).after request
  refused : ∀ {request b}, (bess.call request b).1 = false →
    bess.view (bess.call request b).2 = bess.view b

/-! ## A BESS that is its view -/

namespace View

/-- Whether there is no error. A queue of a port may be given to two modules. -/
def answers (v : View) : Request → Bool
  | .pauseAll | .resumeAll | .resetAll | .listModules => true
  | .createPort name _ _ => !v.ports name
  | .createModule name m => (v.modules name).isNone && m.port.all v.ports
  | .destroyModule name => (v.modules name).isSome
  | .connectModules m1 m2 ogate _ =>
      (v.modules m1).isSome && (v.modules m2).isSome && (v.links m1 ogate).isNone
  | .disconnectModules name ogate => (v.links name ogate).isSome
  | .addRule table rule _ => (v.modules table).any fun m =>
      m.mclass == .wildcardMatch && decide (rule.Fits m.sizes)
  | .deleteRule table rule => (v.rules table rule).isSome
  | .setDefaultGate table _ => (v.modules table).isSome
  | .addResponder name _ _ => (v.modules name).isSome
  | .addGates _ _ => false

theorem Legal.answers {v : View} {r : Request} (h : v.Legal r) :
    v.answers r = true := by
  cases r with
  | createModule name m =>
      obtain ⟨hnone, hqueue⟩ := h
      have hport : m.port.all v.ports = true := by
        cases hport : m.port with
        | none => rfl
        | some port => exact (hqueue port hport).1
      simp [View.answers, hnone, hport]
  | _ =>
      simp_all [View.answers, Legal, Option.isSome_iff_ne_none,
        Option.any_eq_true]

theorem possible_of_answers {v : View} {r : Request} (h : v.answers r = true) :
    v.Possible r := by
  cases r <;>
    simp_all [View.answers, Possible, Option.isSome_iff_ne_none]

end View

def viewBess : Bess View where
  getVersion _ := true
  call r v := if v.answers r then (true, v.after r) else (false, v)
  view v := v

theorem viewBess_call (r : Request) (v : View) :
    viewBess.call r v = (v.answers r, if v.answers r then v.after r else v) := by
  simp only [viewBess]
  cases v.answers r <;> rfl

theorem viewBess_lawful : viewBess.Lawful where
  accepts {r v} h := by
    rw [viewBess_call]
    exact h.answers
  possible {r v} h := by
    rw [viewBess_call] at h
    exact View.possible_of_answers h
  accepted {r v} h := by
    rw [viewBess_call] at h ⊢
    exact if_pos h
  refused {r v} h := by
    rw [viewBess_call] at h ⊢
    exact if_neg (Bool.eq_false_iff.mp h)

end SelfAdaptiveMano.Classifier

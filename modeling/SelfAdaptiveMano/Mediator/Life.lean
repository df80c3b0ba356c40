import SelfAdaptiveMano.Mediator.Mediator
import Mathlib.Logic.Function.Basic
import Mathlib.Data.List.Count

/-!
# The life of one command

The command store mixes the entries of all commands. Seen from one parent
command it is much simpler: the command arrives, its children are registered,
some of them are sent, they are answered one by one, and at some point the
command is settled and forgotten. `Life` is that view. It keeps the children
themselves, by name, instead of their ids, and stays known after the Mediator
has removed the command from its store (`stored`), so that what was said about
a command can still be compared with what happened to its children.

The Mediator is the independent union of the lives of its commands:
`Represents m A` says that the store of `m` holds exactly the entries of the
stored lives of `A`, and that what the Mediator did about a command is the
history of its life.
-/

namespace SelfAdaptiveMano

open Library

def Mediator.historyOf (m : Mediator) (parent : UUID) : List Happening :=
  m.trace.filterMap fun e => if e.parent = parent then some e.what else none

/-- A child command. -/
structure Kid where
  cmd : Command
  state : CmdState
  cmdReply : Option CommandReply

structure Life where
  cmd : Command
  kids : Dict MsgType Kid
  stored : Bool
  history : List Happening

/-- The entry of a child of the parent `parent`. -/
def Kid.info (k : Kid) (parent : UUID) : CmdInfo where
  cmd := k.cmd
  state := k.state
  cmdReply := k.cmdReply
  parentCmdID := some parent
  childCmdID := .empty

def Kid.fromUnknown (k : Kid) : Kid :=
  { k with cmd := { k.cmd with
      attributes := { k.cmd.attributes with source := some "unknown" } } }

namespace Life

def childCmdID (l : Life) : Dict MsgType UUID := l.kids.map fun k => k.cmd.cmdID

def info (l : Life) (state : CmdState) : CmdInfo where
  cmd := l.cmd
  state := state
  cmdReply := none
  parentCmdID := none
  childCmdID := l.childCmdID

def log (l : Life) (what : Happening) : Life :=
  { l with history := l.history ++ [what] }

def setKid (l : Life) (name : MsgType) (k : Kid) : Life :=
  { l with kids := l.kids.set name k }

def start (cmd : Command) : Life := ⟨cmd, .empty, true, [.received cmd]⟩

/-- The child command under a new id, not sent yet. -/
def newKid (l : Life) (cCmdID : UUID) : Kid :=
  ⟨{ l.cmd with cmdID := cCmdID }, .waiting, none⟩

def prepare (l : Life) (name : MsgType) (cCmdID : UUID) : Life :=
  (l.setKid name (l.newKid cCmdID)).log (.prepared name cCmdID)

/-- Send the child `k` filed under `name`. -/
def send (l : Life) (name : MsgType) (k : Kid) (queue : String) : Life :=
  (l.log (.sent queue ⟨name, .command k.cmd⟩)).setKid name
    { k with state := .processing }

def dispatch (l : Life) (name : MsgType) (queue : String) (cCmdID : UUID) :
    Life :=
  (l.prepare name cCmdID).send name (l.newKid cCmdID) queue

/-- Register children one after the other, each under the next id; a child with
a queue is sent there at once. -/
def register (l : Life) (clock : Nat) :
    List (MsgType × Option String) → Life
  | [] => l
  | (name, some queue) :: rest =>
      (l.dispatch name queue ⟨Mediator.generator, clock⟩).register (clock + 1)
        rest
  | (name, none) :: rest =>
      (l.prepare name ⟨Mediator.generator, clock⟩).register (clock + 1) rest

@[simp] theorem prepare_cmd (l : Life) (name : MsgType) (cCmdID : UUID) :
    (l.prepare name cCmdID).cmd = l.cmd := rfl

@[simp] theorem dispatch_cmd (l : Life) (name : MsgType) (queue : String)
    (cCmdID : UUID) :
    (l.dispatch name queue cCmdID).cmd = l.cmd := rfl

@[simp] theorem prepare_stored (l : Life) (name : MsgType) (cCmdID : UUID) :
    (l.prepare name cCmdID).stored = l.stored := rfl

@[simp] theorem dispatch_stored (l : Life) (name : MsgType) (queue : String)
    (cCmdID : UUID) :
    (l.dispatch name queue cCmdID).stored = l.stored := rfl

theorem get?_setKid (l : Life) (name n : MsgType) (k : Kid) :
    (l.setKid name k).kids.get? n =
      if n = name then some k else l.kids.get? n :=
  Dict.get?_set l.kids name n k

theorem get?_prepare (l : Life) (name n : MsgType) (cCmdID : UUID) :
    (l.prepare name cCmdID).kids.get? n =
      if n = name then some (l.newKid cCmdID) else l.kids.get? n :=
  l.get?_setKid name n _

theorem get?_send (l : Life) (name n : MsgType) (k : Kid) (queue : String) :
    (l.send name k queue).kids.get? n =
      if n = name then some { k with state := .processing }
      else l.kids.get? n :=
  l.get?_setKid name n _

theorem get?_dispatch (l : Life) (name n : MsgType) (queue : String)
    (cCmdID : UUID) :
    (l.dispatch name queue cCmdID).kids.get? n =
      if n = name then some { l.newKid cCmdID with state := .processing }
      else l.kids.get? n := by
  rw [dispatch, get?_send, get?_prepare]
  by_cases h : n = name <;> simp [h]

theorem register_append (l : Life) (clock : Nat)
    (items items' : List (MsgType × Option String)) :
    l.register clock (items ++ items') =
      (l.register clock items).register (clock + items.length) items' := by
  induction items generalizing l clock with
  | nil => rfl
  | cons e items ih =>
      rcases e with ⟨name, queue | queue⟩
      · rw [List.cons_append, register, register, ih, List.length_cons,
          Nat.add_comm items.length, Nat.add_assoc]
      · rw [List.cons_append, register, register, ih, List.length_cons,
          Nat.add_comm items.length, Nat.add_assoc]

@[simp] theorem register_cmd (l : Life) (clock : Nat)
    (items : List (MsgType × Option String)) :
    (l.register clock items).cmd = l.cmd := by
  induction items generalizing l clock with
  | nil => rfl
  | cons e items ih =>
      rcases e with ⟨name, queue | queue⟩
      · rw [register, ih, prepare_cmd]
      · rw [register, ih, dispatch_cmd]

@[simp] theorem register_stored (l : Life) (clock : Nat)
    (items : List (MsgType × Option String)) :
    (l.register clock items).stored = l.stored := by
  induction items generalizing l clock with
  | nil => rfl
  | cons e items ih =>
      rcases e with ⟨name, queue | queue⟩
      · rw [register, ih, prepare_stored]
      · rw [register, ih, dispatch_stored]

theorem get?_register_of_not_mem (l : Life) (clock : Nat) {n : MsgType}
    {items : List (MsgType × Option String)} (hn : n ∉ items.map Prod.fst) :
    (l.register clock items).kids.get? n = l.kids.get? n := by
  induction items generalizing l clock with
  | nil => rfl
  | cons e items ih =>
      rw [List.map_cons, List.mem_cons, not_or] at hn
      rcases e with ⟨name, queue | queue⟩
      · rw [register, ih _ _ hn.2, get?_prepare, if_neg hn.1]
      · rw [register, ih _ _ hn.2, get?_dispatch, if_neg hn.1]

def inZone (zone : Zone) (name : MsgType) (queueType : QueueType) :
    MsgType × Option String :=
  (name, some (genQueueName queueType (some zone)))

def classifierItem (classifierType : ClassifierType) :
    List (MsgType × Option String) :=
  if classifierType = .server then
    [inZone .puffer .classifierControllerCmd .serverClassifierController]
  else []

/-- The children of a command: `none` for a type that its zone does not know,
no child at all in a zone that the Mediator does not know. -/
def plan (classifierType : ClassifierType) (cmd : Command) :
    Option (List (MsgType × Option String)) :=
  let sff (zone : Zone) := inZone zone .sffControllerCmd .sffController
  let p4 := inZone .turbonet .p4ControllerCmd .p4Controller
  let network := inZone .puffer .networkControllerCmd .networkController
  let vnf (zone : Zone) := inZone zone .vnfControllerCmd .vnfController
  let unsentVnf : MsgType × Option String := (.vnfControllerCmd, none)
  let classifier := classifierItem classifierType
  match cmd.attributes.zone with
  | some .simulator =>
      some [(.simulatorCmd, some (genQueueName .simulator none))]
  | some .turbonet =>
      match cmd.cmdType with
      | .addSFC | .delSFC => some [p4]
      | .addSFCI => some [sff .turbonet, p4, unsentVnf]
      | .delSFCI => some [sff .turbonet, p4, vnf .turbonet]
      | _ => none
  | some .puffer =>
      match cmd.cmdType with
      | .addSFC | .delSFC => some (classifier ++ [network])
      | .addSFCI => some (classifier ++ [sff .puffer, network, unsentVnf])
      | .delSFCI => some (classifier ++ [sff .puffer, network, vnf .puffer])
      | .getServerSet =>
          some [inZone .puffer .serverManagerCmd .serverManager]
      | .getTopology => some [network]
      | .getSFCIState => some [sff .puffer]
      | _ => none
  | _ => some []

def born (classifierType : ClassifierType) (clock : Nat) (cmd : Command) :
    Life :=
  match plan classifierType cmd with
  | some items => (start cmd).register clock items
  | none => { start cmd with stored := false }

@[simp] theorem born_cmd (classifierType : ClassifierType) (clock : Nat)
    (cmd : Command) : (born classifierType clock cmd).cmd = cmd := by
  rw [born]
  cases plan classifierType cmd with
  | none => rfl
  | some items => exact register_cmd ..

def allKids (l : Life) (test : CmdState → Bool) : Bool :=
  l.kids.items.all fun e => test e.2.state

def anyKid (l : Life) (test : CmdState → Bool) : Bool :=
  l.kids.items.any fun e => test e.2.state

/-- The replies of the children, in the order in which the children were
registered. -/
def replies (l : Life) : List (Option CommandReply) :=
  l.kids.items.map fun e => e.2.cmdReply

/-- The reply that is due when the last answer was `state`: success when every
child succeeded, failure when this answer is the only failure. -/
def verdict (l : Life) (state : CmdState) : Option CmdState :=
  if l.allKids (· == .successful) then some .successful
  else if l.anyKid (· == .fail) then
    if (l.kids.items.map fun e => e.2.state).count .fail == 1 && state == .fail
    then some .fail else none
  else none

/-- The parent's reply, unless making or sending it raises. -/
def reply? (l : Life) (state : CmdState) : Option CommandReply :=
  match Mediator.getMixedAttributes l.replies with
  | .ok attr =>
      if Mediator.replyError l.cmd.cmdType = none then
        some ⟨l.cmd.cmdID, state, attr⟩
      else none
  | .error _ => none

def sffSuccessful (l : Life) : Bool :=
  (l.kids.get? .sffControllerCmd).any fun sff => sff.state == .successful

/-- The child for the VNF controller, when it is due, and the zone it goes to.
-/
def dueVnf (l : Life) : Option (Kid × Zone) :=
  match l.kids.get? .vnfControllerCmd, l.cmd.attributes.zone with
  | some vnf, some zone =>
      if l.cmd.cmdType = .addSFCI ∧ l.sffSuccessful ∧ vnf.state = .waiting then
        some (vnf, zone)
      else none
  | _, _ => none

theorem sffSuccessful_iff {l : Life} :
    l.sffSuccessful ↔ ∃ sff, l.kids.get? .sffControllerCmd = some sff ∧
      sff.state = .successful := by
  rw [sffSuccessful]
  cases l.kids.get? .sffControllerCmd <;> simp

theorem dueVnf_eq_some_iff {l : Life} {vnf : Kid} {zone : Zone} :
    l.dueVnf = some (vnf, zone) ↔
      l.cmd.cmdType = .addSFCI ∧ l.sffSuccessful ∧
        l.kids.get? .vnfControllerCmd = some vnf ∧
        l.cmd.attributes.zone = some zone ∧ vnf.state = .waiting := by
  rw [dueVnf]
  cases hvnf : l.kids.get? .vnfControllerCmd with
  | none => simp
  | some k =>
      cases hz : l.cmd.attributes.zone with
      | none => simp
      | some z =>
          simp only [Option.ite_none_right_eq_some, Option.some.injEq,
            Prod.mk.injEq]
          constructor
          · rintro ⟨⟨ht, hs, hw⟩, rfl, rfl⟩
            exact ⟨ht, hs, rfl, rfl, hw⟩
          · rintro ⟨ht, hs, rfl, rfl, hw⟩
            exact ⟨⟨ht, hs, hw⟩, rfl, rfl⟩

def sendVnf (l : Life) : Life :=
  match l.dueVnf with
  | some (vnf, zone) =>
      (l.setKid .vnfControllerCmd vnf.fromUnknown).send .vnfControllerCmd
        vnf.fromUnknown (genQueueName .vnfController (some zone))
  | none => l

def retire (l : Life) : Life :=
  if l.allKids fun state => !(state == .waiting || state == .processing) then
    { l with stored := false }
  else l

/-- What follows an answer with the state `state`. -/
def settle (l : Life) (state : CmdState) : Life :=
  match l.cmd.attributes.source with
  | none => l
  | some dst =>
      match l.verdict state with
      | some verdict =>
          match l.reply? verdict with
          | some rply =>
              (l.log (.sent dst ⟨.mediatorCmdReply, .commandReply rply⟩)).retire
          | none => l
      | none =>
          if l.anyKid (· == .fail) then l.retire
          else if l.anyKid (· == .waiting) then l.sendVnf
          else l.retire

/-- Store the answer of the child `k` filed under `name`. -/
def hear (l : Life) (name : MsgType) (k : Kid) (cmdRply : CommandReply) :
    Life :=
  (l.setKid name { k with
    state := cmdRply.cmdState, cmdReply := some cmdRply }).log
      (.answered cmdRply)

/-- The child `k` filed under `name` answers for the first time. -/
def answer (l : Life) (name : MsgType) (k : Kid) (cmdRply : CommandReply) :
    Life :=
  (l.hear name k cmdRply).settle cmdRply.cmdState

theorem get?_hear (l : Life) (name n : MsgType) (k : Kid)
    (cmdRply : CommandReply) :
    (l.hear name k cmdRply).kids.get? n =
      if n = name then
        some { k with state := cmdRply.cmdState, cmdReply := some cmdRply }
      else l.kids.get? n :=
  l.get?_setKid name n _

@[simp] theorem hear_cmd (l : Life) (name : MsgType) (k : Kid)
    (cmdRply : CommandReply) : (l.hear name k cmdRply).cmd = l.cmd := rfl

@[simp] theorem hear_history (l : Life) (name : MsgType) (k : Kid)
    (cmdRply : CommandReply) :
    (l.hear name k cmdRply).history = l.history ++ [.answered cmdRply] := rfl

end Life

end SelfAdaptiveMano

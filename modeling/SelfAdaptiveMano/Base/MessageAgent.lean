import SelfAdaptiveMano.Library.Machine
import Mathlib.Data.List.Basic
import Mathlib.Logic.Function.Basic

/-!
# Messages by remote procedure calls

`sendMsgByRPC` calls `Store` of the receiver until it returns; each call that fails is
repeated, up to a number of times that is infinite if the caller does not say otherwise.
The request or the response of a call can be lost, and a call that the sender has given
up can still be executed later. A call is executed by one of the workers of the
receiver, which first looks at the size of the queue and then puts the message into it.

The messages of a sender may be any; what the receiver takes out of the queue is the
message that was put in, since what is pickled is taken apart as it was put together.

`Move` lists what a step can do, and the invariants are kept by every move.
-/

namespace SelfAdaptiveMano.MessageAgent

open Library

def MESSAGE_AGENT_MAX_QUEUE_SIZE : Nat := 99999
def MESSAGE_AGENT_GRPC_ERROR_LOG_TIME_SLOT : Nat := 5

def MAX_WORKERS : Nat := 12

/-- Where a call of `Store` is: on its way, behind the look at the size of the queue, or
behind `put`. -/
inductive Stage where
  | requested
  | checked
  | stored
  deriving DecidableEq, Repr

/-- A message in the queue. The number is not in the message; it says which one of the
messages of the sender this is. -/
structure Item (σ μ : Type) where
  sender : σ
  index : Nat
  message : μ

structure Call (σ μ : Type) extends Item σ μ where
  attempt : Nat
  stage : Stage

/-- The loop of `sendMsgByRPC`: its counter, and whether a call is awaited. -/
structure Sending where
  cnt : Nat
  waiting : Bool
  deriving DecidableEq, Repr

/-- A sender. Besides its loop: which messages it has sent, how often it tried each of
them, and which were confirmed. -/
structure Sender (μ : Type) where
  messages : List μ
  sending : Option Sending
  attempts : Nat → Nat
  confirmed : List Nat

def Sender.current {μ : Type} (s : Sender μ) : Nat := s.messages.length - 1

/-- `delivered` is what was taken out of the queue. -/
structure State (σ μ : Type) where
  senders : σ → Sender μ
  calls : List (Call σ μ)
  queue : List (Item σ μ)
  delivered : List (Item σ μ)

inductive Input (σ μ : Type) where
  | submit (sender : σ) (message : μ)
  | attempt (sender : σ)
  | start (k : Nat)
  | put (k : Nat)
  | respond (k : Nat)
  | lose (k : Nat)
  | error (sender : σ)
  | get

namespace State

variable {σ μ : Type} (st : State σ μ)

def arrived : List (Item σ μ) := st.delivered ++ st.queue

/-- The workers that have looked at the size of the queue and not put yet. -/
def workers : Nat := st.calls.countP fun call => call.stage = .checked

variable [DecidableEq σ]

def modify (sender : σ) (f : Sender μ → Sender μ) : State σ μ :=
  { st with senders := Function.update st.senders sender (f (st.senders sender)) }

@[simp] theorem modify_self (sender : σ) (f : Sender μ → Sender μ) :
    (st.modify sender f).senders sender = f (st.senders sender) :=
  Function.update_self ..

@[simp] theorem modify_calls (sender : σ) (f : Sender μ → Sender μ) :
    (st.modify sender f).calls = st.calls := rfl

@[simp] theorem modify_queue (sender : σ) (f : Sender μ → Sender μ) :
    (st.modify sender f).queue = st.queue := rfl

theorem forall_modify {st : State σ μ} {sender : σ} {f : Sender μ → Sender μ}
    {P : σ → Sender μ → Prop} :
    (∀ other, P other ((st.modify sender f).senders other)) ↔
      P sender (f (st.senders sender)) ∧
        ∀ other, other ≠ sender → P other (st.senders other) :=
  Function.forall_update_iff _ P

end State

section Steps

variable {σ μ : Type} [DecidableEq σ]

/-- `cnt > maxRetryNum`, where `none` is infinity. -/
def exceeds (maxRetryNum : Option Nat) (cnt : Nat) : Bool :=
  match maxRetryNum with
  | none => false
  | some num => decide (num < cnt)

def isAwaited (st : State σ μ) (call : Call σ μ) : Bool :=
  match (st.senders call.sender).sending with
  | none => false
  | some sending => sending.waiting &&
      call.index == (st.senders call.sender).current &&
        call.attempt == (st.senders call.sender).attempts call.index

/-- `sendMsgByRPC` is called. -/
def submit (sender : σ) (message : μ) (st : State σ μ) : State σ μ :=
  st.modify sender fun s => { s with
    messages := s.messages ++ [message]
    sending := some ⟨MESSAGE_AGENT_GRPC_ERROR_LOG_TIME_SLOT, false⟩ }

def Sender.tried {μ : Type} (s : Sender μ) (cnt : Nat) : Sender μ :=
  { s with
    sending := some ⟨cnt, true⟩
    attempts := Function.update s.attempts s.current (s.attempts s.current + 1) }

def newCall (sender : σ) (message : μ) (s : Sender μ) : Call σ μ :=
  ⟨⟨sender, s.current, message⟩, s.attempts s.current + 1, .requested⟩

/-- A turn of the loop calls `Store`. -/
def attempt (sender : σ) (st : State σ μ) : State σ μ :=
  let s := st.senders sender
  match s.sending, s.messages[s.current]? with
  | some sending, some message =>
      { st with calls := st.calls ++ [newCall sender message s] }.modify sender
        (·.tried sending.cnt)
  | _, _ => st

/-- A worker begins with `Store`. When the queue is full, the call raises. -/
def start (k : Nat) (st : State σ μ) : State σ μ :=
  match st.calls[k]? with
  | some call =>
      if st.queue.length < MESSAGE_AGENT_MAX_QUEUE_SIZE then
        { st with calls := st.calls.set k { call with stage := .checked } }
      else
        { st with calls := st.calls.eraseIdx k }
  | none => st

def put (k : Nat) (st : State σ μ) : State σ μ :=
  match st.calls[k]? with
  | some call =>
      { st with
        calls := st.calls.set k { call with stage := .stored }
        queue := st.queue ++ [call.toItem] }
  | none => st

/-- The response comes back; it ends the loop of the sender if it is waited for. -/
def respond (k : Nat) (st : State σ μ) : State σ μ :=
  match st.calls[k]? with
  | some call =>
      if isAwaited st call then
        { st with calls := st.calls.eraseIdx k }.modify call.sender fun s =>
          { s with sending := none, confirmed := s.confirmed ++ [call.index] }
      else
        { st with calls := st.calls.eraseIdx k }
  | none => st

def lose (k : Nat) (st : State σ μ) : State σ μ :=
  { st with calls := st.calls.eraseIdx k }

/-- The call fails at the sender, which tries again or gives up. -/
def error (maxRetryNum : Option Nat) (sender : σ) (st : State σ μ) : State σ μ :=
  match (st.senders sender).sending with
  | some sending =>
      st.modify sender fun s => { s with
        sending :=
          if exceeds maxRetryNum (sending.cnt + 1) then none
          else some ⟨sending.cnt + 1, false⟩ }
  | none => st

/-- `getMsg`: without a message in the queue, one without content is returned. -/
def get (st : State σ μ) : State σ μ :=
  match st.queue with
  | item :: queue => { st with queue := queue, delivered := st.delivered ++ [item] }
  | [] => st

def step (maxRetryNum : Option Nat) (st : State σ μ) : Input σ μ → State σ μ
  | .submit sender message => submit sender message st
  | .attempt sender => attempt sender st
  | .start k => start k st
  | .put k => put k st
  | .respond k => respond k st
  | .lose k => lose k st
  | .error sender => error maxRetryNum sender st
  | .get => get st

def admits (st : State σ μ) : Input σ μ → Prop
  | .submit sender _ => (st.senders sender).sending = none
  | .attempt sender => ∃ cnt, (st.senders sender).sending = some ⟨cnt, false⟩
  | .start k => st.workers < MAX_WORKERS ∧
      ∃ call, st.calls[k]? = some call ∧ call.stage = .requested
  | .put k => ∃ call, st.calls[k]? = some call ∧ call.stage = .checked
  | .respond k => ∃ call, st.calls[k]? = some call ∧ call.stage = .stored
  | .lose k => ∃ call, st.calls[k]? = some call ∧ call.stage ≠ .checked
  | .error sender => ∃ cnt, (st.senders sender).sending = some ⟨cnt, true⟩
  | .get => True

def init : State σ μ where
  senders _ := ⟨[], none, fun _ => 0, []⟩
  calls := []
  queue := []
  delivered := []

/-- Senders and a receiver. -/
def agents (σ μ : Type) [DecidableEq σ] (maxRetryNum : Option Nat) :
    Machine (State σ μ) (Input σ μ) where
  init st := st = init
  admits := admits
  step := step maxRetryNum

end Steps

variable {σ μ : Type} [DecidableEq σ] {maxRetryNum : Option Nat} {st st' : State σ μ}
  {sender : σ}

/-! ## What a step does -/

theorem exists_split {α : Type} {l : List α} {k : Nat} {a : α} (h : l[k]? = some a) :
    ∃ front back, l = front ++ a :: back ∧ ∀ b, l.set k b = front ++ b :: back := by
  induction l generalizing k with
  | nil => cases h
  | cons b l ih =>
      cases k with
      | zero =>
          obtain rfl := Option.some.inj h
          exact ⟨[], l, rfl, fun _ => rfl⟩
      | succ k =>
          obtain ⟨front, back, rfl, hset⟩ := ih h
          exact ⟨b :: front, back, rfl, fun c => congrArg (b :: ·) (hset c)⟩

/-- What a step can do. -/
inductive Move (maxRetryNum : Option Nat) (st : State σ μ) : State σ μ → Prop where
  | submit (sender : σ) (message : μ) :
      (st.senders sender).sending = none →
      Move maxRetryNum st (submit sender message st)
  | attempt {sender : σ} {cnt : Nat} {message : μ} :
      (st.senders sender).sending = some ⟨cnt, false⟩ →
      (st.senders sender).messages[(st.senders sender).current]? = some message →
      Move maxRetryNum st ({ st with
        calls := st.calls ++ [newCall sender message (st.senders sender)] }.modify sender
          (·.tried cnt))
  | look {call : Call σ μ} {front back : List (Call σ μ)} :
      st.calls = front ++ call :: back → call.stage = .requested →
      st.workers < MAX_WORKERS → st.queue.length < MESSAGE_AGENT_MAX_QUEUE_SIZE →
      Move maxRetryNum st
        { st with calls := front ++ { call with stage := .checked } :: back }
  | put {call : Call σ μ} {front back : List (Call σ μ)} :
      st.calls = front ++ call :: back → call.stage = .checked →
      Move maxRetryNum st { st with
        calls := front ++ { call with stage := .stored } :: back
        queue := st.queue ++ [call.toItem] }
  | forget {calls : List (Call σ μ)} :
      calls.Sublist st.calls → Move maxRetryNum st { st with calls := calls }
  | confirm {call : Call σ μ} {calls : List (Call σ μ)} :
      call ∈ st.calls → call.stage = .stored →
      call.index = (st.senders call.sender).current → calls.Sublist st.calls →
      Move maxRetryNum st ({ st with calls := calls }.modify call.sender fun s =>
        { s with sending := none, confirmed := s.confirmed ++ [call.index] })
  | fail {sender : σ} {cnt : Nat} {sending : Option Sending} :
      (st.senders sender).sending = some ⟨cnt, true⟩ →
      (sending = none ∧ exceeds maxRetryNum (cnt + 1) = true) ∨
        (sending = some ⟨cnt + 1, false⟩ ∧ exceeds maxRetryNum (cnt + 1) = false) →
      Move maxRetryNum st (st.modify sender fun s => { s with sending := sending })
  | get {item : Item σ μ} {queue : List (Item σ μ)} :
      st.queue = item :: queue →
      Move maxRetryNum st
        { st with queue := queue, delivered := st.delivered ++ [item] }
  | stay : Move maxRetryNum st st

def Sender.Busy {μ : Type} (s : Sender μ) : Prop := s.sending ≠ none → s.messages ≠ []

theorem move_step (hbusy : ∀ sender, (st.senders sender).Busy) {i : Input σ μ}
    (hi : admits st i) : Move maxRetryNum st (step maxRetryNum st i) := by
  cases i with
  | submit sender message => exact .submit sender message hi
  | attempt sender =>
      obtain ⟨cnt, hsending⟩ := hi
      have hlt : (st.senders sender).current < (st.senders sender).messages.length := by
        have := List.length_pos_iff.mpr (hbusy sender (by simp [hsending]))
        rw [Sender.current]
        omega
      have hmessage := List.getElem?_eq_getElem hlt
      change Move maxRetryNum st (attempt sender st)
      rw [attempt]
      simp only [hsending, hmessage]
      exact .attempt hsending hmessage
  | start k =>
      obtain ⟨hworkers, call, hcall, hstage⟩ := hi
      obtain ⟨front, back, hcalls, hset⟩ := exists_split hcall
      change Move maxRetryNum st (start k st)
      rw [start, hcall]
      simp only
      split
      · next hsize =>
          rw [hset]
          exact .look hcalls hstage hworkers hsize
      · exact .forget (List.eraseIdx_sublist _ _)
  | put k =>
      obtain ⟨call, hcall, hstage⟩ := hi
      obtain ⟨front, back, hcalls, hset⟩ := exists_split hcall
      change Move maxRetryNum st (put k st)
      rw [put, hcall]
      simp only
      rw [hset]
      exact .put hcalls hstage
  | respond k =>
      obtain ⟨call, hcall, hstage⟩ := hi
      have hsublist := List.eraseIdx_sublist st.calls k
      change Move maxRetryNum st (respond k st)
      rw [respond, hcall]
      simp only
      split
      · next hawaited =>
          rw [isAwaited] at hawaited
          split at hawaited
          · cases hawaited
          · simp only [Bool.and_eq_true, beq_iff_eq] at hawaited
            exact .confirm (List.mem_of_getElem? hcall) hstage hawaited.1.2 hsublist
      · exact .forget hsublist
  | lose k => exact .forget (List.eraseIdx_sublist _ _)
  | error sender =>
      obtain ⟨cnt, hsending⟩ := hi
      change Move maxRetryNum st (error maxRetryNum sender st)
      rw [error, hsending]
      refine .fail hsending ?_
      cases hexceeds : exceeds maxRetryNum (cnt + 1) with
      | true => exact .inl ⟨by simp, rfl⟩
      | false => exact .inr ⟨by simp, rfl⟩
  | get =>
      change Move maxRetryNum st (get st)
      rw [get]
      split
      · next item queue hqueue => exact .get hqueue
      · exact .stay

theorem Move.busy (h : Move maxRetryNum st st') (hbusy : ∀ sender, (st.senders sender).Busy)
    (sender : σ) : (st'.senders sender).Busy := by
  revert sender
  cases h with
  | submit =>
      exact (State.forall_modify (P := fun _ s => s.Busy)).mpr
        ⟨fun _ => by simp, fun other _ => hbusy other⟩
  | confirm =>
      exact (State.forall_modify (P := fun _ s => s.Busy)).mpr
        ⟨fun h => absurd rfl h, fun other _ => hbusy other⟩
  | attempt hsending | fail hsending =>
      refine (State.forall_modify (P := fun _ s => s.Busy)).mpr
        ⟨fun _ => ?_, fun other _ => hbusy other⟩
      exact hbusy _ (by simp [hsending])
  | look | put | forget | get | stay => exact hbusy

theorem invariant_of_moves {P : State σ μ → Prop} (hinit : P init)
    (hmove : ∀ st st', P st → Move maxRetryNum st st' → P st')
    (h : (agents σ μ maxRetryNum).Reachable st) : P st := by
  refine (Machine.Reachable.invariant
    (P := fun st => (∀ sender, (st.senders sender).Busy) ∧ P st) ?_ ?_ h).2
  · rintro _ rfl
    exact ⟨fun _ h => absurd rfl h, hinit⟩
  · rintro st i ⟨hbusy, hP⟩ hi
    have hmoves : Move maxRetryNum _ _ := move_step hbusy hi
    exact ⟨hmoves.busy hbusy, hmove _ _ hP hmoves⟩

/-! ## What is in the queue was sent -/

def State.Sent (st : State σ μ) (item : Item σ μ) : Prop :=
  (st.senders item.sender).messages[item.index]? = some item.message

/-- The message came in. -/
def State.Has (st : State σ μ) (sender : σ) (i : Nat) : Prop :=
  ∃ item ∈ st.arrived, item.sender = sender ∧ item.index = i

theorem Move.sent (h : Move maxRetryNum st st') {item : Item σ μ} (hsent : st.Sent item) :
    st'.Sent item := by
  suffices hall : ∀ sender i m, (st.senders sender).messages[i]? = some m →
      (st'.senders sender).messages[i]? = some m from hall _ _ _ hsent
  cases h with
  | submit sender message =>
      refine (State.forall_modify (P := fun other s => ∀ i m,
        (st.senders other).messages[i]? = some m → s.messages[i]? = some m)).mpr
        ⟨fun i m hm => ?_, fun _ _ _ _ => id⟩
      have hlt := (List.getElem?_eq_some_iff.mp hm).choose
      exact (List.getElem?_append_left hlt).trans hm
  | attempt | confirm | fail =>
      exact (State.forall_modify (P := fun other s => ∀ i m,
        (st.senders other).messages[i]? = some m → s.messages[i]? = some m)).mpr
        ⟨fun _ _ => id, fun _ _ _ _ => id⟩
  | look | put | forget | get | stay => exact fun _ _ _ => id

theorem Move.arrived (h : Move maxRetryNum st st') : st'.arrived = st.arrived ∨
    ∃ call ∈ st.calls, call.stage = .checked ∧
      st'.arrived = st.arrived ++ [call.toItem] := by
  cases h with
  | put hcalls hstage =>
      exact .inr ⟨_, by simp [hcalls], hstage, (List.append_assoc ..).symm⟩
  | get hqueue => exact .inl (by simp [State.arrived, hqueue])
  | submit | attempt | look | forget | confirm | fail | stay => exact .inl rfl

theorem Move.mem_arrived (h : Move maxRetryNum st st') {item : Item σ μ}
    (hitem : item ∈ st.arrived) : item ∈ st'.arrived := by
  obtain heq | ⟨call, -, -, heq⟩ := h.arrived
  · rwa [heq]
  · rw [heq]
    exact List.mem_append_left _ hitem

/-- Calls and items carry what was sent; what a call stored came in, and so did what is
confirmed. -/
structure Sound (st : State σ μ) : Prop where
  calls : ∀ call ∈ st.calls, st.Sent call.toItem
  items : ∀ item ∈ st.arrived, st.Sent item
  stored : ∀ call ∈ st.calls, call.stage = .stored → call.toItem ∈ st.arrived
  confirmed : ∀ sender, ∀ i ∈ (st.senders sender).confirmed, st.Has sender i

omit [DecidableEq σ] in
theorem sound_init : Sound (init : State σ μ) where
  calls _ h := by cases h
  items _ h := by cases h
  stored _ h := by cases h
  confirmed _ _ h := by cases h

theorem Sound.calls_move (hs : Sound st) (h : Move maxRetryNum st st') :
    ∀ call ∈ st'.calls, st'.Sent call.toItem ∧
      (call.stage = .stored → call.toItem ∈ st'.arrived) := by
  have hold : ∀ call ∈ st.calls, st'.Sent call.toItem ∧
      (call.stage = .stored → call.toItem ∈ st'.arrived) := fun call hcall =>
    ⟨h.sent (hs.calls call hcall),
      fun hstage => h.mem_arrived (hs.stored call hcall hstage)⟩
  have hmove := h
  cases h with
  | submit | fail | get | stay => exact hold
  | attempt hsending hmessage =>
      intro call hcall
      obtain hcall | hcall := List.mem_append.mp hcall
      · exact hold call hcall
      · rw [List.mem_singleton.mp hcall]
        exact ⟨hmove.sent hmessage, fun hstage => by cases hstage⟩
  | @look call _ _ hcalls =>
      simp only [hcalls, List.forall_mem_append, List.forall_mem_cons] at hold ⊢
      exact ⟨hold.1, ⟨hold.2.1.1, fun hstage => by cases hstage⟩, hold.2.2⟩
  | @put call _ _ hcalls =>
      simp only [hcalls, List.forall_mem_append, List.forall_mem_cons] at hold ⊢
      exact ⟨hold.1, ⟨hold.2.1.1, fun _ => by simp [State.arrived]⟩, hold.2.2⟩
  | forget hsublist | confirm _ _ _ hsublist =>
      exact fun call hcall => hold call (hsublist.subset hcall)

theorem Sound.confirmed_move (hs : Sound st) (h : Move maxRetryNum st st') :
    ∀ sender, ∀ i ∈ (st'.senders sender).confirmed, st'.Has sender i := by
  have hold : ∀ sender, ∀ i ∈ (st.senders sender).confirmed, st'.Has sender i := by
    intro sender i hi
    obtain ⟨item, hitem, hsame⟩ := hs.confirmed sender i hi
    exact ⟨item, h.mem_arrived hitem, hsame⟩
  have hmove := h
  cases h with
  | submit | attempt | fail =>
      exact (State.forall_modify (P := fun other s => ∀ i ∈ s.confirmed,
        State.Has _ other i)).mpr ⟨hold _, fun other _ => hold other⟩
  | confirm hcall hstage =>
      refine (State.forall_modify (P := fun other s => ∀ i ∈ s.confirmed,
        State.Has _ other i)).mpr ⟨fun i hi => ?_, fun other _ => hold other⟩
      obtain hi | hi := List.mem_append.mp hi
      · exact hold _ i hi
      · rw [List.mem_singleton.mp hi]
        exact ⟨_, hmove.mem_arrived (hs.stored _ hcall hstage), rfl, rfl⟩
  | look | put | forget | get | stay => exact hold

theorem Sound.move (hs : Sound st) (h : Move maxRetryNum st st') : Sound st' where
  calls call hcall := (hs.calls_move h call hcall).1
  items item hitem := by
    obtain heq | ⟨call, hcall, -, heq⟩ := h.arrived
    · exact h.sent (hs.items item (heq ▸ hitem))
    · rw [heq] at hitem
      obtain hitem | hitem := List.mem_append.mp hitem
      · exact h.sent (hs.items item hitem)
      · rw [List.mem_singleton.mp hitem]
        exact h.sent (hs.calls call hcall)
  stored call hcall := (hs.calls_move h call hcall).2
  confirmed := hs.confirmed_move h

/-! ## Without a bound on the attempts -/

def InOrder {σ μ : Type} (arrived : List (Item σ μ)) : Prop :=
  ∀ front item back, arrived = front ++ item :: back → ∀ i < item.index,
    ∃ earlier ∈ front, earlier.sender = item.sender ∧ earlier.index = i

omit [DecidableEq σ] in
theorem InOrder.concat {arrived : List (Item σ μ)} (h : InOrder arrived)
    {item : Item σ μ} (hitem : ∀ i < item.index,
      ∃ earlier ∈ arrived, earlier.sender = item.sender ∧ earlier.index = i) :
    InOrder (arrived ++ [item]) := by
  intro front other back heq
  obtain rfl | ⟨back, last, rfl⟩ := List.eq_nil_or_concat back
  · obtain ⟨rfl, hlast⟩ := List.append_inj' heq rfl
    obtain rfl := List.singleton_inj.mp hlast
    exact hitem
  · rw [List.concat_eq_append, ← List.cons_append, ← List.append_assoc] at heq
    obtain ⟨rfl, -⟩ := List.append_inj' heq rfl
    exact h front other back rfl

/-- All messages but the one that is being sent are confirmed. -/
structure Sender.Ordered (s : Sender μ) : Prop where
  done : ∀ i, i + 1 < s.messages.length → i ∈ s.confirmed
  idle : s.sending = none → ∀ i < s.messages.length, i ∈ s.confirmed

theorem Move.ordered (h : Move none st st') (ho : ∀ sender, (st.senders sender).Ordered)
    (sender : σ) : (st'.senders sender).Ordered := by
  revert sender
  cases h with
  | submit sender message hidle =>
      refine (State.forall_modify (P := fun _ s => s.Ordered)).mpr
        ⟨⟨fun i hi => ?_, fun h => by cases h⟩, fun other _ => ho other⟩
      simp only [List.length_append, List.length_singleton,
        Nat.add_lt_add_iff_right] at hi
      exact (ho sender).idle hidle i hi
  | attempt =>
      exact (State.forall_modify (P := fun _ s => s.Ordered)).mpr
        ⟨⟨(ho _).done, fun h => by cases h⟩, fun other _ => ho other⟩
  | @confirm call _ _ _ hindex =>
      refine (State.forall_modify (P := fun _ s => s.Ordered)).mpr
        ⟨⟨fun i hi => List.mem_append_left _ ((ho _).done i hi), fun _ i hi => ?_⟩,
          fun other _ => ho other⟩
      change i < (st.senders call.sender).messages.length at hi
      obtain hlt | heq := Nat.lt_or_eq_of_le (Nat.succ_le_of_lt hi)
      · exact List.mem_append_left _ ((ho _).done i hlt)
      · rw [hindex, Sender.current, ← heq]
        exact List.mem_append_right _ List.mem_cons_self
  | fail _ hsending =>
      refine (State.forall_modify (P := fun _ s => s.Ordered)).mpr
        ⟨⟨(ho _).done, fun h => ?_⟩, fun other _ => ho other⟩
      obtain ⟨-, hexceeds⟩ | ⟨rfl, -⟩ := hsending
      · cases hexceeds
      · cases h
  | look | put | forget | get | stay => exact ho

theorem Move.inOrder (h : Move none st st') (hs : Sound st)
    (ho : ∀ sender, (st.senders sender).Ordered) (hin : InOrder st.arrived) :
    InOrder st'.arrived := by
  obtain heq | ⟨call, hcall, -, heq⟩ := h.arrived
  · rwa [heq]
  · rw [heq]
    refine hin.concat fun i hi => hs.confirmed _ i ((ho _).done i ?_)
    have hlt := (List.getElem?_eq_some_iff.mp (hs.calls call hcall)).choose
    exact Nat.lt_of_le_of_lt hi hlt

/-- Without a bound on the attempts, what comes in is what was sent; a message comes in
before the sender goes on to the next one; and in front of a message are the earlier
ones of its sender, however often calls fail, get lost or are executed late. -/
theorem arrived_in_order (h : (agents σ μ none).Reachable st) :
    (∀ item ∈ st.arrived, st.Sent item) ∧
    (∀ sender, ∀ i < (st.senders sender).messages.length,
      (st.senders sender).sending = none ∨ i + 1 < (st.senders sender).messages.length →
        st.Has sender i) ∧
    InOrder st.arrived := by
  obtain ⟨hs, ho, hin⟩ := invariant_of_moves (P := fun st => Sound st ∧
    (∀ sender, (st.senders sender).Ordered) ∧ InOrder st.arrived)
    ⟨sound_init, fun _ => ⟨fun _ hi => absurd hi (Nat.not_lt_zero _),
        fun _ _ hi => absurd hi (Nat.not_lt_zero _)⟩,
      fun front _ _ heq => by cases front <;> cases heq⟩
    (fun st st' hst hmove => ⟨hst.1.move hmove, hmove.ordered hst.2.1,
      hmove.inOrder hst.1 hst.2.1 hst.2.2⟩) h
  refine ⟨hs.items, fun sender i hi hgone => hs.confirmed sender i ?_, hin⟩
  obtain hidle | hlt := hgone
  · exact (ho sender).idle hidle i hi
  · exact (ho sender).done i hlt

def lateInputs : List (Input Unit Nat) :=
  [.submit () 7, .attempt (), .error (), .attempt (), .start 1, .put 1, .respond 1,
    .submit () 8, .attempt (), .start 1, .put 1, .get, .start 0, .put 0, .respond 1]

def lateState : State Unit Nat := lateInputs.foldl (step none) init

theorem reachable_lateState : (agents Unit Nat none).Reachable lateState := by
  have harrive : (agents Unit Nat none).Arrive init lateInputs := by
    refine ⟨rfl, ⟨5, rfl⟩, ⟨5, rfl⟩, ⟨6, rfl⟩, ⟨by decide, _, rfl, rfl⟩, ⟨_, rfl, rfl⟩,
      ⟨_, rfl, rfl⟩, rfl, ⟨5, rfl⟩, ⟨by decide, _, rfl, rfl⟩, ⟨_, rfl, rfl⟩, trivial,
      ⟨by decide, _, rfl, rfl⟩, ⟨_, rfl, rfl⟩, ⟨_, rfl, rfl⟩, trivial⟩
  exact (Machine.Run.arrive (.start rfl) harrive).reachable

theorem arrived_in_order_sample :
    lateState.arrived.map (fun item => (item.index, item.message)) =
      [(0, 7), (1, 8), (0, 7)] ∧ InOrder lateState.arrived :=
  ⟨by decide, (arrived_in_order reachable_lateState).2.2⟩

/-! ## How often a message comes in -/

def isCopy (sender : σ) (i : Nat) (item : Item σ μ) : Bool :=
  decide (item.sender = sender ∧ item.index = i)

/-- The call may still put the message. -/
def isPending (sender : σ) (i : Nat) (call : Call σ μ) : Bool :=
  isCopy sender i call.toItem && decide (call.stage ≠ .stored)

/-- The counter of the loop says how many attempts there were. -/
structure Sender.Counted {μ : Type} (maxRetryNum : Option Nat) (s : Sender μ) : Prop where
  fresh : ∀ i, s.messages.length ≤ i → s.attempts i = 0
  cnt : ∀ cnt waiting, s.sending = some ⟨cnt, waiting⟩ →
    s.attempts s.current + 5 = cnt + waiting.toNat
  bound : ∀ num, maxRetryNum = some num → ∀ i, s.attempts i ≤ max 1 (num - 4)
  cnt_le : ∀ num, maxRetryNum = some num → ∀ cnt waiting,
    s.sending = some ⟨cnt, waiting⟩ → cnt = 5 ∨ cnt ≤ num

namespace Sender.Counted

variable {μ : Type} {maxRetryNum : Option Nat} {s : Sender μ} {cnt : Nat}

theorem submit (h : s.Counted maxRetryNum) (message : μ) :
    Counted maxRetryNum { s with
      messages := s.messages ++ [message]
      sending := some ⟨MESSAGE_AGENT_GRPC_ERROR_LOG_TIME_SLOT, false⟩ } where
  fresh i hi := h.fresh i (Nat.le_trans (by simp) hi)
  cnt cnt waiting hsending := by
    cases hsending
    simp [Sender.current, h.fresh s.messages.length (Nat.le_refl _),
      MESSAGE_AGENT_GRPC_ERROR_LOG_TIME_SLOT]
  bound := h.bound
  cnt_le num _ cnt waiting hsending := by
    cases hsending
    exact .inl rfl

theorem tried (h : s.Counted maxRetryNum) (hsending : s.sending = some ⟨cnt, false⟩)
    (hlt : s.current < s.messages.length) : (s.tried cnt).Counted maxRetryNum := by
  have hnow := h.cnt cnt false hsending
  rw [Bool.toNat_false] at hnow
  refine ⟨fun i hi => ?_, fun cnt' waiting hsending' => ?_, fun num hnum i => ?_,
    fun num hnum cnt' waiting hsending' => ?_⟩
  · change s.messages.length ≤ i at hi
    exact (Function.update_of_ne (by omega) ..).trans (h.fresh i hi)
  · cases hsending'
    change Function.update s.attempts s.current (s.attempts s.current + 1) s.current + 5 =
      cnt + 1
    rw [Function.update_self]
    omega
  · have hle := h.cnt_le num hnum cnt false hsending
    change Function.update s.attempts s.current (s.attempts s.current + 1) i ≤ _
    by_cases hi : i = s.current
    · rw [hi, Function.update_self]
      omega
    · rw [Function.update_of_ne hi]
      exact h.bound num hnum i
  · cases hsending'
    exact h.cnt_le num hnum cnt false hsending

theorem rest (h : s.Counted maxRetryNum) {sending : Option Sending}
    (hnext : ∀ cnt waiting, sending = some ⟨cnt, waiting⟩ →
      s.attempts s.current + 5 = cnt + waiting.toNat ∧
        ∀ num, maxRetryNum = some num → cnt = 5 ∨ cnt ≤ num) (confirmed : List Nat) :
    Counted maxRetryNum { s with sending := sending, confirmed := confirmed } where
  fresh := h.fresh
  cnt cnt waiting hsending := (hnext cnt waiting hsending).1
  bound := h.bound
  cnt_le num hnum cnt waiting hsending := (hnext cnt waiting hsending).2 num hnum

end Sender.Counted

theorem Move.counted (h : Move maxRetryNum st st')
    (hc : ∀ sender, (st.senders sender).Counted maxRetryNum) (sender : σ) :
    (st'.senders sender).Counted maxRetryNum := by
  revert sender
  cases h with
  | submit sender message =>
      exact (State.forall_modify (P := fun _ s => s.Counted maxRetryNum)).mpr
        ⟨(hc sender).submit message, fun other _ => hc other⟩
  | attempt hsending hmessage =>
      exact (State.forall_modify (P := fun _ s => s.Counted maxRetryNum)).mpr
        ⟨(hc _).tried hsending (List.getElem?_eq_some_iff.mp hmessage).choose,
          fun other _ => hc other⟩
  | confirm =>
      exact (State.forall_modify (P := fun _ s => s.Counted maxRetryNum)).mpr
        ⟨(hc _).rest (fun _ _ h => by cases h) _, fun other _ => hc other⟩
  | fail hold hsending =>
      refine (State.forall_modify (P := fun _ s => s.Counted maxRetryNum)).mpr
        ⟨(hc _).rest (fun cnt waiting h => ?_) _, fun other _ => hc other⟩
      obtain ⟨rfl, -⟩ | ⟨rfl, hexceeds⟩ := hsending
      · cases h
      · cases h
        refine ⟨(hc _).cnt _ true hold, fun num hnum => .inr ?_⟩
        rw [hnum, exceeds, decide_eq_false_iff_not] at hexceeds
        exact Nat.le_of_not_lt hexceeds
  | look | put | forget | get | stay => exact hc

/-- Each attempt is a copy that came in, or a call that may still put one, or neither. -/
def Copied (st : State σ μ) : Prop :=
  ∀ sender i, st.arrived.countP (isCopy sender i) + st.calls.countP (isPending sender i) ≤
    (st.senders sender).attempts i

theorem Copied.mono (hc : Copied st) (harrived : st'.arrived = st.arrived)
    (hcalls : ∀ sender i, st'.calls.countP (isPending sender i) ≤
      st.calls.countP (isPending sender i))
    (hattempts : ∀ sender, (st'.senders sender).attempts = (st.senders sender).attempts) :
    Copied st' := by
  intro sender i
  rw [harrived, hattempts]
  exact Nat.le_trans (Nat.add_le_add_left (hcalls sender i) _) (hc sender i)

theorem Move.copied (h : Move maxRetryNum st st') (hc : Copied st) : Copied st' := by
  have hsame : ∀ {sender : σ} {f : Sender μ → Sender μ} {s : State σ μ},
      (∀ s, (f s).attempts = s.attempts) →
        ∀ other, ((s.modify sender f).senders other).attempts =
          (s.senders other).attempts := fun {sender f s} hf =>
    (State.forall_modify (P := fun other s' =>
      s'.attempts = (s.senders other).attempts)).mpr ⟨hf _, fun _ _ => rfl⟩
  cases h with
  | submit | fail =>
      exact hc.mono rfl (fun _ _ => Nat.le_refl _) (hsame fun _ => rfl)
  | confirm _ _ _ hsublist =>
      exact hc.mono rfl (fun _ _ => hsublist.countP_le) (hsame fun _ => rfl)
  | forget hsublist => exact hc.mono rfl (fun _ _ => hsublist.countP_le) fun _ => rfl
  | get hqueue =>
      exact hc.mono (by simp [State.arrived, hqueue]) (fun _ _ => Nat.le_refl _)
        fun _ => rfl
  | stay => exact hc
  | look hcalls hstage =>
      refine hc.mono rfl (fun sender i => Nat.le_of_eq ?_) fun _ => rfl
      simp [hcalls, List.countP_cons, isPending, hstage]
  | put hcalls hstage =>
      intro sender i
      have hold := hc sender i
      -- the call is one that may come in less, and the item is one that did
      simp only [hcalls, State.arrived, List.countP_append, List.countP_cons,
        List.countP_nil, isPending, hstage] at hold ⊢
      simp only [ne_eq, reduceCtorEq, not_false_eq_true, decide_true, Bool.and_true,
        not_true_eq_false, decide_false, Bool.and_false, Bool.false_eq_true, if_false]
        at hold ⊢
      omega
  | @attempt sender cnt message =>
      refine fun other => (State.forall_modify (P := fun other s => ∀ i,
        st.arrived.countP (isCopy other i) +
          (st.calls ++ [newCall sender message (st.senders sender)]).countP
            (isPending other i) ≤ s.attempts i)).mpr ⟨fun i => ?_, ?_⟩ other
      · have hold := hc sender i
        simp only [List.countP_append, List.countP_singleton, isPending, newCall, isCopy,
          Sender.tried]
        by_cases hi : i = (st.senders sender).current
        · subst hi
          rw [Function.update_self]
          split <;> omega
        · rw [Function.update_of_ne hi]
          simpa [Ne.symm hi] using hold
      · intro other hne i
        simpa [isPending, newCall, isCopy, Ne.symm hne] using hc other i

/-- A message comes in at most as often as it was tried, and at least once when it is
confirmed. The first attempt is counted as the fifth, so that a bound on the retries
leaves four attempts less than it says, but always one. -/
theorem copies_le_attempts (h : (agents σ μ maxRetryNum).Reachable st) (sender : σ)
    (i : Nat) :
    st.arrived.countP (isCopy sender i) ≤ (st.senders sender).attempts i ∧
    (i ∈ (st.senders sender).confirmed → 1 ≤ st.arrived.countP (isCopy sender i)) ∧
    ∀ num, maxRetryNum = some num →
      (st.senders sender).attempts i ≤ max 1 (num - 4) := by
  obtain ⟨hs, hcounted, hcopied⟩ := invariant_of_moves (P := fun st => Sound st ∧
    (∀ sender, (st.senders sender).Counted maxRetryNum) ∧ Copied st)
    ⟨sound_init, fun _ => ⟨fun _ _ => rfl, fun _ _ h => (by cases h),
      fun _ _ _ => Nat.zero_le _, fun _ _ _ _ h => (by cases h)⟩,
      fun _ _ => Nat.le_refl _⟩
    (fun st st' hst hmove => ⟨hst.1.move hmove, hmove.counted hst.2.1,
      hmove.copied hst.2.2⟩) h
  refine ⟨Nat.le_trans (Nat.le_add_right _ _) (hcopied sender i), fun hconfirmed => ?_,
    fun num hnum => (hcounted sender).bound num hnum i⟩
  obtain ⟨item, hitem, hsame⟩ := hs.confirmed sender i hconfirmed
  exact List.countP_pos_iff.mpr ⟨item, hitem, decide_eq_true hsame⟩

def lossyInputs : List (Input Unit Nat) :=
  [.submit () 7, .attempt (), .start 0, .put 0, .lose 0, .error (), .attempt (), .start 0,
    .put 0, .respond 0]

def lossyState : State Unit Nat := lossyInputs.foldl (step (some 6)) init

theorem reachable_lossyState : (agents Unit Nat (some 6)).Reachable lossyState := by
  have harrive : (agents Unit Nat (some 6)).Arrive init lossyInputs := by
    refine ⟨rfl, ⟨5, rfl⟩, ⟨by decide, _, rfl, rfl⟩, ⟨_, rfl, rfl⟩,
      ⟨_, rfl, Stage.noConfusion⟩, ⟨5, rfl⟩, ⟨6, rfl⟩, ⟨by decide, _, rfl, rfl⟩,
      ⟨_, rfl, rfl⟩, ⟨_, rfl, rfl⟩, trivial⟩
  exact (Machine.Run.arrive (.start rfl) harrive).reachable

theorem copies_le_attempts_sample :
    lossyState.arrived.countP (isCopy () 0) = 2 ∧
    (lossyState.senders ()).attempts 0 ≤ max 1 (6 - 4) :=
  ⟨by decide, (copies_le_attempts reachable_lossyState () 0).2.2 6 rfl⟩

/-! ## The size of the queue -/

/-- Workers that have looked at the size still put. -/
def Room (st : State σ μ) : Prop :=
  st.queue.length + st.workers < MESSAGE_AGENT_MAX_QUEUE_SIZE + MAX_WORKERS

theorem Move.room (h : Move maxRetryNum st st') (hr : Room st) : Room st' := by
  rw [Room, State.workers] at hr ⊢
  cases h with
  | submit | fail | stay => exact hr
  | attempt =>
      change st.queue.length + (st.calls ++ [_]).countP _ < _
      simpa [newCall] using hr
  | forget hsublist | confirm _ _ _ hsublist =>
      exact Nat.lt_of_le_of_lt (Nat.add_le_add_left hsublist.countP_le _) hr
  | look hcalls hstage hworkers hsize =>
      rw [State.workers] at hworkers
      simp only [hcalls, List.countP_append, List.countP_cons, hstage] at hworkers ⊢
      simp at hworkers ⊢
      omega
  | put hcalls hstage =>
      simp only [hcalls, List.countP_append, List.countP_cons, hstage] at hr ⊢
      simp at hr ⊢
      omega
  | @get item queue hqueue =>
      rw [hqueue, List.length_cons] at hr
      change queue.length + st.calls.countP _ < _
      omega

theorem reachable_step (h : (agents σ μ maxRetryNum).Reachable st) {i : Input σ μ}
    (hi : admits st i) : (agents σ μ maxRetryNum).Reachable (step maxRetryNum st i) :=
  Machine.Reachable.step h hi

/-- The sender is between two turns, the queue has `n` messages, and `num` workers have
looked at its size. -/
structure Pending (sender : σ) (n num : Nat) (st : State σ μ) : Prop where
  reachable : (agents σ μ none).Reachable st
  sending : ∃ cnt, (st.senders sender).sending = some ⟨cnt, false⟩
  message : ∃ message,
    (st.senders sender).messages[(st.senders sender).current]? = some message
  queue : st.queue.length = n
  calls : st.calls.length = num
  checked : ∀ call ∈ st.calls, call.stage = .checked

theorem exists_pending (sender : σ) (message : μ) :
    ∃ st : State σ μ, Pending sender 0 0 st := by
  have hinit : (agents σ μ none).Reachable init := .init rfl
  have hsubmit := reachable_step hinit (i := .submit sender message) rfl
  change (agents σ μ none).Reachable (submit sender message init) at hsubmit
  refine ⟨_, hsubmit, ⟨MESSAGE_AGENT_GRPC_ERROR_LOG_TIME_SLOT, ?_⟩, ⟨message, ?_⟩, rfl,
    rfl, fun _ h => by cases h⟩
  · simp only [submit, State.modify_self]
  · simp only [submit, State.modify_self]
    rfl

theorem Pending.look {n num : Nat} (h : Pending sender n num st)
    (hn : n < MESSAGE_AGENT_MAX_QUEUE_SIZE) (hnum : num < MAX_WORKERS) :
    ∃ st' : State σ μ, Pending sender n (num + 1) st' := by
  obtain ⟨cnt, hsending⟩ := h.sending
  obtain ⟨message, hmessage⟩ := h.message
  have hreach := reachable_step h.reachable (i := .attempt sender) ⟨cnt, hsending⟩
  change (agents σ μ none).Reachable (attempt sender st) at hreach
  rw [attempt] at hreach
  simp only [hsending, hmessage] at hreach
  obtain ⟨call, hcall⟩ : ∃ call, newCall sender message (st.senders sender) = call :=
    ⟨_, rfl⟩
  have hstage : call.stage = .requested := by rw [← hcall]; rfl
  rw [hcall] at hreach
  have hget : (st.calls ++ [call])[num]? = some call := by
    rw [← h.calls, List.getElem?_concat_length]
  have hworkers : (st.calls ++ [call]).countP
      (fun call => call.stage = .checked) < MAX_WORKERS := by
    rw [List.countP_append]
    refine Nat.lt_of_le_of_lt (Nat.add_le_add_right List.countP_le_length _) ?_
    simpa [h.calls, hstage] using hnum
  have hreach := reachable_step hreach (i := .start num) ⟨hworkers, _, hget, hstage⟩
  have hset : (st.calls ++ [call]).set num { call with stage := .checked } =
      st.calls ++ [{ call with stage := .checked }] := by
    rw [← h.calls, List.set_append_right _ _ (Nat.le_refl _), Nat.sub_self]
    rfl
  change (agents σ μ none).Reachable (start num _) at hreach
  rw [start] at hreach
  simp only [State.modify_calls, State.modify_queue, hget, h.queue, if_pos hn, hset]
    at hreach
  have hreach := reachable_step hreach (i := .error sender) ⟨cnt, by simp [Sender.tried]⟩
  change (agents σ μ none).Reachable (error none sender _) at hreach
  rw [error] at hreach
  simp only [State.modify_self, Sender.tried] at hreach
  refine ⟨_, hreach, ⟨cnt + 1, ?_⟩, ⟨message, ?_⟩, h.queue, ?_, ?_⟩
  · simp only [State.modify_self]
    rfl
  · simp only [State.modify_self]
    exact hmessage
  · simp [h.calls]
  · intro call hcall
    obtain hcall | hcall := List.mem_append.mp hcall
    · exact h.checked call hcall
    · rw [List.mem_singleton.mp hcall]

theorem Pending.put {n num : Nat} (h : Pending sender n (num + 1) st) :
    ∃ st' : State σ μ, Pending sender (n + 1) num st' := by
  obtain ⟨call, calls, hcalls⟩ := List.exists_cons_of_length_eq_add_one h.calls
  have hget : st.calls[0]? = some call := by rw [hcalls]; rfl
  have hstage := h.checked call (by rw [hcalls]; exact List.mem_cons_self)
  have hreach := reachable_step h.reachable (i := .put 0) ⟨call, hget, hstage⟩
  change (agents σ μ none).Reachable (MessageAgent.put 0 st) at hreach
  rw [MessageAgent.put] at hreach
  simp only [hcalls, List.getElem?_cons_zero, List.set_cons_zero] at hreach
  have hreach := reachable_step hreach (i := .lose 0) ⟨_, rfl, Stage.noConfusion⟩
  refine ⟨_, hreach, h.sending, h.message, ?_, ?_, fun c hc => ?_⟩
  · change (st.queue ++ [_]).length = n + 1
    rw [List.length_append, h.queue, List.length_singleton]
  · have hlength := h.calls
    rw [hcalls, List.length_cons] at hlength
    exact Nat.succ.inj hlength
  · exact h.checked c (by rw [hcalls]; exact List.mem_cons_of_mem _ hc)

theorem exists_pending_queue (sender : σ) (message : μ) {n : Nat}
    (hn : n < MESSAGE_AGENT_MAX_QUEUE_SIZE) :
    ∃ st : State σ μ, Pending sender n 0 st := by
  induction n with
  | zero => exact exists_pending sender message
  | succ n ih =>
      obtain ⟨st, h⟩ := ih (Nat.lt_of_succ_lt hn)
      obtain ⟨st', h'⟩ := h.look (Nat.lt_of_succ_lt hn) (by decide)
      exact h'.put

theorem exists_pending_workers (sender : σ) (message : μ) {num : Nat}
    (hnum : num ≤ MAX_WORKERS) :
    ∃ st : State σ μ, Pending sender (MESSAGE_AGENT_MAX_QUEUE_SIZE - 1) num st := by
  induction num with
  | zero => exact exists_pending_queue sender message (by decide)
  | succ num ih =>
      obtain ⟨st, h⟩ := ih (Nat.le_of_succ_le hnum)
      exact h.look (by decide) hnum

theorem Pending.put_all {n num : Nat} (h : Pending sender n num st) :
    ∃ st' : State σ μ, Pending sender (n + num) 0 st' := by
  induction num generalizing n st with
  | zero => exact ⟨st, h⟩
  | succ num ih =>
      obtain ⟨st', h'⟩ := h.put
      have heq : n + (num + 1) = n + 1 + num := by omega
      rw [heq]
      exact ih h'

theorem queue_length_max (sender : σ) (message : μ) :
    (∀ st : State σ μ, (agents σ μ maxRetryNum).Reachable st →
      st.queue.length ≤ MESSAGE_AGENT_MAX_QUEUE_SIZE + (MAX_WORKERS - 1)) ∧
    ∃ st : State σ μ, (agents σ μ none).Reachable st ∧
      st.queue.length = MESSAGE_AGENT_MAX_QUEUE_SIZE + (MAX_WORKERS - 1) := by
  constructor
  · intro st h
    have hinit : Room (init : State σ μ) := by
      change 0 + 0 < MESSAGE_AGENT_MAX_QUEUE_SIZE + MAX_WORKERS
      decide
    have hroom := invariant_of_moves hinit (fun _ _ hr hmove => hmove.room hr) h
    simp only [Room, MESSAGE_AGENT_MAX_QUEUE_SIZE, MAX_WORKERS] at hroom ⊢
    omega
  · obtain ⟨st, h⟩ := exists_pending_workers sender message (Nat.le_refl MAX_WORKERS)
    obtain ⟨st', h'⟩ := h.put_all
    exact ⟨st', h'.reachable, h'.queue⟩

end SelfAdaptiveMano.MessageAgent

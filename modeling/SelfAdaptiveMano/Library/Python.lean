import Mathlib.Data.List.Basic
import Mathlib.Data.List.Forall2

/-!
# Python computations

A method of a Python object reads and writes the object's fields, returns a
value, or raises. `PyM σ α` is such a computation over the state `σ`. An
exception does not undo what was written before it was raised, so the state
comes back in both outcomes; `finalState` is the state that a caller which
catches the exception goes on with.

The proofs evaluate a computation one statement at a time: `run_bind_ok` runs
the statement in front once its own outcome is known, and `run_bind_error`
stops at a statement that raises.
-/

namespace Library

/-- The built-in exceptions that the modelled programs raise. -/
inductive PyError where
  | keyError
  | indexError
  | typeError
  | attributeError
  | assertionError
  | unboundLocalError
  | zeroDivisionError
  | valueError (text : String)
  | exception (text : String)
  deriving DecidableEq, Repr

/-- A Python computation over the state `σ`: it returns a value or raises, and
in both cases leaves a state behind. -/
abbrev PyM (σ α : Type) := EStateM PyError σ α

def pyAssert (condition : Bool) : Except PyError Unit :=
  if condition then .ok () else .error .assertionError

/-- `in` on a list of pairs of numbers, as links and places are. -/
instance lawfulBEq_pair : LawfulBEq (Nat × Nat) := inferInstance

/-- `l[i]`. -/
def itemAt {α : Type} (l : List α) (i : Nat) : Except PyError α :=
  match l[i]? with
  | some a => .ok a
  | none => .error .indexError

/-- `l[-i]`, for a positive `i`. -/
def itemFromEnd {α : Type} (l : List α) (i : Nat) : Except PyError α :=
  if i ≤ l.length then itemAt l (l.length - i) else .error .indexError

/-- `l[i]`, changed in place. -/
def changeItem {α : Type} (l : List α) (i : Nat) (f : α → α) :
    Except PyError (List α) :=
  if i < l.length then .ok (l.modify i f) else .error .indexError

/-- `range(start, stop, step)`, for a positive `step`. -/
def pyRange (start stop step : Nat) : List Nat :=
  List.range' start ((stop - start + (step - 1)) / step) step

theorem mem_pyRange {start stop step x : Nat} (hstep : 0 < step) :
    x ∈ pyRange start stop step ↔
      x < stop ∧ ∃ i, x = start + step * i := by
  rw [pyRange, List.mem_range']
  constructor
  · rintro ⟨i, hi, rfl⟩
    have hlt := (Nat.le_div_iff_mul_le hstep).mp (Nat.succ_le_of_lt hi)
    rw [Nat.succ_mul, Nat.mul_comm] at hlt
    exact ⟨by omega, i, rfl⟩
  · rintro ⟨hx, i, rfl⟩
    refine ⟨i, ?_, rfl⟩
    apply (Nat.le_div_iff_mul_le hstep).mpr
    rw [Nat.succ_mul, Nat.mul_comm]
    omega

def collect {α β : Type} (f : α → Except PyError (Option β)) :
    List α → Except PyError (List β)
  | [] => .ok []
  | a :: l => do
      let b ← f a
      let rest ← collect f l
      return b.toList ++ rest

section Reads

variable {α β : Type} {a : α} {b : β} {e : PyError}

@[simp] theorem pyAssert_eq_ok_iff {condition : Bool} :
    pyAssert condition = .ok () ↔ condition = true := by
  cases condition <;> simp [pyAssert]

theorem itemAt_eq_ok_iff {l : List α} {i : Nat} :
    itemAt l i = .ok a ↔ l[i]? = some a := by
  rw [itemAt]
  cases l[i]? with
  | none => simp
  | some a' => simp

theorem itemFromEnd_eq_ok_iff {l : List α} {i : Nat} :
    itemFromEnd l i = .ok a ↔ i ≤ l.length ∧ l[l.length - i]? = some a := by
  rw [itemFromEnd]
  split
  · simp [itemAt_eq_ok_iff, *]
  · simp [*]

theorem itemAt_zero_eq_ok_iff {l : List α} :
    itemAt l 0 = .ok a ↔ l.head? = some a := by
  rw [itemAt_eq_ok_iff, List.head?_eq_getElem?]

theorem itemFromEnd_one_eq_ok_iff {l : List α} :
    itemFromEnd l 1 = .ok a ↔ l.getLast? = some a := by
  rw [itemFromEnd_eq_ok_iff, List.getLast?_eq_getElem?]
  constructor
  · exact And.right
  · intro h
    have hlt := (List.getElem?_eq_some_iff.mp h).1
    exact ⟨by omega, h⟩

theorem changeItem_concat (l : List α) (a : α) (g : α → α) :
    changeItem (l ++ [a]) l.length g = .ok (l ++ [g a]) := by
  rw [changeItem, if_pos (by simp)]
  congr 1
  induction l with
  | nil => rfl
  | cons b l ih =>
      rw [List.cons_append, List.length_cons, List.modify_succ_cons, ih,
        List.cons_append]

theorem itemAt_map_range {f : Nat → α} {n i : Nat} (h : i < n) :
    itemAt ((List.range n).map f) i = .ok (f i) := by
  rw [itemAt_eq_ok_iff, List.getElem?_map, List.getElem?_range h]
  rfl

theorem itemFromEnd_map_range {f : Nat → α} {n : Nat} :
    itemFromEnd ((List.range (n + 1)).map f) 1 = .ok (f n) := by
  rw [itemFromEnd_eq_ok_iff]
  simp

theorem changeItem_map_range {f : Nat → α} {n i : Nat} (h : i < n) (g : α → α) :
    changeItem ((List.range n).map f) i g =
      .ok ((List.range n).map fun j => if j = i then g (f j) else f j) := by
  rw [changeItem, if_pos (by simpa using h)]
  congr 1
  apply List.ext_getElem?
  intro j
  rw [List.getElem?_modify, List.getElem?_map, List.getElem?_map]
  by_cases hj : j < n
  · rw [List.getElem?_range hj]
    by_cases heq : i = j
    · simp [heq]
    · simp [heq, Ne.symm heq]
  · rw [List.getElem?_eq_none (by simpa using hj)]
    rfl

theorem except_bind_eq_ok_iff {x : Except PyError α} {f : α → Except PyError β} :
    (x >>= f) = .ok b ↔ ∃ a, x = .ok a ∧ f a = .ok b := by
  cases x with
  | error e =>
      constructor
      · intro h
        cases h
      · rintro ⟨a, h, -⟩
        cases h
  | ok a =>
      constructor
      · exact fun h => ⟨a, rfl, h⟩
      · rintro ⟨a', h, h'⟩
        cases h
        exact h'

theorem except_bind_ne_error {x : Except PyError α} {f : α → Except PyError β}
    (hx : x ≠ .error e) (hf : ∀ a, f a ≠ .error e) : x >>= f ≠ .error e := by
  cases x with
  | error e' =>
      intro h
      apply hx
      cases h
      rfl
  | ok a => exact hf a

theorem itemAt_ne_error {l : List α} {i : Nat} (h : e ≠ .indexError) :
    itemAt l i ≠ .error e := by
  rw [itemAt]
  split
  · exact nofun
  · exact fun heq => h (Except.error.inj heq).symm

theorem itemFromEnd_ne_error {l : List α} {i : Nat} (h : e ≠ .indexError) :
    itemFromEnd l i ≠ .error e := by
  rw [itemFromEnd]
  split
  · exact itemAt_ne_error h
  · exact fun heq => h (Except.error.inj heq).symm

/-- A loop of checks passes when each of them does. -/
theorem except_forM_eq_ok_iff {l : List α} {f : α → Except PyError Unit} :
    l.forM f = .ok () ↔ ∀ a ∈ l, f a = .ok () := by
  induction l with
  | nil =>
      constructor
      · intro _ a ha
        cases ha
      · exact fun _ => rfl
  | cons a l ih =>
      show (f a >>= fun _ => l.forM f) = .ok () ↔ _
      rw [except_bind_eq_ok_iff, List.forall_mem_cons, ← ih]
      constructor
      · rintro ⟨⟨⟩, h⟩
        exact h
      · exact fun h => ⟨⟨⟩, h⟩

theorem mem_of_collect {f : α → Except PyError (Option β)} {l : List α}
    {r : List β} (h : collect f l = .ok r) :
    b ∈ r ↔ ∃ a ∈ l, f a = .ok (some b) := by
  induction l generalizing r with
  | nil =>
      obtain rfl := Except.ok.inj h
      simp
  | cons a l ih =>
      obtain ⟨b', hb', h⟩ := except_bind_eq_ok_iff.mp h
      obtain ⟨rest, hrest, h⟩ := except_bind_eq_ok_iff.mp h
      obtain rfl := Except.ok.inj h
      rw [List.mem_append, ih hrest, Option.mem_toList]
      simp [hb']

/-- A loop that ends computes each value in the turn of its element. -/
theorem except_mapM_eq_ok_iff {f : α → Except PyError β} {l : List α}
    {r : List β} :
    l.mapM f = .ok r ↔ List.Forall₂ (fun a b => f a = .ok b) l r := by
  induction l generalizing r with
  | nil =>
      rw [List.forall₂_nil_left_iff]
      constructor
      · intro h
        exact (Except.ok.inj h).symm
      · rintro rfl
        rfl
  | cons a l ih =>
      rw [List.mapM_cons, except_bind_eq_ok_iff, List.forall₂_cons_left_iff]
      constructor
      · rintro ⟨b, hb, h⟩
        obtain ⟨rest, hrest, h⟩ := except_bind_eq_ok_iff.mp h
        obtain rfl := Except.ok.inj h
        exact ⟨b, rest, hb, ih.mp hrest, rfl⟩
      · rintro ⟨b, rest, hb, hrest, rfl⟩
        exact ⟨b, hb, except_bind_eq_ok_iff.mpr ⟨rest, ih.mpr hrest, rfl⟩⟩

theorem exists_of_mem_mapM {f : α → Except PyError β} {l : List α} {r : List β}
    (h : l.mapM f = .ok r) (hb : b ∈ r) : ∃ a ∈ l, f a = .ok b := by
  have hturns := except_mapM_eq_ok_iff.mp h
  obtain ⟨i, hi, rfl⟩ := List.mem_iff_getElem.mp hb
  have hi' : i < l.length := hturns.length_eq ▸ hi
  exact ⟨l[i], List.getElem_mem hi', hturns.get hi' hi⟩

theorem exists_mem_mapM {f : α → Except PyError β} {l : List α} {r : List β}
    (h : l.mapM f = .ok r) (ha : a ∈ l) : ∃ b ∈ r, f a = .ok b := by
  have hturns := except_mapM_eq_ok_iff.mp h
  obtain ⟨i, hi, rfl⟩ := List.mem_iff_getElem.mp ha
  have hi' : i < r.length := hturns.length_eq ▸ hi
  exact ⟨r[i], List.getElem_mem hi', hturns.get hi hi'⟩

theorem of_mapM_range {f : Nat → Except PyError β} {n : Nat} {r : List β}
    (h : (List.range n).mapM f = .ok r) :
    r.length = n ∧ ∀ i < n, ∃ b, r[i]? = some b ∧ f i = .ok b := by
  have hturns := except_mapM_eq_ok_iff.mp h
  have hlength : r.length = n := by simpa using hturns.length_eq.symm
  refine ⟨hlength, fun i hi => ?_⟩
  have hi' : i < r.length := hlength ▸ hi
  refine ⟨r[i], List.getElem?_eq_getElem hi', ?_⟩
  simpa using hturns.get (by simpa using hi) hi'

/-- A search whose turns do not raise finds whether some turn succeeds. -/
theorem except_anyM_of_ok {f : α → Except PyError Bool} {Q : α → Prop} {l : List α}
    (h : ∀ a ∈ l, ∃ b, f a = .ok b ∧ (b = true ↔ Q a)) :
    ∃ b, l.anyM f = .ok b ∧ (b = true ↔ ∃ a ∈ l, Q a) := by
  induction l with
  | nil => exact ⟨false, rfl, by simp⟩
  | cons a l ih =>
      rw [List.forall_mem_cons] at h
      obtain ⟨b, hb, hiff⟩ := h.1
      obtain ⟨rest, hrest, hiff'⟩ := ih h.2
      rw [List.anyM, hb]
      cases b with
      | true => exact ⟨true, rfl, by simp [hiff.mp rfl]⟩
      | false =>
          have hnot : ¬ Q a := fun hQ => Bool.false_ne_true (hiff.mpr hQ)
          exact ⟨rest, hrest, by simp [hiff', hnot]⟩

/-- A loop over a value in which the turns set marks that stay set. -/
theorem except_foldlM_marks {ι : Type} {f : β → α → Except PyError β}
    {P : ι → β → Prop} {Q : ι → α → Prop} {l : List α}
    (h : ∀ b, ∀ a ∈ l, ∃ b', f b a = .ok b' ∧
      ∀ i, P i b' ↔ P i b ∨ Q i a) (b : β) :
    ∃ b', l.foldlM f b = .ok b' ∧ ∀ i, P i b' ↔ P i b ∨ ∃ a ∈ l, Q i a := by
  induction l generalizing b with
  | nil => exact ⟨b, rfl, by simp⟩
  | cons a l ih =>
      obtain ⟨b', hb', hiff⟩ := h b a List.mem_cons_self
      obtain ⟨b'', hb'', hiff'⟩ :=
        ih (fun b a' ha' => h b a' (List.mem_cons_of_mem a ha')) b'
      refine ⟨b'', ?_, fun i => ?_⟩
      · rw [List.foldlM_cons, hb']
        exact hb''
      · simp [hiff', hiff, or_assoc]

theorem except_foldlM_of_ok {f : β → α → Except PyError β} {P : β → Prop}
    {Q : α → Prop} {l : List α}
    (h : ∀ b, ∀ a ∈ l, ∃ b', f b a = .ok b' ∧ (P b' ↔ P b ∨ Q a)) (b : β) :
    ∃ b', l.foldlM f b = .ok b' ∧ (P b' ↔ P b ∨ ∃ a ∈ l, Q a) := by
  have hmarks : ∀ b, ∀ a ∈ l, ∃ b', f b a = .ok b' ∧
      ∀ _ : Unit, P b' ↔ P b ∨ Q a := by
    intro b a ha
    obtain ⟨b', hb', hiff⟩ := h b a ha
    exact ⟨b', hb', fun _ => hiff⟩
  obtain ⟨b', hb', hiff⟩ := except_foldlM_marks hmarks b
  exact ⟨b', hb', hiff ()⟩

theorem except_foldlM_field {σ : Type} (get : σ → β) (put : σ → β → σ)
    (hget : ∀ s b, get (put s b) = b) (hput : ∀ s b b', put (put s b) b' = put s b')
    (hself : ∀ s, put s (get s) = s) (f : β → α → Except PyError β) (l : List α)
    (s : σ) :
    l.foldlM (fun s a => put s <$> f (get s) a) s =
      put s <$> l.foldlM f (get s) := by
  induction l generalizing s with
  | nil => exact congrArg Except.ok (hself s).symm
  | cons a l ih =>
      rw [List.foldlM_cons, List.foldlM_cons]
      cases h : f (get s) a with
      | error e => rfl
      | ok b =>
          show l.foldlM (fun s a => put s <$> f (get s) a) (put s b) =
            put s <$> l.foldlM f b
          rw [ih, hget]
          exact congrArg (· <$> l.foldlM f b) (funext (hput s b))

theorem except_mapM_of_ok {f : α → Except PyError β} {l : List α}
    (h : ∀ a ∈ l, ∃ b, f a = .ok b) : ∃ r, l.mapM f = .ok r := by
  induction l with
  | nil => exact ⟨[], rfl⟩
  | cons a l ih =>
      rw [List.forall_mem_cons] at h
      obtain ⟨b, hb⟩ := h.1
      obtain ⟨rest, hrest⟩ := ih h.2
      exact ⟨b :: rest, by rw [List.mapM_cons, hb, hrest]; rfl⟩

theorem except_mapM_eq_map {f : α → Except PyError β} {g : α → β} {l : List α}
    (h : ∀ a ∈ l, f a = .ok (g a)) : l.mapM f = .ok (l.map g) := by
  induction l with
  | nil => rfl
  | cons a l ih =>
      rw [List.forall_mem_cons] at h
      rw [List.mapM_cons, h.1, ih h.2]
      rfl

theorem except_foldlM_append {f : List β → α → Except PyError (List β)}
    {g : α → List β} {l : List α} (h : ∀ a ∈ l, ∀ r, f r a = .ok (r ++ g a))
    (r : List β) : l.foldlM f r = .ok (r ++ l.flatMap g) := by
  induction l generalizing r with
  | nil => exact congrArg Except.ok (List.append_nil r).symm
  | cons a l ih =>
      rw [List.forall_mem_cons] at h
      rw [List.foldlM_cons, h.1, List.flatMap_cons, ← List.append_assoc]
      exact ih h.2 _

/-- The keys of what a loop collects come in the order of its turns. -/
theorem sublist_of_collect {γ : Type} {f : α → Except PyError (Option β)}
    {g : β → γ} {k : α → γ} {l : List α} {r : List β}
    (hkey : ∀ a ∈ l, ∀ b, f a = .ok (some b) → g b = k a)
    (h : collect f l = .ok r) : (r.map g).Sublist (l.map k) := by
  induction l generalizing r with
  | nil =>
      obtain rfl := Except.ok.inj h
      exact List.Sublist.refl _
  | cons a l ih =>
      rw [List.forall_mem_cons] at hkey
      obtain ⟨b?, hb, h⟩ := except_bind_eq_ok_iff.mp h
      obtain ⟨rest, hrest, h⟩ := except_bind_eq_ok_iff.mp h
      obtain rfl := Except.ok.inj h
      have hsub := ih hkey.2 hrest
      cases b? with
      | none => exact hsub.cons (k a)
      | some b =>
          rw [List.map_cons, ← hkey.1 b hb]
          exact hsub.cons_cons (g b)

theorem collect_of_ok {f : α → Except PyError (Option β)} {l : List α}
    (h : ∀ a ∈ l, ∃ b, f a = .ok b) : ∃ r, collect f l = .ok r := by
  induction l with
  | nil => exact ⟨[], rfl⟩
  | cons a l ih =>
      rw [List.forall_mem_cons] at h
      obtain ⟨b, hb⟩ := h.1
      obtain ⟨rest, hrest⟩ := ih h.2
      exact ⟨b.toList ++ rest, by rw [collect, hb, hrest]; rfl⟩

end Reads

namespace PyM

/-- The state left behind, whether or not the computation raised. -/
def finalState {σ α : Type} (x : PyM σ α) (s : σ) : σ :=
  match x.run s with
  | .ok _ s' => s'
  | .error _ s' => s'

def raises {σ α : Type} (x : PyM σ α) (s : σ) : Bool :=
  match x.run s with
  | .ok _ _ => false
  | .error _ _ => true

/-- A value that may be missing, read where a missing one raises `e`. -/
def ofOption {σ α : Type} (e : PyError) : Option α → PyM σ α
  | some a => pure a
  | none => throw e

/-- A computation that does not touch the state. -/
def ofExcept {σ α : Type} : Except PyError α → PyM σ α
  | .ok a => pure a
  | .error e => throw e

def zoom {σ τ α : Type} (part : σ → τ) (put : τ → σ → σ) (x : PyM τ α) :
    PyM σ α := fun s =>
  match x.run (part s) with
  | .ok a t => .ok a (put t s)
  | .error e t => .error e (put t s)

theorem run_bind_ok {σ α β : Type} {x : PyM σ α} {s s' : σ} {a : α}
    (h : x.run s = .ok a s') (f : α → PyM σ β) :
    (x >>= f).run s = (f a).run s' := by
  rw [EStateM.run_bind, h]

theorem run_bind_error {σ α β : Type} {x : PyM σ α} {s s' : σ} {e : PyError}
    (h : x.run s = .error e s') (f : α → PyM σ β) :
    (x >>= f).run s = .error e s' := by
  rw [EStateM.run_bind, h]

theorem run_bind_get {σ α : Type} (f : σ → PyM σ α) (s : σ) :
    ((get : PyM σ σ) >>= f).run s = (f s).run s := rfl

theorem run_bind_ofOption {σ α β : Type} {e : PyError} {o : Option α} {a : α}
    (h : o = some a) (f : α → PyM σ β) (s : σ) :
    (ofOption e o >>= f).run s = (f a).run s := by
  rw [h]
  rfl

/-- A sequence that returned went through a first part that returned. -/
theorem run_bind_eq_ok_iff {σ α β : Type} {x : PyM σ α} {f : α → PyM σ β}
    {s s'' : σ} {b : β} :
    (x >>= f).run s = .ok b s'' ↔
      ∃ a s', x.run s = .ok a s' ∧ (f a).run s' = .ok b s'' := by
  rw [EStateM.run_bind]
  cases h : x.run s with
  | ok a s' =>
      constructor
      · intro h'
        exact ⟨a, s', rfl, h'⟩
      · rintro ⟨a', s₁, h', h''⟩
        cases h'
        exact h''
  | error e s' => simp

/-- A value that is read does not change the state. -/
theorem run_bind_ofExcept_eq_ok_iff {σ α β : Type} {r : Except PyError α}
    {f : α → PyM σ β} {s s' : σ} {b : β} :
    (ofExcept r >>= f).run s = .ok b s' ↔
      ∃ a, r = .ok a ∧ (f a).run s = .ok b s' := by
  rw [run_bind_eq_ok_iff]
  constructor
  · rintro ⟨a, s₁, hread, hrest⟩
    cases r with
    | ok a' =>
        cases hread
        exact ⟨a, rfl, hrest⟩
    | error e => cases hread
  · rintro ⟨a, rfl, hrest⟩
    exact ⟨a, s, rfl, hrest⟩

@[simp] theorem run_ofOption_some {σ α : Type} (e : PyError) (a : α) (s : σ) :
    (ofOption e (some a) : PyM σ α).run s = .ok a s := rfl

@[simp] theorem run_ofOption_none {σ α : Type} (e : PyError) (s : σ) :
    (ofOption e none : PyM σ α).run s = .error e s := rfl

@[simp] theorem run_ofExcept_ok {σ α : Type} (a : α) (s : σ) :
    (ofExcept (.ok a) : PyM σ α).run s = .ok a s := rfl

theorem ofExcept_ok_bind {σ α β : Type} (a : α) (f : α → PyM σ β) :
    ofExcept (.ok a) >>= f = f a := rfl

@[simp] theorem run_ofExcept_error {σ α : Type} (e : PyError) (s : σ) :
    (ofExcept (.error e) : PyM σ α).run s = .error e s := rfl

@[simp] theorem run_throw' {σ α : Type} (e : PyError) (s : σ) :
    (throw e : PyM σ α).run s = .error e s := rfl

theorem run_zoom_ok {σ τ α : Type} {part : σ → τ} {put : τ → σ → σ}
    {x : PyM τ α} {s : σ} {t : τ} {a : α} (h : x.run (part s) = .ok a t) :
    (zoom part put x).run s = .ok a (put t s) := by
  simp only [EStateM.run] at h ⊢
  simp only [zoom, EStateM.run, h]

theorem run_zoom_error {σ τ α : Type} {part : σ → τ} {put : τ → σ → σ}
    {x : PyM τ α} {s : σ} {t : τ} {e : PyError}
    (h : x.run (part s) = .error e t) :
    (zoom part put x).run s = .error e (put t s) := by
  simp only [EStateM.run] at h ⊢
  simp only [zoom, EStateM.run, h]

theorem finalState_zoom {σ τ α : Type} {part : σ → τ} {put : τ → σ → σ}
    (x : PyM τ α) (s : σ) :
    (zoom part put x).finalState s = put (x.finalState (part s)) s := by
  simp only [finalState, zoom, EStateM.run]
  cases x (part s) <;> rfl

theorem finalState_of_ok {σ α : Type} {x : PyM σ α} {s s' : σ} {a : α}
    (h : x.run s = .ok a s') : x.finalState s = s' := by
  simp [finalState, h]

theorem finalState_of_error {σ α : Type} {x : PyM σ α} {s s' : σ} {e : PyError}
    (h : x.run s = .error e s') : x.finalState s = s' := by
  simp [finalState, h]

theorem raises_of_ok {σ α : Type} {x : PyM σ α} {s s' : σ} {a : α}
    (h : x.run s = .ok a s') : x.raises s = false := by
  rw [raises, h]

theorem finalState_bind {σ α β : Type} (x : PyM σ α) (f : α → PyM σ β) (s : σ) :
    (x >>= f).finalState s =
      match x.run s with
      | .ok a s' => (f a).finalState s'
      | .error _ s' => s' := by
  rw [finalState, EStateM.run_bind]
  cases x.run s <;> rfl

theorem forM_append {σ α : Type} (l l' : List α) (f : α → PyM σ PUnit) :
    (l ++ l').forM f = l.forM f >>= fun _ => l'.forM f :=
  List.forM_append

theorem forM_congr {σ α : Type} {l : List α} {f g : α → PyM σ PUnit}
    (h : ∀ a ∈ l, f a = g a) : l.forM f = l.forM g := by
  induction l with
  | nil => rfl
  | cons a l ih =>
      show (f a >>= fun _ => l.forM f) = _
      rw [h a List.mem_cons_self, ih fun b hb => h b (List.mem_cons_of_mem a hb)]
      rfl

theorem forM_flatMap {σ α β : Type} (l : List α) (g : α → List β)
    (f : β → PyM σ PUnit) :
    (l.forM fun a => (g a).forM f) = (l.flatMap g).forM f := by
  induction l with
  | nil => rfl
  | cons a l ih =>
      rw [List.flatMap_cons, forM_append, ← ih]
      rfl

theorem forM_map {σ α β : Type} (l : List α) (g : α → β) (f : β → PyM σ PUnit) :
    (l.map g).forM f = l.forM fun a => f (g a) := by
  induction l with
  | nil => rfl
  | cons a l ih =>
      show (f (g a) >>= fun _ => (l.map g).forM f) = _
      rw [ih]
      rfl

theorem forM_forM_eq {σ α β : Type} (l : List α) (g : α → List β)
    (f : α → β → PyM σ PUnit) :
    (l.forM fun a => (g a).forM (f a)) =
      (l.flatMap fun a => (g a).map fun b => (a, b)).forM
        fun p => f p.1 p.2 := by
  rw [← forM_flatMap]
  apply forM_congr
  intro a _
  exact (forM_map (g a) (fun b => (a, b)) fun p => f p.1 p.2).symm

/-- A loop runs to its end or stops at the first bad element (`B`); `R done s`
is what holds of the state after the elements `done`. -/
theorem run_forM_or {σ α : Type} {f : α → PyM σ PUnit} {B : α → Prop}
    {R : List α → σ → Prop} {l : List α} {s : σ} (hstart : R [] s)
    (hstep : ∀ done a rest s, l = done ++ a :: rest → R done s →
      (∃ s', (f a).run s = .ok ⟨⟩ s' ∧ ¬ B a ∧ R (done ++ [a]) s') ∨
        (B a ∧ ∃ e s', (f a).run s = .error e s')) :
    (∃ s', (l.forM f).run s = .ok ⟨⟩ s' ∧ (∀ a ∈ l, ¬ B a) ∧ R l s') ∨
      ((∃ a ∈ l, B a) ∧ ∃ e s', (l.forM f).run s = .error e s') := by
  suffices h : ∀ rest done s, l = done ++ rest → R done s →
      (∃ s', (rest.forM f).run s = .ok ⟨⟩ s' ∧ (∀ a ∈ rest, ¬ B a) ∧ R l s') ∨
        ((∃ a ∈ rest, B a) ∧ ∃ e s', (rest.forM f).run s = .error e s') from
    h l [] s rfl hstart
  intro rest
  induction rest with
  | nil =>
      intro done s hl hR
      rw [List.append_nil] at hl
      exact Or.inl ⟨s, rfl, fun a ha => absurd ha List.not_mem_nil, hl ▸ hR⟩
  | cons a rest ih =>
      intro done s hl hR
      obtain ⟨s', hrun, hgood, hR'⟩ | ⟨hbad, e, s', hrun⟩ :=
        hstep done a rest s hl hR
      · have hl' : l = (done ++ [a]) ++ rest := by
          rw [hl, List.append_assoc, List.singleton_append]
        obtain ⟨s'', hrun', hgood', hR''⟩ | ⟨⟨b, hb, hbad⟩, e, s'', hrun'⟩ :=
          ih (done ++ [a]) s' hl' hR'
        · exact Or.inl ⟨s'', (run_bind_ok hrun _).trans hrun',
            List.forall_mem_cons.mpr ⟨hgood, hgood'⟩, hR''⟩
        · exact Or.inr ⟨⟨b, List.mem_cons_of_mem a hb, hbad⟩, e, s'',
            (run_bind_ok hrun _).trans hrun'⟩
      · exact Or.inr ⟨⟨a, List.mem_cons_self, hbad⟩, e, s',
          run_bind_error hrun _⟩

theorem run_forM_ok {σ α : Type} {f : α → PyM σ PUnit}
    {R : List α → σ → Prop} {l : List α} {s : σ} (hstart : R [] s)
    (hstep : ∀ done a rest s, l = done ++ a :: rest → R done s →
      ∃ s', (f a).run s = .ok ⟨⟩ s' ∧ R (done ++ [a]) s') :
    ∃ s', (l.forM f).run s = .ok ⟨⟩ s' ∧ R l s' := by
  obtain ⟨s', hrun, -, hR⟩ | ⟨⟨a, ha, hfalse⟩, -⟩ := run_forM_or
    (B := fun _ => False) hstart fun done a rest s hl hR => by
      obtain ⟨s', hrun, hR'⟩ := hstep done a rest s hl hR
      exact Or.inl ⟨s', hrun, id, hR'⟩
  · exact ⟨s', hrun, hR⟩
  · exact hfalse.elim

theorem run_forM_same {σ α : Type} {f : α → PyM σ PUnit} {l : List α} {s : σ}
    (h : ∀ a ∈ l, (f a).run s = .ok ⟨⟩ s) : (l.forM f).run s = .ok ⟨⟩ s := by
  induction l with
  | nil => rfl
  | cons a l ih =>
      rw [List.forall_mem_cons] at h
      exact (run_bind_ok h.1 _).trans (ih h.2)

/-- A loop whose body only reads computes the test of the values read. The
loop may run over an image of the list that the values are known for. -/
theorem run_allM {σ α β : Type} {p : β → PyM σ Bool} {g : α → β} {q : α → Bool}
    {s : σ} {l : List α} (h : ∀ a ∈ l, (p (g a)).run s = .ok (q a) s) :
    ((l.map g).allM p).run s = .ok (l.all q) s := by
  induction l with
  | nil => rfl
  | cons a l ih =>
      have ih' := ih fun b hb => h b (List.mem_cons_of_mem a hb)
      rw [List.map_cons, List.allM, run_bind_ok (h a List.mem_cons_self)]
      cases hq : q a with
      | true => simp [hq, ih']
      | false => simp [hq]

theorem run_anyM {σ α β : Type} {p : β → PyM σ Bool} {g : α → β} {q : α → Bool}
    {s : σ} {l : List α} (h : ∀ a ∈ l, (p (g a)).run s = .ok (q a) s) :
    ((l.map g).anyM p).run s = .ok (l.any q) s := by
  induction l with
  | nil => rfl
  | cons a l ih =>
      have ih' := ih fun b hb => h b (List.mem_cons_of_mem a hb)
      rw [List.map_cons, List.anyM, run_bind_ok (h a List.mem_cons_self)]
      cases hq : q a with
      | true => simp [hq]
      | false => simp [hq, ih']

theorem run_mapM {σ α β γ : Type} {f : β → PyM σ γ} {g : α → β} {q : α → γ}
    {s : σ} {l : List α} (h : ∀ a ∈ l, (f (g a)).run s = .ok (q a) s) :
    ((l.map g).mapM f).run s = .ok (l.map q) s := by
  induction l with
  | nil => rfl
  | cons a l ih =>
      rw [List.map_cons, List.mapM_cons,
        run_bind_ok (h a List.mem_cons_self),
        run_bind_ok (ih fun b hb => h b (List.mem_cons_of_mem a hb))]
      rfl

end PyM

end Library

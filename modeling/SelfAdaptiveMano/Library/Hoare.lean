import SelfAdaptiveMano.Library.Python

/-!
# Pre- and postconditions of Python computations

`Meets P x Q E` says what a computation does from a state with `P`: it returns a
value and a state with `Q`, or raises in a state with `E`. Two postconditions are
needed because an exception keeps what was written before it. The rules follow
the statements: one for a sequence, one for each primitive and one for a loop.

`Keeps I x` is the special case of an invariant: `x` leaves `I` true in both
outcomes, so that a caller which catches the exception may rely on it too.
`Leads R s x` relates the state `s` before `x` to the state after it, again in
both outcomes.

A computation that `GoesThrough` a list does its elements one after the other and
returns.
-/

namespace Library.PyM

/-- From a state with `P`, `x` returns with `Q` or raises with `E`. -/
def Meets {σ α : Type} (P : σ → Prop) (x : PyM σ α) (Q : α → σ → Prop)
    (E : σ → Prop) : Prop :=
  ∀ s, P s → match x.run s with
    | .ok a s' => Q a s'
    | .error _ s' => E s'

/-- `x` keeps the invariant `I`. -/
def Keeps {σ α : Type} (I : σ → Prop) (x : PyM σ α) : Prop :=
  Meets I x (fun _ => I) I

/-- `x` never raises. -/
def Returns {σ α : Type} (x : PyM σ α) : Prop :=
  Meets (fun _ => True) x (fun _ _ => True) fun _ => False

/-- `x` raises from every state. -/
def Raises {σ α : Type} (x : PyM σ α) : Prop :=
  Meets (fun _ => True) x (fun _ _ => False) fun _ => True

/-- `x` leads from `s` to a state that `R` relates to `s`, whether or not it
raises. -/
def Leads {σ α : Type} (R : σ → σ → Prop) (s : σ) (x : PyM σ α) : Prop :=
  Meets (· = s) x (fun _ => R s) (R s)

section Rules

variable {σ τ α β : Type} {P P' : σ → Prop} {Q Q' : α → σ → Prop}
  {E E' I : σ → Prop} {x : PyM σ α}

theorem Meets.conseq (h : Meets P x Q E) (hP : ∀ s, P' s → P s)
    (hQ : ∀ a s, Q a s → Q' a s) (hE : ∀ s, E s → E' s) :
    Meets P' x Q' E' := by
  intro s hs
  have hx := h s (hP s hs)
  cases hrun : x.run s with
  | ok a s' =>
      rw [hrun] at hx
      exact hQ a s' hx
  | error e s' =>
      rw [hrun] at hx
      exact hE s' hx

theorem Meets.bind {R : β → σ → Prop} {f : α → PyM σ β} (hx : Meets P x Q E)
    (hf : ∀ a, Meets (Q a) (f a) R E) : Meets P (x >>= f) R E := by
  intro s hs
  have hx := hx s hs
  rw [EStateM.run_bind]
  cases hrun : x.run s with
  | ok a s' =>
      rw [hrun] at hx
      exact hf a s' hx
  | error e s' =>
      rw [hrun] at hx
      exact hx

theorem Meets.pure {a : α} (h : ∀ s, P s → Q a s) :
    Meets P (Pure.pure a : PyM σ α) Q E := h

theorem Meets.throw {e : PyError} (h : ∀ s, P s → E s) :
    Meets P (MonadExcept.throw e : PyM σ α) Q E := h

theorem Meets.modify {Q : Unit → σ → Prop} {f : σ → σ}
    (h : ∀ s, P s → Q () (f s)) :
    Meets P (modifyThe σ f : PyM σ Unit) Q E := h

/-- A value that is read leaves the state alone; what is known of the value is
at hand in the rest. -/
theorem Meets.bind_ofOption {R : β → σ → Prop} {e : PyError} {o : Option α}
    {f : α → PyM σ β} (hsome : ∀ a, o = some a → Meets P (f a) R E)
    (hnone : ∀ s, P s → E s) : Meets P (PyM.ofOption e o >>= f) R E := by
  cases o with
  | none => exact hnone
  | some a => exact hsome a rfl

theorem Meets.bind_ofExcept {R : β → σ → Prop} {r : Except PyError α}
    {f : α → PyM σ β} (hok : ∀ a, r = .ok a → Meets P (f a) R E)
    (herror : ∀ s, P s → E s) : Meets P (PyM.ofExcept r >>= f) R E := by
  cases r with
  | error e => exact herror
  | ok a => exact hok a rfl

theorem Meets.of_run (h : ∀ s a s', P s → x.run s = .ok a s' → Q a s') :
    Meets P x Q fun _ => True := by
  intro s hs
  cases hrun : x.run s with
  | ok a s' => exact h s a s' hs hrun
  | error e s' => trivial

theorem Meets.of_run_ok (h : Meets P x Q E) {s s' : σ} (hs : P s) {a : α}
    (hrun : x.run s = .ok a s') : Q a s' := by
  have hx := h s hs
  rw [hrun] at hx
  exact hx

theorem Meets.exists_run (h : Meets P x Q fun _ => False) {s : σ} (hs : P s) :
    ∃ a s', x.run s = .ok a s' ∧ Q a s' := by
  have hx := h s hs
  cases hrun : x.run s with
  | ok a s' =>
      rw [hrun] at hx
      exact ⟨a, s', rfl, hx⟩
  | error e s' =>
      rw [hrun] at hx
      exact hx.elim

theorem Meets.of_forall (h : ∀ s, P s → Meets (· = s) x Q E) : Meets P x Q E :=
  fun s hs => h s hs s rfl

theorem Meets.bind_get_any {R : β → σ → Prop} {f : σ → PyM σ β}
    (h : ∀ s, Meets P (f s) R E) : Meets P (MonadState.get >>= f) R E :=
  fun s hs => h s s hs

theorem Meets.bind_get {R : β → σ → Prop} {f : σ → PyM σ β}
    (h : ∀ s, P s → Meets (· = s) (f s) R E) :
    Meets P (MonadState.get >>= f) R E := by
  intro s hs
  exact h s hs s rfl

theorem Meets.ite {c : Prop} [Decidable c] {y : PyM σ α}
    (hx : c → Meets P x Q E) (hy : ¬ c → Meets P y Q E) :
    Meets P (if c then x else y) Q E := by
  by_cases h : c
  · rw [if_pos h]
    exact hx h
  · rw [if_neg h]
    exact hy h

theorem Meets.zoom {part : σ → τ} {put : τ → σ → σ} {x : PyM τ α}
    (h : ∀ s, P s → match x.run (part s) with
      | .ok a t => Q a (put t s)
      | .error _ t => E (put t s)) :
    Meets P (PyM.zoom part put x) Q E := by
  intro s hs
  have hx := h s hs
  cases hrun : x.run (part s) with
  | ok a t =>
      rw [hrun] at hx
      rw [run_zoom_ok hrun]
      exact hx
  | error e t =>
      rw [hrun] at hx
      rw [run_zoom_error hrun]
      exact hx

theorem Meets.finalState {R : σ → Prop} (h : Meets P x (fun _ => R) R) {s : σ}
    (hs : P s) : R (x.finalState s) := by
  have hx := h s hs
  rw [PyM.finalState]
  cases hrun : x.run s with
  | ok a s' =>
      rw [hrun] at hx
      exact hx
  | error e s' =>
      rw [hrun] at hx
      exact hx

theorem Keeps.bind {f : α → PyM σ β} (hx : Keeps I x)
    (hf : ∀ a, Keeps I (f a)) : Keeps I (x >>= f) :=
  Meets.bind hx hf

theorem Keeps.forM {l : List β} {f : β → PyM σ PUnit}
    (h : ∀ b ∈ l, Keeps I (f b)) : Keeps I (l.forM f) := by
  induction l with
  | nil => exact fun s hs => hs
  | cons b l ih =>
      show Keeps I (f b >>= fun _ => l.forM f)
      refine Keeps.bind (h b List.mem_cons_self) fun _ => ih ?_
      intro b' hb'
      exact h b' (List.mem_cons_of_mem b hb')

theorem Keeps.mapM {γ : Type} {l : List β} {f : β → PyM σ γ}
    (h : ∀ b ∈ l, Keeps I (f b)) : Keeps I (l.mapM f) := by
  induction l with
  | nil => exact fun s hs => hs
  | cons b l ih =>
      rw [List.mapM_cons]
      refine Keeps.bind (h b List.mem_cons_self) fun _ => Keeps.bind (ih ?_) ?_
      · intro b' hb'
        exact h b' (List.mem_cons_of_mem b hb')
      · intro _ s hs
        exact hs

/-- The rule for a loop that goes on until a turn has a result: a turn without one
keeps `P`, and a result has `Q`. -/
theorem Meets.findSomeM? {γ : Type} {Q : γ → σ → Prop} {l : List β}
    {f : β → PyM σ (Option γ)}
    (h : ∀ b ∈ l, Meets P (f b)
      (fun r s => (r = none → P s) ∧ ∀ c, r = some c → Q c s) E) :
    Meets P (l.findSomeM? f)
      (fun r s => (r = none → P s) ∧ ∀ c, r = some c → Q c s) E := by
  induction l with
  | nil => exact fun s hs => ⟨fun _ => hs, nofun⟩
  | cons b l ih =>
      have ih := ih fun b' hb' => h b' (List.mem_cons_of_mem b hb')
      rw [List.findSomeM?_cons]
      refine Meets.bind (h b List.mem_cons_self) fun r => ?_
      cases r with
      | some c => exact fun s hs => hs
      | none => exact ih.conseq (fun s hs => hs.1 rfl) (fun _ _ h => h) fun _ h => h

/-- The rule for such a loop in which some turns act. The others find nothing and
keep `U`; from the first turn that acts on, `D` holds as long as nothing is
found. -/
theorem Meets.findSomeM?_of_acts {γ : Type} {U D : σ → Prop} {acts : β → Prop}
    {l : List β} {f : β → PyM σ (Option γ)}
    (hidle : ∀ b ∈ l, ¬ acts b → Meets U (f b) (fun r s => r = none ∧ U s) E)
    (hacts : ∀ b ∈ l, acts b → Meets U (f b) (fun r s => r = none → D s) E)
    (hafter : ∀ b ∈ l, Meets D (f b) (fun r s => r = none → D s) E) :
    Meets U (l.findSomeM? f) (fun r s =>
      ((¬ ∃ b ∈ l, acts b) → r = none ∧ U s) ∧
      ((∃ b ∈ l, acts b) → r = none → D s)) E := by
  induction l with
  | nil => exact fun s hs => ⟨fun _ => ⟨rfl, hs⟩, by simp⟩
  | cons b l ih =>
      rw [List.findSomeM?_cons]
      by_cases hb : acts b
      · refine Meets.bind (hacts b List.mem_cons_self hb) fun r => ?_
        cases r with
        | some c => exact fun s _ =>
            ⟨fun hnone => absurd ⟨b, List.mem_cons_self, hb⟩ hnone, nofun⟩
        | none =>
            have hrest : Meets D (l.findSomeM? f)
                (fun r s => (r = none → D s) ∧ ∀ c, r = some c → True) E :=
              Meets.findSomeM? fun b' hb' =>
                (hafter b' (List.mem_cons_of_mem b hb')).conseq (fun _ h => h)
                  (fun _ _ h => ⟨h, fun _ _ => trivial⟩) fun _ h => h
            exact hrest.conseq (fun s hs => hs rfl)
              (fun r s hr => ⟨fun hnone => absurd ⟨b, List.mem_cons_self, hb⟩ hnone,
                fun _ => hr.1⟩) fun _ h => h
      · refine Meets.bind (hidle b List.mem_cons_self hb) fun r => ?_
        cases r with
        | some c => exact fun s hs => nomatch hs.1
        | none =>
            have ih := ih
              (fun b' hb' => hidle b' (List.mem_cons_of_mem b hb'))
              (fun b' hb' => hacts b' (List.mem_cons_of_mem b hb'))
              fun b' hb' => hafter b' (List.mem_cons_of_mem b hb')
            refine ih.conseq (fun s hs => hs.2) (fun r s hr => ?_) fun _ h => h
            simpa [hb] using hr

/-- The rule for a loop that collects values: each turn relates the value to the
element (`R`) and moves the state on by a relation that composes (`T`). -/
theorem Meets.mapM {γ : Type} {R : β → γ → Prop} {T : σ → List γ → σ → Prop}
    {F : σ → σ → Prop} (hnil : ∀ s, T s [] s)
    (hcons : ∀ {s s' s'' c cs}, T s [c] s' → T s' cs s'' → T s (c :: cs) s'')
    (hfail : ∀ {s s' s'' c}, T s [c] s' → F s' s'' → F s s'')
    {l : List β} {f : β → PyM σ γ}
    (h : ∀ b ∈ l, ∀ s, Meets (· = s) (f b) (fun c s' => R b c ∧ T s [c] s')
      (F s)) (s : σ) :
    Meets (· = s) (l.mapM f) (fun cs s' => List.Forall₂ R l cs ∧ T s cs s')
      (F s) := by
  induction l generalizing s with
  | nil =>
      rintro _ rfl
      exact ⟨.nil, hnil _⟩
  | cons b l ih =>
      have ih' := ih fun b' hb' => h b' (List.mem_cons_of_mem b hb')
      rw [List.mapM_cons]
      refine Meets.bind (h b List.mem_cons_self s) fun c => ?_
      rintro s' ⟨hR, hT⟩
      have hrest := ih' s' s' rfl
      rw [EStateM.run_bind]
      cases hrun : (l.mapM f).run s' with
      | ok cs s'' =>
          rw [hrun] at hrest
          exact ⟨.cons hR hrest.1, hcons hT hrest.2⟩
      | error e s'' =>
          rw [hrun] at hrest
          exact hfail hT hrest

theorem Keeps.zoom {part : σ → τ} {put : τ → σ → σ} {x : PyM τ α}
    (h : ∀ t s, I s → I (put t s)) : Keeps I (PyM.zoom part put x) := by
  refine Meets.zoom fun s hs => ?_
  cases x.run (part s) with
  | ok a t => exact h t s hs
  | error e t => exact h t s hs

theorem Returns.bind {f : α → PyM σ β} (hx : Returns x)
    (hf : ∀ a, Returns (f a)) : Returns (x >>= f) :=
  Meets.bind hx fun a s _ => hf a s trivial

theorem Returns.pure (a : α) : Returns (Pure.pure a : PyM σ α) :=
  fun _ _ => trivial

theorem Returns.bind_get {f : σ → PyM σ β} (hf : ∀ s, Returns (f s)) :
    Returns (MonadState.get >>= f) :=
  fun s _ => hf s s trivial

theorem Returns.bind_ofOption {e : PyError} {o : Option α} {a : α}
    {f : α → PyM σ β} (h : o = some a) (hf : Returns (f a)) :
    Returns (PyM.ofOption e o >>= f) := by
  rw [h]
  exact hf

theorem Returns.ite {c : Prop} [Decidable c] {y : PyM σ α} (hx : Returns x)
    (hy : Returns y) : Returns (if c then x else y) :=
  Meets.ite (fun _ => hx) fun _ => hy

theorem Returns.forM {l : List β} {f : β → PyM σ PUnit}
    (h : ∀ b ∈ l, Returns (f b)) : Returns (l.forM f) := by
  induction l with
  | nil => exact fun s hs => hs
  | cons b l ih =>
      refine Returns.bind (h b List.mem_cons_self) fun _ => ih ?_
      intro b' hb'
      exact h b' (List.mem_cons_of_mem b hb')

theorem Returns.mapM {γ : Type} {l : List β} {f : β → PyM σ γ}
    (h : ∀ b ∈ l, Returns (f b)) : Returns (l.mapM f) := by
  induction l with
  | nil => exact Returns.pure []
  | cons b l ih =>
      rw [List.mapM_cons]
      refine Returns.bind (h b List.mem_cons_self) fun _ => Returns.bind (ih ?_) ?_
      · intro b' hb'
        exact h b' (List.mem_cons_of_mem b hb')
      · exact fun _ => Returns.pure _

theorem Returns.bind_ofExcept {r : Except PyError α} {a : α}
    {f : α → PyM σ β} (h : r = .ok a) (hf : Returns (f a)) :
    Returns (PyM.ofExcept r >>= f) := by
  rw [h]
  exact hf

theorem Raises.bind {f : α → PyM σ β} (hx : Raises x) : Raises (x >>= f) :=
  Meets.bind hx fun _ _ => False.elim

theorem Raises.bind_right {f : α → PyM σ β} (hf : ∀ a, Raises (f a)) :
    Raises (x >>= f) := by
  intro s _
  rw [EStateM.run_bind]
  cases x.run s with
  | ok a s' => exact hf a s' trivial
  | error e s' => trivial

theorem Raises.mapM {γ : Type} {l : List β} {f : β → PyM σ γ} {b : β}
    (hmem : b ∈ l) (h : Raises (f b)) : Raises (l.mapM f) := by
  induction l with
  | nil => cases hmem
  | cons b' l ih =>
      rw [List.mapM_cons]
      obtain rfl | hmem := List.mem_cons.mp hmem
      · exact h.bind
      · exact Raises.bind_right fun _ => (ih hmem).bind

theorem Raises.bind_ofOption {e : PyError} {o : Option α} {a : α}
    {f : α → PyM σ β} (h : o = some a) (hf : Raises (f a)) :
    Raises (PyM.ofOption e o >>= f) := by
  rw [h]
  exact hf

theorem Raises.ofOption {e : PyError} {o : Option α} (h : o = none) :
    Raises (PyM.ofOption e o : PyM σ α) := by
  rw [h]
  exact fun _ _ => trivial

theorem Raises.ofExcept {r : Except PyError α} (h : ∀ a, r ≠ .ok a) :
    Raises (PyM.ofExcept r : PyM σ α) := by
  cases r with
  | ok a => exact absurd rfl (h a)
  | error e => exact fun _ _ => trivial

theorem Returns.meets (h : Returns x) : Meets P x (fun _ _ => True) E :=
  h.conseq (fun _ _ => trivial) (fun _ _ h => h) fun _ => False.elim

/-- A computation that raises, from a state with `P`, leaves one with `E`. -/
theorem Meets.of_run_error (h : Meets P x Q E) {s s' : σ} (hs : P s)
    {e : PyError} (hrun : x.run s = .error e s') : E s' := by
  have hx := h s hs
  rw [hrun] at hx
  exact hx

section Leads

variable {R : σ → σ → Prop} {s s' : σ}

theorem Leads.finalState (h : Leads R s x) : R s (x.finalState s) :=
  Meets.finalState h rfl

theorem Leads.of_ok {a : α} (h : x.run s = .ok a s') (hR : R s s') :
    Leads R s x := by
  rintro _ rfl
  rw [h]
  exact hR

theorem Leads.of_error {e : PyError} (h : x.run s = .error e s')
    (hR : R s s') : Leads R s x := by
  rintro _ rfl
  rw [h]
  exact hR

/-- A sequence goes on from wherever its first part leads. -/
theorem Leads.bind {f : α → PyM σ β} (htrans : ∀ {a b c}, R a b → R b c → R a c)
    (hx : Meets (· = s) x (fun a s' => R s s' ∧ Q a s') (R s))
    (hf : ∀ a s', Q a s' → R s s' → Leads R s' (f a)) :
    Leads R s (x >>= f) := by
  refine Meets.bind hx fun a s' h => ?_
  have hrest := hf a s' h.2 h.1 s' rfl
  cases hrun : (f a).run s' with
  | ok b s'' =>
      rw [hrun] at hrest
      exact htrans h.1 hrest
  | error e s'' =>
      rw [hrun] at hrest
      exact htrans h.1 hrest

theorem Leads.bind_modify {g : σ → σ} {y : PyM σ β}
    (htrans : ∀ {a b c}, R a b → R b c → R a c) (hg : R s (g s))
    (hy : Leads R (g s) y) :
    Leads R s (modify g >>= fun _ => y) := by
  refine Leads.bind htrans (Q := fun _ s' => s' = g s) ?_ fun _ s' h _ => h ▸ hy
  rintro _ rfl
  exact ⟨hg, rfl⟩

end Leads

end Rules

end Library.PyM

/-! ## Computations that go through a list

`Done l s` says what a state is like after the elements `l` are done. A computation
goes through `L` when it takes a state where any `l` is done to one where `l ++ L` is
done, without an exception. The rules follow the statements, and the lists are joined
as the statements are. -/

namespace Library

variable {σ α β : Type} {Done : List β → σ → Prop}

/-- `x` does `L` and returns. -/
def GoesThrough (Done : List β → σ → Prop) (x : PyM σ PUnit) (L : List β) : Prop :=
  ∀ l s, Done l s → ∃ s', x.run s = .ok ⟨⟩ s' ∧ Done (l ++ L) s'

namespace GoesThrough

variable {x : PyM σ PUnit} {L L' : List β}

theorem pure : GoesThrough Done (Pure.pure ⟨⟩) [] := by
  intro l s h
  exact ⟨s, rfl, by rwa [List.append_nil]⟩

theorem bind {f : PUnit → PyM σ PUnit} (hx : GoesThrough Done x L)
    (hf : GoesThrough Done (f ⟨⟩) L') : GoesThrough Done (x >>= f) (L ++ L') := by
  intro l s h
  obtain ⟨s', hrun, h'⟩ := hx l s h
  obtain ⟨s'', hrun', h''⟩ := hf (l ++ L) s' h'
  refine ⟨s'', (PyM.run_bind_ok hrun _).trans hrun', ?_⟩
  rwa [← List.append_assoc]

theorem bind_ofExcept {r : Except PyError α} {a : α} {f : α → PyM σ PUnit}
    (hr : r = .ok a) (hf : GoesThrough Done (f a) L) :
    GoesThrough Done (PyM.ofExcept r >>= f) L := by
  rw [hr]
  exact hf

theorem bind_ofOption {o : Option α} {e : PyError} {a : α} {f : α → PyM σ PUnit}
    (ho : o = some a) (hf : GoesThrough Done (f a) L) :
    GoesThrough Done (PyM.ofOption e o >>= f) L := by
  rw [ho]
  exact hf

theorem forM {as : List α} {f : α → PyM σ PUnit} {g : α → List β}
    (h : ∀ a ∈ as, GoesThrough Done (f a) (g a)) :
    GoesThrough Done (as.forM f) (as.flatMap g) := by
  induction as with
  | nil => exact pure
  | cons a as ih =>
      rw [List.flatMap_cons]
      apply bind (h a List.mem_cons_self)
      exact ih fun a' ha' => h a' (List.mem_cons_of_mem a ha')

end GoesThrough

end Library

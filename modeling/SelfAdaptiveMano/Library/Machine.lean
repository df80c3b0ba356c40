import Mathlib.Data.List.Basic

/-!
# Machines that take inputs one at a time

A `Machine` starts in one of its initial states and takes inputs; in each state
only some inputs can arrive (`admits`). `Run τ s` is a run that ends in `s`,
where `τ` lists the states it went through, each with the input taken there.

These rules carry every result about runs. `Run.invariant` is the induction
along a run. `Run.invariant_of_meets` is the same induction for the runs whose
steps all meet a condition, and `Run.all_of_meets` speaks of all states of such
a run. `Run.all_iff_meets` says that when, in every reachable state where a
property holds, a step keeps it exactly if the step meets a condition, then the
runs that keep the property throughout are exactly the runs whose steps all meet
the condition. `Run.steps_iff_meet` says the same of a property of the steps.
-/

namespace Library

structure Machine (σ ι : Type*) where
  init : σ → Prop
  admits : σ → ι → Prop
  step : σ → ι → σ

namespace Machine

/-- A run: `τ` lists the states left behind, oldest first, each with the input
taken in it. -/
inductive Run {σ ι : Type*} (M : Machine σ ι) : List (σ × ι) → σ → Prop where
  | start {s : σ} : M.init s → Run M [] s
  | step {τ : List (σ × ι)} {s : σ} {i : ι} :
      Run M τ s → M.admits s i → Run M (τ ++ [(s, i)]) (M.step s i)

def Reachable {σ ι : Type*} (M : Machine σ ι) (s : σ) : Prop :=
  ∃ τ, M.Run τ s

theorem Run.reachable {σ ι : Type*} {M : Machine σ ι} {τ : List (σ × ι)}
    {s : σ} (h : M.Run τ s) : M.Reachable s := ⟨τ, h⟩

theorem Run.reachable_of_mem {σ ι : Type*} {M : Machine σ ι}
    {τ : List (σ × ι)} {s : σ} (h : M.Run τ s) {e : σ × ι} (he : e ∈ τ) :
    M.Reachable e.1 := by
  induction h with
  | start => cases he
  | step hrun _ ih =>
      obtain he | he := List.mem_append.mp he
      · exact ih he
      · rw [List.mem_singleton.mp he]
        exact hrun.reachable

theorem Run.admits_of_mem {σ ι : Type*} {M : Machine σ ι}
    {τ : List (σ × ι)} {s : σ} (h : M.Run τ s) {e : σ × ι} (he : e ∈ τ) :
    M.admits e.1 e.2 := by
  induction h with
  | start => cases he
  | step _ hadmits ih =>
      obtain he | he := List.mem_append.mp he
      · exact ih he
      · rw [List.mem_singleton.mp he]
        exact hadmits

theorem Reachable.init {σ ι : Type*} {M : Machine σ ι} {s : σ}
    (h : M.init s) : M.Reachable s := ⟨[], .start h⟩

theorem Reachable.step {σ ι : Type*} {M : Machine σ ι} {s : σ} {i : ι}
    (h : M.Reachable s) (hi : M.admits s i) : M.Reachable (M.step s i) := by
  obtain ⟨τ, h⟩ := h
  exact ⟨_, .step h hi⟩

/-- The inputs can arrive one after the other, from the state `s` on. -/
def Arrive {σ ι : Type*} (M : Machine σ ι) : σ → List ι → Prop
  | _, [] => True
  | s, i :: inputs => M.admits s i ∧ Arrive M (M.step s i) inputs

instance decidableArrive {σ ι : Type*} (M : Machine σ ι)
    [∀ s i, Decidable (M.admits s i)] :
    ∀ s inputs, Decidable (M.Arrive s inputs)
  | _, [] => inferInstanceAs (Decidable True)
  | s, i :: inputs =>
      have := decidableArrive M (M.step s i) inputs
      inferInstanceAs (Decidable (M.admits s i ∧ M.Arrive (M.step s i) inputs))

def trace {σ ι : Type*} (M : Machine σ ι) : σ → List ι → List (σ × ι)
  | _, [] => []
  | s, i :: inputs => (s, i) :: trace M (M.step s i) inputs

theorem Run.arrive {σ ι : Type*} {M : Machine σ ι} {τ : List (σ × ι)} {s : σ}
    {inputs : List ι} (h : M.Run τ s) (hi : M.Arrive s inputs) :
    M.Run (τ ++ M.trace s inputs) (inputs.foldl M.step s) := by
  induction inputs generalizing τ s with
  | nil => simpa [trace] using h
  | cons i inputs ih =>
      obtain ⟨hadmits, hrest⟩ := hi
      have hrun := ih (.step h hadmits) hrest
      rw [List.append_assoc] at hrun
      exact hrun

/-- The machine, started in the initial states with a property only. -/
def startingIn {σ ι : Type*} (M : Machine σ ι) (P : σ → Prop) : Machine σ ι :=
  { M with init := fun s => M.init s ∧ P s }

theorem Run.of_startingIn {σ ι : Type*} {M : Machine σ ι} {P : σ → Prop}
    {τ : List (σ × ι)} {s : σ} (h : (M.startingIn P).Run τ s) : M.Run τ s := by
  induction h with
  | start hs => exact .start hs.1
  | step _ hi ih => exact .step ih hi

/-- What holds at the start and is kept by every step holds in every reachable
state. -/
theorem Reachable.invariant {σ ι : Type*} {M : Machine σ ι} {P : σ → Prop}
    (hinit : ∀ s, M.init s → P s)
    (hstep : ∀ s i, P s → M.admits s i → P (M.step s i)) {s : σ}
    (h : M.Reachable s) : P s := by
  obtain ⟨τ, h⟩ := h
  induction h with
  | start hs => exact hinit _ hs
  | step _ hi ih => exact hstep _ _ ih hi

/-- The same rule for the runs whose steps all meet a condition. The run so far
is at hand in the step, so that invariants of all runs can be used there. -/
theorem Run.invariant_of_meets {σ ι : Type*} {M : Machine σ ι} {P : σ → Prop}
    {C : σ → ι → Prop} (hinit : ∀ s, M.init s → P s)
    (hstep : ∀ s i, M.Reachable s → P s → M.admits s i → C s i →
      P (M.step s i))
    {τ : List (σ × ι)} {s : σ} (h : M.Run τ s)
    (hC : ∀ e ∈ τ, C e.1 e.2) : P s := by
  induction h with
  | start hs => exact hinit _ hs
  | @step τ s i hrun hi ih =>
      have hP := ih fun e he => hC e (List.mem_append_left _ he)
      exact hstep s i hrun.reachable hP hi (hC (s, i) (by simp))

theorem Run.all_of_meets {σ ι : Type*} {M : Machine σ ι} {P : σ → Prop}
    {C : σ → ι → Prop} (hinit : ∀ s, M.init s → P s)
    (hstep : ∀ s i, P s → M.admits s i → C s i → P (M.step s i))
    {τ : List (σ × ι)} {s : σ} (h : M.Run τ s) (hC : ∀ e ∈ τ, C e.1 e.2) :
    (∀ e ∈ τ, P e.1) ∧ P s := by
  induction h with
  | start hs => simp [hinit _ hs]
  | @step τ s i hrun hi ih =>
      simp only [List.forall_mem_append, List.forall_mem_singleton] at hC ⊢
      obtain ⟨hτ, hi'⟩ := hC
      obtain ⟨hP, hs⟩ := ih hτ
      exact ⟨⟨hP, hs⟩, hstep s i hs hi hi'⟩

theorem Run.all_iff_meets {σ ι : Type*} {M : Machine σ ι} {P : σ → Prop}
    {C : σ → ι → Prop} (hinit : ∀ s, M.init s → P s)
    (hstep : ∀ s i, M.Reachable s → P s → M.admits s i →
      (P (M.step s i) ↔ C s i))
    {τ : List (σ × ι)} {s : σ} (h : M.Run τ s) :
    ((∀ e ∈ τ, P e.1) ∧ P s) ↔ ∀ e ∈ τ, C e.1 e.2 := by
  induction h with
  | start hs => simp [hinit _ hs]
  | @step τ s i hrun hi ih =>
      simp only [List.forall_mem_append, List.forall_mem_singleton]
      constructor
      · rintro ⟨⟨hτ, hs⟩, hs'⟩
        exact ⟨ih.mp ⟨hτ, hs⟩, (hstep s i hrun.reachable hs hi).mp hs'⟩
      · rintro ⟨hτ, hi'⟩
        obtain ⟨hP, hs⟩ := ih.mpr hτ
        exact ⟨⟨hP, hs⟩, (hstep s i hrun.reachable hs hi).mpr hi'⟩

theorem Run.steps_iff_meet {σ ι : Type*} {M : Machine σ ι} {I : σ → Prop}
    {G C : σ → ι → Prop} (hinit : ∀ s, M.init s → I s)
    (hkeep : ∀ s i, I s → M.admits s i → G s i → I (M.step s i))
    (hstep : ∀ s i, I s → M.admits s i → (G s i ↔ C s i))
    {τ : List (σ × ι)} {s : σ} (h : M.Run τ s) :
    (∀ e ∈ τ, G e.1 e.2) ↔ ∀ e ∈ τ, C e.1 e.2 := by
  have hboth : ((∀ e ∈ τ, G e.1 e.2) ↔ ∀ e ∈ τ, C e.1 e.2) ∧
      ((∀ e ∈ τ, G e.1 e.2) → I s) := by
    induction h with
    | start hs => exact ⟨by simp, fun _ => hinit _ hs⟩
    | @step τ s i _ hi ih =>
        obtain ⟨hiff, hinv⟩ := ih
        simp only [List.forall_mem_append, List.forall_mem_singleton]
        constructor
        · constructor
          · rintro ⟨hτ, hgood⟩
            exact ⟨hiff.mp hτ, (hstep s i (hinv hτ) hi).mp hgood⟩
          · rintro ⟨hτ, hmeets⟩
            have hgood := hiff.mpr hτ
            exact ⟨hgood, (hstep s i (hinv hgood) hi).mpr hmeets⟩
        · rintro ⟨hτ, hgood⟩
          exact hkeep s i (hinv hτ) hi hgood
  exact hboth.1

end Machine

end Library

import SelfAdaptiveMano.Library.Hoare
import Mathlib.Data.Set.Insert

/-!
# Objects that need one another

A device keeps objects under keys. An object can be created where its key is
free, the objects that it needs are there and none that it excludes is; it can be
destroyed where no object needs it. `Performs O P x a L` says that the computation
`x`, started where the changes `L` are legal one after the other and `P` holds of
the rest of the state, returns `a`, makes these changes, and leaves the rest
alone.
-/

namespace Library

structure Objects (κ δ : Type) where
  needs : κ × δ → κ → Prop
  excludes : κ × δ → κ × δ → Prop

inductive Change (κ δ : Type) where
  | create (e : κ × δ)
  | destroy (e : κ × δ)

namespace Objects

section Changes

variable {κ δ : Type} (O : Objects κ δ) {S S' : Set (κ × δ)} {e e' : κ × δ}
  {L L' : List (Change κ δ)}

/-- The object `e` can be created beside the objects `S`. -/
structure Creatable (S : Set (κ × δ)) (e : κ × δ) : Prop where
  unused : ∀ d, (e.1, d) ∉ S
  needed : ∀ k, O.needs e k → ∃ d, (k, d) ∈ S
  alone : ∀ e' ∈ S, ¬ O.excludes e e'

/-- The object `e` is one of `S` and can be destroyed. -/
structure Destroyable (S : Set (κ × δ)) (e : κ × δ) : Prop where
  there : e ∈ S
  unneeded : ∀ e' ∈ S, ¬ O.needs e' e.1

def Legal : Set (κ × δ) → List (Change κ δ) → Prop
  | _, [] => True
  | S, .create e :: L => O.Creatable S e ∧ Legal (insert e S) L
  | S, .destroy e :: L => O.Destroyable S e ∧ Legal (S \ {e}) L

def after : Set (κ × δ) → List (Change κ δ) → Set (κ × δ)
  | S, [] => S
  | S, .create e :: L => after (insert e S) L
  | S, .destroy e :: L => after (S \ {e}) L

variable {O}

theorem legal_append : O.Legal S (L ++ L') ↔ O.Legal S L ∧
    O.Legal (after S L) L' := by
  induction L generalizing S with
  | nil => simp [Legal, after]
  | cons c L ih =>
      cases c with
      | create e => simp only [List.cons_append, Legal, after, ih, and_assoc]
      | destroy e => simp only [List.cons_append, Legal, after, ih, and_assoc]

theorem after_append : after S (L ++ L') = after (after S L) L' := by
  induction L generalizing S with
  | nil => rfl
  | cons c L ih =>
      cases c with
      | create e => exact ih
      | destroy e => exact ih

theorem after_create (l : List (κ × δ)) :
    after S (l.map .create) = S ∪ {e | e ∈ l} := by
  induction l generalizing S with
  | nil => simp [after]
  | cons e l ih =>
      rw [List.map_cons, after, ih]
      ext e'
      simp only [Set.mem_union, Set.mem_insert_iff, Set.mem_ofPred_eq,
        List.mem_cons]
      tauto

theorem after_destroy (l : List (κ × δ)) :
    after S (l.map .destroy) = S \ {e | e ∈ l} := by
  induction l generalizing S with
  | nil =>
      ext e
      simp [after]
  | cons e l ih =>
      rw [List.map_cons, after, ih]
      ext e'
      simp only [Set.mem_sdiff, Set.mem_singleton_iff, Set.mem_ofPred_eq,
        List.mem_cons]
      tauto

/-- An object with another key that does not exclude the new one leaves it
creatable. -/
theorem Creatable.insert (h : O.Creatable S e) (hkey : e.1 ≠ e'.1)
    (halone : ¬ O.excludes e e') : O.Creatable (insert e' S) e where
  unused := by
    rintro d (heq | hmem)
    · apply hkey
      rw [← heq]
    · exact h.unused d hmem
  needed := by
    intro k hk
    obtain ⟨d, hd⟩ := h.needed k hk
    exact ⟨d, Set.mem_insert_of_mem e' hd⟩
  alone := by
    rintro e'' (rfl | hmem)
    · exact halone
    · exact h.alone e'' hmem

/-- Objects with different keys that can each be created, and do not exclude one
another, can be created one after the other. -/
theorem legal_create {l : List (κ × δ)} (h : ∀ e ∈ l, O.Creatable S e)
    (hpairwise : l.Pairwise fun e e' => e.1 ≠ e'.1 ∧ ¬ O.excludes e' e) :
    O.Legal S (l.map .create) := by
  induction l generalizing S with
  | nil => trivial
  | cons e l ih =>
      rw [List.pairwise_cons] at hpairwise
      obtain ⟨hfirst, hrest⟩ := hpairwise
      refine ⟨h e List.mem_cons_self, ih (fun e' he' => ?_) hrest⟩
      obtain ⟨hkey, halone⟩ := hfirst e' he'
      exact (h e' (List.mem_cons_of_mem e he')).insert (Ne.symm hkey) halone

theorem legal_destroy {l : List (κ × δ)} (hnodup : l.Nodup)
    (h : ∀ e ∈ l, O.Destroyable S e) : O.Legal S (l.map .destroy) := by
  induction l generalizing S with
  | nil => trivial
  | cons e l ih =>
      rw [List.nodup_cons] at hnodup
      refine ⟨h e List.mem_cons_self, ih hnodup.2 ?_⟩
      intro e' he'
      obtain ⟨hthere, hunneeded⟩ := h e' (List.mem_cons_of_mem e he')
      refine ⟨⟨hthere, ?_⟩, fun e'' he'' => hunneeded e'' he''.1⟩
      rintro rfl
      exact hnodup.1 he'

end Changes

/-- How the objects are seen in a state, and the rest of the state. -/
structure View (σ κ δ ρ : Type) where
  entry : σ → κ → Option δ
  rest : σ → ρ

namespace View

variable {σ κ δ ρ α β : Type} (V : View σ κ δ ρ)

/-- The objects in the state are `S`. -/
def Shows (s : σ) (S : Set (κ × δ)) : Prop :=
  ∀ k d, V.entry s k = some d ↔ (k, d) ∈ S

/-- Where `P` holds of the rest of the state, `x` makes the changes `L` and
returns `a`. -/
def Performs (O : Objects κ δ) (P : ρ → Prop) (x : PyM σ α) (a : α)
    (L : List (Change κ δ)) : Prop :=
  ∀ s S, P (V.rest s) → V.Shows s S → O.Legal S L → ∃ s', x.run s = .ok a s' ∧
    V.Shows s' (after S L) ∧ V.rest s' = V.rest s

variable {V} {O : Objects κ δ} {P : ρ → Prop} {x : PyM σ α} {a : α} {b : β}
  {L L' : List (Change κ δ)}

theorem Performs.pure (a : α) : V.Performs O P (Pure.pure a : PyM σ α) a [] :=
  fun s _ _ hs _ => ⟨s, rfl, hs, rfl⟩

theorem Performs.bind {f : α → PyM σ β} (hx : V.Performs O P x a L)
    (hf : V.Performs O P (f a) b L') :
    V.Performs O P (x >>= f) b (L ++ L') := by
  intro s S hP hs hlegal
  obtain ⟨hlegal, hlegal'⟩ := legal_append.mp hlegal
  obtain ⟨s', hrun, hs', hrest⟩ := hx s S hP hs hlegal
  obtain ⟨s'', hrun', hs'', hrest'⟩ := hf s' _ (hrest ▸ hP) hs' hlegal'
  refine ⟨s'', (PyM.run_bind_ok hrun _).trans hrun', ?_, hrest'.trans hrest⟩
  rw [after_append]
  exact hs''

theorem Performs.bind_ofExcept {r : Except PyError α} {f : α → PyM σ β}
    (h : r = .ok a) (hf : V.Performs O P (f a) b L) :
    V.Performs O P (PyM.ofExcept r >>= f) b L := by
  rw [h]
  exact hf

theorem Performs.meets {S : Set (κ × δ)} {r : ρ} (hx : V.Performs O P x a L)
    (hP : P r) (hlegal : O.Legal S L) :
    PyM.Meets (fun s => V.Shows s S ∧ V.rest s = r) x
      (fun _ s => V.Shows s (after S L) ∧ V.rest s = r) fun _ => False := by
  rintro s ⟨hs, rfl⟩
  obtain ⟨s', hrun, hs', hrest⟩ := hx s S hP hs hlegal
  rw [hrun]
  exact ⟨hs', hrest⟩

theorem Performs.forM {l : List β} {f : β → PyM σ PUnit}
    {g : β → List (Change κ δ)}
    (h : ∀ b ∈ l, V.Performs O P (f b) ⟨⟩ (g b)) :
    V.Performs O P (l.forM f) ⟨⟩ (l.flatMap g) := by
  induction l with
  | nil => exact Performs.pure _
  | cons b l ih =>
      rw [List.flatMap_cons]
      refine Performs.bind (h b List.mem_cons_self) (ih fun b' hb' => ?_)
      exact h b' (List.mem_cons_of_mem b hb')

end View

end Objects

end Library

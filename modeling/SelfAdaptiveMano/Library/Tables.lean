import SelfAdaptiveMano.Library.Python

/-!
# Computations that fill tables

A device keeps entries under keys. `Tables` is how they are seen in a state: the
entry under each key, the keys that can be written, and the rest of the state as
far as it matters. `Adds T x a L` says that `x`, started where the keys of `L` are
distinct, writable and not in use, returns `a`, adds the entries `L` and nothing
else, and leaves the rest alone.

The rules follow the statements, and the lists of entries are joined as the
statements are.
-/

namespace Library

structure Tables (σ κ δ ρ : Type) where
  entry : σ → κ → Option δ
  writable : σ → κ → Prop
  rest : σ → ρ

namespace Tables

section Rules

variable {σ κ δ ρ α β : Type} (T : Tables σ κ δ ρ)

/-- `s'` has the entries of `s` and those of `L`. -/
structure Added (L : List (κ × δ)) (s s' : σ) : Prop where
  entry : ∀ k d, T.entry s' k = some d ↔ T.entry s k = some d ∨ (k, d) ∈ L
  writable : ∀ k, T.writable s' k ↔ T.writable s k
  rest : T.rest s' = T.rest s

/-- The entries `L` can be added. -/
structure Fresh (L : List (κ × δ)) (s : σ) : Prop where
  nodup : (L.map Prod.fst).Nodup
  writable : ∀ e ∈ L, T.writable s e.1
  unused : ∀ e ∈ L, T.entry s e.1 = none

/-- `x` adds the entries `L` and returns `a`. -/
def Adds (x : PyM σ α) (a : α) (L : List (κ × δ)) : Prop :=
  ∀ s, T.Fresh L s → ∃ s', x.run s = .ok a s' ∧ T.Added L s s'

variable {T} {x : PyM σ α} {a : α} {b : β} {L L' : List (κ × δ)} {s s' s'' : σ}

theorem Added.refl (s : σ) : T.Added [] s s where
  entry := by simp
  writable := fun _ => Iff.rfl
  rest := rfl

theorem Added.trans (h : T.Added L s s') (h' : T.Added L' s' s'') :
    T.Added (L ++ L') s s'' where
  entry := by
    intro k d
    rw [h'.entry, h.entry, List.mem_append, or_assoc]
  writable := fun k => (h'.writable k).trans (h.writable k)
  rest := h'.rest.trans h.rest

theorem Fresh.left (h : T.Fresh (L ++ L') s) : T.Fresh L s where
  nodup := by
    have hnodup := h.nodup
    rw [List.map_append] at hnodup
    exact (List.nodup_append.mp hnodup).1
  writable := fun e he => h.writable e (List.mem_append_left _ he)
  unused := fun e he => h.unused e (List.mem_append_left _ he)

/-- What is still to be added stays fresh, because the keys differ. -/
theorem Fresh.right (h : T.Fresh (L ++ L') s) (hadded : T.Added L s s') :
    T.Fresh L' s' where
  nodup := by
    have hnodup := h.nodup
    rw [List.map_append] at hnodup
    exact (List.nodup_append.mp hnodup).2.1
  writable := by
    intro e he
    exact (hadded.writable e.1).mpr (h.writable e (List.mem_append_right _ he))
  unused := by
    intro e he
    have hnodup := h.nodup
    rw [List.map_append] at hnodup
    cases hentry : T.entry s' e.1 with
    | none => rfl
    | some d =>
        obtain hold | hnew := (hadded.entry e.1 d).mp hentry
        · rw [h.unused e (List.mem_append_right _ he)] at hold
          cases hold
        · exact absurd rfl ((List.nodup_append.mp hnodup).2.2 e.1
            (List.mem_map.mpr ⟨_, hnew, rfl⟩) e.1
            (List.mem_map.mpr ⟨e, he, rfl⟩))

theorem Adds.pure (a : α) : T.Adds (Pure.pure a : PyM σ α) a [] :=
  fun s _ => ⟨s, rfl, .refl s⟩

theorem Adds.bind {f : α → PyM σ β} (hx : T.Adds x a L)
    (hf : T.Adds (f a) b L') : T.Adds (x >>= f) b (L ++ L') := by
  intro s hfresh
  obtain ⟨s', hrun, hadded⟩ := hx s hfresh.left
  obtain ⟨s'', hrun', hadded'⟩ := hf s' (hfresh.right hadded)
  rw [PyM.run_bind_ok hrun]
  exact ⟨s'', hrun', hadded.trans hadded'⟩

theorem Adds.bind_ofOption {e : PyError} {o : Option α} {f : α → PyM σ β}
    (h : o = some a) (hf : T.Adds (f a) b L) :
    T.Adds (PyM.ofOption e o >>= f) b L := by
  rw [h]
  exact hf

theorem Adds.bind_ofExcept {r : Except PyError α} {f : α → PyM σ β}
    (h : r = .ok a) (hf : T.Adds (f a) b L) :
    T.Adds (PyM.ofExcept r >>= f) b L := by
  rw [h]
  exact hf

theorem Adds.modify {f : σ → σ} (h : ∀ s, T.Added [] s (f s)) :
    T.Adds (modifyThe σ f : PyM σ Unit) () [] :=
  fun s _ => ⟨f s, rfl, h s⟩

theorem Adds.forM {l : List β} {f : β → PyM σ PUnit} {g : β → List (κ × δ)}
    (h : ∀ b ∈ l, T.Adds (f b) ⟨⟩ (g b)) :
    T.Adds (l.forM f) ⟨⟩ (l.flatMap g) := by
  induction l with
  | nil => exact Adds.pure _
  | cons b l ih =>
      rw [List.flatMap_cons]
      refine Adds.bind (h b List.mem_cons_self) (ih fun b' hb' => ?_)
      exact h b' (List.mem_cons_of_mem b hb')

theorem Adds.allM {l : List β} {p : β → PyM σ Bool} {g : β → List (κ × δ)}
    (h : ∀ b ∈ l, T.Adds (p b) true (g b)) :
    T.Adds (l.allM p) true (l.flatMap g) := by
  induction l with
  | nil => exact Adds.pure _
  | cons b l ih =>
      rw [List.flatMap_cons]
      refine Adds.bind (h b List.mem_cons_self) (ih fun b' hb' => ?_)
      exact h b' (List.mem_cons_of_mem b hb')

end Rules

end Tables

end Library

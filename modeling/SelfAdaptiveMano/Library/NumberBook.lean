import SelfAdaptiveMano.Library.Dict
import SelfAdaptiveMano.Library.Machine
import SelfAdaptiveMano.Library.Python

/-!
# Books of numbers

A `NumberBook` records the numbers of keys, table by table. A step of a program
that keeps such a book is `Fair` when afterwards no two keys of a table have the
same number, only the keys that it releases lose theirs, and a new key gets the
least number that its table did not use.

A program that looks for the least unused number keeps keys apart whatever it
does with the number; the step is fair exactly if the key had no number yet
(`fair_put_iff`).

A `Keeper` is a program with a book and calls that ask for the number of a key or
release keys. `Keeper.kept_iff_meet` carries what its calls do one by one to its
runs.
-/

namespace Library

abbrev NumberBook (τ κ : Type*) := τ → κ → Option Nat

namespace NumberBook

variable {τ κ : Type*} {B B' : NumberBook τ κ} {t : τ} {k : κ} {n : Nat}
  {released : τ → κ → Prop}

def Apart (B : NumberBook τ κ) : Prop :=
  ∀ t k k' n, B t k = some n → B t k' = some n → k = k'

structure LeastUnused (B : NumberBook τ κ) (t : τ) (n : Nat) : Prop where
  unused : ∀ k, B t k ≠ some n
  least : ∀ m < n, ∃ k, B t k = some m

/-- What is asked of a step that releases the keys `released`. -/
structure Fair (released : τ → κ → Prop) (B B' : NumberBook τ κ) : Prop where
  apart : B'.Apart
  kept : ∀ t k n, B t k = some n → ¬ released t k → B' t k = some n
  given : ∀ t k n, B t k = none → B' t k = some n → B.LeastUnused t n

theorem Fair.of_sub (hB : B.Apart)
    (hsub : ∀ t k n, B' t k = some n → B t k = some n)
    (hkept : ∀ t k n, B t k = some n → ¬ released t k → B' t k = some n) :
    Fair released B B' where
  apart := fun t k k' n hk hk' => hB t k k' n (hsub t k n hk) (hsub t k' n hk')
  kept := hkept
  given := by
    intro t k n hnone hk
    rw [hsub t k n hk] at hnone
    cases hnone

theorem Fair.refl (hB : B.Apart) : Fair released B B :=
  .of_sub hB (fun _ _ _ hk => hk) (fun _ _ _ hk _ => hk)

section Changes

variable [DecidableEq τ] [DecidableEq κ]

/-- The book with the number `n` for a key. -/
def put (B : NumberBook τ κ) (t : τ) (k : κ) (n : Nat) : NumberBook τ κ :=
  fun t' k' => if t' = t ∧ k' = k then some n else B t' k'

@[simp] theorem put_self : B.put t k n t k = some n := by
  rw [put, if_pos ⟨rfl, rfl⟩]

theorem put_of_ne {t' : τ} {k' : κ} (h : ¬ (t' = t ∧ k' = k)) :
    B.put t k n t' k' = B t' k' := by
  rw [put, if_neg h]

/-- A number that no key has may be given to any key. -/
theorem Apart.put (hB : B.Apart) (hn : ∀ k', B t k' ≠ some n) :
    (B.put t k n).Apart := by
  intro t' k₁ k₂ m h₁ h₂
  by_cases hk₁ : t' = t ∧ k₁ = k
  · by_cases hk₂ : t' = t ∧ k₂ = k
    · rw [hk₁.2, hk₂.2]
    · obtain ⟨rfl, rfl⟩ := hk₁
      rw [put_self] at h₁
      rw [put_of_ne hk₂, ← Option.some.inj h₁] at h₂
      exact absurd h₂ (hn k₂)
  · rw [put_of_ne hk₁] at h₁
    by_cases hk₂ : t' = t ∧ k₂ = k
    · obtain ⟨rfl, rfl⟩ := hk₂
      rw [put_self] at h₂
      rw [← Option.some.inj h₂] at h₁
      exact absurd h₁ (hn k₁)
    · rw [put_of_ne hk₂] at h₂
      exact hB t' k₁ k₂ m h₁ h₂

theorem fair_put_iff (hB : B.Apart) (hn : B.LeastUnused t n)
    (hkeeps : ¬ released t k) :
    Fair released B (B.put t k n) ↔ B t k = none := by
  constructor
  · intro hfair
    cases hk : B t k with
    | none => rfl
    | some m =>
        have hkept := hfair.kept t k m hk hkeeps
        rw [put_self] at hkept
        rw [← Option.some.inj hkept] at hk
        exact absurd hk (hn.unused k)
  · intro hnone
    refine ⟨hB.put hn.unused, fun t' k' m hk _ => ?_, fun t' k' m hk hk' => ?_⟩
    · rw [put_of_ne]
      · exact hk
      · rintro ⟨rfl, rfl⟩
        rw [hnone] at hk
        cases hk
    · by_cases heq : t' = t ∧ k' = k
      · obtain ⟨rfl, rfl⟩ := heq
        rw [put_self] at hk'
        rw [← Option.some.inj hk']
        exact hn
      · rw [put_of_ne heq, hk] at hk'
        cases hk'

end Changes

section Dicts

variable [DecidableEq τ] [DecidableEq κ] {D : Dict τ (Dict κ Nat)}
  {d : Dict κ Nat}

/-- The book that dictionaries keep: a table that is not there has no keys. -/
def ofDict (D : Dict τ (Dict κ Nat)) : NumberBook τ κ := fun t k =>
  (D.get? t).bind fun d => d.get? k

theorem ofDict_eq (h : D.get? t = some d) : ofDict D t k = d.get? k := by
  rw [ofDict, h, Option.bind_some]

theorem ofDict_set (t' : τ) (k : κ) :
    ofDict (D.set t d) t' k = if t' = t then d.get? k else ofDict D t' k := by
  rw [ofDict, Dict.get?_set]
  split
  · rfl
  · rfl

theorem ofDict_set_set (h : D.get? t = some d) :
    ofDict (D.set t (d.set k n)) = (ofDict D).put t k n := by
  funext t' k'
  rw [ofDict_set, Dict.get?_set]
  by_cases ht : t' = t
  · subst ht
    rw [if_pos rfl]
    by_cases hk : k' = k
    · rw [if_pos hk, hk, put_self]
    · rw [if_neg hk, put_of_ne fun hboth => hk hboth.2, ofDict_eq h]
  · rw [if_neg ht, put_of_ne fun hboth => ht hboth.1]

/-- A number that no key has may be given to any key of a table. -/
theorem eq_of_get?_set
    (hd : ∀ k k' n, d.get? k = some n → d.get? k' = some n → k = k')
    (hn : ∀ k, d.get? k ≠ some n) :
    ∀ k₁ k₂ m, (d.set k n).get? k₁ = some m → (d.set k n).get? k₂ = some m →
      k₁ = k₂ := by
  intro k₁ k₂ m h₁ h₂
  rw [Dict.get?_set] at h₁ h₂
  by_cases hk₁ : k₁ = k
  · by_cases hk₂ : k₂ = k
    · rw [hk₁, hk₂]
    · rw [if_pos hk₁] at h₁
      rw [if_neg hk₂, ← h₁] at h₂
      exact absurd h₂ (hn k₂)
  · rw [if_neg hk₁] at h₁
    by_cases hk₂ : k₂ = k
    · rw [if_pos hk₂] at h₂
      rw [← h₂] at h₁
      exact absurd h₁ (hn k₁)
    · rw [if_neg hk₂] at h₂
      exact hd k₁ k₂ m h₁ h₂

theorem apart_ofDict_empty :
    (ofDict (Dict.empty : Dict τ (Dict κ Nat))).Apart := by
  intro t k k' n hk
  cases hk

theorem Apart.ofDict_set (hD : (ofDict D).Apart)
    (hd : ∀ k k' n, d.get? k = some n → d.get? k' = some n → k = k') :
    (ofDict (D.set t d)).Apart := by
  intro t' k k' n hk hk'
  rw [NumberBook.ofDict_set] at hk hk'
  split at hk
  · next heq =>
      rw [if_pos heq] at hk'
      exact hd k k' n hk hk'
  · next hne =>
      rw [if_neg hne] at hk'
      exact hD t' k k' n hk hk'

/-- A table gets the keys of a smaller one: only the others are lost. -/
theorem Fair.set (hD : (ofDict D).Apart) {d' : Dict κ Nat}
    (hsub : ∀ k n, d'.get? k = some n → ofDict D t k = some n)
    (hkept : ∀ k n, ofDict D t k = some n → ¬ released t k →
      d'.get? k = some n) :
    Fair released (ofDict D) (ofDict (D.set t d')) := by
  refine .of_sub hD (fun t' k n hk => ?_) fun t' k n hk hkeeps => ?_
  · rw [ofDict_set] at hk
    split at hk
    · next heq => exact heq ▸ hsub k n hk
    · exact hk
  · rw [ofDict_set]
    split
    · next heq =>
        subst heq
        exact hkept k n hk hkeeps
    · exact hk

/-- A key loses its number. -/
theorem Fair.set_erase (hD : (ofDict D).Apart) (h : D.get? t = some d)
    (hreleased : released t k) :
    Fair released (ofDict D) (ofDict (D.set t (d.erase k))) := by
  refine .set hD (fun k' n hk' => ?_) fun k' n hk' hkeeps => ?_
  · rw [Dict.get?_erase] at hk'
    split at hk'
    · cases hk'
    · rw [ofDict_eq h]
      exact hk'
  · rw [Dict.get?_erase, if_neg, ← ofDict_eq h]
    · exact hk'
    · rintro rfl
      exact hkeeps hreleased

theorem Fair.set_empty (hD : (ofDict D).Apart) (hreleased : ∀ k, released t k) :
    Fair released (ofDict D) (ofDict (D.set t Dict.empty)) := by
  refine .set hD (fun k n hk => ?_) fun k n _ hkeeps => ?_
  · cases hk
  · exact absurd (hreleased k) hkeeps

theorem Fair.erase (hD : (ofDict D).Apart) (hreleased : ∀ k, released t k) :
    Fair released (ofDict D) (ofDict (D.erase t)) := by
  refine .of_sub hD (fun t' k n hk => ?_) fun t' k n hk hkeeps => ?_
  · rw [ofDict, Dict.get?_erase] at hk
    split at hk
    · cases hk
    · exact hk
  · rw [ofDict, Dict.get?_erase, if_neg]
    · exact hk
    · rintro rfl
      exact hkeeps (hreleased k)

end Dicts

end NumberBook

/-- A program that keeps a book: what its calls do and answer, which keys they
release and for the number of which key they ask. -/
structure Keeper (σ ι : Type) (τ κ : Type*) where
  book : σ → NumberBook τ κ
  call : ι → PyM σ (Option Nat)
  released : ι → τ → κ → Prop
  asked : ι → Option (τ × κ)

namespace Keeper

variable {σ ι : Type} {τ κ : Type*} (K : Keeper σ ι τ κ)

def machine (init : σ → Prop) : Machine σ ι where
  init := init
  admits := fun _ _ => True
  step := fun s i => (K.call i).finalState s

/-- The call is fair, and answers the number that the key has afterwards. -/
structure Good (s : σ) (i : ι) : Prop where
  fair : NumberBook.Fair (K.released i) (K.book s)
    (K.book ((K.call i).finalState s))
  answered : ∀ n s', (K.call i).run s = .ok (some n) s' →
    ∃ t k, K.asked i = some (t, k) ∧ K.book s' t k = some n

section Calls

variable {K} {s s' : σ} {i : ι} {t : τ} {k : κ} {n : Nat}

theorem good_of_error {e : PyError} (hs : (K.book s).Apart)
    (h : (K.call i).run s = .error e s) : K.Good s i where
  fair := by
    rw [PyM.finalState_of_error h]
    exact .refl hs
  answered := by
    intro n s' h'
    rw [h] at h'
    cases h'

theorem good_of_none (h : (K.call i).run s = .ok none s')
    (hfair : NumberBook.Fair (K.released i) (K.book s) (K.book s')) :
    K.Good s i where
  fair := by
    rw [PyM.finalState_of_ok h]
    exact hfair
  answered := by
    intro n s'' h'
    rw [h] at h'
    cases h'

theorem good_of_found (hs : (K.book s).Apart)
    (h : (K.call i).run s = .ok (some n) s) (hasked : K.asked i = some (t, k))
    (hk : K.book s t k = some n) : K.Good s i where
  fair := by
    rw [PyM.finalState_of_ok h]
    exact .refl hs
  answered := by
    intro n' s' h'
    rw [h] at h'
    cases h'
    exact ⟨t, k, hasked, hk⟩

/-- A call that gives the least unused number is good for a new key only. -/
theorem good_iff_of_put [DecidableEq τ] [DecidableEq κ] (hs : (K.book s).Apart)
    (h : (K.call i).run s = .ok (some n) s') (hasked : K.asked i = some (t, k))
    (hbook : K.book s' = (K.book s).put t k n)
    (hn : (K.book s).LeastUnused t n) (hkeeps : ¬ K.released i t k) :
    K.Good s i ↔ K.book s t k = none := by
  rw [← NumberBook.fair_put_iff hs hn hkeeps, ← hbook,
    ← PyM.finalState_of_ok h]
  constructor
  · exact Good.fair
  · intro hfair
    refine ⟨hfair, fun n' s'' h' => ?_⟩
    rw [h] at h'
    cases h'
    refine ⟨t, k, hasked, ?_⟩
    rw [hbook]
    exact NumberBook.put_self

end Calls

/-- The calls of a run are good, and no two keys of a table have the same number
in any of its states. -/
structure Kept (run : List (σ × ι)) (s : σ) : Prop where
  good : ∀ e ∈ run, (K.book e.1).Apart ∧ K.Good e.1 e.2
  apart : (K.book s).Apart

theorem kept_iff_meet {init : σ → Prop} {C : σ → ι → Prop}
    (hinit : ∀ s, init s → (K.book s).Apart)
    (hstep : ∀ s i, (K.book s).Apart → (K.Good s i ↔ C s i))
    {run : List (σ × ι)} {s : σ} (h : (K.machine init).Run run s) :
    K.Kept run s ↔ ∀ e ∈ run, C e.1 e.2 := by
  have hsteps : (∀ e ∈ run, (K.book e.1).Apart ∧ K.Good e.1 e.2) ↔
      ∀ e ∈ run, C e.1 e.2 := by
    refine h.steps_iff_meet (I := fun s => (K.book s).Apart)
      (G := fun s i => (K.book s).Apart ∧ K.Good s i) (C := C) hinit ?_ ?_
    · intro s i _ _ hgood
      exact hgood.2.fair.apart
    · intro s i hapart _
      rw [← hstep s i hapart]
      exact and_iff_right hapart
  rw [← hsteps]
  constructor
  · exact Kept.good
  · intro hgood
    refine ⟨hgood, ?_⟩
    cases h with
    | start hs => exact hinit s hs
    | step _ _ =>
        exact (hgood _ (List.mem_append_right _ List.mem_cons_self)).2.fair.apart

end Keeper

end Library

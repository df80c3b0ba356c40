import Mathlib.Data.List.Induction

/-!
# What happens at most once

`Justified P l` says of a history `l`, oldest entry first, that each entry `a`
was recorded when the entries `pre` before it satisfied `P pre a`. A history
grows at its end, so the property is kept by an append exactly when the new
entry is justified (`justified_append_singleton`). An entry of a kind that no
earlier entry may share occurs at most once (`Justified.length_filter_le_one`).

Runners move up from rank to rank, and some of them leave. A milestone `a` lies
at the rank `stage a`; a runner that owns it may pass it when it moves from below
that rank to the rank or above, and `count a` says how often it was passed.

When no two runners own the same milestone, no milestone is passed twice: one
that a runner still has ahead of it was not passed at all (`ahead`), and this is
kept by every move (`PassedOnce.pass`, `PassedOnce.mono`).
-/

namespace Library

def Justified {α : Type*} (P : List α → α → Prop) (l : List α) : Prop :=
  ∀ pre a post, l = pre ++ a :: post → P pre a

@[simp] theorem justified_nil {α : Type*} (P : List α → α → Prop) :
    Justified P [] := by
  intro pre a post h
  simp at h

theorem justified_append_singleton {α : Type*} {P : List α → α → Prop}
    {l : List α} {b : α} :
    Justified P (l ++ [b]) ↔ Justified P l ∧ P l b := by
  constructor
  · intro h
    constructor
    · intro pre a post hl
      refine h pre a (post ++ [b]) ?_
      rw [hl, List.append_assoc, List.cons_append]
    · exact h l b [] rfl
  · rintro ⟨hl, hb⟩ pre a post h
    rcases List.eq_nil_or_concat post with rfl | ⟨post', c, rfl⟩
    · rcases List.append_inj' h rfl with ⟨rfl, hba⟩
      rw [← (List.cons.inj hba).1]
      exact hb
    · have h' : l ++ [b] = (pre ++ a :: post') ++ [c] := by
        rw [h]
        simp
      exact hl pre a post' (List.append_inj' h' rfl).1

theorem Justified.mono {α : Type*} {P Q : List α → α → Prop} {l : List α}
    (h : Justified P l) (hPQ : ∀ pre a, P pre a → Q pre a) : Justified Q l :=
  fun pre a post hl => hPQ pre a (h pre a post hl)

theorem Justified.length_filter_le_one {α : Type*} {q : α → Bool} {l : List α}
    (h : Justified (fun pre a => q a → ∀ b ∈ pre, ¬ q b) l) :
    (l.filter q).length ≤ 1 := by
  induction l using List.reverseRecOn with
  | nil => simp
  | append_singleton l a ih =>
      rcases justified_append_singleton.mp h with ⟨hl, ha⟩
      by_cases hq : q a
      · have hnone : l.filter q = [] := List.filter_eq_nil_iff.mpr (ha hq)
        simp [hnone, hq]
      · simpa [hq] using ih hl

/-! ## Milestones that are passed once -/

/-- No milestone was passed twice, and none that its owner has ahead of it was
passed. -/
structure PassedOnce {κ α : Type*} (owns : κ → α → Prop) (stage : α → Nat)
    (rank : κ → Option Nat) (count : α → Nat) : Prop where
  le_one : ∀ a, count a ≤ 1
  ahead : ∀ a k r, owns k a → rank k = some r → r < stage a → count a = 0

namespace PassedOnce

variable {κ α : Type*} {owns : κ → α → Prop} {stage : α → Nat}
  {rank rank' : κ → Option Nat} {count count' : α → Nat}

theorem of_zero (h : ∀ a, count a = 0) : PassedOnce owns stage rank count where
  le_one a := by rw [h a]; exact Nat.zero_le 1
  ahead a _ _ _ _ _ := h a

theorem mono (h : PassedOnce owns stage rank count)
    (hrank : ∀ k r', rank' k = some r' → ∃ r, rank k = some r ∧ r ≤ r')
    (hcount : ∀ a, count' a = count a) : PassedOnce owns stage rank' count' where
  le_one a := by rw [hcount]; exact h.le_one a
  ahead a k r' howns hk hlt := by
    obtain ⟨r, hr, hle⟩ := hrank k r' hk
    rw [hcount]
    exact h.ahead a k r howns hr (Nat.lt_of_le_of_lt hle hlt)

theorem pass (h : PassedOnce owns stage rank count) {k : κ} {r r' : Nat}
    (hk : rank k = some r) (hk' : rank' k = some r') (hle : r ≤ r')
    (hothers : ∀ l, l ≠ k → rank' l = rank l)
    (hcount : ∀ a, count' a = count a ∨ count' a = count a + 1 ∧ owns k a ∧
      (∀ l, owns l a → rank l ≠ none → l = k) ∧ r < stage a ∧ stage a ≤ r') :
    PassedOnce owns stage rank' count' where
  le_one a := by
    obtain heq | ⟨heq, howns, -, hlt, -⟩ := hcount a
    · rw [heq]
      exact h.le_one a
    · exact Nat.le_of_eq (by rw [heq, h.ahead a k r howns hk hlt])
  ahead a l q howns hl hlt := by
    obtain rfl | hne := Classical.em (l = k)
    · obtain rfl : r' = q := Option.some.inj (hk'.symm.trans hl)
      obtain heq | ⟨-, -, -, -, hge⟩ := hcount a
      · rw [heq]
        exact h.ahead a l r howns hk (Nat.lt_of_le_of_lt hle hlt)
      · exact absurd hlt (Nat.not_lt.mpr hge)
    · rw [hothers l hne] at hl
      obtain heq | ⟨-, -, honly, -, -⟩ := hcount a
      · rw [heq]
        exact h.ahead a l q howns hl hlt
      · exact absurd (honly l howns (by rw [hl]; exact Option.some_ne_none q)) hne

end PassedOnce

end Library

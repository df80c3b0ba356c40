import SelfAdaptiveMano.Sff.Requests

/-!
# The gates of the match table

The first rule for a VNFI in a direction assigns a gate that no other VNFI and
direction has, and later rules find it again. The rules of a use refer to the
gates that its VNFI has in the directions of the use.
-/

namespace SelfAdaptiveMano.Sff

open Library Library.Objects

theorem firstGap_spec (a : Nat) (l : List Nat)
    (hsorted : (a :: l).Pairwise (· ≤ ·)) :
    a < firstGap (a :: l) ∧ firstGap (a :: l) ∉ a :: l := by
  induction l generalizing a with
  | nil => simp [firstGap]
  | cons b l ih =>
      rw [List.pairwise_cons] at hsorted
      obtain ⟨hle, hrest⟩ := hsorted
      have hab := hle b List.mem_cons_self
      rw [firstGap]
      split
      · next hgap =>
          refine ⟨by omega, fun hmem => ?_⟩
          obtain heq | hmem := List.mem_cons.mp hmem
          · omega
          obtain heq | hmem := List.mem_cons.mp hmem
          · omega
          · have := (List.pairwise_cons.mp hrest).1 _ hmem
            omega
      · obtain ⟨hlt, hnot⟩ := ih b hrest
        refine ⟨by omega, fun hmem => ?_⟩
        obtain heq | hmem := List.mem_cons.mp hmem
        · omega
        · exact hnot hmem

/-- The number that is found is not in the list. -/
theorem genAvailableMiniNum4List_notMem (l : List Nat) :
    genAvailableMiniNum4List l ∉ l := by
  have hperm : (l.insertionSort (· ≤ ·)).Perm l := List.perm_insertionSort ..
  have hsorted : (l.insertionSort (· ≤ ·)).Pairwise (· ≤ ·) :=
    List.pairwise_insertionSort (· ≤ ·) l
  rw [← hperm.mem_iff, genAvailableMiniNum4List]
  split
  · next hnil =>
      rw [hnil]
      exact List.not_mem_nil
  · next minNum nums hcons =>
      rw [hcons] at hsorted ⊢
      split
      · next hmin =>
          intro hmem
          obtain heq | hmem := List.mem_cons.mp hmem
          · exact hmin heq.symm
          · have := (List.pairwise_cons.mp hsorted).1 _ hmem
            omega
      · exact (firstGap_spec minNum nums hsorted).2

/-- No number is left out before the first gap. -/
theorem mem_of_lt_firstGap (a : Nat) (l : List Nat) {m : Nat} (ha : a ≤ m)
    (hm : m < firstGap (a :: l)) : m ∈ a :: l := by
  induction l generalizing a with
  | nil =>
      rw [firstGap] at hm
      rw [List.mem_singleton]
      omega
  | cons b l ih =>
      obtain rfl | hlt := Nat.eq_or_lt_of_le ha
      · exact List.mem_cons_self
      · rw [firstGap] at hm
        split at hm
        · omega
        · exact List.mem_cons_of_mem a (ih b (by omega) hm)

/-- The numbers before the one that is found are in the list. -/
theorem mem_of_lt_genAvailableMiniNum4List {l : List Nat} {m : Nat}
    (hm : m < genAvailableMiniNum4List l) : m ∈ l := by
  have hperm : (l.insertionSort (· ≤ ·)).Perm l := List.perm_insertionSort ..
  rw [genAvailableMiniNum4List] at hm
  rw [← hperm.mem_iff]
  split at hm
  · exact absurd hm (Nat.not_lt_zero m)
  · next minNum nums hcons =>
      split at hm
      · exact absurd hm (Nat.not_lt_zero m)
      · next hmin =>
          rw [hcons]
          exact mem_of_lt_firstGap minNum nums (by omega) hm

/-- `ogates'` has the gates of `ogates`, and gates of its own for the VNFI in the
directions `ds`. -/
structure Assigned (vnfiID : UUID) (ds : List Nat)
    (ogates ogates' : Dict GateKey Nat) : Prop where
  kept : ∀ k g, ogates.get? k = some g → ogates'.get? k = some g
  only : ∀ k g, ogates'.get? k = some g →
    ogates.get? k = some g ∨ ∃ d ∈ ds, k = .vnfi vnfiID d
  all : ∀ d ∈ ds, ∃ g, ogates'.get? (.vnfi vnfiID d) = some g
  inj : (∀ k k' g, ogates.get? k = some g → ogates.get? k' = some g → k = k') →
    ∀ k k' g, ogates'.get? k = some g → ogates'.get? k' = some g → k = k'

theorem Assigned.refl (vnfiID : UUID) (ogates : Dict GateKey Nat) :
    Assigned vnfiID [] ogates ogates where
  kept := fun _ _ h => h
  only := fun _ _ h => Or.inl h
  all := fun _ h => absurd h List.not_mem_nil
  inj := id

theorem Assigned.trans {vnfiID : UUID} {d : Nat} {ds : List Nat}
    {ogates ogates' ogates'' : Dict GateKey Nat}
    (h : Assigned vnfiID [d] ogates ogates')
    (h' : Assigned vnfiID ds ogates' ogates'') :
    Assigned vnfiID (d :: ds) ogates ogates'' where
  kept := fun k g hk => h'.kept k g (h.kept k g hk)
  only := by
    intro k g hk
    obtain hk | ⟨d', hd', rfl⟩ := h'.only k g hk
    · obtain hk | ⟨d', hd', rfl⟩ := h.only k g hk
      · exact Or.inl hk
      · rw [List.mem_singleton] at hd'
        exact Or.inr ⟨d, List.mem_cons_self, by rw [hd']⟩
    · exact Or.inr ⟨d', List.mem_cons_of_mem d hd', rfl⟩
  all := by
    intro d' hd'
    obtain rfl | hd' := List.mem_cons.mp hd'
    · obtain ⟨g, hg⟩ := h.all d' (List.mem_singleton.mpr rfl)
      exact ⟨g, h'.kept _ g hg⟩
    · exact h'.all d' hd'
  inj := fun hinj => h'.inj (h.inj hinj)

/-- The rules of a use in the directions `ds`. -/
def ruleObjects (chainType : ChainType) (u : Use) (ogates : Dict GateKey Nat)
    (ds : List Nat) : Set Object :=
  {e | ∃ d ∈ ds, ∃ g, ogates.get? (.vnfi u.vnfi.vnfiID d) = some g ∧
    e = ruleObject chainType u d g}

section Assignment

variable {β : Type} {bess : Bess β} {chainType : ChainType} {side : Side β}
  {ogates : Dict GateKey Nat} {u : Use}

theorem run_ogatesOf {table : BaseName}
    (h : side.sibm.ogates.get? table = some ogates) :
    (ogatesOf table).run side = .ok ogates side := by
  rw [ogatesOf, PyM.run_bind_get, h]
  rfl

theorem run_assignOGate {table : BaseName}
    (h : side.sibm.ogates.get? table = some ogates) (vnfiID : UUID) (d : Nat) :
    ∃ g ogates' side', (assignOGate table vnfiID d).run side = .ok g side' ∧
      side'.sibm.ogates.get? table = some ogates' ∧
      side'.sibm.vnfiDict = side.sibm.vnfiDict ∧ side'.bess = side.bess ∧
      ogates'.get? (.vnfi vnfiID d) = some g ∧
      Assigned vnfiID [d] ogates ogates' := by
  rw [assignOGate, PyM.run_bind_ok (run_ogatesOf h)]
  cases hg : ogates.get? (.vnfi vnfiID d) with
  | some g =>
      refine ⟨g, ogates, side, rfl, h, rfl, rfl, hg, ?_⟩
      refine ⟨fun _ _ hk => hk, fun _ _ hk => Or.inl hk, fun d' hd' => ?_, id⟩
      rw [List.mem_singleton.mp hd']
      exact ⟨g, hg⟩
  | none =>
      generalize hnew : genAvailableMiniNum4List ogates.values = g
      have hfresh : ∀ k, ogates.get? k ≠ some g := by
        intro k hk
        apply genAvailableMiniNum4List_notMem ogates.values
        rw [hnew, Dict.mem_values_iff]
        exact ⟨k, hk⟩
      refine ⟨g, ogates.set (.vnfi vnfiID d) g, { side with
        sibm := { side.sibm with
          ogates := side.sibm.ogates.set table
            (ogates.set (.vnfi vnfiID d) g) } }, ?_, Dict.get?_set_self ..,
        rfl, rfl, Dict.get?_set_self .., ?_⟩
      · dsimp only
        rw [newOGate, addOGate2Module, hnew, bind_assoc,
          PyM.run_bind_ok (run_ogatesOf h)]
        rfl
      · constructor
        · intro k g' hk
          rw [Dict.get?_set_of_ne]
          · exact hk
          · rintro rfl
            rw [hg] at hk
            cases hk
        · intro k g' hk
          rw [Dict.get?_set] at hk
          split at hk
          · next heq => exact Or.inr ⟨d, List.mem_singleton.mpr rfl, heq⟩
          · exact Or.inl hk
        · intro d' hd'
          rw [List.mem_singleton.mp hd']
          exact ⟨g, Dict.get?_set_self ..⟩
        · intro hinj k k' g' hk hk'
          rw [Dict.get?_set] at hk hk'
          split at hk <;> split at hk'
          · next heq heq' => rw [heq, heq']
          · rw [← Option.some.inj hk] at hk'
            exact absurd hk' (hfresh k')
          · rw [← Option.some.inj hk'] at hk
            exact absurd hk (hfresh k)
          · exact hinj k k' g' hk hk'

theorem addRule_eq (d : Nat) :
    addRule chainType bess u.sfci u.vnfi u.vnfiIdx d = (do
      let oGate ← assignOGate chainType.table u.vnfi.vnfiID d
      checked bess (.addRule (.base chainType.table) (u.rule chainType d)
        oGate)) := by
  cases chainType <;> rfl

/-- The rules of a use are added in the directions `ds`. -/
theorem run_addRuleLoop (hbess : bess.Lawful) {ds : List Nat} {S : Set Object}
    (hogates : side.sibm.ogates.get? chainType.table = some ogates)
    (hs : bess.Shows side.bess S)
    (htable : ∃ c, (.module (.base chainType.table), c) ∈ S)
    (hnodup : (ds.map (u.rule chainType)).Nodup)
    (hunused : ∀ d ∈ ds, ∀ c,
      (.rule (.base chainType.table) (u.rule chainType d), c) ∉ S) :
    ∃ ogates' side', (ds.forM (addRule chainType bess u.sfci u.vnfi
        u.vnfiIdx)).run side = .ok () side' ∧
      side'.sibm.ogates.get? chainType.table = some ogates' ∧
      side'.sibm.vnfiDict = side.sibm.vnfiDict ∧
      Assigned u.vnfi.vnfiID ds ogates ogates' ∧
      bess.Shows side'.bess (S ∪ ruleObjects chainType u ogates' ds) := by
  induction ds generalizing side S ogates with
  | nil =>
      refine ⟨ogates, side, rfl, hogates, rfl, Assigned.refl .., ?_⟩
      have hnone : ruleObjects chainType u ogates [] = ∅ := by
        ext e
        simp [ruleObjects]
      rw [hnone, Set.union_empty]
      exact hs
  | cons d ds ih =>
      obtain ⟨g, ogates₁, side₁, hrun₁, hogates₁, hdict₁, hbess₁, hg₁,
        hassigned₁⟩ := run_assignOGate hogates u.vnfi.vnfiID d
      rw [List.map_cons, List.nodup_cons] at hnodup
      have hcreatable : pipeline.Creatable S (ruleObject chainType u d g) := by
        refine ⟨hunused d List.mem_cons_self, ?_, fun _ _ h => h⟩
        rintro k rfl
        exact htable
      have hs₁ : (sideView bess).Shows side₁ S := by
        intro k c
        dsimp only [sideView]
        rw [hbess₁]
        exact hs k c
      obtain ⟨side₂, hrun₂, hs₂, hrest₂⟩ := performs_create hbess
        (P := fun _ => True) (r := .addRule (.base chainType.table)
          (u.rule chainType d) g) (e := ruleObject chainType u d g) rfl side₁ S
        trivial hs₁ ⟨hcreatable, trivial⟩
      have hsibm₂ : side₂.sibm = side₁.sibm := hrest₂
      obtain ⟨c, hc⟩ := htable
      obtain ⟨ogates', side', hrun', hogates', hdict', hassigned', hs'⟩ :=
        ih (hsibm₂ ▸ hogates₁) hs₂ ⟨c, Set.mem_insert_of_mem _ hc⟩ hnodup.2 (by
          rintro d' hd' c' (heq | hmem)
          · have hrule : u.rule chainType d' = u.rule chainType d := by
              injection congrArg Prod.fst heq
            exact hnodup.1 (hrule ▸ List.mem_map_of_mem hd')
          · exact hunused d' (List.mem_cons_of_mem d hd') c' hmem)
      have hfirst : (addRule chainType bess u.sfci u.vnfi u.vnfiIdx d).run side =
          .ok () side₂ := by
        rw [addRule_eq, PyM.run_bind_ok hrun₁]
        exact hrun₂
      refine ⟨ogates', side', (PyM.run_bind_ok hfirst _).trans hrun', hogates',
        ?_, hassigned₁.trans hassigned', ?_⟩
      · rw [hdict', hsibm₂, hdict₁]
      · refine Eq.subst ?_ hs'
        ext e
        simp only [after, Set.mem_union, Set.mem_insert_iff, ruleObjects,
          Set.mem_ofPred_eq, List.mem_cons]
        constructor
        · rintro ((rfl | he) | ⟨d', hd', g', hg', rfl⟩)
          · exact Or.inr ⟨d, Or.inl rfl, g, hassigned'.kept _ g hg₁, rfl⟩
          · exact Or.inl he
          · exact Or.inr ⟨d', Or.inr hd', g', hg', rfl⟩
        · rintro (he | ⟨d', rfl | hd', g', hg', rfl⟩)
          · exact Or.inl (Or.inr he)
          · rw [hassigned'.kept _ g hg₁] at hg'
            rw [← Option.some.inj hg']
            exact Or.inl (Or.inl rfl)
          · exact Or.inr ⟨d', hd', g', hg', rfl⟩

end Assignment

end SelfAdaptiveMano.Sff

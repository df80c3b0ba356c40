import SelfAdaptiveMano.Classifier.Accounted

/-!
# Adding and deleting an SFC at a classifier

Both keep the lists, the gates and the links of the SFCIs together. An SFC that
cannot be added leaves its load balancer behind, but no list.
-/

namespace SelfAdaptiveMano.Classifier

open Library Sight

section SFCs

variable {β : Type} {bess : Bess β} {sfcUUID : UUID} {direction : Direction}

section Addition

variable {s : Dict (UUID × Nat) (List Nat)}

/-- The lists are `s`, and everything belongs together. -/
structure Lists (s : Dict (UUID × Nat) (List Nat)) (S : Sight) : Prop where
  accounted : S.Accounted
  sfcSet : S.cibm.sfcSet = s

structure Balanced (s : Dict (UUID × Nat) (List Nat)) (sfcUUID : UUID)
    (directionID : Nat) (S : Sight) : Prop extends Lists s S where
  balancer : S.view.modules (.hashLB sfcUUID directionID) ≠ none
  ogates : S.cibm.modules.get? (.hashLB sfcUUID directionID) = some Dict.empty

theorem Lists.congr {S S' : Sight} (hS : Lists s S) (h : SameSFCIs S S')
    (hlinked : S'.view.Linked) : Lists s S' :=
  ⟨hS.accounted.congr h hlinked, h.sfcSet.trans hS.sfcSet⟩

theorem Balanced.congr {S S' : Sight} {directionID : Nat}
    (hS : Balanced s sfcUUID directionID S) (h : SameSFCIs S S')
    (hlinked : S'.view.Linked) : Balanced s sfcUUID directionID S' where
  toLists := hS.toLists.congr h hlinked
  balancer := by
    rw [h.modules]
    exact hS.balancer
  ogates := (h.ogates _ _).trans hS.ogates

theorem meets_addSFCModules (hbess : bess.Lawful)
    (hids : s.get? (sfcUUID, direction.ID) = none) :
    PyM.Meets (bess.Sees (Lists s)) (addSFCModules bess sfcUUID direction)
      (fun _ => bess.Sees (Balanced s sfcUUID direction.ID))
      (bess.Sees (Lists s)) := by
  have hcreate : PyM.Meets (bess.Sees (Lists s))
      (checked bess (.createModule (.hashLB sfcUUID direction.ID)
        ⟨.hashLB, .mode "l3"⟩))
      (fun _ => bess.Sees fun S => Lists s S ∧
        S.view.modules (.hashLB sfcUUID direction.ID) ≠ none)
      (bess.Sees (Lists s)) := by
    refine meets_checked hbess (fun S hS hpossible => ⟨⟨?_, hS.sfcSet⟩, ?_⟩)
      fun S hS _ => hS
    · exact hS.accounted.createHashLB hpossible
    · simp [View.after]
  refine PyM.Meets.bind (meets_idle hbess fun _ => rfl) fun _ => ?_
  refine PyM.Meets.bind hcreate fun _ => ?_
  refine PyM.Meets.bind (meets_modifyCibm
    (Q := Balanced s sfcUUID direction.ID) ?_) fun _ => ?_
  · rintro S ⟨hS, hbalancer⟩
    have hnone : S.sfciIDs? sfcUUID direction.ID = none := by
      rw [sfciIDs?, hS.sfcSet]
      exact hids
    exact ⟨⟨hS.accounted.addModule hnone, hS.sfcSet⟩, hbalancer,
      Dict.get?_set_self _ _ _⟩
  · exact meets_idle hbess fun _ => rfl

theorem meets_addSFCRules (hbess : bess.Lawful) :
    PyM.Meets (bess.Sees (Balanced s sfcUUID direction.ID))
      (addSFCRules bess sfcUUID direction)
      (fun _ => bess.Sees (Balanced s sfcUUID direction.ID))
      (bess.Sees (Lists s)) := by
  have hassign : PyM.Meets (bess.Sees (Balanced s sfcUUID direction.ID))
      (assignWM2OGate sfcUUID)
      (fun _ => bess.Sees (Balanced s sfcUUID direction.ID))
      (bess.Sees (Lists s)) := by
    refine meets_bind_ogatesOf (fun ogates => ?_) fun S hS _ => hS.toLists
    refine PyM.Meets.bind (meets_addOGate2Module
      (Q := Balanced s sfcUUID direction.ID) ?_ ?_) fun _ side hside => hside
    · rintro S ogates' ⟨hS, -⟩ -
      exact hS.congr (sameSFCIs_setOGates _ _) hS.accounted.linked
    · rintro S ⟨hS, -⟩ -
      exact hS.toLists
  refine PyM.Meets.bind (meets_idle hbess fun _ => rfl) fun _ => ?_
  refine PyM.Meets.bind hassign fun g => ?_
  refine PyM.Meets.bind (meets_request hbess
    (Q := Balanced s sfcUUID direction.ID) ?_ fun S hS _ => hS) fun _ => ?_
  · intro S hS
    exact hS.congr (sameSFCIs_addRule _ _ _) hS.accounted.linked
  · exact meets_idle hbess fun _ => rfl

theorem meets_addSFCLinks (hbess : bess.Lawful) :
    PyM.Meets (bess.Sees (Balanced s sfcUUID direction.ID))
      (addSFCLinks bess sfcUUID direction)
      (fun _ => bess.Sees (Balanced s sfcUUID direction.ID))
      (bess.Sees (Lists s)) := by
  refine PyM.Meets.bind (meets_idle hbess fun _ => rfl) fun _ => ?_
  refine meets_bind_getModuleOGate (fun g => ?_) fun S hS _ => hS.toLists
  refine PyM.Meets.bind (meets_checked hbess
    (Q := Balanced s sfcUUID direction.ID) ?_ ?_) fun _ => ?_
  · rintro S ⟨hS, -⟩ hpossible
    exact hS.congr (sameSFCIs_connect _ _ _ _)
      (hS.accounted.linked.after hpossible)
  · rintro S ⟨hS, -⟩ -
    exact hS.toLists
  · exact meets_idle hbess fun _ => rfl

theorem meets_addSFC (hbess : bess.Lawful)
    (hids : s.get? (sfcUUID, direction.ID) = none) :
    PyM.Meets (bess.Sees (Lists s)) (addSFC bess sfcUUID direction)
      (fun _ => bess.Sees (Lists (s.set (sfcUUID, direction.ID) [])))
      (bess.Sees (Lists s)) := by
  refine PyM.Meets.bind (meets_addSFCModules hbess hids) fun _ => ?_
  refine PyM.Meets.bind (meets_addSFCRules hbess) fun _ => ?_
  refine PyM.Meets.bind (meets_addSFCLinks hbess) fun _ => ?_
  refine meets_modifyCibm fun S hS => ?_
  have hnone : S.sfciIDs? sfcUUID direction.ID = none := by
    rw [sfciIDs?, hS.sfcSet]
    exact hids
  refine ⟨hS.accounted.addSFCDirection hnone hS.balancer hS.ogates, ?_⟩
  rw [Cibm.addSFCDirection, hS.sfcSet]

def withList (s : Dict (UUID × Nat) (List Nat)) (p : UUID × Nat) :
    Dict (UUID × Nat) (List Nat) :=
  if s.contains p then s else s.set p []

theorem get?_withList (s : Dict (UUID × Nat) (List Nat)) (p p' : UUID × Nat) :
    (withList s p).get? p' =
      if p' = p then some ((s.get? p).getD []) else s.get? p' := by
  rw [withList]
  cases h : s.get? p with
  | none =>
      have hnot : ¬ s.contains p = true := by
        rw [Dict.contains_eq_true_iff, h]
        simp
      rw [if_neg hnot, Dict.get?_set]
      rfl
  | some sfciIDs =>
      have hcontains : s.contains p = true := by
        rw [Dict.contains_eq_true_iff, h]
        simp
      rw [if_pos hcontains]
      split
      · next heq => rw [heq, h, Option.getD_some]
      · rfl

/-- A direction that is not there gets an empty list. -/
theorem meets_ensureSFC (hbess : bess.Lawful) :
    PyM.Meets (bess.Sees (Lists s)) (ensureSFC bess sfcUUID direction)
      (fun _ => bess.Sees (Lists (withList s (sfcUUID, direction.ID))))
      (bess.Sees (Lists s)) := by
  refine PyM.Meets.bind_get fun side hside => ?_
  have hsfcSet : side.cibm.sfcSet = s := hside.sfcSet
  refine PyM.Meets.ite (fun hhas => ?_) fun hnot => ?_
  · rw [Cibm.hasSFCDirection, hsfcSet] at hhas
    rintro _ rfl
    rw [withList, if_pos hhas]
    exact hside
  · rw [Cibm.hasSFCDirection, hsfcSet] at hnot
    have hids : s.get? (sfcUUID, direction.ID) = none := by
      rw [Dict.contains_eq_true_iff, not_not] at hnot
      exact hnot
    rw [withList, if_neg hnot]
    refine (meets_addSFC hbess hids).conseq ?_ (fun _ _ h => h) fun _ h => h
    rintro _ rfl
    exact hside

theorem meets_addSFCToSide (hbess : bess.Lawful)
    (hids : ∀ sfciIDs, s.get? (sfcUUID, direction.ID) = some sfciIDs →
      sfciIDs = []) :
    PyM.Meets (bess.Sees (Lists s)) (addSFCToSide bess sfcUUID direction)
      (fun _ => bess.Sees (Lists (withList s (sfcUUID, direction.ID))))
      (bess.Sees (Lists s)) := by
  refine PyM.Meets.bind (meets_ensureSFC hbess) fun _ => ?_
  refine meets_modifyCibm fun S hS => ?_
  have hget : (withList s (sfcUUID, direction.ID)).get?
      (sfcUUID, direction.ID) = some [] := by
    rw [get?_withList, if_pos rfl]
    cases h : s.get? (sfcUUID, direction.ID) with
    | none => rfl
    | some sfciIDs => rw [hids sfciIDs h, Option.getD_some]
  have hempty : S.cibm.addSFCDirection sfcUUID direction.ID = S.cibm := by
    rw [Cibm.addSFCDirection, hS.sfcSet, Dict.set_eq_self hget, ← hS.sfcSet]
  rw [hempty]
  exact hS

end Addition

section Deletion

variable {S₀ : Sight} {s : Dict (UUID × Nat) (List Nat)}

/-- The lists are `s`, and the SFCIs of `S₀` are installed. -/
structure Unmoved (S₀ : Sight) (s : Dict (UUID × Nat) (List Nat)) (S : Sight) :
    Prop extends Lists s S where
  installed_iff : ∀ sfcUUID directionID sfciID,
    S.Installed sfcUUID directionID sfciID ↔
      S₀.Installed sfcUUID directionID sfciID

theorem Unmoved.congr {S S' : Sight} (hS : Unmoved S₀ s S) (h : SameSFCIs S S')
    (hlinked : S'.view.Linked) : Unmoved S₀ s S' where
  toLists := hS.toLists.congr h hlinked
  installed_iff sfcUUID directionID sfciID :=
    h.installed_iff.trans (hS.installed_iff sfcUUID directionID sfciID)

theorem meets_delSFCLinks (hbess : bess.Lawful) :
    PyM.Meets (bess.Sees (Unmoved S₀ s)) (delSFCLinks bess sfcUUID)
      (fun _ => bess.Sees (Unmoved S₀ s)) (bess.Sees (Unmoved S₀ s)) := by
  refine PyM.Meets.bind (meets_idle hbess fun _ => rfl) fun _ => ?_
  refine meets_bind_getModuleOGate (fun g => ?_) fun S hS _ => hS
  refine PyM.Meets.bind (meets_checked hbess (Q := Unmoved S₀ s) ?_ ?_)
    fun _ => meets_idle hbess fun _ => rfl
  · rintro S ⟨hS, -⟩ hpossible
    exact hS.congr (sameSFCIs_disconnect _ _)
      (hS.accounted.linked.after hpossible)
  · rintro S ⟨hS, -⟩ -
    exact hS

theorem meets_delSFCRules (hbess : bess.Lawful) :
    PyM.Meets (bess.Sees (Unmoved S₀ s)) (delSFCRules bess direction)
      (fun _ => bess.Sees (Unmoved S₀ s)) (bess.Sees (Unmoved S₀ s)) := by
  refine PyM.Meets.bind (meets_idle hbess fun _ => rfl) fun _ => ?_
  refine PyM.Meets.bind (meets_checked hbess (Q := Unmoved S₀ s) ?_ ?_)
    fun _ => meets_idle hbess fun _ => rfl
  · intro S hS _
    exact hS.congr (sameSFCIs_deleteRule _ _) hS.accounted.linked
  · exact fun S hS _ => hS

theorem meets_delSFC (hbess : bess.Lawful)
    (hids : s.get? (sfcUUID, direction.ID) = some []) :
    PyM.Meets (bess.Sees (Unmoved S₀ s)) (delSFC bess sfcUUID direction)
      (fun _ => bess.Sees (Unmoved S₀ (s.erase (sfcUUID, direction.ID))))
      (bess.Sees (Unmoved S₀ s)) := by
  have hempty {S : Sight} (hS : Unmoved S₀ s S) :
      S.sfciIDs? sfcUUID direction.ID = some [] := by
    rw [sfciIDs?, hS.sfcSet]
    exact hids
  have hmodules : PyM.Meets (bess.Sees (Unmoved S₀ s))
      (delSFCModules bess sfcUUID direction)
      (fun _ => bess.Sees fun S' => ∃ S, Unmoved S₀ s S ∧ S' =
        ⟨S.cibm.delModule (.hashLB sfcUUID direction.ID),
          S.view.after (.destroyModule (.hashLB sfcUUID direction.ID))⟩)
      (bess.Sees (Unmoved S₀ s)) := by
    refine PyM.Meets.bind (meets_idle hbess fun _ => rfl) fun _ => ?_
    refine PyM.Meets.bind (meets_checked_legal hbess
      (Q := fun S' => ∃ S, Unmoved S₀ s S ∧
        S' = S.call (.destroyModule (.hashLB sfcUUID direction.ID))) ?_ ?_)
      fun _ => ?_
    · intro S hS
      exact (hS.accounted.live _ _ _ (hempty hS)).balancer
    · exact fun S hS => ⟨S, hS, rfl⟩
    refine PyM.Meets.bind (meets_modifyCibm ?_) fun _ =>
      meets_idle hbess fun _ => rfl
    rintro _ ⟨S, hS, rfl⟩
    exact ⟨S, hS, rfl⟩
  refine PyM.Meets.bind (meets_delSFCLinks hbess) fun _ => ?_
  refine PyM.Meets.bind (meets_delSFCRules hbess) fun _ => ?_
  refine PyM.Meets.bind hmodules fun _ => ?_
  refine meets_modifyCibm ?_
  rintro _ ⟨S, hS, rfl⟩
  have hnone := hempty hS
  refine ⟨⟨hS.accounted.delDirection hnone, ?_⟩, fun sfcUUID' directionID sfciID => ?_⟩
  · rw [← hS.sfcSet]
    rfl
  · exact (installed_delDirection_iff hS.accounted hnone).trans
      (hS.installed_iff sfcUUID' directionID sfciID)

/-- Only an empty list is deleted. -/
theorem meets_delSFCFromSide (hbess : bess.Lawful) :
    PyM.Meets (bess.Sees (Unmoved S₀ s)) (delSFCFromSide bess sfcUUID direction)
      (fun _ => bess.Sees fun S => Unmoved S₀ s S ∨
        s.get? (sfcUUID, direction.ID) = some [] ∧
          Unmoved S₀ (s.erase (sfcUUID, direction.ID)) S)
      (bess.Sees (Unmoved S₀ s)) := by
  refine PyM.Meets.bind_get fun side hside => ?_
  have hsfcSet : side.cibm.sfcSet = s := hside.sfcSet
  rw [hsfcSet]
  have hstay : PyM.Meets (· = side) (pure () : PyM (Side β) Unit)
      (fun _ => bess.Sees fun S => Unmoved S₀ s S ∨
        s.get? (sfcUUID, direction.ID) = some [] ∧
          Unmoved S₀ (s.erase (sfcUUID, direction.ID)) S)
      (bess.Sees (Unmoved S₀ s)) := by
    rintro _ rfl
    exact Or.inl hside
  cases hids : s.get? (sfcUUID, direction.ID) with
  | none =>
      rw [hids] at hstay
      exact hstay
  | some sfciIDs =>
      rw [hids] at hstay
      refine PyM.Meets.ite (fun hnil => ?_) fun _ => hstay
      subst hnil
      refine (meets_delSFC hbess hids).conseq ?_ ?_ fun _ h => h
      · rintro _ rfl
        exact hside
      · exact fun _ _ h => Or.inr ⟨rfl, h⟩

end Deletion

end SFCs

end SelfAdaptiveMano.Classifier

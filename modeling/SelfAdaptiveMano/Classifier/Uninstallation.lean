import SelfAdaptiveMano.Classifier.Installation

/-!
# Uninstalling an SFCI at a classifier

An SFCI that is installed is unlinked, its gate is given back, and its modules
are destroyed. Without a gate of the SFCI the deletion fails before anything has
changed.
-/

namespace SelfAdaptiveMano.Classifier

open Library Sight

namespace Sight

variable {S : Sight} {sfcUUID : UUID} {directionID sfciID g : Nat}
  {ogates : Dict GateKey Nat} {sfciIDs : List Nat}

def uninstallRequests (sfcUUID : UUID) (directionID sfciID g : Nat) :
    List Request :=
  [.disconnectModules (.hashLB sfcUUID directionID) g,
    .disconnectModules (.sfci .genericDecap sfciID directionID) 0,
    .disconnectModules (.sfci .setMetadata sfciID directionID) 0,
    .disconnectModules (.sfci .ipEncap sfciID directionID) 0,
    .destroyModule (.sfci .genericDecap sfciID directionID),
    .destroyModule (.sfci .setMetadata sfciID directionID),
    .destroyModule (.sfci .ipEncap sfciID directionID)]

/-- The sight without the SFCI, which was installed at the gate `g`. -/
def uninstall (S : Sight) (sfcUUID : UUID) (directionID sfciID g : Nat)
    (ogates : Dict GateKey Nat) (sfciIDs : List Nat) : Sight where
  cibm := ⟨S.cibm.modules.set (.hashLB sfcUUID directionID)
      (ogates.erase (.sfci sfciID)),
    S.cibm.sfcSet.set (sfcUUID, directionID) (sfciIDs.erase sfciID)⟩
  view := (uninstallRequests sfcUUID directionID sfciID g).foldl View.after
    S.view

theorem legalAll_uninstall (hS : S.Accounted)
    (hlink : S.view.links (.hashLB sfcUUID directionID) g =
      some (.sfci .genericDecap sfciID directionID)) :
    S.view.LegalAll (uninstallRequests sfcUUID directionID sfciID g) := by
  have hinstalled : ∃ sfcUUID, S.Installed sfcUUID directionID sfciID :=
    ⟨sfcUUID, g, hlink⟩
  have hchain : ∀ e ∈ sfciLinks sfciID directionID,
      S.view.links e.1 0 = some e.2 := fun e he =>
    (hS.chain _ _ e he 0 _).mpr ⟨hinstalled, rfl, rfl⟩
  simp only [sfciLinks, List.forall_mem_cons, List.not_mem_nil,
    forall_false, implies_true, and_true] at hchain
  obtain ⟨hlink₁, hlink₂, hlink₃⟩ := hchain
  have hgd := (hS.linked _ _ _ hlink).2
  have hsma := (hS.linked _ _ _ hlink₁).2
  have hipe := (hS.linked _ _ _ hlink₂).2
  refine ⟨?_, ?_, ?_, ?_, ?_, ?_, ?_, trivial⟩ <;>
    simp [View.after, View.Legal, hlink, hlink₁, hlink₂, hlink₃, hgd, hsma, hipe]

theorem modules_uninstall (n : Name) :
    (S.uninstall sfcUUID directionID sfciID g ogates sfciIDs).view.modules n =
      if n = .sfci .ipEncap sfciID directionID then none
      else if n = .sfci .setMetadata sfciID directionID then none
      else if n = .sfci .genericDecap sfciID directionID then none
      else S.view.modules n := rfl

/-- Another module that is not connected to the SFCI keeps its links. -/
theorem links_uninstall {n : Name} {g' : Nat}
    (hn : ∀ mclass, n ≠ .sfci mclass sfciID directionID)
    (hlink : ∀ mclass, S.view.links n g' = some (.sfci mclass sfciID directionID) →
      n = .hashLB sfcUUID directionID ∧ g' = g) :
    (S.uninstall sfcUUID directionID sfciID g ogates sfciIDs).view.links n g' =
      if n = .hashLB sfcUUID directionID ∧ g' = g then none
      else S.view.links n g' := by
  by_cases h : n = .hashLB sfcUUID directionID ∧ g' = g
  · obtain ⟨rfl, rfl⟩ := h
    simp [uninstall, uninstallRequests, View.after]
  · have hne (mclass : ModuleClass) :
        S.view.links n g' ≠ some (.sfci mclass sfciID directionID) :=
      fun heq => h (hlink mclass heq)
    simp [uninstall, uninstallRequests, View.after, hn, h, hne]

theorem links_hashLB_uninstall (hS : S.Accounted)
    (hids : S.sfciIDs? sfcUUID directionID = some sfciIDs)
    (hlink : S.view.links (.hashLB sfcUUID directionID) g =
      some (.sfci .genericDecap sfciID directionID)) (sfcUUID' : UUID)
    (directionID' g' : Nat) :
    (S.uninstall sfcUUID directionID sfciID g ogates sfciIDs).view.links
      (.hashLB sfcUUID' directionID') g' =
        if (sfcUUID' = sfcUUID ∧ directionID' = directionID) ∧ g' = g then none
        else S.view.links (.hashLB sfcUUID' directionID') g' := by
  rw [links_uninstall]
  · simp
  · intro mclass hname
    cases hname
  · intro mclass hlink'
    obtain ⟨sfciID', hname⟩ := hS.only _ _ _ _ hlink'
    obtain ⟨rfl, rfl, rfl⟩ := Name.sfci.inj hname
    obtain rfl := hS.once _ _ _ _ ⟨g, hlink⟩ ⟨g', hlink'⟩
    obtain ⟨ogates', -, hgates⟩ := (hS.live _ _ _ hids).gates
    have hget := (hgates _ _).mpr ⟨_, rfl, hlink⟩
    have hget' := (hgates _ _).mpr ⟨_, rfl, hlink'⟩
    exact ⟨rfl, Option.some.inj (hget'.symm.trans hget)⟩

theorem installed_uninstall_iff (hS : S.Accounted)
    (hids : S.sfciIDs? sfcUUID directionID = some sfciIDs)
    (hlink : S.view.links (.hashLB sfcUUID directionID) g =
      some (.sfci .genericDecap sfciID directionID)) {sfcUUID' : UUID}
    {directionID' sfciID' : Nat} :
    (S.uninstall sfcUUID directionID sfciID g ogates sfciIDs).Installed sfcUUID'
        directionID' sfciID' ↔
      S.Installed sfcUUID' directionID' sfciID' ∧
        ¬ (sfcUUID' = sfcUUID ∧ directionID' = directionID ∧
          sfciID' = sfciID) := by
  simp only [Installed, links_hashLB_uninstall hS hids hlink]
  constructor
  · rintro ⟨g', hlink'⟩
    split at hlink'
    · cases hlink'
    · next hne =>
        refine ⟨⟨g', hlink'⟩, ?_⟩
        rintro ⟨rfl, rfl, rfl⟩
        obtain ⟨ogates', -, hgates⟩ := (hS.live _ _ _ hids).gates
        have hget := (hgates _ _).mpr ⟨_, rfl, hlink⟩
        have hget' := (hgates _ _).mpr ⟨_, rfl, hlink'⟩
        exact hne ⟨⟨rfl, rfl⟩, Option.some.inj (hget'.symm.trans hget)⟩
  · rintro ⟨⟨g', hlink'⟩, hne⟩
    refine ⟨g', ?_⟩
    rw [if_neg]
    · exact hlink'
    · rintro ⟨⟨rfl, rfl⟩, rfl⟩
      rw [hlink] at hlink'
      cases hlink'
      exact hne ⟨rfl, rfl, rfl⟩

theorem links_sfci_uninstall (hS : S.Accounted) {sfciID' directionID' g' : Nat}
    (hne : ¬ (sfciID' = sfciID ∧ directionID' = directionID)) {e : Name × Name}
    (he : e ∈ sfciLinks sfciID' directionID') :
    (S.uninstall sfcUUID directionID sfciID g ogates sfciIDs).view.links e.1 g' =
      S.view.links e.1 g' := by
  have hname {mclass mclass' : ModuleClass} :
      Name.sfci mclass' sfciID' directionID' ≠
        .sfci mclass sfciID directionID := by
    intro h
    obtain ⟨-, h, h'⟩ := Name.sfci.inj h
    exact hne ⟨h, h'⟩
  have hother (mclass : ModuleClass) : e.1 ≠ .sfci mclass sfciID directionID ∧
      e.2 ≠ .sfci mclass sfciID directionID ∧
        e.1 ≠ .hashLB sfcUUID directionID := by
    simp only [sfciLinks, List.mem_cons, List.not_mem_nil, or_false] at he
    obtain rfl | rfl | rfl := he
    · exact ⟨hname, hname, Name.noConfusion⟩
    · exact ⟨hname, hname, Name.noConfusion⟩
    · exact ⟨hname, Name.noConfusion, Name.noConfusion⟩
  rw [links_uninstall (fun mclass => (hother mclass).1) fun mclass hlink => ?_]
  · exact if_neg fun h => (hother .merge).2.2 h.1
  · have htarget := ((hS.chain _ _ e he g' _).mp hlink).2.2
    exact absurd htarget.symm (hother mclass).2.1

theorem Live.uninstall (hS : S.Accounted)
    (hids : S.sfciIDs? sfcUUID directionID = some sfciIDs)
    (hlink : S.view.links (.hashLB sfcUUID directionID) g =
      some (.sfci .genericDecap sfciID directionID))
    (hogates : S.cibm.modules.get? (.hashLB sfcUUID directionID) =
      some ogates) :
    (S.uninstall sfcUUID directionID sfciID g ogates sfciIDs).Live sfcUUID
      directionID (sfciIDs.erase sfciID) := by
  have hlive := hS.live _ _ _ hids
  obtain ⟨ogates', hogates', hgates⟩ := hlive.gates
  obtain rfl := Option.some.inj (hogates.symm.trans hogates')
  constructor
  · exact hlive.nodup.erase sfciID
  · intro sfciID'
    rw [hlive.nodup.mem_erase_iff, hlive.mem_iff,
      installed_uninstall_iff hS hids hlink]
    simp [and_comm]
  · rw [modules_uninstall]
    simpa using hlive.balancer
  · refine ⟨_, Dict.get?_set_self _ _ _, fun k g' => ?_⟩
    have hlink' : (S.uninstall sfcUUID directionID sfciID g ogates
        sfciIDs).view.links (.hashLB sfcUUID directionID) g' =
          if g' = g then none
          else S.view.links (.hashLB sfcUUID directionID) g' := by
      simp [links_hashLB_uninstall hS hids hlink]
    have hget : ogates.get? (.sfci sfciID) = some g :=
      (hgates _ _).mpr ⟨sfciID, rfl, hlink⟩
    rw [Dict.get?_erase, hlink']
    by_cases hk : k = .sfci sfciID
    · subst hk
      rw [if_pos rfl]
      refine iff_of_false (fun h => by cases h) ?_
      rintro ⟨sfciID', hkey, h⟩
      obtain rfl := GateKey.sfci.inj hkey
      split at h
      · cases h
      · next hne =>
          have hget' := (hgates _ _).mpr ⟨_, rfl, h⟩
          exact hne (Option.some.inj (hget'.symm.trans hget))
    · rw [if_neg hk]
      by_cases hg' : g' = g
      · subst hg'
        refine iff_of_false (fun h => ?_) (by simp)
        obtain ⟨sfciID', rfl, h'⟩ := (hgates _ _).mp h
        rw [hlink] at h'
        cases h'
        exact hk rfl
      · rw [if_neg hg']
        exact hgates k g'

theorem Live.uninstall_other (hS : S.Accounted)
    (hids : S.sfciIDs? sfcUUID directionID = some sfciIDs)
    (hlink : S.view.links (.hashLB sfcUUID directionID) g =
      some (.sfci .genericDecap sfciID directionID))
    {sfcUUID' : UUID} {directionID' : Nat} {sfciIDs' : List Nat}
    (hlive : S.Live sfcUUID' directionID' sfciIDs')
    (hne : ¬ (sfcUUID' = sfcUUID ∧ directionID' = directionID)) :
    (S.uninstall sfcUUID directionID sfciID g ogates sfciIDs).Live sfcUUID'
      directionID' sfciIDs' := by
  have hname : Name.hashLB sfcUUID' directionID' ≠
      .hashLB sfcUUID directionID := fun heq => hne (Name.hashLB.inj heq)
  have hlink' (g' : Nat) : (S.uninstall sfcUUID directionID sfciID g ogates
      sfciIDs).view.links (.hashLB sfcUUID' directionID') g' =
        S.view.links (.hashLB sfcUUID' directionID') g' := by
    rw [links_hashLB_uninstall hS hids hlink, if_neg fun h => hne h.1]
  have hogates : (S.uninstall sfcUUID directionID sfciID g ogates
      sfciIDs).cibm.modules.get? (.hashLB sfcUUID' directionID') =
        S.cibm.modules.get? (.hashLB sfcUUID' directionID') :=
    Dict.get?_set_of_ne _ _ hname
  refine ⟨hlive.nodup, fun sfciID' => ?_, ?_, ?_⟩
  · rw [installed_uninstall_iff hS hids hlink, hlive.mem_iff]
    exact (and_iff_left fun h => hne ⟨h.1, h.2.1⟩).symm
  · rw [modules_uninstall]
    simpa using hlive.balancer
  · simp only [hogates, hlink']
    exact hlive.gates

theorem Accounted.uninstall (hS : S.Accounted)
    (hids : S.sfciIDs? sfcUUID directionID = some sfciIDs)
    (hlink : S.view.links (.hashLB sfcUUID directionID) g =
      some (.sfci .genericDecap sfciID directionID))
    (hogates : S.cibm.modules.get? (.hashLB sfcUUID directionID) =
      some ogates) :
    (S.uninstall sfcUUID directionID sfciID g ogates sfciIDs).Accounted := by
  constructor
  · exact (legalAll_uninstall hS hlink).linked hS.linked
  · rw [modules_uninstall]
    simpa using hS.merge
  · intro sfcUUID' directionID' sfciIDs' hids'
    rw [sfciIDs?, Sight.uninstall, Dict.get?_set] at hids'
    by_cases heq : (sfcUUID', directionID') = (sfcUUID, directionID)
    · rw [if_pos heq] at hids'
      obtain ⟨rfl, rfl⟩ := Prod.mk.inj heq
      obtain rfl := Option.some.inj hids'
      exact Live.uninstall hS hids hlink hogates
    · rw [if_neg heq] at hids'
      refine Live.uninstall_other hS hids hlink (hS.live _ _ _ hids') ?_
      rintro ⟨rfl, rfl⟩
      exact heq rfl
  · intro sfcUUID' directionID' hids' g'
    rw [sfciIDs?, Sight.uninstall, Dict.get?_set] at hids'
    split at hids'
    · cases hids'
    · rw [links_hashLB_uninstall hS hids hlink]
      split
      · rfl
      · exact hS.gone _ _ hids' g'
  · intro sfcUUID' directionID' g' m hlink'
    rw [links_hashLB_uninstall hS hids hlink] at hlink'
    split at hlink'
    · cases hlink'
    · exact hS.only _ _ _ _ hlink'
  · intro sfcUUID₁ sfcUUID₂ directionID' sfciID'
    rw [installed_uninstall_iff hS hids hlink,
      installed_uninstall_iff hS hids hlink]
    rintro ⟨h₁, -⟩ ⟨h₂, -⟩
    exact hS.once _ _ _ _ h₁ h₂
  · intro sfciID' directionID' e he g' m
    simp only [installed_uninstall_iff hS hids hlink]
    by_cases heq : sfciID' = sfciID ∧ directionID' = directionID
    · obtain ⟨rfl, rfl⟩ := heq
      -- the modules of the SFCI are gone, and so are their links
      have hnone : (S.uninstall sfcUUID directionID' sfciID' g ogates
          sfciIDs).view.links e.1 g' = none := by
        simp only [sfciLinks, List.mem_cons, List.not_mem_nil, or_false] at he
        obtain rfl | rfl | rfl := he <;>
          simp [Sight.uninstall, uninstallRequests, View.after]
      rw [hnone]
      refine iff_of_false (fun h => by cases h) ?_
      rintro ⟨⟨sfcUUID', hinstalled, hne⟩, -⟩
      obtain rfl := hS.once _ _ _ _ hinstalled ⟨g, hlink⟩
      exact hne ⟨rfl, rfl, rfl⟩
    · have hother (sfcUUID' : UUID) : ¬ (sfcUUID' = sfcUUID ∧
          directionID' = directionID ∧ sfciID' = sfciID) :=
        fun h => heq ⟨h.2.2, h.2.1⟩
      have hlinks : (S.uninstall sfcUUID directionID sfciID g ogates
          sfciIDs).view.links e.1 g' = S.view.links e.1 g' :=
        links_sfci_uninstall hS heq he
      simp only [hlinks, hother, not_false_iff, and_true]
      exact hS.chain sfciID' directionID' e he g' m
  · intro sfciID' directionID' hnone'
    simp only [modules_uninstall] at hnone' ⊢
    by_cases heq : sfciID' = sfciID ∧ directionID' = directionID
    · obtain ⟨rfl, rfl⟩ := heq
      simp
    · have hname (mclass mclass' : ModuleClass) :
          Name.sfci mclass sfciID' directionID' ≠
            .sfci mclass' sfciID directionID := by
        intro h
        obtain ⟨-, h, h'⟩ := Name.sfci.inj h
        exact heq ⟨h, h'⟩
      simp only [hname, if_false] at hnone' ⊢
      exact hS.made sfciID' directionID' hnone'

end Sight

section Run

variable {β : Type} {bess : Bess β} {sfc : SFC} {sfciID g : Nat}
  {direction : Direction} {S : Sight} {sfciIDs : List Nat}

theorem meets_delSFCIRules_eq (hbess : bess.Lawful) {E : Sight → Prop}
    {ogates : Dict GateKey Nat}
    (h : S.cibm.modules.get? (.hashLB sfc.sfcUUID direction.ID) = some ogates)
    (hg : ogates.get? (.sfci sfciID) = some g) :
    PyM.Meets (bess.Sees (· = S)) (delSFCIRules bess sfc sfciID direction)
      (fun _ => bess.Sees (· = S.setOGates (.hashLB sfc.sfcUUID direction.ID)
        (ogates.erase (.sfci sfciID)))) (bess.Sees E) := by
  have hgate : S.gate? (.hashLB sfc.sfcUUID direction.ID) (.sfci sfciID) =
      some g := by
    rw [gate?, h, Option.bind_some, hg]
  have hdelete : PyM.Meets (bess.Sees (· = S))
      (deleteHashLBOGateofSFCI sfc sfciID direction)
      (fun _ => bess.Sees (· = S.setOGates (.hashLB sfc.sfcUUID direction.ID)
        (ogates.erase (.sfci sfciID)))) (bess.Sees E) := by
    refine meets_bind_getModuleOGate_eq hgate ?_
    refine meets_bind_ogatesOf_eq h ?_
    refine PyM.Meets.bind (meets_delModuleOGate_eq h hg) fun _ => ?_
    exact fun side hside => hside
  refine PyM.Meets.bind (meets_idle hbess fun _ => rfl) fun _ => ?_
  refine PyM.Meets.bind hdelete fun gateNumList => ?_
  refine PyM.Meets.bind (meets_idle hbess fun _ => rfl) fun _ => ?_
  exact meets_idle hbess fun _ => rfl

/-- The SFCI is uninstalled, unless the load balancer has no gate for it. -/
theorem meets_uninstall (hbess : bess.Lawful) (hS : S.Accounted)
    (hids : S.sfciIDs? sfc.sfcUUID direction.ID = some sfciIDs) :
    PyM.Meets (bess.Sees (· = S)) (do
        delSFCILinks bess sfc sfciID direction
        delSFCIRules bess sfc sfciID direction
        delSFCIModules bess sfciID direction
        delSFCIDirection sfc.sfcUUID direction.ID sfciID)
      (fun _ => bess.Sees (Lists (S.cibm.sfcSet.set (sfc.sfcUUID, direction.ID)
        (sfciIDs.erase sfciID))))
      (bess.Sees (Lists S.cibm.sfcSet)) := by
  have hlive := hS.live _ _ _ hids
  obtain ⟨ogates, hogates, hgates⟩ := hlive.gates
  simp only [delSFCILinks, bind_assoc]
  refine PyM.Meets.bind (meets_idle hbess fun _ => rfl) fun _ => ?_
  cases hg : ogates.get? (.sfci sfciID) with
  | none =>
      refine meets_bind_getModuleOGate (fun g => ?_) ?_
      · rintro side ⟨hside, hgate⟩
        have hsight : bess.sight side = S := hside
        rw [hsight, gate?, hogates, Option.bind_some, hg] at hgate
        cases hgate
      · rintro _ rfl -
        exact ⟨hS, rfl⟩
  | some g =>
      obtain ⟨sfciID', hkey, hlink⟩ := (hgates _ _).mp hg
      obtain rfl := GateKey.sfci.inj hkey
      have hmem : sfciID ∈ sfciIDs := (hlive.mem_iff _).mpr ⟨g, hlink⟩
      have hgate : S.gate? (.hashLB sfc.sfcUUID direction.ID) (.sfci sfciID) =
          some g := by
        rw [gate?, hogates, Option.bind_some, hg]
      obtain ⟨hlink₀, hlink₁, hlink₂, hlink₃, hgd, hsma, hipe, -⟩ :=
        legalAll_uninstall hS hlink
      refine meets_bind_getModuleOGate_eq hgate ?_
      refine PyM.Meets.bind (meets_checked_eq hbess hlink₀) fun _ => ?_
      refine PyM.Meets.bind (meets_checked_eq hbess hlink₁) fun _ => ?_
      refine PyM.Meets.bind (meets_checked_eq hbess hlink₂) fun _ => ?_
      refine PyM.Meets.bind (meets_checked_eq hbess hlink₃) fun _ => ?_
      refine PyM.Meets.bind (meets_idle hbess fun _ => rfl) fun _ => ?_
      refine PyM.Meets.bind (meets_delSFCIRules_eq hbess hogates hg) fun _ => ?_
      simp only [delSFCIModules, bind_assoc]
      refine PyM.Meets.bind (meets_idle hbess fun _ => rfl) fun _ => ?_
      refine PyM.Meets.bind (meets_checked_eq hbess hgd) fun _ => ?_
      refine PyM.Meets.bind (meets_checked_eq hbess hsma) fun _ => ?_
      refine PyM.Meets.bind (meets_checked_eq hbess hipe) fun _ => ?_
      refine PyM.Meets.bind (meets_idle hbess fun _ => rfl) fun _ => ?_
      refine meets_delSFCIDirection (show _ = some sfciIDs from hids) hmem ?_
      exact ⟨hS.uninstall hids hlink hogates, rfl⟩

end Run

end SelfAdaptiveMano.Classifier

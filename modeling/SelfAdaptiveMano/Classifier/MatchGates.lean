import SelfAdaptiveMano.Classifier.MatchTable

/-!
# The gates of the match table

`wm2` gets a new gate for each direction of an SFC that is added. The gate is
recorded under the SFC, so that a second direction of the SFC that enters at the
same classifier takes the place of the first one in the record. When the
directions of each SFC enter at different classifiers and the rules differ, each
direction has a gate of its own in every state.
-/

namespace SelfAdaptiveMano.Classifier

open Library

namespace Sight

variable {catalog : UUID → SFC} {serverID : Nat} {S : Sight} {sfcUUID : UUID}
  {direction : Direction} {g : Nat} {ogates : Dict GateKey Nat}

/-- What a direction that is added must meet: its rule fits the fields of `wm2`
and is that of no other direction. -/
def Fresh (catalog : UUID → SFC) (serverID : Nat) (sfcUUID : UUID) (S : Sight) :
    Prop :=
  ∀ direction, Enters catalog serverID sfcUUID direction →
    ¬ S.HasDirection sfcUUID direction.ID →
      (getWM2Rule direction.flowMatch).Fits [1, 4, 4, 2, 2] ∧
        ∀ sfcUUID' direction', Enters catalog serverID sfcUUID' direction' →
          S.HasDirection sfcUUID' direction'.ID →
            getWM2Rule direction'.flowMatch ≠ getWM2Rule direction.flowMatch

theorem Fresh.congr {S' : Sight} (hS : Fresh catalog serverID sfcUUID S)
    (h : SameTable S S') :
    Fresh catalog serverID sfcUUID S' := by
  intro direction henters hnot
  rw [h.live] at hnot
  obtain ⟨hfits, hrule⟩ := hS direction henters hnot
  refine ⟨hfits, fun sfcUUID' direction' henters' hlive => ?_⟩
  exact hrule sfcUUID' direction' henters' ((h.live _ _).mp hlive)

def Ready (catalog : UUID → SFC) (serverID : Nat) (sfcUUID : UUID) (S : Sight) :
    Prop :=
  Tabled catalog serverID S ∧ Fresh catalog serverID sfcUUID S

theorem Ready.congr {S' : Sight} (h : SameTable S S')
    (hS : Ready catalog serverID sfcUUID S) :
    Ready catalog serverID sfcUUID S' :=
  ⟨hS.1.congr h, hS.2.congr h⟩

/-! ## A direction is added -/

def addRequests (sfcUUID : UUID) (direction : Direction) (g : Nat) :
    List Request :=
  [.createModule (.hashLB sfcUUID direction.ID) ⟨.hashLB, .mode "l3"⟩,
    .addRule (.base .wm2) (getWM2Rule direction.flowMatch) g,
    .connectModules (.base .wm2) (.hashLB sfcUUID direction.ID) g 0]

/-- The sight with the direction at the gate `g`. -/
def addPair (S : Sight) (sfcUUID : UUID) (direction : Direction) (g : Nat)
    (ogates : Dict GateKey Nat) : Sight where
  cibm := ⟨(S.cibm.modules.set (.hashLB sfcUUID direction.ID) Dict.empty).set
      (.base .wm2) (ogates.set (.sfc sfcUUID) g),
    S.cibm.sfcSet.set (sfcUUID, direction.ID) []⟩
  view := (addRequests sfcUUID direction g).foldl View.after S.view

theorem hasDirection_addPair_iff {sfcUUID' : UUID} {directionID' : Nat} :
    (S.addPair sfcUUID direction g ogates).HasDirection sfcUUID' directionID' ↔
      (sfcUUID', directionID') = (sfcUUID, direction.ID) ∨
        S.HasDirection sfcUUID' directionID' := by
  rw [HasDirection, addPair, Dict.get?_set]
  split
  · next heq => exact iff_of_true (Option.some_ne_none _) (Or.inl heq)
  · next hne => exact (or_iff_right hne).symm

theorem links_addPair (g' : Nat) :
    (S.addPair sfcUUID direction g ogates).view.links (.base .wm2) g' =
      if g' = g then some (.hashLB sfcUUID direction.ID)
      else S.view.links (.base .wm2) g' := by
  simp [addPair, addRequests, View.after]

theorem rules_addPair (rule : Match) :
    (S.addPair sfcUUID direction g ogates).view.rules (.base .wm2) rule =
      if rule = getWM2Rule direction.flowMatch then some g
      else S.view.rules (.base .wm2) rule := by
  simp [addPair, addRequests, View.after]

theorem gate?_addPair (key : GateKey) :
    (S.addPair sfcUUID direction g ogates).gate? (.base .wm2) key =
      if key = .sfc sfcUUID then some g else ogates.get? key := by
  rw [gate?, addPair, Dict.get?_set_self, Option.bind_some, Dict.get?_set]

theorem Tabled.other_sfc (hS : Tabled catalog serverID S)
    (henters : Enters catalog serverID sfcUUID direction)
    (hnot : ¬ S.HasDirection sfcUUID direction.ID) {sfcUUID' : UUID}
    {directionID : Nat} (hlive : S.HasDirection sfcUUID' directionID) :
    sfcUUID' ≠ sfcUUID := by
  rintro rfl
  obtain ⟨rfl, -⟩ := hS.matches hlive henters
  exact hnot hlive

theorem Tabled.gate?_eq (hogates : S.cibm.modules.get? (.base .wm2) =
    some ogates) (key : GateKey) :
    S.gate? (.base .wm2) key = ogates.get? key := by
  rw [gate?, hogates, Option.bind_some]

theorem Tabled.addPair (hS : Tabled catalog serverID S)
    (hfresh : Fresh catalog serverID sfcUUID S)
    (happart : (catalog sfcUUID).EntersApart)
    (henters : Enters catalog serverID sfcUUID direction)
    (hnot : ¬ S.HasDirection sfcUUID direction.ID)
    (hogates : S.cibm.modules.get? (.base .wm2) = some ogates)
    (hg : g ∉ ogates.values) :
    Tabled catalog serverID (S.addPair sfcUUID direction g ogates) := by
  obtain ⟨-, hrule⟩ := hfresh direction henters hnot
  obtain ⟨ogates', hogates', honly⟩ := hS.ogates
  obtain rfl := Option.some.inj (hogates.symm.trans hogates')
  constructor
  · obtain ⟨m, hm, hclass, hsizes⟩ := hS.table
    refine ⟨m, ?_, hclass, hsizes⟩
    simpa [Sight.addPair, addRequests, View.after] using hm
  · refine ⟨_, Dict.get?_set_self _ _ _, fun g' m hlink => ?_⟩
    rw [links_addPair] at hlink
    split at hlink
    · next heq =>
        subst heq
        refine ⟨.sfc sfcUUID, Dict.get?_set_self _ _ _, ?_⟩
        rintro _ ⟨⟩
        exact ⟨direction.ID, hasDirection_addPair_iff.mpr (Or.inl rfl)⟩
    · obtain ⟨k, hk, hsfc⟩ := honly g' m hlink
      have hne : k ≠ .sfc sfcUUID := by
        rintro rfl
        obtain ⟨directionID, hlive⟩ := hsfc sfcUUID rfl
        exact hS.other_sfc henters hnot hlive rfl
      refine ⟨k, (Dict.get?_set_of_ne _ _ hne).trans hk, fun sfcUUID' heq => ?_⟩
      obtain ⟨directionID, hlive⟩ := hsfc sfcUUID' heq
      exact ⟨directionID, hasDirection_addPair_iff.mpr (Or.inr hlive)⟩
  · intro sfcUUID' directionID' hlive
    obtain heq | hlive := hasDirection_addPair_iff.mp hlive
    · obtain ⟨rfl, rfl⟩ := Prod.mk.inj heq
      refine ⟨direction, g, henters, rfl, ?_, ?_, ?_⟩
      · rw [gate?_addPair, if_pos rfl]
      · rw [rules_addPair, if_pos rfl]
      · rw [links_addPair, if_pos rfl]
    · obtain ⟨direction', g', henters', rfl, hmatches⟩ := hS.matched _ _ hlive
      have hrecorded := hmatches.recorded
      rw [gate?_eq hogates] at hrecorded
      have hne : g' ≠ g := by
        rintro rfl
        exact hg (Dict.mem_values_iff.mpr ⟨_, hrecorded⟩)
      refine ⟨direction', g', henters', rfl, ?_, ?_, ?_⟩
      · rw [gate?_addPair, if_neg, hrecorded]
        intro heq
        exact hS.other_sfc henters hnot hlive (GateKey.sfc.inj heq)
      · rw [rules_addPair, if_neg (hrule _ _ henters' hlive)]
        exact hmatches.rule
      · rw [links_addPair, if_neg hne]
        exact hmatches.link
  · intro sfcUUID' directionID' hlive
    obtain heq | hlive := hasDirection_addPair_iff.mp hlive
    · rw [(Prod.mk.inj heq).1]
      exact happart
    · exact hS.apart _ _ hlive
  · intro sfcUUID' directionID'
    rw [hasDirection_addPair_iff, ← hS.balancer]
    by_cases heq : (sfcUUID', directionID') = (sfcUUID, direction.ID)
    · obtain ⟨rfl, rfl⟩ := Prod.mk.inj heq
      simp [Sight.addPair, addRequests, View.after]
    · have hname : Name.hashLB sfcUUID' directionID' ≠
          .hashLB sfcUUID direction.ID := by
        intro h
        obtain ⟨rfl, rfl⟩ := Name.hashLB.inj h
        exact heq rfl
      simp [Sight.addPair, addRequests, View.after, heq, hname]

theorem fresh_addPair (happart : (catalog sfcUUID).EntersApart)
    (henters : Enters catalog serverID sfcUUID direction) :
    Fresh catalog serverID sfcUUID (S.addPair sfcUUID direction g ogates) := by
  intro direction' henters' hnot
  obtain rfl := happart direction henters.1 direction' henters'.1
    (henters.2.trans henters'.2.symm)
  exact absurd (hasDirection_addPair_iff.mpr (Or.inl rfl)) hnot

/-! ## A direction is deleted -/

def delRequests (sfcUUID : UUID) (direction : Direction) (g : Nat) :
    List Request :=
  [.disconnectModules (.base .wm2) g,
    .deleteRule (.base .wm2) (getWM2Rule direction.flowMatch),
    .destroyModule (.hashLB sfcUUID direction.ID)]

/-- The sight without the direction, which was at the gate `g`. -/
def delPair (S : Sight) (sfcUUID : UUID) (direction : Direction) (g : Nat) :
    Sight where
  cibm := ⟨S.cibm.modules.erase (.hashLB sfcUUID direction.ID),
    S.cibm.sfcSet.erase (sfcUUID, direction.ID)⟩
  view := (delRequests sfcUUID direction g).foldl View.after S.view

theorem hasDirection_delPair_iff {sfcUUID' : UUID} {directionID' : Nat} :
    (S.delPair sfcUUID direction g).HasDirection sfcUUID' directionID' ↔
      (sfcUUID', directionID') ≠ (sfcUUID, direction.ID) ∧
        S.HasDirection sfcUUID' directionID' := by
  rw [HasDirection, delPair, Dict.get?_erase]
  split
  · next heq => exact iff_of_false (fun h => h rfl) fun h => h.1 heq
  · next hne => exact (and_iff_right hne).symm

theorem links_delPair {g' : Nat} (hne : g' ≠ g)
    (hlink : S.view.links (.base .wm2) g' ≠
      some (.hashLB sfcUUID direction.ID)) :
    (S.delPair sfcUUID direction g).view.links (.base .wm2) g' =
      S.view.links (.base .wm2) g' := by
  simp [delPair, delRequests, View.after, hne, hlink]

theorem links_delPair_self :
    (S.delPair sfcUUID direction g).view.links (.base .wm2) g = none := by
  simp [delPair, delRequests, View.after]

theorem links_of_links_delPair {g' : Nat} {m : Name}
    (h : (S.delPair sfcUUID direction g).view.links (.base .wm2) g' = some m) :
    g' ≠ g ∧ S.view.links (.base .wm2) g' = some m := by
  have hne : g' ≠ g := by
    rintro rfl
    rw [links_delPair_self] at h
    cases h
  refine ⟨hne, ?_⟩
  by_cases hlink : S.view.links (.base .wm2) g' =
      some (.hashLB sfcUUID direction.ID)
  · simp [delPair, delRequests, View.after, hlink, hne] at h
  · rw [← links_delPair hne hlink]
    exact h

theorem rules_delPair {rule : Match}
    (hne : rule ≠ getWM2Rule direction.flowMatch) :
    (S.delPair sfcUUID direction g).view.rules (.base .wm2) rule =
      S.view.rules (.base .wm2) rule := by
  simp [delPair, delRequests, View.after, hne]

theorem gate?_delPair (key : GateKey) :
    (S.delPair sfcUUID direction g).gate? (.base .wm2) key =
      S.gate? (.base .wm2) key := by
  rw [gate?, gate?, delPair, Dict.get?_erase, if_neg Name.noConfusion]

theorem Tabled.delPair (hS : Tabled catalog serverID S)
    (henters : Enters catalog serverID sfcUUID direction)
    (hlive : S.HasDirection sfcUUID direction.ID)
    (hmatches : S.Matches sfcUUID direction g) :
    Tabled catalog serverID (S.delPair sfcUUID direction g) := by
  -- the other directions are of other SFCs
  have hother {sfcUUID' : UUID} {directionID' : Nat}
      (hlive' : S.HasDirection sfcUUID' directionID')
      (hne : (sfcUUID', directionID') ≠ (sfcUUID, direction.ID)) :
      sfcUUID' ≠ sfcUUID := by
    rintro rfl
    obtain ⟨rfl, -⟩ := hS.matches hlive' henters
    exact hne rfl
  constructor
  · obtain ⟨m, hm, hclass, hsizes⟩ := hS.table
    refine ⟨m, ?_, hclass, hsizes⟩
    simpa [Sight.delPair, delRequests, View.after] using hm
  · obtain ⟨ogates, hogates, honly⟩ := hS.ogates
    refine ⟨ogates, ?_, fun g' m hlink => ?_⟩
    · rw [Sight.delPair, Dict.get?_erase, if_neg Name.noConfusion]
      exact hogates
    · obtain ⟨hne, hlink'⟩ := links_of_links_delPair hlink
      obtain ⟨k, hk, hsfc⟩ := honly g' m hlink'
      refine ⟨k, hk, ?_⟩
      rintro sfcUUID' rfl
      obtain ⟨directionID', hlive'⟩ := hsfc sfcUUID' rfl
      refine ⟨directionID', hasDirection_delPair_iff.mpr ⟨?_, hlive'⟩⟩
      -- the gate of the direction is the one that is recorded for the SFC
      intro heq
      obtain ⟨rfl, -⟩ := Prod.mk.inj heq
      have hrecorded := hmatches.recorded
      rw [gate?_eq hogates, hk] at hrecorded
      exact hne (Option.some.inj hrecorded)
  · intro sfcUUID' directionID' hlive'
    obtain ⟨hne, hlive'⟩ := hasDirection_delPair_iff.mp hlive'
    have hsfc := hother hlive' hne
    obtain ⟨direction', g', henters', rfl, hmatches'⟩ := hS.matched _ _ hlive'
    have hgate : g' ≠ g := by
      rintro rfl
      exact hsfc (hmatches'.unique hmatches).1
    refine ⟨direction', g', henters', rfl, ?_, ?_, ?_⟩
    · rw [gate?_delPair]
      exact hmatches'.recorded
    · rw [rules_delPair]
      · exact hmatches'.rule
      · intro hrule
        have hg := hmatches'.rule
        rw [hrule, hmatches.rule] at hg
        exact hgate (Option.some.inj hg).symm
    · rw [links_delPair hgate]
      · exact hmatches'.link
      · rw [hmatches'.link]
        intro heq
        exact hsfc (Name.hashLB.inj (Option.some.inj heq)).1
  · intro sfcUUID' directionID' hlive'
    exact hS.apart _ _ (hasDirection_delPair_iff.mp hlive').2
  · intro sfcUUID' directionID'
    rw [hasDirection_delPair_iff, ← hS.balancer]
    by_cases heq : (sfcUUID', directionID') = (sfcUUID, direction.ID)
    · obtain ⟨rfl, rfl⟩ := Prod.mk.inj heq
      simp [Sight.delPair, delRequests, View.after]
    · have hname : Name.hashLB sfcUUID' directionID' ≠
          .hashLB sfcUUID direction.ID := by
        intro h
        obtain ⟨rfl, rfl⟩ := Name.hashLB.inj h
        exact heq rfl
      simp [Sight.delPair, delRequests, View.after, heq, hname]

end Sight

/-! ## What a command does to a classifier -/

open Sight

section Bodies

variable {β : Type} {bess : Bess β} {catalog : UUID → SFC} {serverID : Nat}
  {sfc : SFC} {sfcUUID : UUID} {sfciID : Nat} {direction : Direction}
  {S : Sight}

theorem meets_addSFC_tabled (hbess : bess.Lawful) {E : Sight → Prop}
    (hS : Tabled catalog serverID S)
    (hfresh : Fresh catalog serverID sfcUUID S)
    (happart : (catalog sfcUUID).EntersApart)
    (henters : Enters catalog serverID sfcUUID direction)
    (hnot : ¬ S.HasDirection sfcUUID direction.ID) :
    PyM.Meets (bess.Sees (· = S)) (addSFC bess sfcUUID direction)
      (fun _ => bess.Sees fun S => Ready catalog serverID sfcUUID S ∧
        S.HasDirection sfcUUID direction.ID) (bess.Sees E) := by
  obtain ⟨m, hm, hclass, hsizes⟩ := hS.table
  obtain ⟨ogates, hogates, honly⟩ := hS.ogates
  obtain ⟨hfits, -⟩ := hfresh direction henters hnot
  have hg := Sff.genAvailableMiniNum4List_notMem ogates.values
  have hnone : S.view.modules (.hashLB sfcUUID direction.ID) = none := by
    by_contra h
    exact hnot ((hS.balancer _ _).mp h)
  have hfree : S.view.links (.base .wm2)
      (Sff.genAvailableMiniNum4List ogates.values) = none := by
    cases hlink : S.view.links (.base .wm2)
        (Sff.genAvailableMiniNum4List ogates.values) with
    | none => rfl
    | some m' =>
        obtain ⟨k, hk, -⟩ := honly _ _ hlink
        exact absurd (Dict.mem_values_iff.mpr ⟨k, hk⟩) hg
  have hogates' : (S.cibm.addModule
      (.hashLB sfcUUID direction.ID)).modules.get? (.base .wm2) =
        some ogates := by
    rw [Cibm.addModule, Dict.get?_set_of_ne _ _ Name.noConfusion]
    exact hogates
  simp only [addSFC, addSFCModules, addSFCRules, assignWM2OGate, addSFCLinks,
    bind_assoc, pure_bind]
  refine PyM.Meets.bind (meets_idle hbess fun _ => rfl) fun _ => ?_
  refine PyM.Meets.bind (meets_checked_eq hbess
    ⟨hnone, queueFree_of_port rfl⟩) fun _ => ?_
  refine PyM.Meets.bind meets_modifyCibm_eq fun _ => ?_
  refine PyM.Meets.bind (meets_idle hbess fun _ => rfl) fun _ => ?_
  refine PyM.Meets.bind (meets_idle hbess fun _ => rfl) fun _ => ?_
  refine meets_bind_ogatesOf_eq hogates' ?_
  refine PyM.Meets.bind (meets_addOGate2Module_eq hogates') fun _ => ?_
  refine PyM.Meets.bind (meets_request_eq hbess ⟨m, ?_, hclass, ?_⟩) fun _ => ?_
  · simpa [Sight.setOGates, View.after] using hm
  · rw [hsizes]
    exact hfits
  refine PyM.Meets.bind (meets_idle hbess fun _ => rfl) fun _ => ?_
  refine PyM.Meets.bind (meets_idle hbess fun _ => rfl) fun _ => ?_
  refine meets_bind_getModuleOGate_eq
    (g := Sff.genAvailableMiniNum4List ogates.values) ?_ ?_
  · exact (gate?_setOGates_self _ _ _ _).trans (Dict.get?_set_self _ _ _)
  refine PyM.Meets.bind (meets_checked_eq hbess ⟨?_, ?_, ?_⟩) fun _ => ?_
  · simp [Sight.setOGates, View.after, hm]
  · simp [Sight.setOGates, View.after]
  · simpa [Sight.setOGates, View.after] using hfree
  refine PyM.Meets.bind (meets_idle hbess fun _ => rfl) fun _ => ?_
  refine meets_modifyCibm ?_
  rintro _ rfl
  exact ⟨⟨hS.addPair hfresh happart henters hnot hogates hg,
    fresh_addPair happart henters⟩, hasDirection_addPair_iff.mpr (Or.inl rfl)⟩

theorem meets_ensureSFC_tabled (hbess : bess.Lawful)
    (happart : (catalog sfcUUID).EntersApart)
    (henters : Enters catalog serverID sfcUUID direction) :
    PyM.Meets (bess.Sees (Ready catalog serverID sfcUUID))
      (ensureSFC bess sfcUUID direction)
      (fun _ => bess.Sees fun S => Ready catalog serverID sfcUUID S ∧
        S.HasDirection sfcUUID direction.ID)
      (bess.Sees (Ready catalog serverID sfcUUID)) := by
  refine PyM.Meets.bind_get fun side hside => ?_
  refine PyM.Meets.ite (fun hhas => ?_) fun hnot => ?_
  · rintro _ rfl
    exact ⟨hside, Dict.contains_eq_true_iff.mp hhas⟩
  · rw [Cibm.hasSFCDirection, Dict.contains_eq_true_iff] at hnot
    refine (meets_addSFC_tabled (S := bess.sight side) hbess hside.1 hside.2
      happart henters hnot).conseq ?_ (fun _ _ h => h) fun _ h => h
    rintro _ rfl
    rfl

theorem keeps_addSFCToSide (hbess : bess.Lawful)
    (happart : (catalog sfcUUID).EntersApart)
    (henters : Enters catalog serverID sfcUUID direction) :
    PyM.Keeps (bess.Sees (Ready catalog serverID sfcUUID))
      (addSFCToSide bess sfcUUID direction) := by
  refine PyM.Meets.bind (meets_ensureSFC_tabled hbess happart henters) fun _ => ?_
  exact keeps_setSFCIIDs (fun _ _ => Ready.congr) _ _ _

theorem keeps_addSFCIToSide (hbess : bess.Lawful)
    (happart : (catalog sfc.sfcUUID).EntersApart)
    (henters : Enters catalog serverID sfc.sfcUUID direction) :
    PyM.Keeps (bess.Sees (Ready catalog serverID sfc.sfcUUID))
      (addSFCIToSide bess sfc sfciID direction) := by
  refine PyM.Meets.bind ((meets_ensureSFC_tabled hbess happart henters).conseq
    (fun _ h => h) (fun _ _ h => h.1) fun _ h => h) fun _ => ?_
  exact keeps_install (fun _ _ => Ready.congr) hbess

theorem keeps_delSFCFromSide (hbess : bess.Lawful)
    (henters : Enters catalog serverID sfcUUID direction) :
    PyM.Keeps (bess.Sees (Tabled catalog serverID))
      (delSFCFromSide bess sfcUUID direction) := by
  refine PyM.Meets.bind_get fun side hside => ?_
  have hstay : PyM.Meets (· = side) (pure () : PyM (Side β) Unit)
      (fun _ => bess.Sees (Tabled catalog serverID))
      (bess.Sees (Tabled catalog serverID)) := by
    rintro _ rfl
    exact hside
  cases hids : side.cibm.sfcSet.get? (sfcUUID, direction.ID) with
  | none => exact hstay
  | some sfciIDs =>
      refine PyM.Meets.ite (fun _ => ?_) fun _ => hstay
      have hlive : (bess.sight side).HasDirection sfcUUID direction.ID := by
        have hids' : (bess.sight side).cibm.sfcSet.get?
            (sfcUUID, direction.ID) = some sfciIDs := hids
        rw [HasDirection, hids']
        exact Option.some_ne_none sfciIDs
      obtain ⟨-, g, hmatches⟩ := hside.matches hlive henters
      have hbalancer := (hside.balancer _ _).mpr hlive
      have hlink : (bess.sight side).view.links (.base .wm2) g ≠ none := by
        rw [hmatches.link]
        exact Option.some_ne_none _
      have hrule : (bess.sight side).view.rules (.base .wm2)
          (getWM2Rule direction.flowMatch) ≠ none := by
        rw [hmatches.rule]
        exact Option.some_ne_none _
      have hdel : PyM.Meets (bess.Sees (· = bess.sight side))
          (delSFC bess sfcUUID direction)
          (fun _ => bess.Sees (Tabled catalog serverID))
          (bess.Sees (Tabled catalog serverID)) := by
        simp only [delSFC, delSFCLinks, delSFCRules, delSFCModules, bind_assoc]
        refine PyM.Meets.bind (meets_idle hbess fun _ => rfl) fun _ => ?_
        refine meets_bind_getModuleOGate_eq hmatches.recorded ?_
        refine PyM.Meets.bind (meets_checked_eq hbess hlink) fun _ => ?_
        refine PyM.Meets.bind (meets_idle hbess fun _ => rfl) fun _ => ?_
        refine PyM.Meets.bind (meets_idle hbess fun _ => rfl) fun _ => ?_
        refine PyM.Meets.bind (meets_checked_eq hbess hrule) fun _ => ?_
        refine PyM.Meets.bind (meets_idle hbess fun _ => rfl) fun _ => ?_
        refine PyM.Meets.bind (meets_idle hbess fun _ => rfl) fun _ => ?_
        refine PyM.Meets.bind (meets_checked_eq hbess hbalancer) fun _ => ?_
        refine PyM.Meets.bind meets_modifyCibm_eq fun _ => ?_
        refine PyM.Meets.bind (meets_idle hbess fun _ => rfl) fun _ => ?_
        refine meets_modifyCibm ?_
        rintro _ rfl
        exact hside.delPair henters hlive hmatches
      refine hdel.conseq ?_ (fun _ _ h => h) fun _ h => h
      rintro _ rfl
      rfl

end Bodies

/-! ## Runs -/

/-- Each direction that is there has a gate, recorded for its SFC, that its rule
leads to and its load balancer is connected to, and no two directions have the
same. -/
structure Separates (catalog : UUID → SFC) (serverID : Nat) (S : Sight) :
    Prop where
  matched : ∀ sfcUUID directionID, S.HasDirection sfcUUID directionID →
    ∃ direction g, Enters catalog serverID sfcUUID direction ∧
      direction.ID = directionID ∧ S.Matches sfcUUID direction g
  apart : ∀ sfcUUID directionID sfcUUID' directionID' g,
    S.HasDirection sfcUUID directionID → S.HasDirection sfcUUID' directionID' →
      S.gate? (.base .wm2) (.sfc sfcUUID) = some g →
        S.gate? (.base .wm2) (.sfc sfcUUID') = some g →
          sfcUUID = sfcUUID' ∧ directionID = directionID'

theorem Sight.Tabled.separates {catalog : UUID → SFC} {serverID : Nat} {S : Sight}
    (hS : Tabled catalog serverID S) : Separates catalog serverID S where
  matched := hS.matched
  apart sfcUUID directionID sfcUUID' directionID' g hlive hlive' hg hg' := by
    obtain ⟨direction, g₁, -, rfl, hmatches⟩ := hS.matched _ _ hlive
    obtain ⟨direction', g₂, -, rfl, hmatches'⟩ := hS.matched _ _ hlive'
    obtain rfl := Option.some.inj (hg.symm.trans hmatches.recorded)
    obtain rfl := Option.some.inj (hg'.symm.trans hmatches'.recorded)
    exact hmatches.unique hmatches'

/-- `wm2` of a new classifier leads to the two modules behind it. -/
theorem Sight.tabled_baseSight (catalog : UUID → SFC) (serverID : Nat)
    (classifier : Sff.Server) :
    Tabled catalog serverID (baseSight classifier) where
  table := ⟨_, rfl, rfl, rfl⟩
  ogates := by
    refine ⟨baseGates, Dict.get?_set_self _ _ _, fun g m hlink => ?_⟩
    have hg : g = 0 ∨ g = 1 := by
      by_contra hne
      rw [not_or] at hne
      simp [baseSight, baseView, linkRequests, baseLinks, View.after, hne.1, hne.2,
        ruleRequests, firstRules, moduleView, firstModules, otherModules,
        View.empty] at hlink
    obtain rfl | rfl := hg
    · exact ⟨.defaultGate, rfl, fun _ h => by cases h⟩
    · exact ⟨.ipv4, rfl, fun _ h => by cases h⟩
  matched _ _ h := absurd rfl h
  apart _ _ h := absurd rfl h
  balancer _ _ := iff_of_false (fun h => h rfl) fun h => h rfl

def ClassifierCommand.Adds : ClassifierCommand → Prop
  | .addSFC _ | .addSFCI _ _ => True
  | .delSFCI _ _ | .delSFC _ => False

section Runs

variable {β : Type} {bess : Bess β} {catalog : UUID → SFC}
  {c c' : ClassifierController β}

/-- The SFC of a command is the one of its id. The directions that are added
enter at different classifiers, and their rules fit the table and are not those
of other directions that are there. -/
structure KeepsApart (catalog : UUID → SFC) (c : ClassifierController β)
    (cmd : ClassifierCommand) : Prop where
  sfc : cmd.sfc = catalog cmd.sfc.sfcUUID
  apart : cmd.Adds → cmd.sfc.EntersApart
  fits : cmd.Adds → ∀ direction ∈ cmd.sfc.directions,
    (getWM2Rule direction.flowMatch).Fits [1, 4, 4, 2, 2]
  rules : cmd.Adds → ∀ direction ∈ cmd.sfc.directions,
    ∀ side, c.side? direction.ingress.serverID = some side →
      ∀ sfcUUID' direction',
        Enters catalog direction.ingress.serverID sfcUUID' direction' →
          side.cibm.sfcSet.get? (sfcUUID', direction'.ID) ≠ none →
            (sfcUUID', direction'.ID) ≠ (cmd.sfc.sfcUUID, direction.ID) →
              getWM2Rule direction'.flowMatch ≠ getWM2Rule direction.flowMatch

def AllTabled (bess : Bess β) (catalog : UUID → SFC)
    (c : ClassifierController β) : Prop :=
  ∀ serverID side, c.side? serverID = some side →
    bess.Sees (Tabled catalog serverID) side

theorem turns_of_keeps {P : Sight → Prop} {x : PyM (Side β) Unit}
    (h : PyM.Keeps (bess.Sees P) x) :
    Turns (bess.Sees P) (fun _ _ => True) x := by
  intro side hside
  refine PyM.Meets.conseq h ?_ (fun _ _ h => ⟨h, trivial⟩) fun _ h => ⟨h, trivial⟩
  rintro _ rfl
  exact hside

theorem KeepsApart.ready {cmd : ClassifierCommand}
    (hcmd : KeepsApart catalog c cmd) (hadds : cmd.Adds)
    (hc : AllTabled bess catalog c) {serverID : Nat} {side : Side β}
    (hside : c.side? serverID = some side) :
    bess.Sees (Ready catalog serverID cmd.sfc.sfcUUID) side := by
  refine ⟨hc serverID side hside, ?_⟩
  rintro direction ⟨hdirection, rfl⟩ hnot
  rw [← hcmd.sfc] at hdirection
  refine ⟨hcmd.fits hadds direction hdirection, ?_⟩
  intro sfcUUID' direction' henters' hlive
  refine hcmd.rules hadds direction hdirection side hside sfcUUID' direction'
    henters' hlive fun heq => hnot ?_
  rw [HasDirection, ← heq]
  exact hlive

theorem tabled_step (hbess : bess.Lawful) (hc : AllTabled bess catalog c)
    {cmd : ClassifierCommand} (hcmd : KeepsApart catalog c cmd) :
    AllTabled bess catalog ((machine bess).step c cmd) := by
  have hstart : Moves (fun serverID => bess.Sees (Tabled catalog serverID))
      (fun _ _ => True) c c := Moves.refl (fun _ => trivial) hc
  have hready (hadds : cmd.Adds) :
      Moves (fun serverID => bess.Sees (Ready catalog serverID cmd.sfc.sfcUUID))
        (fun _ _ => True) c c :=
    Moves.refl (fun _ => trivial) fun _ _ hside => hcmd.ready hadds hc hside
  have happart (hadds : cmd.Adds) : (catalog cmd.sfc.sfcUUID).EntersApart := by
    rw [← hcmd.sfc]
    exact hcmd.apart hadds
  have henters {direction : Direction} (h : direction ∈ cmd.sfc.directions) :
      Enters catalog direction.ingress.serverID cmd.sfc.sfcUUID direction := by
    refine ⟨?_, rfl⟩
    rw [← hcmd.sfc]
    exact h
  -- the rule of a direction fits and differs, also at a new classifier
  have hbase (hadds : cmd.Adds) (classifier : Sff.Server) (serverID : Nat)
      (side : Side β) (hside : bess.sight side = baseSight classifier) :
      bess.Sees (Ready catalog serverID cmd.sfc.sfcUUID) side := by
    rw [Bess.Sees, hside]
    refine ⟨tabled_baseSight catalog serverID classifier, ?_⟩
    rintro direction ⟨hdirection, -⟩ -
    rw [← hcmd.sfc] at hdirection
    exact ⟨hcmd.fits hadds direction hdirection, fun _ _ _ h => absurd rfl h⟩
  cases cmd with
  | addSFC sfc =>
      have hkeeps : PyM.Keeps (Moves (fun serverID =>
          bess.Sees (Ready catalog serverID sfc.sfcUUID)) (fun _ _ => True) c)
          (addSFCHandler bess sfc) := by
        refine moves_addSFCHandler (fun _ _ => trivial) hbess (hbase trivial)
          fun direction hdirection => turns_of_keeps ?_
        exact keeps_addSFCToSide hbess (happart trivial) (henters hdirection)
      have hmoves := hkeeps.finalState (hready trivial)
      exact fun serverID side hside => (hmoves.inv serverID side hside).1
  | addSFCI sfc sfciID =>
      have hkeeps : PyM.Keeps (Moves (fun serverID =>
          bess.Sees (Ready catalog serverID sfc.sfcUUID)) (fun _ _ => True) c)
          (addSFCIHandler bess sfc sfciID) := by
        refine moves_addSFCIHandler (fun _ _ => trivial) hbess (hbase trivial)
          fun direction hdirection => turns_of_keeps ?_
        exact keeps_addSFCIToSide hbess (happart trivial) (henters hdirection)
      have hmoves := hkeeps.finalState (hready trivial)
      exact fun serverID side hside => (hmoves.inv serverID side hside).1
  | delSFCI sfc sfciID =>
      have hkeeps : PyM.Keeps (Moves (fun serverID =>
          bess.Sees (Tabled catalog serverID)) (fun _ _ => True) c)
          (delSFCIHandler bess sfc sfciID) := by
        refine moves_delSFCIHandler (fun _ _ => trivial) fun direction _ =>
          turns_of_keeps ?_
        exact keeps_delSFCIFromSide (fun _ _ h hS => Tabled.congr hS h) hbess
      exact (hkeeps.finalState hstart).inv
  | delSFC sfc =>
      have hkeeps : PyM.Keeps (Moves (fun serverID =>
          bess.Sees (Tabled catalog serverID)) (fun _ _ => True) c)
          (delSFCHandler bess sfc) := by
        refine moves_delSFCHandler (fun _ _ => trivial)
          fun direction hdirection => turns_of_keeps ?_
        exact keeps_delSFCFromSide hbess (henters hdirection)
      exact (hkeeps.finalState hstart).inv

/-- In a run whose commands all keep the directions apart, each direction that
is there has a gate of its own at its classifier. -/
theorem gates_apart_of_keepsApart (hbess : bess.Lawful)
    {τ : List (ClassifierController β × ClassifierCommand)}
    (hrun : (machine bess).Run τ c)
    (hsafe : ∀ e ∈ τ, KeepsApart catalog e.1 e.2) :
    ∀ serverID side, c.side? serverID = some side →
      Separates catalog serverID (bess.sight side) := by
  have hc : AllTabled bess catalog c := by
    refine hrun.invariant_of_meets ?_ ?_ hsafe
    · intro c hinit serverID side hside
      have hcibms : c.cibms = Dict.empty := hinit
      rw [ClassifierController.side?, hcibms] at hside
      cases hside
    · exact fun c cmd _ hc _ hcmd => tabled_step hbess hc hcmd
  exact fun serverID side hside => (hc serverID side hside).separates

end Runs

/-- An SFC beside `exampleSFC`. -/
def otherSFC : SFC where
  sfcUUID := ⟨0, 1⟩
  vNFTypeSequence := [1]
  directions := [⟨0, ⟨1, 10, 20⟩, ⟨none, none, some 31, none, none⟩⟩]

def exampleCatalog (sfcUUID : UUID) : SFC :=
  if sfcUUID = ⟨0, 0⟩ then exampleSFC
  else if sfcUUID = ⟨0, 1⟩ then otherSFC
  else ⟨sfcUUID, [], []⟩

/-- For two SFCs with one direction each, the recorded gates at the classifier
`1`, and what `wm2` is connected to by its gates `2` and `3`. -/
def exampleGates (c : ClassifierController View) :
    Option ((Option Nat × Option Nat) × Option Name × Option Name) :=
  (c.side? 1).map fun side =>
    (((viewBess.sight side).gate? (.base .wm2) (.sfc ⟨0, 0⟩),
        (viewBess.sight side).gate? (.base .wm2) (.sfc ⟨0, 1⟩)),
      side.bess.links (.base .wm2) 2, side.bess.links (.base .wm2) 3)

theorem keepsApart_example {sfc : SFC} (hsfc : sfc = exampleSFC ∨ sfc = otherSFC)
    (c : ClassifierController View) :
    KeepsApart exampleCatalog c (.addSFC sfc) := by
  constructor
  · obtain rfl | rfl := hsfc <;> decide
  · rintro - direction hdirection direction' hdirection' -
    obtain rfl | rfl := hsfc <;>
    · obtain rfl := List.mem_singleton.mp hdirection
      exact (List.mem_singleton.mp hdirection').symm
  · rintro - direction hdirection
    obtain rfl | rfl := hsfc <;>
    · obtain rfl := List.mem_singleton.mp hdirection
      decide
  · rintro - direction hdirection side - sfcUUID' direction' ⟨henters, -⟩ - hne
    rw [exampleCatalog] at henters
    obtain rfl | rfl := hsfc <;> obtain rfl := List.mem_singleton.mp hdirection <;>
      split at henters
    · next heq =>
        obtain rfl := List.mem_singleton.mp henters
        subst heq
        exact absurd rfl hne
    · split at henters
      · obtain rfl := List.mem_singleton.mp henters
        decide
      · cases henters
    · obtain rfl := List.mem_singleton.mp henters
      decide
    · split at henters
      · next heq =>
          obtain rfl := List.mem_singleton.mp henters
          subst heq
          exact absurd rfl hne
      · cases henters

theorem gates_apart_of_keepsApart_twoSFCs :
    exampleGates (controllerAfter [.addSFC exampleSFC, .addSFC otherSFC]) =
        some ((some 2, some 3), some (.hashLB ⟨0, 0⟩ 0), some (.hashLB ⟨0, 1⟩ 0)) ∧
      ∀ serverID side, (controllerAfter [.addSFC exampleSFC,
        .addSFC otherSFC]).side? serverID = some side →
          Separates exampleCatalog serverID (viewBess.sight side) := by
  have hrun : (machine viewBess).Run _ (controllerAfter
      [.addSFC exampleSFC, .addSFC otherSFC]) :=
    Machine.Run.arrive (.start rfl) ⟨trivial, trivial, trivial⟩
  refine ⟨by decide +kernel, gates_apart_of_keepsApart viewBess_lawful hrun ?_⟩
  simp only [Machine.trace, List.nil_append, List.forall_mem_cons,
    List.not_mem_nil, forall_false, implies_true, and_true]
  exact ⟨keepsApart_example (Or.inl rfl) _, keepsApart_example (Or.inr rfl) _⟩

/-- An SFC whose two directions enter at the classifier `1`. -/
def bothWays : SFC where
  sfcUUID := ⟨0, 0⟩
  vNFTypeSequence := [1]
  directions := [⟨0, ⟨1, 10, 20⟩, ⟨none, none, some 30, none, none⟩⟩,
    ⟨1, ⟨1, 10, 20⟩, ⟨none, some 30, none, none, none⟩⟩]

/-- The gate of the second direction is recorded in place of that of the first,
and the gate of the first is then given to another SFC: the rule of `otherSFC`
leads to the load balancer of the first direction. -/
theorem gate_given_twice :
    viewBess.Lawful ∧
      (machine viewBess).Reachable (controllerAfter [.addSFC bothWays]) ∧
      (∃ side, (controllerAfter [.addSFC bothWays]).side? 1 = some side ∧
        ∀ catalog, ¬ Separates catalog 1 (viewBess.sight side)) ∧
      ∃ side, (controllerAfter [.addSFC bothWays, .addSFC otherSFC]).side? 1 =
          some side ∧
        side.bess.rules (.base .wm2)
          (getWM2Rule ⟨none, none, some 31, none, none⟩) = some 2 ∧
        side.bess.links (.base .wm2) 2 = some (.hashLB ⟨0, 0⟩ 0) := by
  have hgates : exampleGates (controllerAfter [.addSFC bothWays]) =
      some ((some 3, none), some (.hashLB ⟨0, 0⟩ 0),
        some (.hashLB ⟨0, 0⟩ 1)) := by decide +kernel
  have hlive : ((controllerAfter [.addSFC bothWays]).side? 1).map
      (fun side => side.cibm.sfcSet.get? (⟨0, 0⟩, 0)) = some (some []) := by
    decide +kernel
  have hrule : ((controllerAfter [.addSFC bothWays, .addSFC otherSFC]).side?
      1).map (fun side => (side.bess.rules (.base .wm2)
        (getWM2Rule ⟨none, none, some 31, none, none⟩),
          side.bess.links (.base .wm2) 2)) =
        some (some 2, some (.hashLB ⟨0, 0⟩ 0)) := by decide +kernel
  refine ⟨viewBess_lawful, ?_, ?_, ?_⟩
  · have hrun : (machine viewBess).Run _ (controllerAfter [.addSFC bothWays]) :=
      Machine.Run.arrive (.start rfl) ⟨trivial, trivial⟩
    exact hrun.reachable
  · obtain ⟨side, hside, hview⟩ := Option.map_eq_some_iff.mp hgates
    rw [hside] at hlive
    refine ⟨side, hside, fun catalog hseparates => ?_⟩
    obtain ⟨hrecorded, hlinks⟩ := Prod.mk.inj hview
    have hids : side.cibm.sfcSet.get? (⟨0, 0⟩, 0) = some [] :=
      Option.some.inj hlive
    have hhas : (viewBess.sight side).HasDirection ⟨0, 0⟩ 0 := by
      intro hnone
      have hnone' : side.cibm.sfcSet.get? (⟨0, 0⟩, 0) = none := hnone
      rw [hids] at hnone'
      cases hnone'
    obtain ⟨direction, g, -, hID, hmatches⟩ := hseparates.matched _ _ hhas
    have hg := hmatches.recorded
    rw [(Prod.mk.inj hrecorded).1] at hg
    obtain rfl := Option.some.inj hg
    -- the recorded gate is connected to the load balancer of the second one
    have hlink := (Prod.mk.inj hlinks).2.symm.trans hmatches.link
    rw [hID] at hlink
    cases hlink
  · obtain ⟨side, hside, hview⟩ := Option.map_eq_some_iff.mp hrule
    exact ⟨side, hside, Prod.mk.inj hview⟩

end SelfAdaptiveMano.Classifier

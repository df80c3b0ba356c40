import SelfAdaptiveMano.Classifier.Installation

/-!
# The match table of a classifier

A direction of an SFC that is not deleted has a rule in `wm2`, a gate that is
recorded under the SFC and a connection of `wm2` to its load balancer. `Tabled`
says that the three are of one gate. It is kept when the directions of an SFC
enter at different classifiers and their rules are those of no other SFC; the
commands for SFCIs leave the table alone.
-/

namespace SelfAdaptiveMano.Classifier

open Library

def SFC.EntersApart (sfc : SFC) : Prop :=
  ∀ direction ∈ sfc.directions, ∀ direction' ∈ sfc.directions,
    direction.ingress.serverID = direction'.ingress.serverID →
      direction = direction'

/-- A direction of the SFC that the catalog has under the id, and that enters at
the classifier. -/
def Enters (catalog : UUID → SFC) (serverID : Nat) (sfcUUID : UUID)
    (direction : Direction) : Prop :=
  direction ∈ (catalog sfcUUID).directions ∧
    direction.ingress.serverID = serverID

namespace Sight

def HasDirection (S : Sight) (sfcUUID : UUID) (directionID : Nat) : Prop :=
  S.cibm.sfcSet.get? (sfcUUID, directionID) ≠ none

/-- The gate is recorded for the SFC, and is that of the rule of the direction
and of the connection to its load balancer. -/
structure Matches (S : Sight) (sfcUUID : UUID) (direction : Direction) (g : Nat) :
    Prop where
  recorded : S.gate? (.base .wm2) (.sfc sfcUUID) = some g
  rule : S.view.rules (.base .wm2) (getWM2Rule direction.flowMatch) = some g
  link : S.view.links (.base .wm2) g = some (.hashLB sfcUUID direction.ID)

variable {catalog : UUID → SFC} {serverID : Nat} {S S' : Sight}
  {sfcUUID : UUID} {directionID : Nat} {direction : Direction}

/-- The gates, the rules and the connections of `wm2` belong together. -/
structure Tabled (catalog : UUID → SFC) (serverID : Nat) (S : Sight) :
    Prop where
  table : ∃ m, S.view.modules (.base .wm2) = some m ∧
    m.mclass = .wildcardMatch ∧ m.sizes = [1, 4, 4, 2, 2]
  ogates : ∃ ogates, S.cibm.modules.get? (.base .wm2) = some ogates ∧
    ∀ g m, S.view.links (.base .wm2) g = some m → ∃ k, ogates.get? k = some g ∧
      ∀ sfcUUID, k = .sfc sfcUUID → ∃ directionID,
        S.HasDirection sfcUUID directionID
  matched : ∀ sfcUUID directionID, S.HasDirection sfcUUID directionID →
    ∃ direction g, Enters catalog serverID sfcUUID direction ∧
      direction.ID = directionID ∧ S.Matches sfcUUID direction g
  apart : ∀ sfcUUID directionID, S.HasDirection sfcUUID directionID →
    (catalog sfcUUID).EntersApart
  balancer : ∀ sfcUUID directionID,
    S.view.modules (.hashLB sfcUUID directionID) ≠ none ↔
      S.HasDirection sfcUUID directionID

theorem Tabled.matches (hS : Tabled catalog serverID S)
    (hlive : S.HasDirection sfcUUID directionID)
    (henters : Enters catalog serverID sfcUUID direction) :
    direction.ID = directionID ∧ ∃ g, S.Matches sfcUUID direction g := by
  obtain ⟨direction', g, henters', hID, hmatches⟩ := hS.matched _ _ hlive
  have hapart := hS.apart _ _ hlive
  obtain rfl := hapart direction henters.1 direction' henters'.1
    (henters.2.trans henters'.2.symm)
  exact ⟨hID, g, hmatches⟩

theorem Matches.unique {sfcUUID' : UUID} {direction' : Direction} {g : Nat}
    (h : S.Matches sfcUUID direction g)
    (h' : S.Matches sfcUUID' direction' g) :
    sfcUUID = sfcUUID' ∧ direction.ID = direction'.ID :=
  Name.hashLB.inj (Option.some.inj (h.link.symm.trans h'.link))

/-! ## What leaves the table alone -/

/-- Nothing that concerns `wm2` and the load balancers differs, save for
connections of `wm2` to other modules, which may be missing. -/
structure SameTable (S S' : Sight) : Prop where
  table : S'.view.modules (.base .wm2) = S.view.modules (.base .wm2)
  balancer : ∀ sfcUUID directionID, S'.view.modules (.hashLB sfcUUID directionID) =
    S.view.modules (.hashLB sfcUUID directionID)
  rules : S'.view.rules (.base .wm2) = S.view.rules (.base .wm2)
  links : ∀ g sfcUUID directionID,
    S.view.links (.base .wm2) g = some (.hashLB sfcUUID directionID) →
      S'.view.links (.base .wm2) g = some (.hashLB sfcUUID directionID)
  only : ∀ g m, S'.view.links (.base .wm2) g = some m →
    S.view.links (.base .wm2) g = some m
  ogates : S'.cibm.modules.get? (.base .wm2) = S.cibm.modules.get? (.base .wm2)
  live : ∀ sfcUUID directionID,
    S'.HasDirection sfcUUID directionID ↔ S.HasDirection sfcUUID directionID

theorem Matches.congr (h : SameTable S S') {g : Nat}
    (hS : S.Matches sfcUUID direction g) : S'.Matches sfcUUID direction g where
  recorded := by
    rw [gate?, h.ogates]
    exact hS.recorded
  rule := by
    rw [h.rules]
    exact hS.rule
  link := h.links _ _ _ hS.link

theorem Tabled.congr (hS : Tabled catalog serverID S) (h : SameTable S S') :
    Tabled catalog serverID S' where
  table := by
    rw [h.table]
    exact hS.table
  ogates := by
    obtain ⟨ogates, hogates, honly⟩ := hS.ogates
    refine ⟨ogates, h.ogates.trans hogates, fun g m hlink => ?_⟩
    obtain ⟨k, hk, hsfc⟩ := honly g m (h.only g m hlink)
    refine ⟨k, hk, fun sfcUUID heq => ?_⟩
    obtain ⟨directionID, hlive⟩ := hsfc sfcUUID heq
    exact ⟨directionID, (h.live _ _).mpr hlive⟩
  matched sfcUUID directionID hlive := by
    obtain ⟨direction, g, henters, hID, hmatches⟩ :=
      hS.matched _ _ ((h.live _ _).mp hlive)
    exact ⟨direction, g, henters, hID, hmatches.congr h⟩
  apart sfcUUID directionID hlive := hS.apart _ _ ((h.live _ _).mp hlive)
  balancer sfcUUID directionID := by
    rw [h.balancer, h.live]
    exact hS.balancer sfcUUID directionID

end Sight

/-- The calls about the modules of SFCIs. -/
def Request.SparesTable : Request → Bool
  | .pauseAll | .resumeAll | .addGates _ _ => true
  | .createModule (.sfci _ _ _) _ | .destroyModule (.sfci _ _ _) => true
  | .connectModules (.hashLB _ _) _ _ _ | .connectModules (.sfci _ _ _) _ _ _ =>
      true
  | .disconnectModules (.hashLB _ _) _ | .disconnectModules (.sfci _ _ _) _ =>
      true
  | _ => false

namespace Sight

variable {S : Sight} {sfcUUID : UUID} {directionID : Nat}

theorem sameTable_connect {m1 m2 : Name} {ogate igate : Nat}
    (h : m1 ≠ .base .wm2) :
    SameTable S (S.call (.connectModules m1 m2 ogate igate)) := by
  refine ⟨rfl, fun _ _ => rfl, rfl, fun g _ _ hlink => ?_, fun g m hlink => ?_,
    rfl, fun _ _ => Iff.rfl⟩
  · simpa [View.after, h.symm] using hlink
  · simpa [View.after, h.symm] using hlink

theorem sameTable_disconnect {name : Name} {ogate : Nat}
    (h : name ≠ .base .wm2) :
    SameTable S (S.call (.disconnectModules name ogate)) := by
  refine ⟨rfl, fun _ _ => rfl, rfl, fun g _ _ hlink => ?_, fun g m hlink => ?_,
    rfl, fun _ _ => Iff.rfl⟩
  · simpa [View.after, h.symm] using hlink
  · simpa [View.after, h.symm] using hlink

theorem sameTable_destroy {mclass : ModuleClass} {sfciID directionID' : Nat} :
    SameTable S (S.call (.destroyModule (.sfci mclass sfciID directionID'))) := by
  refine ⟨?_, ?_, ?_, fun g _ _ hlink => ?_, fun g m hlink => ?_, rfl,
    fun _ _ => Iff.rfl⟩
  · simp [View.after]
  · simp [View.after]
  · simp [View.after]
  · simp [View.after, hlink]
  · simp only [view_call, View.after] at hlink
    split at hlink
    · cases hlink
    · exact hlink

theorem sameTable_idle {r : Request} (h : S.view.after r = S.view) :
    SameTable S (S.call r) := by
  rw [call, h]
  exact ⟨rfl, fun _ _ => rfl, rfl, fun _ _ _ h => h, fun _ _ h => h, rfl,
    fun _ _ => Iff.rfl⟩

theorem sameTable_call {r : Request} (h : r.SparesTable = true) :
    SameTable S (S.call r) := by
  unfold Request.SparesTable at h
  split at h
  case h_4 =>
      refine ⟨?_, ?_, rfl, fun _ _ _ h => h, fun _ _ h => h, rfl,
        fun _ _ => Iff.rfl⟩
      · simp [View.after]
      · simp [View.after]
  case h_5 => exact sameTable_destroy
  case h_6 => exact sameTable_connect Name.noConfusion
  case h_7 => exact sameTable_connect Name.noConfusion
  case h_8 => exact sameTable_disconnect Name.noConfusion
  case h_9 => exact sameTable_disconnect Name.noConfusion
  case h_10 => cases h
  all_goals exact sameTable_idle rfl

theorem sameTable_setOGates (ogates : Dict GateKey Nat) :
    SameTable S (S.setOGates (.hashLB sfcUUID directionID) ogates) := by
  constructor <;> simp [setOGates, Dict.get?_set, HasDirection]

theorem sameTable_setSFCIIDs {sfciIDs : List Nat}
    (h : S.HasDirection sfcUUID directionID) :
    SameTable S (S.setSFCIIDs sfcUUID directionID sfciIDs) := by
  refine ⟨rfl, fun _ _ => rfl, rfl, fun _ _ _ h => h, fun _ _ h => h, rfl, ?_⟩
  intro sfcUUID' directionID'
  rw [HasDirection, setSFCIIDs, Dict.get?_set]
  split
  · next heq =>
      obtain ⟨rfl, rfl⟩ := Prod.mk.inj heq
      exact iff_of_true (Option.some_ne_none _) h
  · exact Iff.rfl

end Sight

/-! ## The commands for SFCIs -/

section SFCIs

variable {β : Type} {bess : Bess β} {P : Sight → Prop} {sfc : SFC}
  {sfciID : Nat} {direction : Direction}

theorem keeps_ogatesOf (name : Name) :
    PyM.Keeps (bess.Sees P) (ogatesOf name) := by
  have hbind : PyM.Keeps (bess.Sees P) (ogatesOf name >>= pure) := by
    refine meets_bind_ogatesOf (fun ogates => ?_) fun S hS _ => hS
    exact fun side hside => hside.1
  rw [bind_pure] at hbind
  exact hbind

theorem keeps_getModuleOGate (name : Name) (key : GateKey) :
    PyM.Keeps (bess.Sees P) (getModuleOGate name key) := by
  have hbind : PyM.Keeps (bess.Sees P) (getModuleOGate name key >>= pure) := by
    refine meets_bind_getModuleOGate (fun g => ?_) fun S hS _ => hS
    exact fun side hside => hside.1
  rw [bind_pure] at hbind
  exact hbind

theorem keeps_bind_sfciIDsOf {sfcUUID : UUID} {directionID : Nat}
    {f : List Nat → PyM (Side β) Unit}
    (h : ∀ sfciIDs, PyM.Meets (bess.Sees fun S => P S ∧
      S.HasDirection sfcUUID directionID) (f sfciIDs) (fun _ => bess.Sees P)
        (bess.Sees P)) :
    PyM.Keeps (bess.Sees P) (sfciIDsOf sfcUUID directionID >>= f) := by
  intro side hside
  have hrun : (sfciIDsOf sfcUUID directionID >>= f).run side =
      match side.cibm.sfcSet.get? (sfcUUID, directionID) with
      | some sfciIDs => (f sfciIDs).run side
      | none => .error .keyError side := by
    unfold sfciIDsOf
    cases h : side.cibm.sfcSet.get? (sfcUUID, directionID) <;> simp [h]
  rw [hrun]
  cases hids : side.cibm.sfcSet.get? (sfcUUID, directionID) with
  | none => exact hside
  | some sfciIDs =>
      refine h sfciIDs side ⟨hside, ?_⟩
      have hids' : (bess.sight side).cibm.sfcSet.get? (sfcUUID, directionID) =
          some sfciIDs := hids
      rw [Sight.HasDirection, hids']
      exact Option.some_ne_none sfciIDs

variable (hP : ∀ S S', Sight.SameTable S S' → P S → P S')

include hP

theorem keeps_checked (hbess : bess.Lawful) {r : Request}
    (h : r.SparesTable = true) : PyM.Keeps (bess.Sees P) (checked bess r) :=
  meets_checked hbess (fun _ hS _ => hP _ _ (Sight.sameTable_call h) hS)
    fun _ hS _ => hS

theorem keeps_request (hbess : bess.Lawful) {r : Request}
    (h : r.SparesTable = true) : PyM.Keeps (bess.Sees P) (request bess r) :=
  meets_request hbess (fun _ hS => hP _ _ (Sight.sameTable_call h) hS)
    fun _ hS _ => hS

theorem keeps_setOGates (sfcUUID : UUID) (directionID : Nat)
    (ogates : Dict GateKey Nat) :
    PyM.Keeps (bess.Sees P) (setOGates (.hashLB sfcUUID directionID) ogates) :=
  meets_modifyCibm fun _ hS => hP _ _ (Sight.sameTable_setOGates ogates) hS

theorem keeps_addSFCIModules (hbess : bess.Lawful) :
    PyM.Keeps (bess.Sees P) (addSFCIModules bess sfc sfciID direction) := by
  refine PyM.Keeps.bind (keeps_request hP hbess rfl) fun _ => ?_
  refine PyM.Keeps.bind (keeps_checked hP hbess rfl) fun _ => ?_
  refine PyM.Meets.bind_ofExcept (fun tunnelDstIP _ => ?_) fun _ hside => hside
  refine PyM.Keeps.bind (keeps_checked hP hbess rfl) fun _ => ?_
  refine PyM.Keeps.bind (keeps_checked hP hbess rfl) fun _ => ?_
  exact keeps_request hP hbess rfl

theorem keeps_addSFCIRules (hbess : bess.Lawful) :
    PyM.Keeps (bess.Sees P) (addSFCIRules bess sfc sfciID direction) := by
  have hassign : PyM.Keeps (bess.Sees P)
      (assignHashLBOGatesList sfc sfciID direction) := by
    refine PyM.Keeps.bind (keeps_ogatesOf _) fun ogates => ?_
    refine PyM.Keeps.bind ?_ fun _ _ hside => hside
    exact PyM.Keeps.bind (keeps_ogatesOf _) fun _ => keeps_setOGates hP _ _ _
  refine PyM.Keeps.bind (keeps_request hP hbess rfl) fun _ => ?_
  refine PyM.Keeps.bind hassign fun gateNumList => ?_
  refine PyM.Keeps.bind (keeps_request hP hbess rfl) fun _ => ?_
  exact keeps_request hP hbess rfl

theorem keeps_addSFCILinks (hbess : bess.Lawful) :
    PyM.Keeps (bess.Sees P) (addSFCILinks bess sfc sfciID direction) := by
  refine PyM.Keeps.bind (keeps_request hP hbess rfl) fun _ => ?_
  refine PyM.Keeps.bind (keeps_getModuleOGate _ _) fun ogate => ?_
  refine PyM.Keeps.bind (keeps_checked hP hbess rfl) fun _ => ?_
  refine PyM.Keeps.bind (keeps_checked hP hbess rfl) fun _ => ?_
  refine PyM.Keeps.bind (keeps_checked hP hbess rfl) fun _ => ?_
  refine PyM.Keeps.bind (keeps_checked hP hbess rfl) fun _ => ?_
  exact keeps_request hP hbess rfl

theorem keeps_delSFCILinks (hbess : bess.Lawful) :
    PyM.Keeps (bess.Sees P) (delSFCILinks bess sfc sfciID direction) := by
  refine PyM.Keeps.bind (keeps_request hP hbess rfl) fun _ => ?_
  refine PyM.Keeps.bind (keeps_getModuleOGate _ _) fun ogate => ?_
  refine PyM.Keeps.bind (keeps_checked hP hbess rfl) fun _ => ?_
  refine PyM.Keeps.bind (keeps_checked hP hbess rfl) fun _ => ?_
  refine PyM.Keeps.bind (keeps_checked hP hbess rfl) fun _ => ?_
  refine PyM.Keeps.bind (keeps_checked hP hbess rfl) fun _ => ?_
  exact keeps_request hP hbess rfl

theorem keeps_delSFCIRules (hbess : bess.Lawful) :
    PyM.Keeps (bess.Sees P) (delSFCIRules bess sfc sfciID direction) := by
  have hdelete : PyM.Keeps (bess.Sees P)
      (deleteHashLBOGateofSFCI sfc sfciID direction) := by
    refine PyM.Keeps.bind (keeps_getModuleOGate _ _) fun oGate => ?_
    refine PyM.Keeps.bind (keeps_ogatesOf _) fun ogates => ?_
    refine PyM.Keeps.bind ?_ fun _ _ hside => hside
    refine PyM.Keeps.bind (keeps_ogatesOf _) fun ogates' => ?_
    refine PyM.Meets.ite (fun _ => keeps_setOGates hP _ _ _) fun _ => ?_
    exact fun _ hside => hside
  refine PyM.Keeps.bind (keeps_request hP hbess rfl) fun _ => ?_
  refine PyM.Keeps.bind hdelete fun gateNumList => ?_
  refine PyM.Keeps.bind (keeps_request hP hbess rfl) fun _ => ?_
  exact keeps_request hP hbess rfl

theorem keeps_delSFCIModules (hbess : bess.Lawful) :
    PyM.Keeps (bess.Sees P) (delSFCIModules bess sfciID direction) := by
  refine PyM.Keeps.bind (keeps_request hP hbess rfl) fun _ => ?_
  refine PyM.Keeps.bind (keeps_checked hP hbess rfl) fun _ => ?_
  refine PyM.Keeps.bind (keeps_checked hP hbess rfl) fun _ => ?_
  refine PyM.Keeps.bind (keeps_checked hP hbess rfl) fun _ => ?_
  exact keeps_request hP hbess rfl

theorem keeps_setSFCIIDs (sfcUUID : UUID) (directionID : Nat)
    (sfciIDs : List Nat) :
    PyM.Meets (bess.Sees fun S => P S ∧ S.HasDirection sfcUUID directionID)
      (setSFCIIDs sfcUUID directionID sfciIDs) (fun _ => bess.Sees P)
        (bess.Sees P) :=
  meets_modifyCibm fun _ hS => hP _ _ (Sight.sameTable_setSFCIIDs hS.2) hS.1

/-- What is behind `ensureSFC` in the body of `addSFCIHandler`. -/
theorem keeps_install (hbess : bess.Lawful) :
    PyM.Keeps (bess.Sees P) (do
      addSFCIModules bess sfc sfciID direction
      addSFCIRules bess sfc sfciID direction
      addSFCILinks bess sfc sfciID direction
      addSFCIDirection sfc.sfcUUID direction.ID sfciID) := by
  refine PyM.Keeps.bind (keeps_addSFCIModules hP hbess) fun _ => ?_
  refine PyM.Keeps.bind (keeps_addSFCIRules hP hbess) fun _ => ?_
  refine PyM.Keeps.bind (keeps_addSFCILinks hP hbess) fun _ => ?_
  exact keeps_bind_sfciIDsOf fun _ => keeps_setSFCIIDs hP _ _ _

theorem keeps_delSFCIFromSide (hbess : bess.Lawful) :
    PyM.Keeps (bess.Sees P) (delSFCIFromSide bess sfc sfciID direction) := by
  refine PyM.Meets.bind_get_any fun side => ?_
  refine PyM.Meets.ite (fun _ => ?_) fun _ _ hside => hside
  refine PyM.Keeps.bind (keeps_delSFCILinks hP hbess) fun _ => ?_
  refine PyM.Keeps.bind (keeps_delSFCIRules hP hbess) fun _ => ?_
  refine PyM.Keeps.bind (keeps_delSFCIModules hP hbess) fun _ => ?_
  refine keeps_bind_sfciIDsOf fun sfciIDs => ?_
  refine PyM.Meets.ite (fun _ => keeps_setSFCIIDs hP _ _ _) fun _ _ hside => ?_
  exact hside.1

end SFCIs

end SelfAdaptiveMano.Classifier

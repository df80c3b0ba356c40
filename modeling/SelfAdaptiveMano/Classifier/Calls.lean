import SelfAdaptiveMano.Classifier.ClassifierController
import SelfAdaptiveMano.Library.Hoare

/-!
# The calls of the classifier controller

What the calls do to a classifier is seen in its information base and the view
of its BESS (`Sight`). There is one rule for each statement of the controller,
for preconditions and postconditions on the sight of a classifier.
-/

namespace SelfAdaptiveMano.Classifier

open Library

/-- The information base of a classifier, and what is seen of its BESS. -/
structure Sight where
  cibm : Cibm
  view : View

/-- The sight behind a call that is answered without an error. -/
def Sight.call (S : Sight) (r : Request) : Sight :=
  { S with view := S.view.after r }

@[simp] theorem Sight.cibm_call (S : Sight) (r : Request) :
    (S.call r).cibm = S.cibm := rfl

@[simp] theorem Sight.view_call (S : Sight) (r : Request) :
    (S.call r).view = S.view.after r := rfl

def Sight.setOGates (S : Sight) (name : Name) (ogates : Dict GateKey Nat) :
    Sight :=
  { S with cibm := { S.cibm with modules := S.cibm.modules.set name ogates } }

def Sight.gate? (S : Sight) (name : Name) (key : GateKey) : Option Nat :=
  (S.cibm.modules.get? name).bind fun ogates => ogates.get? key

@[simp] theorem Sight.gate?_setOGates_self (S : Sight) (name : Name)
    (ogates : Dict GateKey Nat) (key : GateKey) :
    (S.setOGates name ogates).gate? name key = ogates.get? key := by
  rw [gate?, setOGates, Dict.get?_set_self, Option.bind_some]

def Bess.sight {β : Type} (bess : Bess β) (side : Side β) : Sight :=
  ⟨side.cibm, bess.view side.bess⟩

/-- The sight of the side has the property `P`. -/
def Bess.Sees {β : Type} (bess : Bess β) (P : Sight → Prop) (side : Side β) :
    Prop :=
  P (bess.sight side)

section Rules

variable {β : Type} {bess : Bess β} {P Q E : Sight → Prop} {r : Request}

theorem run_checked (side : Side β) :
    (checked bess r).run side =
      if (bess.call r side.bess).1 = true then
        .ok () { side with bess := (bess.call r side.bess).2 }
      else .error (.valueError "bess cmd failed.")
        { side with bess := (bess.call r side.bess).2 } := by
  unfold checked
  cases h : (bess.call r side.bess).1 <;> simp [h]

theorem meets_checked (hbess : bess.Lawful)
    (hok : ∀ S, P S → S.view.Possible r → Q (S.call r))
    (herror : ∀ S, P S → ¬ S.view.Legal r → E S) :
    PyM.Meets (bess.Sees P) (checked bess r) (fun _ => bess.Sees Q)
      (bess.Sees E) := by
  intro side hside
  rw [run_checked]
  cases h : (bess.call r side.bess).1 with
  | true =>
      have hsight : bess.sight { side with bess := (bess.call r side.bess).2 } =
          (bess.sight side).call r := by
        rw [Bess.sight, hbess.accepted h]
        rfl
      have hQ := hok _ hside (hbess.possible h)
      rw [← hsight] at hQ
      exact hQ
  | false =>
      have hsight : bess.sight { side with bess := (bess.call r side.bess).2 } =
          bess.sight side := by
        rw [Bess.sight, hbess.refused h]
        rfl
      have hlegal : ¬ (bess.sight side).view.Legal r := by
        intro hlegal
        rw [hbess.accepts hlegal] at h
        cases h
      have hE := herror _ hside hlegal
      rw [← hsight] at hE
      exact hE

theorem meets_checked_legal (hbess : bess.Lawful)
    (hlegal : ∀ S, P S → S.view.Legal r) (hok : ∀ S, P S → Q (S.call r)) :
    PyM.Meets (bess.Sees P) (checked bess r) (fun _ => bess.Sees Q)
      (bess.Sees E) :=
  meets_checked hbess (fun S hS _ => hok S hS) fun S hS h =>
    absurd (hlegal S hS) h

theorem meets_request (hbess : bess.Lawful)
    (hok : ∀ S, P S → Q (S.call r))
    (herror : ∀ S, P S → ¬ S.view.Legal r → Q S) :
    PyM.Meets (bess.Sees P) (request bess r) (fun _ => bess.Sees Q)
      (bess.Sees E) := by
  intro side hside
  have hchecked : PyM.Meets (bess.Sees P) (checked bess r)
      (fun _ => bess.Sees Q) (bess.Sees Q) :=
    meets_checked hbess (fun S hS _ => hok S hS) herror
  have hQ := hchecked.finalState hside
  have hstate : (checked bess r).finalState side =
      { side with bess := (bess.call r side.bess).2 } := by
    cases h : (bess.call r side.bess).1 <;>
      simp [PyM.finalState, run_checked, h]
  rw [hstate] at hQ
  exact hQ

theorem meets_idle (hbess : bess.Lawful) (h : ∀ v : View, v.after r = v) :
    PyM.Meets (bess.Sees P) (request bess r) (fun _ => bess.Sees P)
      (bess.Sees E) := by
  refine meets_request hbess (fun S hS => ?_) fun S hS _ => hS
  rw [Sight.call, h]
  exact hS

theorem meets_modifyCibm {f : Cibm → Cibm}
    (h : ∀ S, P S → Q { S with cibm := f S.cibm }) :
    PyM.Meets (bess.Sees P) (modifyCibm f) (fun _ => bess.Sees Q)
      (bess.Sees E) :=
  fun side hside => h (bess.sight side) hside

theorem meets_bind_ogatesOf {α : Type} {name : Name}
    {f : Dict GateKey Nat → PyM (Side β) α} {R : α → Side β → Prop}
    (hsome : ∀ ogates, PyM.Meets
      (bess.Sees fun S => P S ∧ S.cibm.modules.get? name = some ogates)
      (f ogates) R (bess.Sees E))
    (hnone : ∀ S, P S → S.cibm.modules.get? name = none → E S) :
    PyM.Meets (bess.Sees P) (ogatesOf name >>= f) R (bess.Sees E) := by
  intro side hside
  have hrun : (ogatesOf name >>= f).run side =
      match side.cibm.modules.get? name with
      | some ogates => (f ogates).run side
      | none => .error .keyError side := by
    unfold ogatesOf
    cases h : side.cibm.modules.get? name <;> simp [h]
  rw [hrun]
  cases h : side.cibm.modules.get? name with
  | none => exact hnone _ hside h
  | some ogates => exact hsome ogates side ⟨hside, h⟩

theorem meets_bind_getModuleOGate {α : Type} {name : Name} {key : GateKey}
    {f : Nat → PyM (Side β) α} {R : α → Side β → Prop}
    (hsome : ∀ g, PyM.Meets (bess.Sees fun S => P S ∧ S.gate? name key = some g)
      (f g) R (bess.Sees E))
    (hnone : ∀ S, P S → S.gate? name key = none → E S) :
    PyM.Meets (bess.Sees P) (getModuleOGate name key >>= f) R (bess.Sees E) := by
  intro side hside
  have hrun : (getModuleOGate name key >>= f).run side =
      ((bess.sight side).gate? name key).elim (.error .keyError side)
        fun g => (f g).run side := by
    unfold getModuleOGate ogatesOf
    rw [Sight.gate?, Bess.sight]
    cases h : side.cibm.modules.get? name with
    | none => simp [h]
    | some ogates => cases h' : ogates.get? key <;> simp [h, h']
  rw [hrun]
  cases h : (bess.sight side).gate? name key with
  | none => exact hnone _ hside h
  | some g => exact hsome g side ⟨hside, h⟩

theorem meets_addOGate2Module {name : Name} {key : GateKey} {g : Nat}
    (hok : ∀ S ogates, P S → S.cibm.modules.get? name = some ogates →
      Q (S.setOGates name (ogates.set key g)))
    (hnone : ∀ S, P S → S.cibm.modules.get? name = none → E S) :
    PyM.Meets (bess.Sees P) (addOGate2Module name key g) (fun _ => bess.Sees Q)
      (bess.Sees E) := by
  refine meets_bind_ogatesOf (fun ogates => ?_) hnone
  exact meets_modifyCibm fun S ⟨hS, hogates⟩ => hok S ogates hS hogates

/-! The same rules for a sight that is known. -/

variable {S : Sight}

theorem meets_checked_eq (hbess : bess.Lawful) (hlegal : S.view.Legal r) :
    PyM.Meets (bess.Sees (· = S)) (checked bess r)
      (fun _ => bess.Sees (· = S.call r)) (bess.Sees E) := by
  refine meets_checked_legal hbess ?_ ?_
  · rintro _ rfl
    exact hlegal
  · rintro _ rfl
    rfl

theorem meets_request_eq (hbess : bess.Lawful) (hlegal : S.view.Legal r) :
    PyM.Meets (bess.Sees (· = S)) (request bess r)
      (fun _ => bess.Sees (· = S.call r)) (bess.Sees E) := by
  refine meets_request hbess ?_ ?_
  · rintro _ rfl
    rfl
  · rintro _ rfl hnot
    exact absurd hlegal hnot

theorem meets_modifyCibm_eq {f : Cibm → Cibm} :
    PyM.Meets (bess.Sees (· = S)) (modifyCibm f)
      (fun _ => bess.Sees (· = { S with cibm := f S.cibm })) (bess.Sees E) := by
  refine meets_modifyCibm ?_
  rintro _ rfl
  rfl

theorem meets_bind_ogatesOf_eq {α : Type} {name : Name}
    {ogates : Dict GateKey Nat} {f : Dict GateKey Nat → PyM (Side β) α}
    {R : α → Side β → Prop} (h : S.cibm.modules.get? name = some ogates)
    (hf : PyM.Meets (bess.Sees (· = S)) (f ogates) R (bess.Sees E)) :
    PyM.Meets (bess.Sees (· = S)) (ogatesOf name >>= f) R (bess.Sees E) := by
  refine meets_bind_ogatesOf (fun ogates' => ?_) ?_
  · rintro side ⟨hside, hogates⟩
    have hsight : bess.sight side = S := hside
    rw [hsight, h] at hogates
    obtain rfl := Option.some.inj hogates
    exact hf side hside
  · rintro _ rfl hnone
    rw [h] at hnone
    cases hnone

theorem meets_addOGate2Module_eq {name : Name} {ogates : Dict GateKey Nat}
    {key : GateKey} {g : Nat} (h : S.cibm.modules.get? name = some ogates) :
    PyM.Meets (bess.Sees (· = S)) (addOGate2Module name key g)
      (fun _ => bess.Sees (· = S.setOGates name (ogates.set key g)))
      (bess.Sees E) :=
  meets_bind_ogatesOf_eq h meets_modifyCibm_eq

theorem meets_bind_getModuleOGate_eq {α : Type} {name : Name} {key : GateKey}
    {g : Nat} {f : Nat → PyM (Side β) α} {R : α → Side β → Prop}
    (h : S.gate? name key = some g)
    (hf : PyM.Meets (bess.Sees (· = S)) (f g) R (bess.Sees E)) :
    PyM.Meets (bess.Sees (· = S)) (getModuleOGate name key >>= f) R
      (bess.Sees E) := by
  refine meets_bind_getModuleOGate (fun g' => ?_) ?_
  · rintro side ⟨hside, hg'⟩
    have hsight : bess.sight side = S := hside
    rw [hsight, h] at hg'
    obtain rfl := Option.some.inj hg'
    exact hf side hside
  · rintro _ rfl hnone
    rw [h] at hnone
    cases hnone

def Sight.setSFCIIDs (S : Sight) (sfcUUID : UUID) (directionID : Nat)
    (sfciIDs : List Nat) : Sight :=
  { S with
    cibm := { S.cibm with
      sfcSet := S.cibm.sfcSet.set (sfcUUID, directionID) sfciIDs } }

theorem meets_bind_sfciIDsOf_eq {α : Type} {sfcUUID : UUID} {directionID : Nat}
    {sfciIDs : List Nat} {f : List Nat → PyM (Side β) α} {R : α → Side β → Prop}
    (h : S.cibm.sfcSet.get? (sfcUUID, directionID) = some sfciIDs)
    (hf : PyM.Meets (bess.Sees (· = S)) (f sfciIDs) R (bess.Sees E)) :
    PyM.Meets (bess.Sees (· = S)) (sfciIDsOf sfcUUID directionID >>= f) R
      (bess.Sees E) := by
  rintro side (rfl : bess.sight side = S)
  have hside : side.cibm.sfcSet.get? (sfcUUID, directionID) = some sfciIDs := h
  have hrun : (sfciIDsOf sfcUUID directionID >>= f).run side =
      (f sfciIDs).run side := by
    unfold sfciIDsOf
    simp [hside]
  rw [hrun]
  exact hf side rfl

theorem meets_addSFCIDirection {sfcUUID : UUID} {directionID sfciID : Nat}
    {sfciIDs : List Nat}
    (h : S.cibm.sfcSet.get? (sfcUUID, directionID) = some sfciIDs)
    (hQ : Q (S.setSFCIIDs sfcUUID directionID (sfciIDs ++ [sfciID]))) :
    PyM.Meets (bess.Sees (· = S)) (addSFCIDirection sfcUUID directionID sfciID)
      (fun _ => bess.Sees Q) (bess.Sees E) := by
  refine meets_bind_sfciIDsOf_eq h (meets_modifyCibm ?_)
  rintro _ rfl
  exact hQ

theorem meets_delSFCIDirection {sfcUUID : UUID} {directionID sfciID : Nat}
    {sfciIDs : List Nat}
    (h : S.cibm.sfcSet.get? (sfcUUID, directionID) = some sfciIDs)
    (hmem : sfciID ∈ sfciIDs)
    (hQ : Q (S.setSFCIIDs sfcUUID directionID (sfciIDs.erase sfciID))) :
    PyM.Meets (bess.Sees (· = S)) (delSFCIDirection sfcUUID directionID sfciID)
      (fun _ => bess.Sees Q) (bess.Sees E) := by
  refine meets_bind_sfciIDsOf_eq h ?_
  rw [if_pos hmem]
  refine meets_modifyCibm ?_
  rintro _ rfl
  exact hQ

theorem meets_delModuleOGate_eq {name : Name} {ogates : Dict GateKey Nat}
    {key : GateKey} {g : Nat} (h : S.cibm.modules.get? name = some ogates)
    (hg : ogates.get? key = some g) :
    PyM.Meets (bess.Sees (· = S)) (delModuleOGate name key)
      (fun _ => bess.Sees (· = S.setOGates name (ogates.erase key)))
      (bess.Sees E) := by
  refine meets_bind_ogatesOf_eq h ?_
  have hcontains : ogates.contains key = true := by
    rw [Dict.contains_eq_true_iff, hg]
    exact Option.some_ne_none g
  rw [if_pos hcontains]
  exact meets_modifyCibm_eq

end Rules

/-! ## A new classifier -/

namespace View

def LegalAll : View → List Request → Prop
  | _, [] => True
  | v, r :: rs => v.Legal r ∧ LegalAll (v.after r) rs

theorem legalAll_append {v : View} {rs rs' : List Request} :
    v.LegalAll (rs ++ rs') ↔
      v.LegalAll rs ∧ (rs.foldl after v).LegalAll rs' := by
  induction rs generalizing v with
  | nil => exact (true_and _).symm.to_iff
  | cons r rs ih =>
      rw [List.cons_append, LegalAll, LegalAll, ih, and_assoc]
      rfl

end View

section Init

variable {β : Type} {bess : Bess β} (classifier : Sff.Server)

theorem meets_forM_checked (hbess : bess.Lawful) {rs : List Request}
    {cibm : Cibm} {v : View} {E : Sight → Prop} (h : v.LegalAll rs) :
    PyM.Meets (bess.Sees (· = ⟨cibm, v⟩)) (rs.forM (checked bess))
      (fun _ => bess.Sees (· = ⟨cibm, rs.foldl View.after v⟩)) (bess.Sees E) := by
  induction rs generalizing v with
  | nil => exact fun side hside => hside
  | cons r rs ih =>
      obtain ⟨hlegal, hrest⟩ := h
      exact PyM.Meets.bind (meets_checked_eq hbess hlegal) fun _ => ih hrest

def moduleView : View :=
  (firstModules ++ otherModules).foldl View.after .empty

theorem legalAll_modules :
    View.empty.LegalAll (firstModules ++ otherModules) := by
  have hplain (v : View) (m : Module) (h : m.port = none) : v.QueueFree m := by
    intro port hport
    rw [h] at hport
    cases hport
  refine ⟨rfl, ⟨rfl, ?_⟩, ⟨rfl, ?_⟩, ⟨rfl, hplain _ _ rfl⟩, ⟨rfl, hplain _ _ rfl⟩,
    ⟨rfl, hplain _ _ rfl⟩, ⟨rfl, hplain _ _ rfl⟩, ⟨rfl, hplain _ _ rfl⟩,
    ⟨rfl, hplain _ _ rfl⟩, ⟨rfl, hplain _ _ rfl⟩, ⟨rfl, hplain _ _ rfl⟩,
    ⟨rfl, hplain _ _ rfl⟩, ⟨rfl, hplain _ _ rfl⟩, ⟨rfl, hplain _ _ rfl⟩, trivial⟩
  · rintro port hport
    obtain rfl := Option.some.inj hport
    exact ⟨rfl, fun name m' h => by cases h⟩
  · rintro port hport
    obtain rfl := Option.some.inj hport
    refine ⟨rfl, fun name m' h _ => ?_⟩
    simp only [View.after] at h
    split at h
    · obtain rfl := Option.some.inj h
      decide
    · cases h

def ruleRequests : List Request :=
  firstRules classifier ++ [.addRule (.base .wm2) ipv4Rule 1]

theorem legalAll_rules : moduleView.LegalAll (ruleRequests classifier) := by
  refine ⟨Option.some_ne_none _, ⟨_, rfl, rfl, by decide⟩,
    ⟨_, rfl, rfl, by decide⟩, Option.some_ne_none _, Option.some_ne_none _,
    ⟨_, rfl, rfl, by decide⟩, trivial⟩

def linkRequests : List Request :=
  baseLinks.map fun (m1, m2, ogate) =>
    .connectModules (.base m1) (.base m2) ogate 0

def baseView : View :=
  linkRequests.foldl View.after
    ((ruleRequests classifier).foldl View.after moduleView)

theorem legalAll_links :
    ((ruleRequests classifier).foldl View.after moduleView).LegalAll
      linkRequests := by
  have hthere (m : Module) : some m ≠ none := Option.some_ne_none m
  exact ⟨⟨hthere _, hthere _, rfl⟩, ⟨hthere _, hthere _, rfl⟩,
    ⟨hthere _, hthere _, rfl⟩, ⟨hthere _, hthere _, rfl⟩,
    ⟨hthere _, hthere _, rfl⟩, ⟨hthere _, hthere _, rfl⟩,
    ⟨hthere _, hthere _, rfl⟩, ⟨hthere _, hthere _, rfl⟩,
    ⟨hthere _, hthere _, rfl⟩, ⟨hthere _, hthere _, rfl⟩,
    ⟨hthere _, hthere _, rfl⟩, ⟨hthere _, hthere _, rfl⟩,
    ⟨hthere _, hthere _, rfl⟩, trivial⟩

/-- The gates of `wm2` of a new classifier. -/
def baseGates : Dict GateKey Nat :=
  (Dict.empty.set .defaultGate 0).set .ipv4 1

def baseSight : Sight where
  cibm := ⟨Dict.empty.set (.base .wm2) baseGates, Dict.empty⟩
  view := baseView classifier

theorem meets_initModules (hbess : bess.Lawful) {E : Sight → Prop} :
    PyM.Meets (bess.Sees (·.cibm = ⟨Dict.empty, Dict.empty⟩)) (initModules bess)
      (fun _ => bess.Sees (· =
        ⟨⟨Dict.empty.set (.base .wm2) Dict.empty, Dict.empty⟩, moduleView⟩))
      (bess.Sees E) := by
  obtain ⟨hfirst, hother⟩ := View.legalAll_append.mp legalAll_modules
  have hreset : PyM.Meets (bess.Sees (·.cibm = ⟨Dict.empty, Dict.empty⟩))
      (request bess .resetAll)
      (fun _ => bess.Sees (· = ⟨⟨Dict.empty, Dict.empty⟩, .empty⟩))
      (bess.Sees E) := by
    refine meets_request hbess ?_ fun _ _ h => absurd trivial h
    rintro ⟨_, _⟩ rfl
    rfl
  refine PyM.Meets.bind (meets_idle hbess fun _ => rfl) fun _ => ?_
  refine PyM.Meets.bind hreset fun _ => ?_
  refine PyM.Meets.bind (meets_forM_checked hbess hfirst) fun _ => ?_
  refine PyM.Meets.bind meets_modifyCibm_eq fun _ => ?_
  refine PyM.Meets.bind (meets_forM_checked hbess hother) fun _ => ?_
  rw [← List.foldl_append]
  refine PyM.Meets.bind (meets_idle hbess fun _ => rfl) fun _ => ?_
  exact meets_checked_eq hbess trivial

theorem meets_initRules (hbess : bess.Lawful) {E : Sight → Prop} :
    PyM.Meets (bess.Sees (· =
        ⟨⟨Dict.empty.set (.base .wm2) Dict.empty, Dict.empty⟩, moduleView⟩))
      (initRules bess classifier)
      (fun _ => bess.Sees (· = ⟨⟨Dict.empty.set (.base .wm2) baseGates,
        Dict.empty⟩, (ruleRequests classifier).foldl View.after moduleView⟩))
      (bess.Sees E) := by
  obtain ⟨hfirst, hlast, -⟩ :=
    View.legalAll_append.mp (legalAll_rules classifier)
  refine PyM.Meets.bind (meets_idle hbess fun _ => rfl) fun _ => ?_
  refine PyM.Meets.bind (meets_forM_checked hbess hfirst) fun _ => ?_
  refine PyM.Meets.bind
    (meets_addOGate2Module_eq (Dict.get?_set_self _ _ _)) fun _ => ?_
  refine PyM.Meets.bind (meets_checked_eq hbess hlast) fun _ => ?_
  refine PyM.Meets.bind
    (meets_addOGate2Module_eq (Dict.get?_set_self _ _ _)) fun _ => ?_
  have hidle := meets_idle (r := .resumeAll) (P := (· =
      ⟨⟨Dict.empty.set (.base .wm2) baseGates, Dict.empty⟩,
        (ruleRequests classifier).foldl View.after moduleView⟩)) (E := E)
    hbess fun _ => rfl
  simp only [Sight.setOGates, Dict.set_set]
  exact hidle

theorem meets_initSide (hbess : bess.Lawful) {E : Sight → Prop} :
    PyM.Meets (bess.Sees (·.cibm = ⟨Dict.empty, Dict.empty⟩))
      (initSide bess classifier)
      (fun _ => bess.Sees (· = baseSight classifier)) (bess.Sees E) := by
  refine PyM.Meets.bind (meets_initModules hbess) fun _ => ?_
  refine PyM.Meets.bind (meets_initRules classifier hbess) fun _ => ?_
  refine PyM.Meets.bind (meets_idle hbess fun _ => rfl) fun _ => ?_
  refine PyM.Meets.bind
    (meets_forM_checked hbess (legalAll_links classifier)) fun _ => ?_
  exact meets_idle hbess fun _ => rfl

end Init

end SelfAdaptiveMano.Classifier

import SelfAdaptiveMano.Classifier.Calls

/-!
# From one classifier to all of them

A command goes through the directions of its SFC and changes one classifier for
each of them. What a body of such a loop keeps of its classifier, and how it
moves it, holds of all classifiers behind the command, whether or not the
command fails on the way.
-/

namespace SelfAdaptiveMano.Classifier

open Library

section Sides

variable {β : Type} {bess : Bess β} {c₀ c c' : ClassifierController β}
  {I : Nat → Side β → Prop} {T : Side β → Side β → Prop}

namespace ClassifierController

def side? (c : ClassifierController β) (serverID : Nat) : Option (Side β) :=
  (c.cibms.get? serverID).map fun cibm => ⟨cibm, c.bess serverID⟩

def putSide (c : ClassifierController β) (serverID : Nat) (side : Side β) :
    ClassifierController β where
  cibms := c.cibms.set serverID side.cibm
  bess := Function.update c.bess serverID side.bess

theorem side?_putSide (serverID serverID' : Nat) (side : Side β) :
    (c.putSide serverID side).side? serverID' =
      if serverID' = serverID then some side else c.side? serverID' := by
  rw [side?, putSide, Dict.get?_set]
  by_cases h : serverID' = serverID
  · subst h
    simp
  · have hbess : Function.update c.bess serverID side.bess serverID' =
        c.bess serverID' := Function.update_of_ne h _ _
    simp only [if_neg h, hbess]
    rfl

@[simp] theorem side?_putSide_self (serverID : Nat) (side : Side β) :
    (c.putSide serverID side).side? serverID = some side := by
  rw [side?_putSide, if_pos rfl]

@[simp] theorem putSide_putSide (serverID : Nat) (side side' : Side β) :
    (c.putSide serverID side).putSide serverID side' =
      c.putSide serverID side' := by
  simp [putSide, Dict.set_set]

end ClassifierController

open ClassifierController

/-- Every classifier keeps `I`, and none is lost or moves other than by `T`. -/
structure Moves (I : Nat → Side β → Prop) (T : Side β → Side β → Prop)
    (c₀ c : ClassifierController β) : Prop where
  inv : ∀ serverID side, c.side? serverID = some side → I serverID side
  moved : ∀ serverID side₀, c₀.side? serverID = some side₀ →
    ∃ side, c.side? serverID = some side ∧ T side₀ side

theorem Moves.refl (hrefl : ∀ side, T side side)
    (h : ∀ serverID side, c.side? serverID = some side → I serverID side) :
    Moves I T c c :=
  ⟨h, fun _ side hside => ⟨side, hside, hrefl side⟩⟩

theorem Moves.putSide (h : Moves I T c₀ c)
    (htrans : ∀ {side side' side''}, T side side' → T side' side'' → T side side'')
    {serverID : Nat} {side side' : Side β} (hside : c.side? serverID = some side)
    (hinv : I serverID side') (hmove : T side side') :
    Moves I T c₀ (c.putSide serverID side') := by
  constructor
  · intro serverID' side'' hside''
    rw [side?_putSide] at hside''
    by_cases heq : serverID' = serverID
    · subst heq
      rw [if_pos rfl] at hside''
      obtain rfl := Option.some.inj hside''
      exact hinv
    · rw [if_neg heq] at hside''
      exact h.inv serverID' side'' hside''
  · intro serverID' side₀ hside₀
    obtain ⟨side'', hside'', hT⟩ := h.moved serverID' side₀ hside₀
    rw [side?_putSide]
    by_cases heq : serverID' = serverID
    · subst heq
      rw [hside] at hside''
      obtain rfl := Option.some.inj hside''
      exact ⟨side', if_pos rfl, htrans hT hmove⟩
    · exact ⟨side'', (if_neg heq).trans hside'', hT⟩

/-- A classifier that is not known is added. -/
theorem Moves.newSide (h : Moves I T c₀ c) {serverID : Nat} {side : Side β}
    (hnone : c.side? serverID = none) (hinv : I serverID side) :
    Moves I T c₀ (c.putSide serverID side) := by
  constructor
  · intro serverID' side' hside'
    rw [side?_putSide] at hside'
    by_cases heq : serverID' = serverID
    · subst heq
      rw [if_pos rfl] at hside'
      obtain rfl := Option.some.inj hside'
      exact hinv
    · rw [if_neg heq] at hside'
      exact h.inv serverID' side' hside'
  · intro serverID' side₀ hside₀
    obtain ⟨side', hside', hT⟩ := h.moved serverID' side₀ hside₀
    have hne : serverID' ≠ serverID := by
      rintro rfl
      rw [hnone] at hside'
      cases hside'
    rw [side?_putSide, if_neg hne]
    exact ⟨side', hside', hT⟩

/-- What a computation does to a side with `J`, whether or not it raises. -/
def Turns (J : Side β → Prop) (T : Side β → Side β → Prop)
    (x : PyM (Side β) Unit) : Prop :=
  ∀ side, J side → PyM.Meets (· = side) x (fun _ side' => J side' ∧ T side side')
    fun side' => J side' ∧ T side side'

theorem run_onSide_none {serverID : Nat} {x : PyM (Side β) Unit}
    (h : c.side? serverID = none) :
    (onSide serverID x).run c = .error .keyError c := by
  rw [side?, Option.map_eq_none_iff] at h
  rw [onSide, PyM.run_bind_get, h]
  rfl

theorem run_onSide {serverID : Nat} {x : PyM (Side β) Unit} {side : Side β}
    (h : c.side? serverID = some side) :
    (onSide serverID x).run c = match x.run side with
      | .ok _ side' => .ok ⟨⟩ (c.putSide serverID side')
      | .error e side' => .error e (c.putSide serverID side') := by
  rw [side?, Option.map_eq_some_iff] at h
  obtain ⟨cibm, hcibm, rfl⟩ := h
  rw [onSide, PyM.run_bind_get, PyM.run_bind_ofOption hcibm]
  cases hrun : x.run ⟨cibm, c.bess serverID⟩ with
  | ok a side' => exact PyM.run_zoom_ok hrun
  | error e side' => exact PyM.run_zoom_error hrun

theorem moves_onSide {serverID : Nat} {x : PyM (Side β) Unit}
    (htrans : ∀ {side side' side''}, T side side' → T side' side'' → T side side'')
    (hx : Turns (I serverID) T x) :
    PyM.Keeps (Moves I T c₀) (onSide serverID x) := by
  intro c hc
  cases hside : c.side? serverID with
  | none =>
      rw [run_onSide_none hside]
      exact hc
  | some side =>
      have hturn := hx side (hc.inv serverID side hside) side rfl
      rw [run_onSide hside]
      cases hrun : x.run side with
      | ok a side' =>
          rw [hrun] at hturn
          exact hc.putSide htrans hside hturn.1 hturn.2
      | error e side' =>
          rw [hrun] at hturn
          exact hc.putSide htrans hside hturn.1 hturn.2

theorem moves_onKnownSide {serverID : Nat} {x : PyM (Side β) Unit}
    (htrans : ∀ {side side' side''}, T side side' → T side' side'' → T side side'')
    (hx : Turns (I serverID) T x) :
    PyM.Keeps (Moves I T c₀) (onKnownSide serverID x) := by
  refine PyM.Meets.bind_get_any fun c => ?_
  refine PyM.Meets.ite (fun _ => moves_onSide htrans hx) fun _ => ?_
  exact fun _ hc => hc

theorem moves_ensureClassifier (hbess : bess.Lawful) (classifier : Sff.Server)
    (hbase : ∀ serverID side, bess.sight side = baseSight classifier →
      I serverID side) :
    PyM.Keeps (Moves I T c₀) (ensureClassifier bess classifier) := by
  intro c hc
  rw [ensureClassifier, PyM.run_bind_get]
  cases hside : c.side? classifier.serverID with
  | some side =>
      have hcontains : c.cibms.contains classifier.serverID = true := by
        rw [side?, Option.map_eq_some_iff] at hside
        obtain ⟨cibm, hcibm, -⟩ := hside
        rw [Dict.contains_eq_true_iff, hcibm]
        exact Option.some_ne_none cibm
      rw [if_pos hcontains]
      exact hc
  | none =>
      have hcontains : ¬ c.cibms.contains classifier.serverID = true := by
        rw [side?, Option.map_eq_none_iff] at hside
        rw [Dict.contains_eq_true_iff, hside]
        simp
      rw [if_neg hcontains, initClassifier, PyM.run_bind_get]
      cases halive : bess.getVersion (c.bess classifier.serverID) with
      | false => exact hc
      | true =>
          rw [if_pos rfl]
          -- the information base is there before BESS is set up
          have hnew : c.putSide classifier.serverID
              ⟨⟨Dict.empty, Dict.empty⟩, c.bess classifier.serverID⟩ =
                ⟨c.cibms.set classifier.serverID ⟨Dict.empty, Dict.empty⟩,
                  c.bess⟩ := by
            simp [putSide]
          have hinit := meets_initSide (E := fun _ => False) classifier hbess
            ⟨⟨Dict.empty, Dict.empty⟩, c.bess classifier.serverID⟩ rfl
          rw [PyM.run_bind_ok (x := modify _) rfl, ← hnew,
            run_onSide (side?_putSide_self _ _)]
          cases hrun : (initSide bess classifier).run
              ⟨⟨Dict.empty, Dict.empty⟩, c.bess classifier.serverID⟩ with
          | ok a side' =>
              rw [hrun] at hinit
              have hputs := hc.newSide hside (hbase _ side' hinit)
              rw [← putSide_putSide] at hputs
              exact hputs
          | error e side' =>
              rw [hrun] at hinit
              exact hinit.elim

/-! ## Commands -/

section Commands

variable (htrans : ∀ {side side' side''}, T side side' → T side' side'' →
  T side side'')

include htrans

theorem moves_ensured (hbess : bess.Lawful) {directions : List Direction}
    {x : Direction → PyM (Side β) Unit}
    (hbase : ∀ classifier serverID side,
      bess.sight side = baseSight classifier → I serverID side)
    (h : ∀ direction ∈ directions, Turns (I direction.ingress.serverID) T (x direction)) :
    PyM.Keeps (Moves I T c₀) (directions.forM fun direction => do
      ensureClassifier bess direction.ingress
      onSide direction.ingress.serverID (x direction)) := by
  refine PyM.Keeps.forM fun direction hdirection => ?_
  refine PyM.Keeps.bind ?_ fun _ => moves_onSide htrans (h direction hdirection)
  exact moves_ensureClassifier hbess direction.ingress (hbase direction.ingress)

theorem moves_addSFCHandler (hbess : bess.Lawful) {sfc : SFC}
    (hbase : ∀ classifier serverID side,
      bess.sight side = baseSight classifier → I serverID side)
    (h : ∀ direction ∈ sfc.directions,
      Turns (I direction.ingress.serverID) T (addSFCToSide bess sfc.sfcUUID direction)) :
    PyM.Keeps (Moves I T c₀) (addSFCHandler bess sfc) :=
  moves_ensured (T := T) (x := addSFCToSide bess sfc.sfcUUID) htrans hbess hbase h

theorem moves_addSFCIHandler (hbess : bess.Lawful) {sfc : SFC} {sfciID : Nat}
    (hbase : ∀ classifier serverID side,
      bess.sight side = baseSight classifier → I serverID side)
    (h : ∀ direction ∈ sfc.directions,
      Turns (I direction.ingress.serverID) T (addSFCIToSide bess sfc sfciID direction)) :
    PyM.Keeps (Moves I T c₀) (addSFCIHandler bess sfc sfciID) :=
  moves_ensured (T := T) (x := addSFCIToSide bess sfc sfciID) htrans hbess hbase h

theorem moves_delSFCIHandler {sfc : SFC} {sfciID : Nat}
    (h : ∀ direction ∈ sfc.directions,
      Turns (I direction.ingress.serverID) T (delSFCIFromSide bess sfc sfciID direction)) :
    PyM.Keeps (Moves I T c₀) (delSFCIHandler bess sfc sfciID) :=
  PyM.Keeps.forM fun direction hdirection =>
    moves_onKnownSide htrans (h direction hdirection)

theorem moves_delSFCHandler {sfc : SFC}
    (h : ∀ direction ∈ sfc.directions,
      Turns (I direction.ingress.serverID) T (delSFCFromSide bess sfc.sfcUUID direction)) :
    PyM.Keeps (Moves I T c₀) (delSFCHandler bess sfc) :=
  PyM.Keeps.forM fun direction hdirection =>
    moves_onKnownSide htrans (h direction hdirection)

end Commands

end Sides

end SelfAdaptiveMano.Classifier

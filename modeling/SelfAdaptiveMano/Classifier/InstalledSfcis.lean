import SelfAdaptiveMano.Classifier.Uninstallation

/-!
# The SFCIs that a classifier knows of

The list that the controller keeps for a direction is that of the installed
SFCIs, and the load balancer of the direction has one gate for each of them.
This is so as long as no ADD_SFC arrives for a direction that has SFCIs: such a
command empties the list, whatever is installed.
-/

namespace SelfAdaptiveMano.Classifier

open Library Sight

/-- The ids that are kept are those of the installed SFCIs, and the gates of a
load balancer are, each of them once, those of the installed SFCIs. -/
structure KnowsInstalled (S : Sight) : Prop where
  ids : ∀ sfcUUID directionID sfciID,
    (∃ sfciIDs, S.sfciIDs? sfcUUID directionID = some sfciIDs ∧
      sfciID ∈ sfciIDs) ↔ S.Installed sfcUUID directionID sfciID
  gates : ∀ sfcUUID directionID sfciIDs,
    S.sfciIDs? sfcUUID directionID = some sfciIDs →
      ∃ ogates, S.cibm.modules.get? (.hashLB sfcUUID directionID) = some ogates ∧
        ogates.values.Nodup ∧
        (∀ g, g ∈ ogates.values ↔ ∃ sfciID,
          S.view.links (.hashLB sfcUUID directionID) g =
            some (.sfci .genericDecap sfciID directionID)) ∧
        ∀ sfciID, S.Installed sfcUUID directionID sfciID →
          ∃! g, S.view.links (.hashLB sfcUUID directionID) g =
            some (.sfci .genericDecap sfciID directionID)

namespace Sight

variable {S : Sight} {sfcUUID : UUID} {directionID : Nat}

theorem Accounted.not_installed_of_none (hS : S.Accounted)
    (hids : S.sfciIDs? sfcUUID directionID = none) (sfciID : Nat) :
    ¬ S.Installed sfcUUID directionID sfciID := by
  rintro ⟨g, hlink⟩
  rw [hS.gone _ _ hids] at hlink
  cases hlink

theorem Accounted.knowsInstalled (hS : S.Accounted) : KnowsInstalled S := by
  constructor
  · intro sfcUUID directionID sfciID
    constructor
    · rintro ⟨sfciIDs, hids, hmem⟩
      exact ((hS.live _ _ _ hids).mem_iff sfciID).mp hmem
    · intro hinstalled
      cases hids : S.sfciIDs? sfcUUID directionID with
      | none => exact absurd hinstalled (hS.not_installed_of_none hids sfciID)
      | some sfciIDs =>
          exact ⟨sfciIDs, rfl, ((hS.live _ _ _ hids).mem_iff sfciID).mpr hinstalled⟩
  · intro sfcUUID directionID sfciIDs hids
    obtain ⟨ogates, hogates, hgates⟩ := (hS.live _ _ _ hids).gates
    refine ⟨ogates, hogates, ?_, fun g => ?_, ?_⟩
    · -- a gate leads to one SFCI, which has one key
      refine Dict.nodup_values fun k k' g hk hk' => ?_
      obtain ⟨sfciID, rfl, hlink⟩ := (hgates k g).mp hk
      obtain ⟨sfciID', rfl, hlink'⟩ := (hgates k' g).mp hk'
      rw [hlink] at hlink'
      cases hlink'
      rfl
    · rw [Dict.mem_values_iff]
      constructor
      · rintro ⟨k, hk⟩
        obtain ⟨sfciID, -, hlink⟩ := (hgates k g).mp hk
        exact ⟨sfciID, hlink⟩
      · rintro ⟨sfciID, hlink⟩
        exact ⟨.sfci sfciID, (hgates _ g).mpr ⟨sfciID, rfl, hlink⟩⟩
    · rintro sfciID ⟨g, hlink⟩
      refine ⟨g, hlink, fun g' hlink' => ?_⟩
      have hget := (hgates _ _).mpr ⟨sfciID, rfl, hlink⟩
      have hget' := (hgates _ _).mpr ⟨sfciID, rfl, hlink'⟩
      exact Option.some.inj (hget'.symm.trans hget)

theorem accounted_baseSight (classifier : Sff.Server) :
    (baseSight classifier).Accounted where
  linked := by
    have hempty : View.empty.Linked := fun _ _ _ h => by cases h
    have hmodules : moduleView.Linked := legalAll_modules.linked hempty
    have hrules := (legalAll_rules classifier).linked hmodules
    exact (legalAll_links classifier).linked hrules
  merge := Option.some_ne_none _
  live _ _ _ h := by cases h
  gone _ _ _ _ := rfl
  only _ _ _ _ h := by cases h
  once _ _ _ _ h _ := by
    obtain ⟨_, h⟩ := h
    cases h
  chain sfciID directionID e he g m := by
    have hnone : (baseSight classifier).view.links e.1 g = none := by
      simp only [sfciLinks, List.mem_cons, List.not_mem_nil, or_false] at he
      obtain rfl | rfl | rfl := he <;> rfl
    rw [hnone]
    refine iff_of_false (fun h => by cases h) ?_
    rintro ⟨⟨_, _, h⟩, -⟩
    cases h
  made _ _ _ := ⟨rfl, rfl⟩

end Sight

/-! ## What a command does to a classifier -/

section Bodies

variable {β : Type} {bess : Bess β} {sfc : SFC} {sfciID serverID : Nat}
  {direction : Direction} {s s' s'' : Dict (UUID × Nat) (List Nat)}

def Grows (s s' : Dict (UUID × Nat) (List Nat)) : Prop :=
  ∀ p, s.get? p ≠ none → s'.get? p ≠ none

theorem Grows.refl (s : Dict (UUID × Nat) (List Nat)) : Grows s s :=
  fun _ h => h

theorem Grows.trans (h : Grows s s') (h' : Grows s' s'') : Grows s s'' :=
  fun p hp => h' p (h p hp)

theorem grows_set (s : Dict (UUID × Nat) (List Nat)) (p : UUID × Nat)
    (sfciIDs : List Nat) : Grows s (s.set p sfciIDs) := by
  intro p' hp'
  rw [Dict.get?_set]
  split
  · exact Option.some_ne_none sfciIDs
  · exact hp'

theorem grows_withList (s : Dict (UUID × Nat) (List Nat)) (p : UUID × Nat) :
    Grows s (withList s p) := by
  rw [withList]
  split
  · exact Grows.refl s
  · exact grows_set s p []

def KeepsLists (side side' : Side β) : Prop :=
  Grows side.cibm.sfcSet side'.cibm.sfcSet

def EmptyAt (sfc : SFC) (serverID : Nat) (s : Dict (UUID × Nat) (List Nat)) :
    Prop :=
  ∀ direction ∈ sfc.directions, direction.ingress.serverID = serverID →
    ∀ sfciIDs, s.get? (sfc.sfcUUID, direction.ID) = some sfciIDs → sfciIDs = []

theorem EmptyAt.withList (h : EmptyAt sfc serverID s)
    (hdirection : direction ∈ sfc.directions)
    (hingress : direction.ingress.serverID = serverID) :
    EmptyAt sfc serverID (withList s (sfc.sfcUUID, direction.ID)) := by
  intro direction' hdirection' hingress' sfciIDs hids
  rw [get?_withList] at hids
  split at hids
  · obtain rfl := Option.some.inj hids
    cases hget : s.get? (sfc.sfcUUID, direction.ID) with
    | none => rfl
    | some sfciIDs' => exact h direction hdirection hingress sfciIDs' hget
  · exact h direction' hdirection' hingress' sfciIDs hids

theorem turns_addSFCToSide (hbess : bess.Lawful)
    (hdirection : direction ∈ sfc.directions) :
    Turns (bess.Sees fun S => S.Accounted ∧
        EmptyAt sfc direction.ingress.serverID S.cibm.sfcSet)
      KeepsLists
      (addSFCToSide bess sfc.sfcUUID direction) := by
  rintro side ⟨hside, hempty⟩
  refine (meets_addSFCToSide (s := side.cibm.sfcSet) hbess ?_).conseq ?_ ?_ ?_
  · exact hempty direction hdirection rfl
  · rintro _ rfl
    exact ⟨hside, rfl⟩
  · rintro _ side' ⟨hside', hlists⟩
    have hsfcSet : side'.cibm.sfcSet =
        withList side.cibm.sfcSet (sfc.sfcUUID, direction.ID) := hlists
    refine ⟨⟨hside', ?_⟩, ?_⟩
    · rw [hlists]
      exact hempty.withList hdirection rfl
    · rw [KeepsLists, hsfcSet]
      exact grows_withList _ _
  · rintro side' ⟨hside', hlists⟩
    have hsfcSet : side'.cibm.sfcSet = side.cibm.sfcSet := hlists
    refine ⟨⟨hside', ?_⟩, ?_⟩
    · rw [hlists]
      exact hempty
    · rw [KeepsLists, hsfcSet]
      exact Grows.refl _

theorem meets_addSFCIToSide (hbess : bess.Lawful) :
    PyM.Meets (bess.Sees (Lists s)) (addSFCIToSide bess sfc sfciID direction)
      (fun _ => bess.Sees fun S => ∃ s', Grows s s' ∧ Lists s' S)
      (bess.Sees fun S => ∃ s', Grows s s' ∧ Lists s' S) := by
  refine PyM.Meets.bind ((meets_ensureSFC hbess).conseq (fun _ h => h)
    (fun _ _ h => h) ?_) fun _ => PyM.Meets.of_forall fun side hside => ?_
  · exact fun side hside => ⟨s, Grows.refl s, hside⟩
  · have hS := hside.accounted
    have hgrows : Grows s (bess.sight side).cibm.sfcSet := by
      rw [hside.sfcSet]
      exact grows_withList _ _
    have hids : (bess.sight side).sfciIDs? sfc.sfcUUID direction.ID =
        some ((s.get? (sfc.sfcUUID, direction.ID)).getD []) := by
      rw [sfciIDs?, hside.sfcSet, get?_withList, if_pos rfl]
    refine (meets_install hbess hS hids).conseq ?_ ?_ ?_
    · rintro _ rfl
      rfl
    · exact fun _ _ hside' => ⟨_, hgrows.trans (grows_set _ _ _), hside'⟩
    · exact fun _ hside' => ⟨_, hgrows, hside'⟩

theorem meets_delSFCIFromSide (hbess : bess.Lawful) :
    PyM.Meets (bess.Sees (Lists s)) (delSFCIFromSide bess sfc sfciID direction)
      (fun _ => bess.Sees fun S => ∃ s', Grows s s' ∧ Lists s' S)
      (bess.Sees fun S => ∃ s', Grows s s' ∧ Lists s' S) := by
  refine PyM.Meets.bind_get fun side hside => ?_
  have hsfcSet : side.cibm.sfcSet = s := hside.sfcSet
  refine PyM.Meets.ite (fun hhas => ?_) fun _ => ?_
  · rw [Cibm.hasSFCDirection, Dict.contains_eq_true_iff] at hhas
    obtain ⟨sfciIDs, hids⟩ := Option.ne_none_iff_exists'.mp hhas
    refine (meets_uninstall (S := bess.sight side) hbess hside.accounted
      hids).conseq ?_ ?_ ?_
    · rintro _ rfl
      rfl
    · rintro _ side' hside'
      rw [hside.sfcSet] at hside'
      exact ⟨_, grows_set _ _ _, hside'⟩
    · rintro side' hside'
      rw [hside.sfcSet] at hside'
      exact ⟨s, Grows.refl s, hside'⟩
  · rintro _ rfl
    exact ⟨s, Grows.refl s, hside⟩

theorem turns_of_grows {x : PyM (Side β) Unit}
    (h : ∀ s, PyM.Meets (bess.Sees (Lists s)) x
      (fun _ => bess.Sees fun S => ∃ s', Grows s s' ∧ Lists s' S)
      (bess.Sees fun S => ∃ s', Grows s s' ∧ Lists s' S)) :
    Turns (bess.Sees Accounted)
      KeepsLists x := by
  intro side hside
  have hturn {side' : Side β} (h' : ∃ s', Grows side.cibm.sfcSet s' ∧
      Lists s' (bess.sight side')) : bess.Sees Accounted side' ∧
        KeepsLists side side' := by
    obtain ⟨s', hgrows, hlists⟩ := h'
    have hsfcSet : side'.cibm.sfcSet = s' := hlists.sfcSet
    rw [KeepsLists, hsfcSet]
    exact ⟨hlists.accounted, hgrows⟩
  refine (h side.cibm.sfcSet).conseq ?_ (fun _ _ h' => hturn h') fun _ h' => hturn h'
  rintro _ rfl
  exact ⟨hside, rfl⟩

/-- The SFCIs stay, and only a direction without SFCIs is removed. -/
def Bess.Prunes (bess : Bess β) (side side' : Side β) : Prop :=
  (∀ sfcUUID directionID sfciID,
    (bess.sight side').Installed sfcUUID directionID sfciID ↔
      (bess.sight side).Installed sfcUUID directionID sfciID) ∧
  ∀ sfcUUID directionID,
    (bess.sight side).sfciIDs? sfcUUID directionID ≠ none →
      (bess.sight side').sfciIDs? sfcUUID directionID ≠ none ∨
        ∀ sfciID, ¬ (bess.sight side).Installed sfcUUID directionID sfciID

theorem Bess.Prunes.trans {side side' side'' : Side β}
    (h : bess.Prunes side side') (h' : bess.Prunes side' side'') :
    bess.Prunes side side'' := by
  refine ⟨fun _ _ _ => (h'.1 _ _ _).trans (h.1 _ _ _), ?_⟩
  intro sfcUUID directionID hids
  obtain hids' | hnot := h.2 sfcUUID directionID hids
  · obtain hids'' | hnot := h'.2 sfcUUID directionID hids'
    · exact Or.inl hids''
    · refine Or.inr fun sfciID hinstalled => hnot sfciID ?_
      exact (h.1 _ _ _).mpr hinstalled
  · exact Or.inr hnot

theorem turns_delSFCFromSide (hbess : bess.Lawful) :
    Turns (bess.Sees Accounted) bess.Prunes
      (delSFCFromSide bess sfc.sfcUUID direction) := by
  intro side hside
  have hstay {side' : Side β}
      (h : Unmoved (bess.sight side) side.cibm.sfcSet (bess.sight side')) :
      bess.Sees Accounted side' ∧ bess.Prunes side side' := by
    refine ⟨h.accounted, h.installed_iff, fun sfcUUID directionID hids => ?_⟩
    have hids' : (bess.sight side').sfciIDs? sfcUUID directionID ≠ none := by
      rw [sfciIDs?, h.sfcSet]
      exact hids
    exact Or.inl hids'
  refine PyM.Meets.conseq
    (P := bess.Sees (Unmoved (bess.sight side) side.cibm.sfcSet))
    (meets_delSFCFromSide hbess) ?_ ?_ fun _ h => hstay h
  · rintro _ rfl
    exact ⟨⟨hside, rfl⟩, fun _ _ _ => Iff.rfl⟩
  rintro _ side' (h | ⟨hids, h⟩)
  · exact hstay h
  · refine ⟨h.accounted, h.installed_iff, fun sfcUUID directionID hids' => ?_⟩
    by_cases heq : (sfcUUID, directionID) = (sfc.sfcUUID, direction.ID)
    · obtain ⟨rfl, rfl⟩ := Prod.mk.inj heq
      have hlive := hside.live _ _ _ hids
      refine Or.inr fun sfciID hinstalled => ?_
      have hmem := (hlive.mem_iff sfciID).mpr hinstalled
      cases hmem
    · left
      rw [sfciIDs?, h.sfcSet, Dict.get?_erase, if_neg heq]
      exact hids'

end Bodies

/-! ## Runs -/

section Runs

variable {β : Type} {bess : Bess β} {c c' : ClassifierController β}

def AllKnowInstalled (bess : Bess β) (c : ClassifierController β) : Prop :=
  ∀ serverID side, c.side? serverID = some side →
    KnowsInstalled (bess.sight side)

/-- A direction that is no longer there had no SFCI installed. -/
def RemovesIdle (bess : Bess β) (c c' : ClassifierController β) : Prop :=
  ∀ serverID side sfcUUID directionID, c.side? serverID = some side →
    (bess.sight side).sfciIDs? sfcUUID directionID ≠ none →
    (∀ side', c'.side? serverID = some side' →
      (bess.sight side').sfciIDs? sfcUUID directionID = none) →
    ∀ sfciID, ¬ (bess.sight side).Installed sfcUUID directionID sfciID

/-- An ADD_SFC is for directions that are not there or have no SFCIs. -/
def AddsToEmpty (c : ClassifierController β) (cmd : ClassifierCommand) : Prop :=
  ∀ sfc, cmd = .addSFC sfc → ∀ direction ∈ sfc.directions,
    ∀ side, c.side? direction.ingress.serverID = some side →
      ∀ sfciIDs, side.cibm.sfcSet.get? (sfc.sfcUUID, direction.ID) =
        some sfciIDs → sfciIDs = []

def AllAccounted (bess : Bess β) (c : ClassifierController β) : Prop :=
  ∀ serverID side, c.side? serverID = some side → bess.Sees Accounted side

theorem removesIdle_of_moves {I : Nat → Side β → Prop}
    {T : Side β → Side β → Prop} (h : Moves I T c c')
    (hT : ∀ side side', T side side' → ∀ sfcUUID directionID,
      (bess.sight side).sfciIDs? sfcUUID directionID ≠ none →
        (bess.sight side').sfciIDs? sfcUUID directionID ≠ none ∨
          ∀ sfciID, ¬ (bess.sight side).Installed sfcUUID directionID sfciID) :
    RemovesIdle bess c c' := by
  intro serverID side sfcUUID directionID hside hids hgone
  obtain ⟨side', hside', hmove⟩ := h.moved serverID side hside
  obtain hids' | hnot := hT side side' hmove sfcUUID directionID hids
  · exact absurd (hgone side' hside') hids'
  · exact hnot

theorem removesIdle_of_keepsLists {I : Nat → Side β → Prop}
    (h : Moves I KeepsLists c c') : RemovesIdle bess c c' :=
  removesIdle_of_moves h fun _ _ hT _ _ hids => Or.inl (hT _ hids)

theorem accounted_step (hbess : bess.Lawful) (hc : AllAccounted bess c)
    {cmd : ClassifierCommand} (hcmd : AddsToEmpty c cmd) :
    AllAccounted bess ((machine bess).step c cmd) ∧
      RemovesIdle bess c ((machine bess).step c cmd) := by
  have hbase (classifier : Sff.Server) (side : Side β)
      (hside : bess.sight side = baseSight classifier) :
      bess.Sees Accounted side := by
    rw [Bess.Sees, hside]
    exact accounted_baseSight classifier
  have htrans {side side' side'' : Side β} (h : KeepsLists side side')
      (h' : KeepsLists side' side'') : KeepsLists side side'' := Grows.trans h h'
  have hstart : Moves (fun _ => bess.Sees Accounted) KeepsLists c c :=
    Moves.refl (fun side => Grows.refl side.cibm.sfcSet) hc
  cases cmd with
  | addSFC sfc =>
      let I : Nat → Side β → Prop := fun serverID => bess.Sees fun S =>
        S.Accounted ∧ EmptyAt sfc serverID S.cibm.sfcSet
      have hempty : Moves I KeepsLists c c := by
        refine Moves.refl (fun side => Grows.refl side.cibm.sfcSet) ?_
        intro serverID side hside
        refine ⟨hc serverID side hside, ?_⟩
        rintro direction hdirection rfl
        exact hcmd sfc rfl direction hdirection side hside
      have hkeeps : PyM.Keeps (Moves I KeepsLists c) (addSFCHandler bess sfc) := by
        refine moves_addSFCHandler (I := I) (T := KeepsLists) htrans hbess ?_
          fun direction hdirection => turns_addSFCToSide hbess hdirection
        intro classifier serverID side hside
        exact ⟨hbase classifier side hside, fun _ _ _ _ h => by
          rw [hside] at h
          cases h⟩
      have hmoves := hkeeps.finalState hempty
      exact ⟨fun serverID side hside => (hmoves.inv serverID side hside).1,
        removesIdle_of_keepsLists hmoves⟩
  | addSFCI sfc sfciID =>
      have hkeeps : PyM.Keeps (Moves (fun _ => bess.Sees Accounted) KeepsLists c)
          (addSFCIHandler bess sfc sfciID) :=
        moves_addSFCIHandler (T := KeepsLists) htrans hbess
          (fun classifier _ => hbase classifier) fun _ _ => turns_of_grows fun _ => meets_addSFCIToSide hbess
      have hmoves := hkeeps.finalState hstart
      exact ⟨hmoves.inv, removesIdle_of_keepsLists hmoves⟩
  | delSFCI sfc sfciID =>
      have hkeeps : PyM.Keeps (Moves (fun _ => bess.Sees Accounted) KeepsLists c)
          (delSFCIHandler bess sfc sfciID) :=
        moves_delSFCIHandler (T := KeepsLists) htrans fun _ _ =>
          turns_of_grows fun _ => meets_delSFCIFromSide hbess
      have hmoves := hkeeps.finalState hstart
      exact ⟨hmoves.inv, removesIdle_of_keepsLists hmoves⟩
  | delSFC sfc =>
      have hprune : Moves (fun _ => bess.Sees Accounted) bess.Prunes c c := by
        refine Moves.refl (fun side => ⟨fun _ _ _ => Iff.rfl, ?_⟩) hc
        exact fun _ _ hids => Or.inl hids
      have hkeeps : PyM.Keeps (Moves (fun _ => bess.Sees Accounted) bess.Prunes c)
          (delSFCHandler bess sfc) :=
        moves_delSFCHandler Bess.Prunes.trans fun _ _ =>
          turns_delSFCFromSide hbess
      have hmoves := hkeeps.finalState hprune
      exact ⟨hmoves.inv, removesIdle_of_moves hmoves fun _ _ hT => hT.2⟩

/-- In a run whose ADD_SFC commands are all for directions without SFCIs, the
classifiers know the installed SFCIs in every state, and no command removes a
direction with an SFCI. -/
theorem installed_known_of_addsToEmpty (hbess : bess.Lawful)
    {τ : List (ClassifierController β × ClassifierCommand)}
    (hrun : (machine bess).Run τ c) (hadd : ∀ e ∈ τ, AddsToEmpty e.1 e.2) :
    (∀ e ∈ τ, AllKnowInstalled bess e.1) ∧ AllKnowInstalled bess c ∧
      ∀ e ∈ τ, RemovesIdle bess e.1 ((machine bess).step e.1 e.2) := by
  have hinit (c : ClassifierController β) (hinit : (machine bess).init c) :
      AllAccounted bess c := by
    intro serverID side hside
    have hcibms : c.cibms = Dict.empty := hinit
    rw [ClassifierController.side?, hcibms] at hside
    cases hside
  obtain ⟨hτ, hc⟩ := hrun.all_of_meets hinit
    (fun c cmd hc _ hcmd => (accounted_step hbess hc hcmd).1) hadd
  refine ⟨fun e he serverID side hside => ?_, fun serverID side hside => ?_,
    fun e he => ?_⟩
  · exact (hτ e he serverID side hside).knowsInstalled
  · exact (hc serverID side hside).knowsInstalled
  · exact (accounted_step hbess (hτ e he) (hadd e he)).2

end Runs

/-- The list of the direction, and what the first gate of its load balancer is
connected to. -/
def exampleList (c : ClassifierController View) :
    Option (Option (List Nat) × Option Name) :=
  (c.side? 1).map fun side => (side.cibm.sfcSet.get? (⟨0, 0⟩, 0),
    side.bess.links (.hashLB ⟨0, 0⟩ 0) 0)

theorem installed_known_of_addsToEmpty_addedTwice :
    AllKnowInstalled viewBess (controllerAfter
        [.addSFC exampleSFC, .addSFC exampleSFC, .addSFCI exampleSFC 1]) ∧
      exampleList (controllerAfter
        [.addSFC exampleSFC, .addSFC exampleSFC, .addSFCI exampleSFC 1]) =
          some (some [1], some (.sfci .genericDecap 1 0)) := by
  have hrun : (machine viewBess).Run _ (controllerAfter
      [.addSFC exampleSFC, .addSFC exampleSFC, .addSFCI exampleSFC 1]) :=
    Machine.Run.arrive (.start rfl) ⟨trivial, trivial, trivial, trivial⟩
  refine ⟨(installed_known_of_addsToEmpty viewBess_lawful hrun ?_).2.1,
    by decide +kernel⟩
  simp only [Machine.trace, List.nil_append, List.forall_mem_cons,
    List.not_mem_nil, forall_false, implies_true, and_true]
  refine ⟨?_, ?_, fun sfc h => by cases h⟩
  · rintro _ - direction - side hside
    cases hside
  · rintro _ ⟨⟩ direction hdirection side hside sfciIDs hids
    obtain rfl := List.mem_singleton.mp hdirection
    have hlist : exampleList (controllerAfter [.addSFC exampleSFC]) =
        some (some [], none) := by decide +kernel
    have hside' : (controllerAfter [.addSFC exampleSFC]).side? 1 = some side :=
      hside
    rw [exampleList, hside'] at hlist
    have heq := (Prod.mk.inj (Option.some.inj hlist)).1
    exact Option.some.inj (hids.symm.trans heq)

/-- The list of a direction is emptied by a second ADD_SFC while an SFCI is
installed, and a DEL_SFC then removes the direction. -/
theorem emptied_and_removed :
    viewBess.Lawful ∧
      (machine viewBess).Reachable (controllerAfter [.addSFC exampleSFC,
        .addSFCI exampleSFC 1, .addSFC exampleSFC]) ∧
      ¬ AllKnowInstalled viewBess (controllerAfter [.addSFC exampleSFC,
        .addSFCI exampleSFC 1, .addSFC exampleSFC]) ∧
      ¬ RemovesIdle viewBess (controllerAfter [.addSFC exampleSFC,
          .addSFCI exampleSFC 1, .addSFC exampleSFC])
        (controllerAfter [.addSFC exampleSFC, .addSFCI exampleSFC 1,
          .addSFC exampleSFC, .delSFC exampleSFC]) := by
  have hlist : exampleList (controllerAfter [.addSFC exampleSFC,
      .addSFCI exampleSFC 1, .addSFC exampleSFC]) =
        some (some [], some (.sfci .genericDecap 1 0)) := by decide +kernel
  have hgone : exampleList (controllerAfter [.addSFC exampleSFC,
      .addSFCI exampleSFC 1, .addSFC exampleSFC, .delSFC exampleSFC]) =
        some (none, none) := by decide +kernel
  obtain ⟨side, hside, hview⟩ := Option.map_eq_some_iff.mp hlist
  obtain ⟨hids, hlink⟩ := Prod.mk.inj hview
  have hinstalled : (viewBess.sight side).Installed ⟨0, 0⟩ 0 1 := ⟨0, hlink⟩
  refine ⟨viewBess_lawful, ?_, fun hknow => ?_, fun hremoves => ?_⟩
  · have hrun : (machine viewBess).Run _ (controllerAfter [.addSFC exampleSFC,
        .addSFCI exampleSFC 1, .addSFC exampleSFC]) :=
      Machine.Run.arrive (.start rfl) ⟨trivial, trivial, trivial, trivial⟩
    exact hrun.reachable
  · obtain ⟨sfciIDs, hids', hmem⟩ :=
      ((hknow 1 side hside).ids _ _ _).mpr hinstalled
    have hids'' : side.cibm.sfcSet.get? (⟨0, 0⟩, 0) = some sfciIDs := hids'
    obtain rfl := Option.some.inj (hids.symm.trans hids'')
    cases hmem
  · refine hremoves 1 side ⟨0, 0⟩ 0 hside ?_ (fun side' hside' => ?_) 1 hinstalled
    · have hids' : (viewBess.sight side).sfciIDs? ⟨0, 0⟩ 0 = some [] := hids
      rw [hids']
      exact Option.some_ne_none _
    · rw [exampleList, hside'] at hgone
      exact (Prod.mk.inj (Option.some.inj hgone)).1

end SelfAdaptiveMano.Classifier

import SelfAdaptiveMano.Classifier.SfcLists

/-!
# Installing an SFCI at a classifier

The modules of an SFCI are created, a gate of the load balancer is assigned, and
they are linked. When the first module is already there the addition fails
before anything has changed.
-/

namespace SelfAdaptiveMano.Classifier

open Library Sight

namespace Sight

variable {S : Sight} {sfcUUID : UUID} {directionID sfciID : Nat}

theorem queueFree_of_port {v : View} {m : Module} (h : m.port = none) :
    v.QueueFree m := by
  intro port hport
  rw [h] at hport
  cases hport

theorem Accounted.createDecap (hS : S.Accounted) {m : Module}
    (hpossible : S.view.Possible
      (.createModule (.sfci .genericDecap sfciID directionID) m)) :
    (S.call (.createModule (.sfci .genericDecap sfciID directionID) m)).Accounted
    where
  linked := hS.linked.after hpossible
  merge := by simpa [View.after] using hS.merge
  live sfcUUID' directionID' sfciIDs hids := by
    have hlive := hS.live _ _ _ hids
    refine ⟨hlive.nodup, hlive.mem_iff, ?_, hlive.gates⟩
    simpa [View.after] using hlive.balancer
  gone := hS.gone
  only := hS.only
  once := hS.once
  chain := hS.chain
  made sfciID' directionID' hnone := by
    simp only [view_call, View.after] at hnone
    split at hnone
    · cases hnone
    · simpa [View.after] using hS.made _ _ hnone

theorem Accounted.not_installed (hS : S.Accounted)
    (hnone : S.view.modules (.sfci .genericDecap sfciID directionID) = none)
    (sfcUUID : UUID) : ¬ S.Installed sfcUUID directionID sfciID := by
  rintro ⟨g, hlink⟩
  exact (hS.linked _ _ _ hlink).2 hnone

/-- The calls that create the modules of an SFCI and link them. -/
def installRequests (sfcUUID : UUID) (directionID sfciID g : Nat)
    (m₁ m₂ m₃ : Module) : List Request :=
  [.createModule (.sfci .genericDecap sfciID directionID) m₁,
    .createModule (.sfci .setMetadata sfciID directionID) m₂,
    .createModule (.sfci .ipEncap sfciID directionID) m₃,
    .connectModules (.hashLB sfcUUID directionID)
      (.sfci .genericDecap sfciID directionID) g 0,
    .connectModules (.sfci .genericDecap sfciID directionID)
      (.sfci .setMetadata sfciID directionID) 0 0,
    .connectModules (.sfci .setMetadata sfciID directionID)
      (.sfci .ipEncap sfciID directionID) 0 0,
    .connectModules (.sfci .ipEncap sfciID directionID)
      (.base .etherEncapMerge) 0 0]

/-- The sight with the SFCI installed at the gate `g`. -/
def install (S : Sight) (sfcUUID : UUID) (directionID sfciID g : Nat)
    (m₁ m₂ m₃ : Module) (ogates : Dict GateKey Nat) (sfciIDs : List Nat) :
    Sight where
  cibm := ⟨S.cibm.modules.set (.hashLB sfcUUID directionID)
      (ogates.set (.sfci sfciID) g),
    S.cibm.sfcSet.set (sfcUUID, directionID) (sfciIDs ++ [sfciID])⟩
  view := (installRequests sfcUUID directionID sfciID g m₁ m₂ m₃).foldl
    View.after S.view

section Install

variable {g : Nat} {m₁ m₂ m₃ : Module} {ogates : Dict GateKey Nat}
  {sfciIDs : List Nat}

theorem Accounted.links_eq_none_of_not_installed (hS : S.Accounted)
    (hnone : ∀ sfcUUID, ¬ S.Installed sfcUUID directionID sfciID) :
    ∀ e ∈ sfciLinks sfciID directionID, ∀ g', S.view.links e.1 g' = none := by
  intro e he g'
  cases hlink : S.view.links e.1 g' with
  | none => rfl
  | some m =>
      obtain ⟨⟨sfcUUID', hinstalled⟩, -⟩ := (hS.chain _ _ e he g' m).mp hlink
      exact absurd hinstalled (hnone sfcUUID')

theorem legalAll_install (m₁ m₂ m₃ : Module) (hS : S.Accounted)
    (hids : S.sfciIDs? sfcUUID directionID = some sfciIDs)
    (hnone : S.view.modules (.sfci .genericDecap sfciID directionID) = none)
    (hfree : S.view.links (.hashLB sfcUUID directionID) g = none)
    (hport₁ : m₁.port = none) (hport₂ : m₂.port = none) (hport₃ : m₃.port = none) :
    S.view.LegalAll
      (installRequests sfcUUID directionID sfciID g m₁ m₂ m₃) := by
  obtain ⟨hsma, hipe⟩ := hS.made _ _ hnone
  have hbalancer := (hS.live _ _ _ hids).balancer
  have hlink := hS.links_eq_none_of_not_installed (hS.not_installed hnone)
  have hlink₁ := hlink _ List.mem_cons_self 0
  have hlink₂ := hlink _ (List.mem_cons_of_mem _ List.mem_cons_self) 0
  have hlink₃ := hlink _
    (List.mem_cons_of_mem _ (List.mem_cons_of_mem _ List.mem_cons_self)) 0
  refine ⟨⟨hnone, queueFree_of_port hport₁⟩, ⟨?_, queueFree_of_port hport₂⟩,
    ⟨?_, queueFree_of_port hport₃⟩, ⟨?_, ?_, ?_⟩, ⟨?_, ?_, ?_⟩, ⟨?_, ?_, ?_⟩,
    ⟨?_, ?_, ?_⟩, trivial⟩ <;>
    simp [View.after, hsma, hipe, hbalancer, hfree, hlink₁, hlink₂, hlink₃,
      hS.merge]

theorem links_hashLB_install (sfcUUID' : UUID) (directionID' g' : Nat) :
    (S.install sfcUUID directionID sfciID g m₁ m₂ m₃ ogates sfciIDs).view.links
      (.hashLB sfcUUID' directionID') g' =
        if (sfcUUID' = sfcUUID ∧ directionID' = directionID) ∧ g' = g then
          some (.sfci .genericDecap sfciID directionID)
        else S.view.links (.hashLB sfcUUID' directionID') g' := by
  simp [install, installRequests, View.after]

theorem modules_install (n : Name) :
    (S.install sfcUUID directionID sfciID g m₁ m₂ m₃ ogates sfciIDs).view.modules
      n = if n = .sfci .ipEncap sfciID directionID then some m₃
        else if n = .sfci .setMetadata sfciID directionID then some m₂
        else if n = .sfci .genericDecap sfciID directionID then some m₁
        else S.view.modules n := rfl

theorem installed_install_iff
    (hfree : S.view.links (.hashLB sfcUUID directionID) g = none)
    {sfcUUID' : UUID} {directionID' sfciID' : Nat} :
    (S.install sfcUUID directionID sfciID g m₁ m₂ m₃ ogates sfciIDs).Installed
        sfcUUID' directionID' sfciID' ↔
      S.Installed sfcUUID' directionID' sfciID' ∨
        sfcUUID' = sfcUUID ∧ directionID' = directionID ∧ sfciID' = sfciID := by
  simp only [Installed, links_hashLB_install]
  constructor
  · rintro ⟨g', hlink⟩
    split at hlink
    · next heq =>
        obtain ⟨⟨rfl, rfl⟩, rfl⟩ := heq
        cases hlink
        exact Or.inr ⟨rfl, rfl, rfl⟩
    · exact Or.inl ⟨g', hlink⟩
  · rintro (⟨g', hlink⟩ | ⟨rfl, rfl, rfl⟩)
    · refine ⟨g', ?_⟩
      rw [if_neg]
      · exact hlink
      · rintro ⟨⟨rfl, rfl⟩, rfl⟩
        rw [hfree] at hlink
        cases hlink
    · exact ⟨g, if_pos ⟨⟨rfl, rfl⟩, rfl⟩⟩

theorem links_sfci_install {mclass : ModuleClass} {sfciID' directionID' g' : Nat}
    (hne : ¬ (sfciID' = sfciID ∧ directionID' = directionID)) :
    (S.install sfcUUID directionID sfciID g m₁ m₂ m₃ ogates sfciIDs).view.links
      (.sfci mclass sfciID' directionID') g' =
        S.view.links (.sfci mclass sfciID' directionID') g' := by
  simp only [not_and] at hne
  have hname (mclass' : ModuleClass) : Name.sfci mclass sfciID' directionID' ≠
      .sfci mclass' sfciID directionID := by
    intro heq
    obtain ⟨-, h, h'⟩ := Name.sfci.inj heq
    exact hne h h'
  simp [install, installRequests, View.after, hname]

theorem chain_install
    (hlinks : ∀ e ∈ sfciLinks sfciID directionID, ∀ g',
      S.view.links e.1 g' = none) :
    ∀ e ∈ sfciLinks sfciID directionID, ∀ g' m,
      (S.install sfcUUID directionID sfciID g m₁ m₂ m₃ ogates
        sfciIDs).view.links e.1 g' = some m ↔ g' = 0 ∧ m = e.2 := by
  simp only [sfciLinks, List.forall_mem_cons, List.not_mem_nil,
    forall_false, implies_true, and_true] at hlinks ⊢
  obtain ⟨hlinks₁, hlinks₂, hlinks₃⟩ := hlinks
  refine ⟨fun g' m => ?_, fun g' m => ?_, fun g' m => ?_⟩
  · by_cases h : g' = 0 <;>
      simp [install, installRequests, View.after, h, hlinks₁, eq_comm]
  · by_cases h : g' = 0 <;>
      simp [install, installRequests, View.after, h, hlinks₂, eq_comm]
  · by_cases h : g' = 0 <;>
      simp [install, installRequests, View.after, h, hlinks₃, eq_comm]

/-- A gate that is not given out has no link. -/
theorem Live.links_eq_none (hlive : S.Live sfcUUID directionID sfciIDs)
    (hS : S.Accounted)
    (hogates : S.cibm.modules.get? (.hashLB sfcUUID directionID) = some ogates)
    (hg : g ∉ ogates.values) :
    S.view.links (.hashLB sfcUUID directionID) g = none := by
  obtain ⟨ogates', hogates', hgates⟩ := hlive.gates
  obtain rfl := Option.some.inj (hogates.symm.trans hogates')
  cases hlink : S.view.links (.hashLB sfcUUID directionID) g with
  | none => rfl
  | some m =>
      obtain ⟨sfciID', rfl⟩ := hS.only _ _ _ _ hlink
      have hget := (hgates _ _).mpr ⟨sfciID', rfl, hlink⟩
      exact absurd (Dict.mem_values_iff.mpr ⟨_, hget⟩) hg

theorem Live.install (hlive : S.Live sfcUUID directionID sfciIDs)
    (hnot : ¬ S.Installed sfcUUID directionID sfciID)
    (hfree : S.view.links (.hashLB sfcUUID directionID) g = none)
    (hogates : S.cibm.modules.get? (.hashLB sfcUUID directionID) = some ogates)
    (hg : g ∉ ogates.values) :
    (S.install sfcUUID directionID sfciID g m₁ m₂ m₃ ogates sfciIDs).Live
      sfcUUID directionID (sfciIDs ++ [sfciID]) := by
  obtain ⟨ogates', hogates', hgates⟩ := hlive.gates
  obtain rfl := Option.some.inj (hogates.symm.trans hogates')
  constructor
  · have hmem : sfciID ∉ sfciIDs := fun hmem => hnot ((hlive.mem_iff _).mp hmem)
    rw [← List.concat_eq_append]
    exact hlive.nodup.concat hmem
  · intro sfciID'
    simp [installed_install_iff hfree, hlive.mem_iff]
  · rw [modules_install]
    simpa using hlive.balancer
  · refine ⟨_, Dict.get?_set_self _ _ _, fun k g' => ?_⟩
    have hlink : (S.install sfcUUID directionID sfciID g m₁ m₂ m₃ ogates
        sfciIDs).view.links (.hashLB sfcUUID directionID) g' =
          if g' = g then some (.sfci .genericDecap sfciID directionID)
          else S.view.links (.hashLB sfcUUID directionID) g' := by
      simp [links_hashLB_install]
    rw [Dict.get?_set, hlink]
    by_cases hk : k = .sfci sfciID
    · subst hk
      by_cases hg' : g' = g
      · subst hg'
        simp
      · rw [if_pos rfl, if_neg hg']
        refine iff_of_false (fun heq => hg' (Option.some.inj heq).symm) ?_
        rintro ⟨sfciID', hkey, hlink'⟩
        obtain rfl := GateKey.sfci.inj hkey
        exact hnot ⟨g', hlink'⟩
    · rw [if_neg hk]
      by_cases hg' : g' = g
      · subst hg'
        refine iff_of_false (fun hget => ?_) ?_
        · exact hg (Dict.mem_values_iff.mpr ⟨k, hget⟩)
        · rintro ⟨sfciID', rfl, hlink'⟩
          rw [if_pos rfl] at hlink'
          cases hlink'
          exact hk rfl
      · rw [if_neg hg']
        exact hgates k g'

theorem Live.install_other {sfcUUID' : UUID} {directionID' : Nat}
    {sfciIDs' : List Nat} (hlive : S.Live sfcUUID' directionID' sfciIDs')
    (hfree : S.view.links (.hashLB sfcUUID directionID) g = none)
    (hne : ¬ (sfcUUID' = sfcUUID ∧ directionID' = directionID)) :
    (S.install sfcUUID directionID sfciID g m₁ m₂ m₃ ogates sfciIDs).Live
      sfcUUID' directionID' sfciIDs' := by
  have hname : Name.hashLB sfcUUID' directionID' ≠
      .hashLB sfcUUID directionID := fun heq => hne (Name.hashLB.inj heq)
  have hlink (g' : Nat) : (S.install sfcUUID directionID sfciID g m₁ m₂ m₃ ogates
      sfciIDs).view.links (.hashLB sfcUUID' directionID') g' =
        S.view.links (.hashLB sfcUUID' directionID') g' := by
    rw [links_hashLB_install, if_neg fun h => hne h.1]
  have hogates : (S.install sfcUUID directionID sfciID g m₁ m₂ m₃ ogates
      sfciIDs).cibm.modules.get? (.hashLB sfcUUID' directionID') =
        S.cibm.modules.get? (.hashLB sfcUUID' directionID') :=
    Dict.get?_set_of_ne _ _ hname
  refine ⟨hlive.nodup, fun sfciID' => ?_, ?_, ?_⟩
  · rw [installed_install_iff hfree, hlive.mem_iff]
    exact (or_iff_left fun h => hne ⟨h.1, h.2.1⟩).symm
  · rw [modules_install]
    simpa using hlive.balancer
  · simp only [hogates, hlink]
    exact hlive.gates

theorem Accounted.install (m₁ m₂ m₃ : Module) (hS : S.Accounted)
    (hids : S.sfciIDs? sfcUUID directionID = some sfciIDs)
    (hnone : S.view.modules (.sfci .genericDecap sfciID directionID) = none)
    (hogates : S.cibm.modules.get? (.hashLB sfcUUID directionID) = some ogates)
    (hg : g ∉ ogates.values) (hport₁ : m₁.port = none) (hport₂ : m₂.port = none)
    (hport₃ : m₃.port = none) :
    (S.install sfcUUID directionID sfciID g m₁ m₂ m₃ ogates
      sfciIDs).Accounted := by
  have hlive := hS.live _ _ _ hids
  have hfree := hlive.links_eq_none hS hogates hg
  have hnot := hS.not_installed hnone
  have hlegal :=
    legalAll_install m₁ m₂ m₃ hS hids hnone hfree hport₁ hport₂ hport₃
  constructor
  · exact hlegal.linked hS.linked
  · rw [modules_install]
    simpa using hS.merge
  · intro sfcUUID' directionID' sfciIDs' hids'
    rw [sfciIDs?, Sight.install, Dict.get?_set] at hids'
    by_cases heq : (sfcUUID', directionID') = (sfcUUID, directionID)
    · rw [if_pos heq] at hids'
      obtain ⟨rfl, rfl⟩ := Prod.mk.inj heq
      obtain rfl := Option.some.inj hids'
      exact hlive.install (hnot _) hfree hogates hg
    · rw [if_neg heq] at hids'
      have hne : ¬ (sfcUUID' = sfcUUID ∧ directionID' = directionID) := by
        rintro ⟨rfl, rfl⟩
        exact heq rfl
      exact (hS.live _ _ _ hids').install_other hfree hne
  · intro sfcUUID' directionID' hids' g'
    rw [sfciIDs?, Sight.install, Dict.get?_set] at hids'
    split at hids'
    · cases hids'
    · next hne =>
        rw [links_hashLB_install, if_neg]
        · exact hS.gone _ _ hids' g'
        · rintro ⟨⟨rfl, rfl⟩, -⟩
          exact hne rfl
  · intro sfcUUID' directionID' g' m hlink
    rw [links_hashLB_install] at hlink
    split at hlink
    · next heq =>
        obtain ⟨⟨rfl, rfl⟩, rfl⟩ := heq
        exact ⟨sfciID, (Option.some.inj hlink).symm⟩
    · exact hS.only _ _ _ _ hlink
  · intro sfcUUID₁ sfcUUID₂ directionID' sfciID'
    rw [installed_install_iff hfree, installed_install_iff hfree]
    rintro (h₁ | ⟨rfl, rfl, rfl⟩) (h₂ | ⟨rfl, heq, heq'⟩)
    · exact hS.once _ _ _ _ h₁ h₂
    · subst heq heq'
      exact absurd h₁ (hnot sfcUUID₁)
    · exact absurd h₂ (hnot sfcUUID₂)
    · rfl
  · intro sfciID' directionID' e he g' m
    by_cases heq : sfciID' = sfciID ∧ directionID' = directionID
    · obtain ⟨rfl, rfl⟩ := heq
      rw [chain_install (hS.links_eq_none_of_not_installed hnot) e he]
      refine (and_iff_right ⟨sfcUUID, ?_⟩).symm
      exact (installed_install_iff hfree).mpr (Or.inr ⟨rfl, rfl, rfl⟩)
    · have hinstalled (sfcUUID' : UUID) :
          (S.install sfcUUID directionID sfciID g m₁ m₂ m₃ ogates
            sfciIDs).Installed sfcUUID' directionID' sfciID' ↔
              S.Installed sfcUUID' directionID' sfciID' := by
        rw [installed_install_iff hfree]
        exact or_iff_left fun h => heq ⟨h.2.2, h.2.1⟩
      have hlink : (S.install sfcUUID directionID sfciID g m₁ m₂ m₃ ogates
          sfciIDs).view.links e.1 g' = S.view.links e.1 g' := by
        simp only [sfciLinks, List.mem_cons, List.not_mem_nil, or_false] at he
        obtain rfl | rfl | rfl := he <;> exact links_sfci_install heq
      simp only [hlink, hinstalled]
      exact hS.chain sfciID' directionID' e he g' m
  · intro sfciID' directionID' hnone'
    simp only [modules_install] at hnone' ⊢
    by_cases heq : sfciID' = sfciID ∧ directionID' = directionID
    · obtain ⟨rfl, rfl⟩ := heq
      simp at hnone'
    · have hname (mclass mclass' : ModuleClass) :
          Name.sfci mclass sfciID' directionID' ≠
            .sfci mclass' sfciID directionID := by
        intro h
        obtain ⟨-, h, h'⟩ := Name.sfci.inj h
        exact heq ⟨h, h'⟩
      simp only [hname, if_false] at hnone' ⊢
      exact hS.made sfciID' directionID' hnone'

end Install

end Sight

section Run

variable {β : Type} {bess : Bess β} {sfc : SFC} {sfciID : Nat}
  {direction : Direction} {S : Sight} {sfciIDs : List Nat}

theorem meets_addSFCIRules_eq (hbess : bess.Lawful) {E : Sight → Prop}
    {ogates : Dict GateKey Nat}
    (h : S.cibm.modules.get? (.hashLB sfc.sfcUUID direction.ID) = some ogates) :
    PyM.Meets (bess.Sees (· = S)) (addSFCIRules bess sfc sfciID direction)
      (fun _ => bess.Sees (· = S.setOGates (.hashLB sfc.sfcUUID direction.ID)
        (ogates.set (.sfci sfciID)
          (Sff.genAvailableMiniNum4List ogates.values)))) (bess.Sees E) := by
  have hassign : PyM.Meets (bess.Sees (· = S))
      (assignHashLBOGatesList sfc sfciID direction)
      (fun _ => bess.Sees (· = S.setOGates (.hashLB sfc.sfcUUID direction.ID)
        (ogates.set (.sfci sfciID)
          (Sff.genAvailableMiniNum4List ogates.values)))) (bess.Sees E) := by
    refine meets_bind_ogatesOf_eq h ?_
    refine PyM.Meets.bind (meets_addOGate2Module_eq h) fun _ => ?_
    exact fun side hside => hside
  refine PyM.Meets.bind (meets_idle hbess fun _ => rfl) fun _ => ?_
  refine PyM.Meets.bind hassign fun gateNumList => ?_
  refine PyM.Meets.bind (meets_idle hbess fun _ => rfl) fun _ => ?_
  exact meets_idle hbess fun _ => rfl

theorem meets_install (hbess : bess.Lawful) (hS : S.Accounted)
    (hids : S.sfciIDs? sfc.sfcUUID direction.ID = some sfciIDs) :
    PyM.Meets (bess.Sees (· = S)) (do
        addSFCIModules bess sfc sfciID direction
        addSFCIRules bess sfc sfciID direction
        addSFCILinks bess sfc sfciID direction
        addSFCIDirection sfc.sfcUUID direction.ID sfciID)
      (fun _ => bess.Sees (Lists (S.cibm.sfcSet.set (sfc.sfcUUID, direction.ID)
        (sfciIDs ++ [sfciID]))))
      (bess.Sees (Lists S.cibm.sfcSet)) := by
  have hlive := hS.live _ _ _ hids
  obtain ⟨ogates, hogates, -⟩ := hlive.gates
  have hg := Sff.genAvailableMiniNum4List_notMem ogates.values
  have hfree := hlive.links_eq_none hS hogates hg
  simp only [addSFCIModules, bind_assoc]
  refine PyM.Meets.bind (meets_idle hbess fun _ => rfl) fun _ => ?_
  by_cases hnone : S.view.modules
      (.sfci .genericDecap sfciID direction.ID) = none
  · refine PyM.Meets.bind (meets_checked_eq hbess
      ⟨hnone, queueFree_of_port rfl⟩) fun _ => ?_
    refine PyM.Meets.bind_ofExcept (fun tunnelDstIP _ => ?_) ?_
    · obtain ⟨-, hsma, hipe, hlink, hlink₁, hlink₂, hlink₃, -⟩ :=
        legalAll_install ⟨.genericDecap, .bytes 14⟩
          (tunnelHeader direction.ingress.datapathNICIP tunnelDstIP)
          ⟨.ipEncap, .none⟩ hS hids hnone hfree rfl rfl rfl
      refine PyM.Meets.bind (meets_checked_eq hbess hsma) fun _ => ?_
      refine PyM.Meets.bind (meets_checked_eq hbess hipe) fun _ => ?_
      refine PyM.Meets.bind (meets_idle hbess fun _ => rfl) fun _ => ?_
      refine PyM.Meets.bind (meets_addSFCIRules_eq hbess hogates) fun _ => ?_
      rw [addSFCILinks, bind_assoc]
      refine PyM.Meets.bind (meets_idle hbess fun _ => rfl) fun _ => ?_
      rw [bind_assoc]
      refine meets_bind_getModuleOGate_eq
        (g := Sff.genAvailableMiniNum4List ogates.values) ?_ ?_
      · exact (gate?_setOGates_self _ _ _ _).trans (Dict.get?_set_self _ _ _)
      simp only [bind_assoc]
      refine PyM.Meets.bind (meets_checked_eq hbess hlink) fun _ => ?_
      refine PyM.Meets.bind (meets_checked_eq hbess hlink₁) fun _ => ?_
      refine PyM.Meets.bind (meets_checked_eq hbess hlink₂) fun _ => ?_
      refine PyM.Meets.bind (meets_checked_eq hbess hlink₃) fun _ => ?_
      refine PyM.Meets.bind (meets_idle hbess fun _ => rfl) fun _ => ?_
      refine meets_addSFCIDirection (show _ = some sfciIDs from hids) ⟨?_, rfl⟩
      exact hS.install ⟨.genericDecap, .bytes 14⟩
        (tunnelHeader direction.ingress.datapathNICIP tunnelDstIP)
        ⟨.ipEncap, .none⟩ hids hnone hogates hg rfl rfl rfl
    · rintro side (hside : bess.sight side = _)
      have hcreated : (bess.sight side).Accounted := by
        rw [hside]
        exact hS.createDecap hnone
      refine ⟨hcreated, ?_⟩
      rw [hside]
      rfl
  · refine PyM.Meets.bind (meets_checked hbess (Q := fun _ => False) ?_ ?_)
      fun _ _ hside => hside.elim
    · rintro _ rfl hpossible
      exact absurd hpossible hnone
    · rintro _ rfl -
      exact ⟨hS, rfl⟩

end Run

end SelfAdaptiveMano.Classifier

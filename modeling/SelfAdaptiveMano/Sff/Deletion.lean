import SelfAdaptiveMano.Sff.Addition

/-!
# The deletion of a use on a server

The last use of a VNFI takes the whole data path of the VNFI with it. Where other
uses are left only the rules go, so they must use the VNFI in all directions of
the deleted use.
-/

namespace SelfAdaptiveMano.Sff

open Library Library.Objects

theorem exists_of_needs {e : Object} {k : Key} (h : pipeline.needs e k) :
    (∃ n, k = .port n) ∨ ∃ n, k = .module n := by
  obtain ⟨key, content⟩ := e
  cases key with
  | port n => exact h.elim
  | module n =>
      cases content with
      | module mclass port =>
          cases port with
          | none => exact h.elim
          | some p => exact Or.inl ⟨p, h⟩
      | port => exact h.elim
      | link m2 igate => exact h.elim
      | rule gate => exact h.elim
  | gate n g =>
      cases content with
      | link m2 igate =>
          obtain rfl | rfl := h
          · exact Or.inr ⟨n, rfl⟩
          · exact Or.inr ⟨m2, rfl⟩
      | port => exact h.elim
      | module mclass port => exact h.elim
      | rule gate => exact h.elim
  | rule table rule => exact Or.inr ⟨table, h⟩

section Counting

variable {us : List Use} {u : Use} {vnfiDict : Dict UUID (List VNFI)}

theorem Counts.hasReassigned_iff (ogates : Dict BaseName (Dict GateKey Nat))
    (h : Counts (u :: us) vnfiDict) :
    (Sibm.mk ogates vnfiDict).hasReassignedVNFI u.vnfi.vnfiID = true ↔
      Present us u.vnfi.vnfiID := by
  have hlength := h.length u.vnfi.vnfiID
  rw [useCount_cons, if_pos rfl] at hlength
  rw [← not_iff_not, ← useCount_eq_zero_iff, Sibm.hasReassignedVNFI]
  dsimp only
  cases hget : vnfiDict.get? u.vnfi.vnfiID with
  | none =>
      rw [hget] at hlength
      cases hlength
  | some l =>
      rw [hget, Option.getD_some] at hlength
      simp only [decide_eq_true_eq]
      omega

theorem Counts.tail (ogates : Dict BaseName (Dict GateKey Nat))
    (h : Counts (u :: us) vnfiDict) :
    Counts us ((Sibm.mk ogates vnfiDict).delVNFI u.vnfi.vnfiID).vnfiDict := by
  have hlength := h.length u.vnfi.vnfiID
  rw [useCount_cons, if_pos rfl] at hlength
  rw [Sibm.delVNFI]
  dsimp only
  cases hget : vnfiDict.get? u.vnfi.vnfiID with
  | none =>
      rw [hget] at hlength
      cases hlength
  | some l =>
      rw [hget, Option.getD_some] at hlength
      have hdrop : l.dropLast.length = useCount us u.vnfi.vnfiID := by
        rw [List.length_dropLast]
        omega
      have hother : ∀ v, v ≠ u.vnfi.vnfiID →
          ((vnfiDict.get? v).getD []).length = useCount us v := by
        intro v hv
        rw [h.length, useCount_cons, if_neg (Ne.symm hv), Nat.add_zero]
      dsimp only
      split
      · next hnil =>
          rw [hnil] at hdrop
          constructor
          · intro v
            rw [Dict.get?_erase]
            split
            · next heq =>
                rw [heq]
                exact hdrop
            · next hne => exact hother v hne
          · intro v
            rw [Dict.get?_erase]
            split
            · simp
            · exact h.ne_nil v
      · next hne_nil =>
          constructor
          · intro v
            rw [Dict.get?_set]
            split
            · next heq =>
                rw [heq]
                exact hdrop
            · next hne => exact hother v hne
          · intro v
            rw [Dict.get?_set]
            split
            · simpa using hne_nil
            · exact h.ne_nil v

end Counting

section Deletion

variable {β : Type} {bess : Bess β} {chainType : ChainType} {side : Side β}
  {B : Set Object} {us : List Use} {ogates ogates' : Dict GateKey Nat} {u : Use}

def ruleList (chainType : ChainType) (u : Use) (ogates : Dict GateKey Nat)
    (ds : List Nat) : List Object :=
  ds.map fun d => ruleObject chainType u d
    ((ogates.get? (.vnfi u.vnfi.vnfiID d)).getD 0)

theorem mem_ruleList {ds : List Nat} (hgates : ∀ d ∈ ds, ∃ g,
      ogates.get? (.vnfi u.vnfi.vnfiID d) = some g) {e : Object} :
    e ∈ ruleList chainType u ogates ds ↔
      e ∈ ruleObjects chainType u ogates ds := by
  rw [ruleList, List.mem_map]
  constructor
  · rintro ⟨d, hd, rfl⟩
    obtain ⟨g, hg⟩ := hgates d hd
    exact ⟨d, hd, g, hg, by rw [hg, Option.getD_some]⟩
  · rintro ⟨d, hd, g, hg, rfl⟩
    exact ⟨d, hd, by rw [hg, Option.getD_some]⟩

theorem nodup_ruleList {ds : List Nat}
    (hrules : (ds.map (u.rule chainType)).Nodup) :
    (ruleList chainType u ogates ds).Nodup := by
  have hsome := hrules.map (Option.some_injective Match)
  rw [List.map_map] at hsome
  refine List.Nodup.of_map (fun e : Object =>
    match e.1 with
    | .rule _ rule => some rule
    | _ => none) ?_
  rw [ruleList, List.map_map]
  exact hsome

theorem destroyable_rule {S : Set Object} {d g : Nat}
    (h : ruleObject chainType u d g ∈ S) :
    pipeline.Destroyable S (ruleObject chainType u d g) := by
  refine ⟨h, fun e' _ hneeds => ?_⟩
  obtain ⟨_, heq⟩ | ⟨_, heq⟩ := exists_of_needs hneeds <;> cases heq

theorem performs_delRules (hbess : bess.Lawful) {P : Sibm → Prop} :
    (sideView bess).Performs pipeline P
      (delRules chainType bess u.sfci u.directions u.vnfi u.vnfiIdx true) ()
      ((ruleList chainType u ogates u.directions).map .destroy) := by
  have hlist : ((ruleList chainType u ogates u.directions).map .destroy :
      List (Change Key Content)) = [] ++ (u.directions.flatMap (fun d =>
        [.destroy (ruleObject chainType u d
          ((ogates.get? (.vnfi u.vnfi.vnfiID d)).getD 0))] ++ []) ++ []) := by
    rw [List.append_nil, ruleList, List.map_map, List.map_eq_flatMap]
    rfl
  rw [hlist]
  refine View.Performs.bind (performs_pauseAll hbess) ?_
  exact View.Performs.bind (View.Performs.forM fun d _ =>
      View.Performs.bind (performs_destroy hbess rfl) (View.Performs.pure ()))
    (performs_resumeAll hbess)

theorem run_delModuleOGate {key : GateKey} {g : Nat}
    (h : side.sibm.ogates.get? chainType.table = some ogates)
    (hg : ogates.get? key = some g) :
    (delModuleOGate chainType.table key).run side = .ok () { side with
      sibm := { side.sibm with
        ogates := side.sibm.ogates.set chainType.table (ogates.erase key) } } := by
  rw [delModuleOGate, PyM.run_bind_ok (run_ogatesOf h), if_pos]
  · rfl
  · rw [Dict.contains, hg]
    rfl

/-- The rule of a direction and those of the directions after it. -/
theorem sdiff_ruleObjects_cons {d g : Nat} {ds : List Nat} {S : Set Object}
    {ogates : Dict GateKey Nat}
    (hg : ogates.get? (.vnfi u.vnfi.vnfiID d) = some g)
    (hkept : ∀ d' ∈ ds, GateKey.vnfi u.vnfi.vnfiID d' ≠ .vnfi u.vnfi.vnfiID d) :
    (S \ {ruleObject chainType u d g}) \
        ruleObjects chainType u (ogates.erase (.vnfi u.vnfi.vnfiID d)) ds =
      S \ ruleObjects chainType u ogates (d :: ds) := by
  ext e
  simp only [Set.mem_sdiff, Set.mem_singleton_iff, ruleObjects,
    Set.mem_ofPred_eq, List.mem_cons, not_exists, not_and, and_assoc]
  refine and_congr_right fun _ => ?_
  constructor
  · rintro ⟨hne, hrest⟩ d' (rfl | hd') g' hg' heq
    · rw [hg] at hg'
      rw [← Option.some.inj hg'] at heq
      exact hne heq
    · refine hrest d' hd' g' ?_ heq
      rw [Dict.get?_erase, if_neg (hkept d' hd')]
      exact hg'
  · intro hall
    refine ⟨fun heq => hall d (Or.inl rfl) g hg heq, ?_⟩
    intro d' hd' g' hg' heq
    rw [Dict.get?_erase, if_neg (hkept d' hd')] at hg'
    exact hall d' (Or.inr hd') g' hg' heq

theorem run_delRuleLoop (hbess : bess.Lawful) {ds : List Nat} {S : Set Object}
    (hogates : side.sibm.ogates.get? chainType.table = some ogates)
    (hs : bess.Shows side.bess S) (hnodup : ds.Nodup)
    (hrules : (ds.map (u.rule chainType)).Nodup)
    (hthere : ∀ d ∈ ds, ∃ g, ogates.get? (.vnfi u.vnfi.vnfiID d) = some g ∧
      ruleObject chainType u d g ∈ S) :
    ∃ ogates' side', (ds.forM (delRule chainType bess u.sfci u.vnfi u.vnfiIdx
        false)).run side = .ok () side' ∧
      side'.sibm.ogates.get? chainType.table = some ogates' ∧
      side'.sibm.vnfiDict = side.sibm.vnfiDict ∧
      (∀ k g, ogates'.get? k = some g ↔
        ogates.get? k = some g ∧ ∀ d ∈ ds, k ≠ .vnfi u.vnfi.vnfiID d) ∧
      bess.Shows side'.bess (S \ ruleObjects chainType u ogates ds) := by
  induction ds generalizing side S ogates with
  | nil =>
      refine ⟨ogates, side, rfl, hogates, rfl, by simp, ?_⟩
      have hnone : ruleObjects chainType u ogates [] = ∅ := by
        ext e
        simp [ruleObjects]
      have hS : S \ ruleObjects chainType u ogates [] = S := by
        ext e
        simp [hnone]
      rw [hS]
      exact hs
  | cons d ds ih =>
      obtain ⟨g, hg, hmem⟩ := hthere d List.mem_cons_self
      rw [List.nodup_cons] at hnodup
      rw [List.map_cons, List.nodup_cons] at hrules
      obtain ⟨side₁, hrun₁, hs₁, hrest₁⟩ := performs_destroy hbess
        (P := fun _ => True) (r := .deleteRule (.base chainType.table)
          (u.rule chainType d)) (e := ruleObject chainType u d g) rfl side S
        trivial hs ⟨destroyable_rule hmem, trivial⟩
      have hsibm₁ : side₁.sibm = side.sibm := hrest₁
      have hrun₂ := run_delModuleOGate (hsibm₁ ▸ hogates) hg
      generalize hside₂ : ({ side₁ with
        sibm := { side₁.sibm with
          ogates := side₁.sibm.ogates.set chainType.table
            (ogates.erase (.vnfi u.vnfi.vnfiID d)) } } : Side β) = side₂ at hrun₂
      have hkept : ∀ d' ∈ ds, GateKey.vnfi u.vnfi.vnfiID d' ≠
          .vnfi u.vnfi.vnfiID d := by
        intro d' hd' heq
        injection heq with _ heq
        exact hnodup.1 (heq ▸ hd')
      have hs₂ : bess.Shows side₂.bess (S \ {ruleObject chainType u d g}) := by
        subst hside₂
        exact hs₁
      have hogates₂ : side₂.sibm.ogates.get? chainType.table =
          some (ogates.erase (.vnfi u.vnfi.vnfiID d)) := by
        subst hside₂
        exact Dict.get?_set_self ..
      obtain ⟨ogates', side', hrun', hogates', hdict', hiff', hs'⟩ :=
        ih hogates₂ hs₂ hnodup.2 hrules.2 (by
          intro d' hd'
          obtain ⟨g', hg', hmem'⟩ := hthere d' (List.mem_cons_of_mem d hd')
          refine ⟨g', ?_, hmem', ?_⟩
          · rw [Dict.get?_erase, if_neg (hkept d' hd')]
            exact hg'
          · intro heq
            have hrule : u.rule chainType d' = u.rule chainType d := by
              injection congrArg Prod.fst heq
            exact hrules.1 (hrule ▸ List.mem_map_of_mem hd'))
      have hfirst : (delRule chainType bess u.sfci u.vnfi u.vnfiIdx false d).run
          side = .ok () side₂ := by
        rw [delRule]
        exact (PyM.run_bind_ok hrun₁ _).trans hrun₂
      refine ⟨ogates', side', (PyM.run_bind_ok hfirst _).trans hrun', hogates',
        ?_, fun k g' => ?_, ?_⟩
      · rw [hdict', ← hside₂, hsibm₁]
      · rw [hiff', Dict.get?_erase, List.forall_mem_cons]
        by_cases hk : k = .vnfi u.vnfi.vnfiID d
        · simp [hk]
        · simp [hk]
      · exact sdiff_ruleObjects_cons (S := S) hg hkept ▸ hs'

theorem run_delRules_last (hbess : bess.Lawful) {S : Set Object}
    (hogates : side.sibm.ogates.get? chainType.table = some ogates)
    (hs : bess.Shows side.bess S) (hnodup : u.directions.Nodup)
    (hrules : (u.directions.map (u.rule chainType)).Nodup)
    (hthere : ∀ d ∈ u.directions, ∃ g,
      ogates.get? (.vnfi u.vnfi.vnfiID d) = some g ∧
        ruleObject chainType u d g ∈ S) :
    ∃ ogates' side', (delRules chainType bess u.sfci u.directions u.vnfi
        u.vnfiIdx false).run side = .ok () side' ∧
      side'.sibm.ogates.get? chainType.table = some ogates' ∧
      side'.sibm.vnfiDict = side.sibm.vnfiDict ∧
      (∀ k g, ogates'.get? k = some g ↔ ogates.get? k = some g ∧
        ∀ d ∈ u.directions, k ≠ .vnfi u.vnfi.vnfiID d) ∧
      bess.Shows side'.bess
        (S \ ruleObjects chainType u ogates u.directions) := by
  obtain ⟨side₁, hrun₁, hs₁, hrest₁⟩ :=
    performs_pauseAll hbess (P := fun _ => True) side S trivial hs trivial
  have hsibm₁ : side₁.sibm = side.sibm := hrest₁
  obtain ⟨ogates', side₂, hrun₂, hogates₂, hdict₂, hiff, hs₂⟩ :=
    run_delRuleLoop hbess (hsibm₁ ▸ hogates) hs₁ hnodup hrules hthere
  obtain ⟨side₃, hrun₃, hs₃, hrest₃⟩ :=
    performs_resumeAll hbess (P := fun _ => True) side₂ _ trivial hs₂ trivial
  have hsibm₃ : side₃.sibm = side₂.sibm := hrest₃
  refine ⟨ogates', side₃, ?_, hsibm₃ ▸ hogates₂, ?_, hiff, hs₃⟩
  · rw [delRules, PyM.run_bind_ok hrun₁, PyM.run_bind_ok hrun₂]
    exact hrun₃
  · rw [hsibm₃, hdict₂, hsibm₁]

theorem Gates.exists_head (hgates : Gates (u :: us) ogates) :
    ∀ d ∈ u.directions, ∃ g, ogates.get? (.vnfi u.vnfi.vnfiID d) = some g :=
  fun d hd => (hgates.used _ d).mpr (used_cons.mpr (Or.inl ⟨rfl, hd⟩))

theorem ruleObjects_disjoint (hbase : IsBase chainType B)
    (huses : UsesOk chainType (u :: us)) {e : Object}
    (he : e ∈ ruleObjects chainType u ogates u.directions) :
    e ∉ required chainType B us ogates' := by
  obtain ⟨d, hd, g, -, rfl⟩ := he
  exact rule_notMem_required hbase huses hd _

/-- Where the VNFI is still used in all directions of the use, only the rules
go. -/
theorem run_delRules_covered (hbess : bess.Lawful)
    (huses : UsesOk chainType (u :: us)) (hpresent : Present us u.vnfi.vnfiID)
    (hcovered : ∀ d ∈ u.directions, Used us u.vnfi.vnfiID d)
    (hside : SideShows chainType bess B (u :: us) ogates side) :
    ∃ ogates' side', (delRules chainType bess u.sfci u.directions u.vnfi
        u.vnfiIdx true).run side = .ok () side' ∧
      side'.sibm.ogates.get? chainType.table = some ogates' ∧
      side'.sibm.vnfiDict = side.sibm.vnfiDict ∧ Gates us ogates' ∧
      bess.Shows side'.bess (required chainType B us ogates') := by
  have hgates := hside.gates.exists_head
  have hmem : ∀ e ∈ ruleList chainType u ogates u.directions,
      e ∈ ruleObjects chainType u ogates u.directions := fun e he =>
    (mem_ruleList hgates).mp he
  have hlegal : pipeline.Legal (required chainType B (u :: us) ogates)
      ((ruleList chainType u ogates u.directions).map .destroy) := by
    apply legal_destroy
    · exact nodup_ruleList huses.head_rules
    · intro e he
      have hrule : e ∈ required chainType B (u :: us) ogates :=
        ruleObjects_subset List.mem_cons_self (hmem e he)
      obtain ⟨d, -, g, -, rfl⟩ := hmem e he
      exact destroyable_rule hrule
  obtain ⟨side', hrun, hs', hrest⟩ := performs_delRules hbess
    (P := fun _ => True) side _ trivial hside.shows hlegal
  have hsibm : side'.sibm = side.sibm := hrest
  refine ⟨ogates, side', hrun, by rw [hsibm]; exact hside.known,
    by rw [hsibm], ⟨hside.gates.default, fun v d => ?_, hside.gates.inj⟩, ?_⟩
  · rw [hside.gates.used, used_cons]
    constructor
    · rintro (⟨rfl, hd⟩ | hd)
      · exact hcovered d hd
      · exact hd
    · exact Or.inr
  · refine Eq.subst ?_ hs'
    rw [after_destroy, required_cons hgates, Set.union_eq_self_of_subset_right
      (datapath_subset hpresent hcovered hgates)]
    ext e
    rw [Set.mem_sdiff, Set.mem_union, Set.mem_ofPred_eq, mem_ruleList hgates]
    constructor
    · rintro ⟨he | he, hnot⟩
      · exact he
      · exact absurd he hnot
    · intro he
      exact ⟨Or.inl he, fun hrule =>
        ruleObjects_disjoint hside.base huses hrule he⟩

/-- The data path of a VNFI that is not used otherwise is not required
otherwise. -/
theorem datapath_disjoint (hbase : IsBase chainType B)
    (hnew : ¬ Present us u.vnfi.vnfiID)
    (hdirections : ∀ d ∈ u.directions, d = 0 ∨ d = 1)
    (hgates : Gates us ogates')
    (hassigned : Assigned u.vnfi.vnfiID u.directions ogates' ogates)
    {e : Object} (he : e ∈ datapath chainType ogates u.vnfi.vnfiID u.directions) :
    e ∉ required chainType B us ogates' := by
  intro h
  obtain (he | he) | he := he
  · exact (creatable_port hbase hnew he).unused e.2 h
  · obtain ⟨d, hd, he⟩ := List.mem_flatMap.mp he
    exact (creatable_module hbase hnew hdirections hd he).unused e.2 (Or.inl h)
  · obtain ⟨d, hd, he⟩ := List.mem_flatMap.mp he
    exact (creatable_link hbase hnew hgates hassigned hd he).unused e.2
      (Or.inl (Or.inl (Or.inl h)))

theorem destroyable_link {S : Set Object} {d : Nat} {e : Object}
    (he : e ∈ linkObjects chainType ogates u.vnfi.vnfiID d) (h : e ∈ S) :
    pipeline.Destroyable S e := by
  refine ⟨h, fun e' _ hneeds => ?_⟩
  obtain rfl | he := List.mem_cons.mp he
  · obtain ⟨_, heq⟩ | ⟨_, heq⟩ := exists_of_needs hneeds <;> cases heq
  · obtain ⟨_, _, rfl, -⟩ := exists_of_mem_innerObjects he
    obtain ⟨_, heq⟩ | ⟨_, heq⟩ := exists_of_needs hneeds <;> cases heq

def unlinkedLast (chainType : ChainType) (B : Set Object) (us : List Use)
    (ogates : Dict GateKey Nat) (u : Use) : Set Object :=
  (required chainType B (u :: us) ogates \ {e | e ∈
      u.directions.flatMap (linkObjects chainType ogates u.vnfi.vnfiID)}) \
    ruleObjects chainType u ogates u.directions

theorem unneeded_module (hbase : IsBase chainType B)
    (hnew : ¬ Present us u.vnfi.vnfiID) {nameClass : NameClass} {d : Nat}
    {e : Object} (he : e ∈ unlinkedLast chainType B us ogates u) :
    ¬ pipeline.needs e (.module (.vnfi nameClass u.vnfi.vnfiID d)) := by
  obtain ⟨⟨he, hlink⟩, -⟩ := he
  intro hneeds
  obtain ⟨key, content⟩ := e
  cases key with
  | port n => exact hneeds
  | module n =>
      cases content with
      | module mclass port =>
          cases port with
          | none => exact hneeds
          | some p => cases hneeds
      | port => exact hneeds
      | link m2 igate => exact hneeds
      | rule gate => exact hneeds
  | gate n g =>
      cases content with
      | port => exact hneeds
      | module mclass port => exact hneeds
      | rule gate => exact hneeds
      | link m2 igate =>
          have hown : ∀ {v d'}, Used (u :: us) v d' → v = u.vnfi.vnfiID →
              d' ∈ u.directions := by
            rintro v d' hused rfl
            obtain ⟨-, hd'⟩ | hused := used_cons.mp hused
            · exact hd'
            · exact absurd hused.present hnew
          obtain hB | ⟨v, d', hused, hmem⟩ | ⟨v, d', hused, hg, heq⟩ :=
            required_gate he
          · obtain ⟨⟨b, rfl⟩, -, hm2⟩ := hbase.gate hB
            obtain ⟨b', rfl⟩ := hm2 m2 igate rfl
            obtain hneeds | hneeds := hneeds <;> cases hneeds
          · obtain ⟨_, _, heq, hm2, -⟩ := exists_of_mem_innerObjects hmem
            cases heq
            have hv : v = u.vnfi.vnfiID := by
              obtain hneeds | hneeds := hneeds
              · cases hneeds
                rfl
              · obtain rfl | ⟨_, rfl⟩ := hm2
                · cases hneeds
                · cases hneeds
                  rfl
            subst hv
            exact hlink (List.mem_flatMap.mpr ⟨d', hown hused rfl,
              List.mem_cons_of_mem _ hmem⟩)
          · cases heq
            have hv : v = u.vnfi.vnfiID := by
              obtain hneeds | hneeds := hneeds <;> cases hneeds
              rfl
            subst hv
            refine hlink (List.mem_flatMap.mpr ⟨d', hown hused rfl, ?_⟩)
            rw [linkObjects, hg]
            exact List.mem_cons_self
  | rule table rule =>
      have htable : ∃ b, table = .base b := by
        obtain hB | ⟨_, _, _, _, _, _, heq⟩ := required_rule he
        · exact (hbase.rule hB).1
        · cases heq
          exact ⟨_, rfl⟩
      obtain ⟨b, rfl⟩ := htable
      cases hneeds

theorem unneeded_port (hbase : IsBase chainType B)
    (hnew : ¬ Present us u.vnfi.vnfiID) {d : Nat} {e : Object}
    (he : e ∈ unlinkedLast chainType B us ogates u)
    (hgone : e ∉ u.directions.flatMap
      (moduleObjects chainType u.vnfi.vnfiID)) :
    ¬ pipeline.needs e (.port (.vnfi .pmdPort u.vnfi.vnfiID d)) := by
  obtain ⟨⟨he, -⟩, -⟩ := he
  intro hneeds
  obtain ⟨key, content⟩ := e
  cases key with
  | port n => exact hneeds
  | module n =>
      cases content with
      | module mclass port =>
          cases port with
          | none => exact hneeds
          | some p =>
              cases hneeds
              obtain hB | ⟨v, d', hused, hmem⟩ := required_module he
              · obtain ⟨b, hname⟩ := (hbase.module hB).2 _ _ rfl
                cases hname
              · have hv : v = u.vnfi.vnfiID := by
                  obtain ⟨-, hp⟩ | ⟨-, hp⟩ := port_of_mem_moduleObjects hmem <;>
                    cases hp <;> rfl
                subst hv
                obtain ⟨-, hd'⟩ | hused := used_cons.mp hused
                · exact hgone (List.mem_flatMap.mpr ⟨d', hd', hmem⟩)
                · exact hnew hused.present
      | port => exact hneeds
      | link m2 igate => exact hneeds
      | rule gate => exact hneeds
  | gate n g =>
      cases content with
      | link m2 igate => obtain hneeds | hneeds := hneeds <;> cases hneeds
      | port => exact hneeds
      | module mclass port => exact hneeds
      | rule gate => exact hneeds
  | rule table rule => cases hneeds

/-- What the gates are without those of a use whose VNFI is not used otherwise. -/
theorem Gates.tail (hgates : Gates (u :: us) ogates)
    (hnew : ¬ Present us u.vnfi.vnfiID)
    (hiff : ∀ k g, ogates'.get? k = some g ↔ ogates.get? k = some g ∧
      ∀ d ∈ u.directions, k ≠ .vnfi u.vnfi.vnfiID d) :
    Gates us ogates' ∧
      Assigned u.vnfi.vnfiID u.directions ogates' ogates := by
  refine ⟨⟨?_, fun v d => ?_, fun k k' g hk hk' => ?_⟩, ⟨?_, ?_, ?_, ?_⟩⟩
  · exact (hiff _ _).mpr ⟨hgates.default, fun d _ => (nomatch ·)⟩
  · constructor
    · rintro ⟨g, hg⟩
      obtain ⟨hg, hother⟩ := (hiff _ _).mp hg
      obtain ⟨rfl, hd⟩ | hused :=
        used_cons.mp ((hgates.used v d).mp ⟨g, hg⟩)
      · exact absurd rfl (hother d hd)
      · exact hused
    · intro hused
      obtain ⟨g, hg⟩ := (hgates.used v d).mpr (used_cons.mpr (Or.inr hused))
      refine ⟨g, (hiff _ _).mpr ⟨hg, fun d' _ heq => ?_⟩⟩
      injection heq with hv
      exact hnew (hv ▸ hused.present)
  · exact hgates.inj k k' g ((hiff k g).mp hk).1 ((hiff k' g).mp hk').1
  · exact fun k g hk => ((hiff k g).mp hk).1
  · intro k g hk
    by_cases hown : ∃ d ∈ u.directions, k = .vnfi u.vnfi.vnfiID d
    · exact Or.inr hown
    · refine Or.inl ((hiff k g).mpr ⟨hk, fun d hd heq => ?_⟩)
      exact hown ⟨d, hd, heq⟩
  · exact hgates.exists_head
  · exact fun _ => hgates.inj

section LastUse

variable (hnew : ¬ Present us u.vnfi.vnfiID)
  (hside : SideShows chainType bess B (u :: us) ogates side)

include hside in
theorem datapath_there : datapath chainType ogates u.vnfi.vnfiID u.directions ⊆
    required chainType B (u :: us) ogates :=
  datapath_subset (present_cons.mpr (Or.inl rfl))
    (fun _ hd => used_cons.mpr (Or.inl ⟨rfl, hd⟩)) hside.gates.exists_head

include hside in
theorem legal_delLinks (hnodup : u.directions.Nodup) :
    pipeline.Legal (required chainType B (u :: us) ogates)
      ((u.directions.flatMap (linkObjects chainType ogates u.vnfi.vnfiID)).map
        .destroy) := by
  apply legal_destroy
  · exact (pairwise_links hside.gates hnodup).imp fun h heq => h.1 (congrArg Prod.fst heq)
  · intro e he
    obtain ⟨d, -, hd⟩ := List.mem_flatMap.mp he
    exact destroyable_link hd (datapath_there hside (Or.inr he))

/-- An object of the data path that is neither a link nor a rule is left when the
links and the rules are gone. -/
theorem mem_unlinkedLast {e : Object}
    (he : e ∈ required chainType B (u :: us) ogates)
    (hgate : ∀ n g, e.1 ≠ .gate n g) (hrule : ∀ t m, e.1 ≠ .rule t m) :
    e ∈ unlinkedLast chainType B us ogates u := by
  refine ⟨⟨he, fun hlink => ?_⟩, fun hmem => ?_⟩
  · obtain ⟨d, -, hlink⟩ := List.mem_flatMap.mp hlink
    obtain rfl | hlink := List.mem_cons.mp hlink
    · exact hgate _ _ rfl
    · obtain ⟨_, _, rfl, -⟩ := exists_of_mem_innerObjects hlink
      exact hgate _ _ rfl
  · obtain ⟨_, _, _, _, rfl⟩ := hmem
    exact hrule _ _ rfl

include hnew hside in
theorem legal_delModules (huses : UsesOk chainType (u :: us)) :
    pipeline.Legal (unlinkedLast chainType B us ogates u)
      ((u.directions.flatMap (moduleObjects chainType u.vnfi.vnfiID) ++
        portObjects u.vnfi.vnfiID).map .destroy) := by
  have hdirections := huses.direction u List.mem_cons_self
  have hnodup := huses.nodup u List.mem_cons_self
  rw [List.map_append, legal_append, after_destroy]
  constructor
  · apply legal_destroy
    · exact (pairwise_modules hnodup hdirections).imp
        fun h heq => h.1 (congrArg Prod.fst heq)
    · intro e he
      have hthere : e ∈ required chainType B (u :: us) ogates :=
        datapath_there hside (Or.inl (Or.inr he))
      obtain ⟨d, -, he⟩ := List.mem_flatMap.mp he
      obtain ⟨_, _, _, rfl, -⟩ := exists_of_mem_moduleObjects he
      exact ⟨mem_unlinkedLast hthere (by rintro _ _ ⟨⟩) (by rintro _ _ ⟨⟩),
        fun e' he' => unneeded_module hside.base hnew he'⟩
  · apply legal_destroy
    · simp [portObjects, portObject]
    · intro e he
      have hthere : e ∈ required chainType B (u :: us) ogates :=
        datapath_there hside (Or.inl (Or.inl he))
      obtain ⟨d, -, rfl⟩ := mem_portObjects.mp he
      refine ⟨⟨mem_unlinkedLast hthere (by rintro _ _ ⟨⟩) (by rintro _ _ ⟨⟩),
        fun hmem => ?_⟩, ?_⟩
      · obtain ⟨_, -, hmem⟩ := List.mem_flatMap.mp hmem
        obtain ⟨_, _, _, heq, -⟩ := exists_of_mem_moduleObjects hmem
        cases heq
      · exact fun e' he' => unneeded_port hside.base hnew he'.1 he'.2

include hnew hside in
theorem required_tail (huses : UsesOk chainType (u :: us))
    (hiff : ∀ k g, ogates'.get? k = some g ↔ ogates.get? k = some g ∧
      ∀ d ∈ u.directions, k ≠ .vnfi u.vnfi.vnfiID d) :
    (unlinkedLast chainType B us ogates u \ {e | e ∈
        u.directions.flatMap (moduleObjects chainType u.vnfi.vnfiID)}) \
      {e | e ∈ portObjects u.vnfi.vnfiID} =
    required chainType B us ogates' := by
  obtain ⟨hgates', hassigned⟩ := hside.gates.tail hnew hiff
  have hkept : required chainType B us ogates = required chainType B us ogates' :=
    required_congr fun v d hd g => hgates'.iff_of_used hassigned hd g
  have hdirections := huses.direction u List.mem_cons_self
  have hdisjoint : ∀ e ∈ required chainType B us ogates', e ∉
      datapath chainType ogates u.vnfi.vnfiID u.directions := fun e he hmem =>
    datapath_disjoint hside.base hnew hdirections hgates' hassigned hmem he
  have hrules : ∀ e ∈ required chainType B us ogates', e ∉
      ruleObjects chainType u ogates u.directions := fun e he hmem =>
    ruleObjects_disjoint hside.base huses hmem he
  rw [unlinkedLast, required_cons hside.gates.exists_head, hkept, datapath]
  ext e
  have hd := hdisjoint e
  have hr := hrules e
  rw [datapath] at hd
  simp only [Set.mem_sdiff, Set.mem_union, Set.mem_ofPred_eq, not_or] at hd hr ⊢
  tauto

end LastUse

theorem run_delDatapath_last (hbess : bess.Lawful)
    (huses : UsesOk chainType (u :: us)) (hnew : ¬ Present us u.vnfi.vnfiID)
    (hside : SideShows chainType bess B (u :: us) ogates side) :
    ∃ ogates' side', (do
        delLinks chainType bess u.directions u.vnfi
        delRules chainType bess u.sfci u.directions u.vnfi u.vnfiIdx false
        delModules chainType bess u.directions u.vnfi : PyM (Side β) Unit).run
        side = .ok () side' ∧
      side'.sibm.ogates.get? chainType.table = some ogates' ∧
      side'.sibm.vnfiDict = side.sibm.vnfiDict ∧ Gates us ogates' ∧
      bess.Shows side'.bess (required chainType B us ogates') := by
  have hnodup := huses.nodup u List.mem_cons_self
  have hgates := hside.gates.exists_head
  obtain ⟨side₁, hrun₁, hs₁, hrest₁⟩ := performs_delLinks hbess hgates side _
    hside.known hside.shows (legal_delLinks hside hnodup)
  have hsibm₁ : side₁.sibm = side.sibm := hrest₁
  rw [after_destroy] at hs₁
  obtain ⟨ogates', side₂, hrun₂, hogates₂, hdict₂, hiff, hs₂⟩ :=
    run_delRules_last hbess (hsibm₁ ▸ hside.known) hs₁ hnodup huses.head_rules (by
      intro d hd
      obtain ⟨g, hg⟩ := hgates d hd
      refine ⟨g, hg, .rule List.mem_cons_self hd hg, fun hmem => ?_⟩
      obtain ⟨_, -, hmem⟩ := List.mem_flatMap.mp hmem
      obtain heq | hmem := List.mem_cons.mp hmem
      · cases heq
      · obtain ⟨_, _, heq, -⟩ := exists_of_mem_innerObjects hmem
        cases heq)
  obtain ⟨side₃, hrun₃, hs₃, hrest₃⟩ := performs_delModules hbess
    (P := fun _ => True) side₂ _ trivial hs₂ (legal_delModules hnew hside huses)
  have hsibm₃ : side₃.sibm = side₂.sibm := hrest₃
  rw [List.map_append, after_append, after_destroy, after_destroy] at hs₃
  refine ⟨ogates', side₃, ?_, hsibm₃ ▸ hogates₂, ?_,
    (hside.gates.tail hnew hiff).1, ?_⟩
  · rw [PyM.run_bind_ok hrun₁, PyM.run_bind_ok hrun₂]
    exact hrun₃
  · rw [hsibm₃, hdict₂, hsibm₁]
  · rw [← required_tail hnew hside huses hiff]
    exact hs₃

/-- A use whose VNFI is not used otherwise, or is used otherwise in all its
directions, is deleted. -/
theorem run_delFromSide (hbess : bess.Lawful)
    (huses : UsesOk chainType (u :: us))
    (hcovered : Present us u.vnfi.vnfiID →
      ∀ d ∈ u.directions, Used us u.vnfi.vnfiID d)
    (hside : SideOk chainType bess B (u :: us) side) :
    ∃ side', (delFromSide chainType bess u.sfci u.directions u.vnfi
        u.vnfiIdx).run side = .ok () side' ∧
      SideOk chainType bess B us side' := by
  obtain ⟨ogates, hside⟩ := hside
  have hdatapath : ∃ ogates' side', (delDatapath chainType bess u.sfci
        u.directions u.vnfi u.vnfiIdx).run side = .ok () side' ∧
      side'.sibm.ogates.get? chainType.table = some ogates' ∧
      side'.sibm.vnfiDict = side.sibm.vnfiDict ∧ Gates us ogates' ∧
      bess.Shows side'.bess (required chainType B us ogates') := by
    rw [delDatapath, PyM.run_bind_get]
    have hiff := hside.counts.hasReassigned_iff side.sibm.ogates
    by_cases hpresent : Present us u.vnfi.vnfiID
    · rw [if_pos (hiff.mpr hpresent)]
      exact run_delRules_covered hbess huses hpresent (hcovered hpresent) hside
    · rw [if_neg (fun h => hpresent (hiff.mp h))]
      exact run_delDatapath_last hbess huses hpresent hside
  obtain ⟨ogates', side', hrun, hknown, hdict, hgates, hshows⟩ := hdatapath
  refine ⟨{ side' with sibm := side'.sibm.delVNFI u.vnfi.vnfiID }, ?_,
    ogates', hside.base, ?_, hgates, hshows, ?_⟩
  · rw [delFromSide, PyM.run_bind_ok hrun]
    rfl
  · rw [← hknown, Sibm.delVNFI]
    dsimp only
    split <;> rfl
  · have htail := hside.counts.tail side'.sibm.ogates
    rw [← hdict] at htail
    exact htail

end Deletion

end SelfAdaptiveMano.Sff

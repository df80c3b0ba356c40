import SelfAdaptiveMano.Sff.SideState

/-!
# The addition of a use on a server

A use of a VNFI that is not there yet creates the whole data path of the VNFI in
the directions of the use. A further use only adds its rules, so it must not have
a direction in which the VNFI has not been used.
-/

namespace SelfAdaptiveMano.Sff

open Library Library.Objects

section Addition

variable {β : Type} {bess : Bess β} {chainType : ChainType} {side : Side β}
  {B : Set Object} {us : List Use} {ogates ogates' : Dict GateKey Nat} {u : Use}

theorem run_addRules (hbess : bess.Lawful) {S : Set Object}
    (hogates : side.sibm.ogates.get? chainType.table = some ogates)
    (hs : bess.Shows side.bess S)
    (htable : ∃ c, (.module (.base chainType.table), c) ∈ S)
    (hnodup : (u.directions.map (u.rule chainType)).Nodup)
    (hunused : ∀ d ∈ u.directions, ∀ c,
      (.rule (.base chainType.table) (u.rule chainType d), c) ∉ S) :
    ∃ ogates' side', (addRules chainType bess u.sfci u.directions u.vnfi
        u.vnfiIdx).run side = .ok () side' ∧
      side'.sibm.ogates.get? chainType.table = some ogates' ∧
      side'.sibm.vnfiDict = side.sibm.vnfiDict ∧
      Assigned u.vnfi.vnfiID u.directions ogates ogates' ∧
      bess.Shows side'.bess
        (S ∪ ruleObjects chainType u ogates' u.directions) := by
  obtain ⟨side₁, hrun₁, hs₁, hrest₁⟩ :=
    performs_pauseAll hbess (P := fun _ => True) side S trivial hs trivial
  have hsibm₁ : side₁.sibm = side.sibm := hrest₁
  obtain ⟨ogates', side₂, hrun₂, hogates₂, hdict₂, hassigned, hs₂⟩ :=
    run_addRuleLoop hbess (hsibm₁ ▸ hogates) hs₁ htable hnodup hunused
  obtain ⟨side₃, hrun₃, hs₃, hrest₃⟩ :=
    performs_resumeAll hbess (P := fun _ => True) side₂ _ trivial hs₂ trivial
  have hsibm₃ : side₃.sibm = side₂.sibm := hrest₃
  refine ⟨ogates', side₃, ?_, hsibm₃ ▸ hogates₂, ?_, hassigned, hs₃⟩
  · rw [addRules, PyM.run_bind_ok hrun₁, PyM.run_bind_ok hrun₂]
    exact hrun₃
  · rw [hsibm₃, hdict₂, hsibm₁]

theorem table_required (hbase : IsBase chainType B) :
    ∃ c, (.module (.base chainType.table), c) ∈
      required chainType B us ogates := by
  obtain ⟨c, hc⟩ := hbase.table
  exact ⟨c, .base hc⟩

theorem rule_notMem_required (hbase : IsBase chainType B)
    (huses : UsesOk chainType (u :: us)) {d : Nat} (hd : d ∈ u.directions)
    (c : Content) : (.rule (.base chainType.table) (u.rule chainType d), c) ∉
      required chainType B us ogates := by
  intro h
  obtain hB | ⟨u', d', g, hu', hd', -, heq⟩ := required_rule h
  · exact (hbase.rule hB).2 rfl
  · have hrule : u.rule chainType d = u'.rule chainType d' := by
      injection congrArg Prod.fst heq
    have hdisjoint := (List.nodup_append.mp huses.rules).2.2
    refine hdisjoint _ (List.mem_map_of_mem hd) _ ?_ hrule
    exact List.mem_flatMap.mpr ⟨u', hu', List.mem_map_of_mem hd'⟩

theorem UsesOk.head_rules (huses : UsesOk chainType (u :: us)) :
    (u.directions.map (u.rule chainType)).Nodup :=
  (List.nodup_append.mp huses.rules).1

theorem run_addRules_covered (hbess : bess.Lawful)
    (huses : UsesOk chainType (u :: us)) (hpresent : Present us u.vnfi.vnfiID)
    (hcovered : ∀ d ∈ u.directions, Used us u.vnfi.vnfiID d)
    (hside : SideShows chainType bess B us ogates side) :
    ∃ ogates' side', (addRules chainType bess u.sfci u.directions u.vnfi
        u.vnfiIdx).run side = .ok () side' ∧
      side'.sibm.ogates.get? chainType.table = some ogates' ∧
      side'.sibm.vnfiDict = side.sibm.vnfiDict ∧ Gates (u :: us) ogates' ∧
      bess.Shows side'.bess (required chainType B (u :: us) ogates') := by
  obtain ⟨ogates', side', hrun, hogates', hdict, hassigned, hshows⟩ :=
    run_addRules hbess hside.known hside.shows (table_required hside.base)
      huses.head_rules fun d hd => rule_notMem_required hside.base huses hd
  refine ⟨ogates', side', hrun, hogates', hdict, hside.gates.cons hassigned, ?_⟩
  have hkept : required chainType B us ogates' =
      required chainType B us ogates :=
    required_congr fun v d hd g => hside.gates.iff_of_used hassigned hd g
  rw [required_cons hassigned.all, Set.union_eq_self_of_subset_right
    (datapath_subset hpresent hcovered hassigned.all), hkept]
  exact hshows

theorem exists_of_excludes {e e' : Object} (h : pipeline.excludes e e') :
    ∃ n n' mclass p, e = (.module n, .module mclass (some p)) ∧
      e' = (.module n', .module mclass (some p)) := by
  obtain ⟨key, content⟩ := e
  obtain ⟨key', content'⟩ := e'
  cases key <;> cases content <;> try exact h.elim
  next n mclass port =>
    cases port with
    | none => exact h.elim
    | some p =>
        cases key' <;> cases content' <;> try exact h.elim
        next n' mclass' port' =>
          cases port' with
          | none => exact h.elim
          | some p' =>
              obtain ⟨rfl, rfl⟩ := h
              exact ⟨n, n', mclass, p, rfl, rfl⟩

theorem port_of_mem_moduleObjects {v : UUID} {d : Nat} {n p : Name}
    {mclass : ModuleClass}
    (h : (.module n, .module mclass (some p)) ∈ moduleObjects chainType v d) :
    (mclass = .queueInc ∧ p = .vnfi .pmdPort v (1 - d)) ∨
      (mclass = .queueOut ∧ p = .vnfi .pmdPort v d) := by
  obtain ⟨_, _, _, heq, -, hport⟩ := exists_of_mem_moduleObjects h
  cases heq
  obtain ⟨-, hmclass, hp⟩ | ⟨-, hmclass, hp⟩ := hport p rfl
  · exact Or.inl ⟨hmclass, hp⟩
  · exact Or.inr ⟨hmclass, hp⟩

theorem present_of_required_module (hbase : IsBase chainType B) {n : Name}
    {mclass : ModuleClass} {v : UUID} {d : Nat}
    (h : (.module n, .module mclass (some (.vnfi .pmdPort v d))) ∈
      required chainType B us ogates) : Present us v := by
  obtain hB | ⟨v', d', hused, hmem⟩ := required_module h
  · obtain ⟨b, hname⟩ := (hbase.module hB).2 _ _ rfl
    cases hname
  · obtain ⟨-, hp⟩ | ⟨-, hp⟩ := port_of_mem_moduleObjects hmem
    · cases hp
      exact hused.present
    · cases hp
      exact hused.present

theorem pairwise_modules {v : UUID} {ds : List Nat} (hnodup : ds.Nodup)
    (hds : ∀ d ∈ ds, d = 0 ∨ d = 1) :
    (ds.flatMap (moduleObjects chainType v)).Pairwise fun e e' =>
      e.1 ≠ e'.1 ∧ ¬ pipeline.excludes e' e := by
  rw [List.pairwise_flatMap]
  constructor
  · intro d _
    cases chainType <;>
      simp [moduleObjects, checksumObjects, pipeline]
  · refine List.Pairwise.imp_of_mem ?_ hnodup
    intro d d' hd hd' hne e he e' he'
    refine ⟨fun hkey => ?_, fun hexcludes => ?_⟩
    · obtain ⟨_, _, _, rfl, -⟩ := exists_of_mem_moduleObjects he
      obtain ⟨_, _, _, rfl, -⟩ := exists_of_mem_moduleObjects he'
      injection hkey with hname
      injection hname with _ _ heq
      exact hne heq
    · obtain ⟨n, n', mclass, p, rfl, rfl⟩ := exists_of_excludes hexcludes
      have hd01 := hds d hd
      have hd01' := hds d' hd'
      obtain ⟨hm, hp⟩ | ⟨hm, hp⟩ := port_of_mem_moduleObjects he <;>
        obtain ⟨hm', hp'⟩ | ⟨hm', hp'⟩ := port_of_mem_moduleObjects he'
      · have heq : 1 - d = 1 - d' := by injection hp.symm.trans hp'
        omega
      · rw [hm] at hm'
        cases hm'
      · rw [hm] at hm'
        cases hm'
      · have heq : d = d' := by injection hp.symm.trans hp'
        exact hne heq

/-- The pipeline before the links of a new VNFI are made. -/
def unlinked (chainType : ChainType) (B : Set Object) (us : List Use)
    (ogates ogates' : Dict GateKey Nat) (u : Use) : Set Object :=
  required chainType B us ogates ∪ {e | e ∈ portObjects u.vnfi.vnfiID} ∪
    {e | e ∈ u.directions.flatMap (moduleObjects chainType u.vnfi.vnfiID)} ∪
    ruleObjects chainType u ogates' u.directions

theorem gate_of_unlinked {n : Name} {g : Nat} {c : Content}
    (h : (.gate n g, c) ∈ unlinked chainType B us ogates ogates' u) :
    (.gate n g, c) ∈ required chainType B us ogates := by
  obtain ((h | h) | h) | ⟨_, _, _, _, heq⟩ := h
  · exact h
  · obtain ⟨_, -, heq⟩ := mem_portObjects.mp h
    cases heq
  · obtain ⟨_, -, h⟩ := List.mem_flatMap.mp h
    obtain ⟨_, _, _, heq, -⟩ := exists_of_mem_moduleObjects h
    cases heq
  · cases heq

section NewDatapath

variable (hbase : IsBase chainType B) (hnew : ¬ Present us u.vnfi.vnfiID)
  (hdirections : ∀ d ∈ u.directions, d = 0 ∨ d = 1)

include hbase hnew

theorem creatable_port {e : Object} (he : e ∈ portObjects u.vnfi.vnfiID) :
    pipeline.Creatable (required chainType B us ogates) e := by
  obtain ⟨d, -, rfl⟩ := mem_portObjects.mp he
  refine ⟨fun c hc => ?_, fun _ hk => hk.elim, fun _ _ h => h.elim⟩
  obtain hB | ⟨v, hv, hmem⟩ := required_port hc
  · obtain ⟨b, hname⟩ := hbase.port hB
    cases hname
  · obtain ⟨d', -, heq⟩ := mem_portObjects.mp hmem
    cases heq
    exact hnew hv

theorem legal_ports : pipeline.Legal (required chainType B us ogates)
    ((portObjects u.vnfi.vnfiID).map .create) := by
  refine legal_create (fun e he => creatable_port hbase hnew he) ?_
  simp [portObjects, portObject, pipeline]

include hdirections in
theorem creatable_module {d : Nat} (hd : d ∈ u.directions) {e : Object}
    (he : e ∈ moduleObjects chainType u.vnfi.vnfiID d) :
    pipeline.Creatable (required chainType B us ogates ∪
      {e | e ∈ portObjects u.vnfi.vnfiID}) e := by
  obtain ⟨nameClass, mclass, port, rfl, -⟩ := exists_of_mem_moduleObjects he
  have hports : ∀ p, port = some p → ∃ d', (d' = 0 ∨ d' = 1) ∧
      p = .vnfi .pmdPort u.vnfi.vnfiID d' := by
    rintro p rfl
    have hd01 := hdirections d hd
    obtain ⟨-, rfl⟩ | ⟨-, rfl⟩ := port_of_mem_moduleObjects he
    · exact ⟨1 - d, by omega, rfl⟩
    · exact ⟨d, hd01, rfl⟩
  refine ⟨?_, fun k hk => ?_, fun e' he' hexcludes => ?_⟩
  · rintro c (hc | hc)
    · obtain hB | ⟨v, d', hused, hmem⟩ := required_module hc
      · obtain ⟨⟨b, hname⟩, -⟩ := hbase.module hB
        cases hname
      · obtain ⟨_, _, _, heq, -⟩ := exists_of_mem_moduleObjects hmem
        cases heq
        exact hnew hused.present
    · obtain ⟨d', -, heq⟩ := mem_portObjects.mp hc
      cases heq
  · cases port with
    | none => exact hk.elim
    | some p =>
        obtain ⟨d', hd', rfl⟩ := hports p rfl
        obtain rfl := hk
        exact ⟨.port, Or.inr (mem_portObjects.mpr ⟨d', hd', rfl⟩)⟩
  · obtain ⟨n, n', mclass', p, heq, rfl⟩ := exists_of_excludes hexcludes
    cases heq
    obtain ⟨d', -, rfl⟩ := hports p rfl
    obtain he' | he' := he'
    · exact hnew (present_of_required_module hbase he')
    · obtain ⟨_, -, heq⟩ := mem_portObjects.mp he'
      cases heq

include hdirections in
theorem legal_modules (hnodup : u.directions.Nodup) :
    pipeline.Legal (required chainType B us ogates ∪
        {e | e ∈ portObjects u.vnfi.vnfiID})
      ((u.directions.flatMap (moduleObjects chainType u.vnfi.vnfiID)).map
        .create) := by
  refine legal_create (fun e he => ?_) (pairwise_modules hnodup hdirections)
  obtain ⟨d, hd, he⟩ := List.mem_flatMap.mp he
  exact creatable_module hbase hnew hdirections hd he

theorem creatable_link (hgates : Gates us ogates)
    (hassigned : Assigned u.vnfi.vnfiID u.directions ogates ogates') {d : Nat}
    (hd : d ∈ u.directions) {e : Object}
    (he : e ∈ linkObjects chainType ogates' u.vnfi.vnfiID d) :
    pipeline.Creatable (unlinked chainType B us ogates ogates' u) e := by
  have hgates' := hgates.cons hassigned
  have htable : ∃ c, (.module (.base chainType.table), c) ∈
      unlinked chainType B us ogates ogates' u := by
    obtain ⟨c, hc⟩ := table_required hbase
    exact ⟨c, Or.inl (Or.inl (Or.inl hc))⟩
  have hmodule : ∀ {n c}, (.module n, c) ∈
      moduleObjects chainType u.vnfi.vnfiID d → (.module n, c) ∈
        unlinked chainType B us ogates ogates' u := fun h =>
    Or.inl (Or.inr (List.mem_flatMap.mpr ⟨d, hd, h⟩))
  obtain rfl | he := List.mem_cons.mp he
  · obtain ⟨g, hg⟩ := hassigned.all d hd
    rw [hg]
    refine ⟨fun c hc => ?_, ?_, fun _ _ h => h⟩
    · obtain hB | ⟨v, d', -, hmem⟩ | ⟨v, d', hused, hg', -⟩ :=
        required_gate (gate_of_unlinked hc)
      · rw [Option.getD_some] at hB
        rw [(hbase.gate hB).2.1 rfl] at hg
        cases hgates'.inj _ _ 0 hg hgates'.default
      · obtain ⟨_, _, heq, -⟩ := exists_of_mem_innerObjects hmem
        cases heq
      · cases hgates'.inj _ _ g hg (hassigned.kept _ _ hg')
        exact hnew hused.present
    · rintro k (rfl | rfl)
      · exact htable
      · exact ⟨_, hmodule (List.mem_cons_of_mem _ List.mem_cons_self)⟩
  · obtain ⟨nameClass, m2, rfl, -, c₁, c₂, hm1, hm2⟩ :=
      exists_of_mem_innerObjects he
    refine ⟨fun c hc => ?_, ?_, fun _ _ h => h⟩
    · obtain hB | ⟨v, d', hused, hmem⟩ | ⟨v, d', -, -, heq⟩ :=
        required_gate (gate_of_unlinked hc)
      · obtain ⟨⟨b, hname⟩, -⟩ := hbase.gate hB
        cases hname
      · obtain ⟨_, _, heq, -⟩ := exists_of_mem_innerObjects hmem
        cases heq
        exact hnew hused.present
      · cases heq
    · rintro k (rfl | rfl)
      · exact ⟨c₁, hmodule hm1⟩
      · obtain rfl | hm2 := hm2
        · exact htable
        · exact ⟨c₂, hmodule hm2⟩

omit hbase hnew in
theorem pairwise_links (hgates : Gates (u :: us) ogates')
    (hnodup : u.directions.Nodup) :
    (u.directions.flatMap (linkObjects chainType ogates' u.vnfi.vnfiID)).Pairwise
      fun e e' => e.1 ≠ e'.1 ∧ ¬ pipeline.excludes e' e := by
  have hgate : ∀ d ∈ u.directions, ∃ g,
      ogates'.get? (.vnfi u.vnfi.vnfiID d) = some g := fun d hd =>
    (hgates.used _ d).mpr (used_cons.mpr (Or.inl ⟨rfl, hd⟩))
  rw [List.pairwise_flatMap]
  constructor
  · intro d _
    cases chainType <;>
      simp [linkObjects, gateObject, innerObjects, innerLinks, linkObject,
        pipeline]
  · refine List.Pairwise.imp_of_mem ?_ hnodup
    intro d d' hd hd' hne e he e' he'
    obtain ⟨g, hg⟩ := hgate d hd
    obtain ⟨g', hg'⟩ := hgate d' hd'
    have hgg' : g ≠ g' := by
      rintro rfl
      cases hgates.inj _ _ g hg hg'
      exact hne rfl
    rw [linkObjects, hg] at he
    rw [linkObjects, hg'] at he'
    obtain rfl | he := List.mem_cons.mp he
    · obtain rfl | he' := List.mem_cons.mp he'
      · refine ⟨fun hkey => ?_, id⟩
        injection hkey with _ heq
        exact hgg' heq
      · obtain ⟨_, _, rfl, -⟩ := exists_of_mem_innerObjects he'
        exact ⟨by rintro ⟨⟩, id⟩
    · obtain ⟨_, _, rfl, -⟩ := exists_of_mem_innerObjects he
      obtain rfl | he' := List.mem_cons.mp he'
      · exact ⟨by rintro ⟨⟩, id⟩
      · obtain ⟨_, _, rfl, -⟩ := exists_of_mem_innerObjects he'
        refine ⟨fun hkey => ?_, id⟩
        injection hkey with hname
        injection hname with _ _ heq
        exact hne heq

end NewDatapath

theorem run_addDatapath_new (hbess : bess.Lawful)
    (huses : UsesOk chainType (u :: us)) (hnew : ¬ Present us u.vnfi.vnfiID)
    (hread : ∀ d ∈ u.directions, ∃ arg,
      updateArg chainType u.server u.sfci u.vnfi u.vnfiIdx d = .ok arg)
    (hside : SideShows chainType bess B us ogates side) :
    ∃ ogates' side', (do
        addModules chainType bess u.server u.sfci u.directions u.vnfi u.vnfiIdx
        addRules chainType bess u.sfci u.directions u.vnfi u.vnfiIdx
        addLinks chainType bess u.directions u.vnfi :
          PyM (Side β) Unit).run side = .ok () side' ∧
      side'.sibm.ogates.get? chainType.table = some ogates' ∧
      side'.sibm.vnfiDict = side.sibm.vnfiDict ∧ Gates (u :: us) ogates' ∧
      bess.Shows side'.bess (required chainType B (u :: us) ogates') := by
  have hdirections := huses.direction u List.mem_cons_self
  have hnodup := huses.nodup u List.mem_cons_self
  have hlegal : pipeline.Legal (required chainType B us ogates)
      ((portObjects u.vnfi.vnfiID ++ u.directions.flatMap
        (moduleObjects chainType u.vnfi.vnfiID)).map .create) := by
    rw [List.map_append, legal_append, after_create]
    exact ⟨legal_ports hside.base hnew,
      legal_modules hside.base hnew hdirections hnodup⟩
  obtain ⟨side₁, hrun₁, hs₁, hrest₁⟩ := performs_addModules hbess
    (P := fun _ => True) hdirections hread side _ trivial hside.shows hlegal
  have hsibm₁ : side₁.sibm = side.sibm := hrest₁
  rw [List.map_append, after_append, after_create, after_create] at hs₁
  obtain ⟨ogates', side₂, hrun₂, hogates₂, hdict₂, hassigned, hs₂⟩ :=
    run_addRules hbess (hsibm₁ ▸ hside.known) hs₁ (by
      obtain ⟨c, hc⟩ := table_required hside.base
      exact ⟨c, Or.inl (Or.inl hc)⟩) huses.head_rules (by
      rintro d hd c ((hc | hc) | hc)
      · exact rule_notMem_required hside.base huses hd c hc
      · obtain ⟨_, -, heq⟩ := mem_portObjects.mp hc
        cases heq
      · obtain ⟨_, -, hc⟩ := List.mem_flatMap.mp hc
        obtain ⟨_, _, _, heq, -⟩ := exists_of_mem_moduleObjects hc
        cases heq)
  have hgates' := hside.gates.cons hassigned
  have hlinks : pipeline.Legal (unlinked chainType B us ogates ogates' u)
      ((u.directions.flatMap (linkObjects chainType ogates' u.vnfi.vnfiID)).map
        .create) := by
    refine legal_create (fun e he => ?_) (pairwise_links hgates' hnodup)
    obtain ⟨d, hd, he⟩ := List.mem_flatMap.mp he
    exact creatable_link hside.base hnew hside.gates hassigned hd he
  obtain ⟨side₃, hrun₃, hs₃, hrest₃⟩ := performs_addLinks hbess hassigned.all
    side₂ _ hogates₂ hs₂ hlinks
  have hsibm₃ : side₃.sibm = side₂.sibm := hrest₃
  refine ⟨ogates', side₃, ?_, hsibm₃ ▸ hogates₂, ?_, hgates', ?_⟩
  · rw [PyM.run_bind_ok hrun₁, PyM.run_bind_ok hrun₂]
    exact hrun₃
  · rw [hsibm₃, hdict₂, hsibm₁]
  · have hkept : required chainType B us ogates' =
        required chainType B us ogates :=
      required_congr fun v d hd g => hside.gates.iff_of_used hassigned hd g
    rw [required_cons hassigned.all, hkept]
    refine Eq.subst ?_ hs₃
    rw [after_create, datapath]
    ext e
    simp only [Set.mem_union]
    tauto

theorem run_addToSide (hbess : bess.Lawful) (huses : UsesOk chainType (u :: us))
    (hcovered : Present us u.vnfi.vnfiID →
      ∀ d ∈ u.directions, Used us u.vnfi.vnfiID d)
    (hread : ¬ Present us u.vnfi.vnfiID → ∀ d ∈ u.directions, ∃ arg,
      updateArg chainType u.server u.sfci u.vnfi u.vnfiIdx d = .ok arg)
    (hside : SideOk chainType bess B us side) :
    ∃ side', (addToSide chainType bess u.server u.sfci u.directions u.vnfi
        u.vnfiIdx).run side = .ok () side' ∧
      SideOk chainType bess B (u :: us) side' := by
  obtain ⟨ogates, hside⟩ := hside
  have hdatapath : ∃ ogates' side', (addDatapath chainType bess u.server u.sfci
        u.directions u.vnfi u.vnfiIdx).run side = .ok () side' ∧
      side'.sibm.ogates.get? chainType.table = some ogates' ∧
      side'.sibm.vnfiDict = side.sibm.vnfiDict ∧ Gates (u :: us) ogates' ∧
      bess.Shows side'.bess (required chainType B (u :: us) ogates') := by
    rw [addDatapath, PyM.run_bind_get]
    have hiff := hside.counts.contains_iff (v := u.vnfi.vnfiID)
    by_cases hpresent : Present us u.vnfi.vnfiID
    · rw [Sibm.hasVNFI, if_pos (hiff.mpr hpresent)]
      exact run_addRules_covered hbess huses hpresent (hcovered hpresent) hside
    · rw [Sibm.hasVNFI, if_neg (fun h => hpresent (hiff.mp h))]
      exact run_addDatapath_new hbess huses hpresent (hread hpresent) hside
  obtain ⟨ogates', side', hrun, hknown, hdict, hgates, hshows⟩ := hdatapath
  refine ⟨{ side' with sibm := side'.sibm.addVNFI u.vnfi }, ?_, ogates',
    hside.base, hknown, hgates, hshows, ?_⟩
  · rw [addToSide, PyM.run_bind_ok hrun]
    rfl
  · rw [Sibm.addVNFI]
    dsimp only
    rw [hdict]
    exact hside.counts.cons

end Addition

end SelfAdaptiveMano.Sff

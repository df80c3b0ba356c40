import SelfAdaptiveMano.Sff.Installed
import SelfAdaptiveMano.Library.Machine

/-!
# Rules and gates over whole runs

An SFCI is installed from its addition to its deletion. Where a VNFI is shared only
by SFCIs that use it in the same directions, every rule leads to the VNFI that it
is meant for, and a VNFI has its modules and links in exactly the directions in
which it is used. The use counter does not know the directions, so that an SFCI
with a further direction gets rules whose gates nothing is connected to.
-/

namespace SelfAdaptiveMano.Sff

open Library

/-- The controller and the installed SFCIs. -/
structure SffSystem (β : Type) where
  controller : SffController β
  installed : Dict Nat InstalledSFCI

def SffCommand.toInstalled (cmd : SffCommand) : InstalledSFCI :=
  ⟨cmd.directions, cmd.sfci⟩

def installedAfter (cmd : SffCommand) (installed : Dict Nat InstalledSFCI) :
    Dict Nat InstalledSFCI :=
  match cmd.cmdType with
  | .addSFCI => installed.set cmd.sfci.sfciID cmd.toInstalled
  | .delSFCI => installed.erase cmd.sfci.sfciID
  | _ => installed

def usesOf (installed : Dict Nat InstalledSFCI) : List Use :=
  installed.values.flatMap InstalledSFCI.uses

def RulesDiffer (chainType : ChainType) (us : List Use) : Prop :=
  (us.flatMap fun u => u.directions.map fun d =>
    (u.server.serverID, u.rule chainType d)).Nodup

/-- The directions of an SFC are `0` or `1`, each once, and a stage consists of
VNFIs of one type. -/
structure InstalledSFCI.WellFormed (i : InstalledSFCI) : Prop where
  direction : ∀ d ∈ i.directions, d = 0 ∨ d = 1
  nodup : i.directions.Nodup
  stage : ∀ vnf ∈ i.sfci.vnfiSequence, vnf ≠ [] ∧
    ∀ vnfi ∈ vnf, ∀ vnfi' ∈ vnf, vnfi.vnfID = vnfi'.vnfID

section Runs

variable {β : Type} (chainType : ChainType) (bess : Bess β)

def SffSystem.step (s : SffSystem β) (cmd : SffCommand) : SffSystem β :=
  match (handleCommand chainType bess cmd).run s.controller with
  | .ok _ c => ⟨c, installedAfter cmd s.installed⟩
  | .error _ c => ⟨c, s.installed⟩

/-- An SFCI is added under a new id and deleted as it was added. -/
def Admits (s : SffSystem β) (cmd : SffCommand) : Prop :=
  cmd.toInstalled.WellFormed ∧
  match cmd.cmdType with
  | .addSFCI => s.installed.get? cmd.sfci.sfciID = none
  | .delSFCI => ∀ i, s.installed.get? cmd.sfci.sfciID = some i →
      i = cmd.toInstalled
  | _ => True

def machine : Machine (SffSystem β) SffCommand where
  init s := s.installed = Dict.empty ∧ s.controller.sibms = Dict.empty ∧
    s.controller.sfciDict = Dict.empty
  admits := Admits
  step := SffSystem.step chainType bess

/-- The VNFIs that an SFCI shares are used by the other SFCIs in all directions of
its SFC; the rules of an added SFCI are new. -/
def KeepsShared (s : SffSystem β) (cmd : SffCommand) : Prop :=
  match cmd.cmdType with
  | .addSFCI => checkVNFISequence cmd.sfci.vnfiSequence = .ok () →
      Covered (usesOf s.installed) cmd.toInstalled.uses ∧
        RulesDiffer chainType (cmd.toInstalled.uses ++ usesOf s.installed)
  | .delSFCI => s.installed.contains cmd.sfci.sfciID = true →
      Covered (usesOf (s.installed.erase cmd.sfci.sfciID)) cmd.toInstalled.uses
  | _ => True

/-- The rules of a server lead to the VNFIs they are meant for, and a VNFI has its
modules, gates and links in the directions in which it is used. -/
structure ConnectedOn (us : List Use) (sibm : Sibm) (b : β) : Prop where
  rule : ∀ table rule g, table = .wm2 ∨ table = .em1 →
    bess.entry b (.rule (.base table) rule) = some (.rule g) →
    ∃ u ∈ us, ∃ d ∈ u.directions, rule = u.rule chainType d ∧
      bess.entry b (.gate (.base table) g) =
        some (.link (.vnfi .queueOut u.vnfi.vnfiID d) 0) ∧
      (bess.entry b (.module (.vnfi .queueOut u.vnfi.vnfiID d))).isSome = true
  used : ∀ v d, Used us v d →
    (∀ e ∈ moduleObjects chainType v d ++ innerObjects chainType v d,
      bess.entry b e.1 = some e.2) ∧
    ∃ ogates g, sibm.ogates.get? chainType.table = some ogates ∧
      ogates.get? (.vnfi v d) = some g ∧
      bess.entry b (gateObject chainType v d g).1 =
        some (gateObject chainType v d g).2
  unused : ∀ v d, ¬ Used us v d →
    (∀ nameClass, nameClass ≠ .pmdPort →
      bess.entry b (.module (.vnfi nameClass v d)) = none) ∧
    (∀ nameClass g, bess.entry b (.gate (.vnfi nameClass v d) g) = none) ∧
    (∀ m g nameClass igate, bess.entry b (.gate m g) ≠
      some (.link (.vnfi nameClass v d) igate)) ∧
    ∃ ogates, sibm.ogates.get? chainType.table = some ogates ∧
      ogates.get? (.vnfi v d) = none

/-- On all servers; on one that has not been set up nothing is used. -/
def Connected (s : SffSystem β) : Prop :=
  ∀ serverID, match s.controller.sibms.get? serverID with
    | none => usesOn serverID (usesOf s.installed) = []
    | some sibm => ConnectedOn chainType bess
        (usesOn serverID (usesOf s.installed)) sibm (s.controller.bess serverID)

/-- The servers are in order for the installed SFCIs, which the controller
knows. -/
structure Sound (s : SffSystem β) : Prop where
  servers : ServersOk chainType bess (usesOf s.installed) s.controller
  rules : RulesDiffer chainType (usesOf s.installed)
  entries : ∀ sfciID i, s.installed.get? sfciID = some i →
    i.WellFormed ∧ checkVNFISequence i.sfci.vnfiSequence = .ok ()
  known : ∀ sfciID, s.controller.sfciDict.contains sfciID =
    s.installed.contains sfciID

end Runs

/-! ## Servers in order -/

section Connected

variable {β : Type} {chainType : ChainType} {bess : Bess β} {us : List Use}
  {ogates : Dict GateKey Nat} {side : Side β} {datapathNICIP : Nat}

theorem exists_use_of_rule
    (hside : SideShows chainType bess {e | e ∈ baseObjects datapathNICIP} us
      ogates side) {table : BaseName} {rule : Match} {g : Nat}
    (htable : table ≠ .wm1)
    (hrule : bess.entry side.bess (.rule (.base table) rule) = some (.rule g)) :
    ∃ u ∈ us, ∃ d ∈ u.directions, rule = u.rule chainType d ∧
      table = chainType.table ∧ ogates.get? (.vnfi u.vnfi.vnfiID d) = some g := by
  rcases required_rule ((hside.shows _ _).mp hrule) with hbase |
    ⟨u, d, g', hu, hd, hg, heq⟩
  · exact absurd (Name.base.inj (rule_of_baseObjects hbase)) htable
  · cases heq
    exact ⟨u, hu, d, hd, rfl, rfl, hg⟩

theorem entry_gate
    (hside : SideShows chainType bess {e | e ∈ baseObjects datapathNICIP} us
      ogates side) {v : UUID} {d g : Nat} (hused : Used us v d)
    (hg : ogates.get? (.vnfi v d) = some g) :
    bess.entry side.bess (gateObject chainType v d g).1 =
      some (gateObject chainType v d g).2 :=
  (hside.shows _ _).mpr (.gate hused hg)

theorem not_required_module {B : Set Object} (hB : IsBase chainType B) {v : UUID}
    {d : Nat} (hnot : ¬ Used us v d) {nameClass : NameClass} {c : Content} :
    (.module (.vnfi nameClass v d), c) ∉ required chainType B us ogates := by
  intro hmem
  rcases required_module hmem with hbase | ⟨v', d', hused, hmodule⟩
  · obtain ⟨⟨b, hname⟩, -⟩ := hB.module hbase
    cases hname
  · obtain ⟨_, _, _, heq, -⟩ := exists_of_mem_moduleObjects hmodule
    cases heq
    exact hnot hused

theorem not_required_gate {B : Set Object} (hB : IsBase chainType B) {v : UUID}
    {d : Nat} (hnot : ¬ Used us v d) {nameClass : NameClass} {m : Name} {g : Nat}
    {c : Content} (hname : m = .vnfi nameClass v d ∨
      ∃ igate, c = .link (.vnfi nameClass v d) igate) :
    (.gate m g, c) ∉ required chainType B us ogates := by
  intro hmem
  rcases required_gate hmem with hbase | ⟨v', d', hused, hinner⟩ |
    ⟨v', d', hused, -, heq⟩
  · obtain ⟨⟨b, rfl⟩, -, hlink⟩ := hB.gate hbase
    rcases hname with hname | ⟨igate, rfl⟩
    · cases hname
    · obtain ⟨b', hname⟩ := hlink _ _ rfl
      cases hname
  · obtain ⟨_, m2, heq, hends, -⟩ := exists_of_mem_innerObjects hinner
    cases heq
    rcases hname with hname | ⟨igate, hname⟩
    · cases hname
      exact hnot hused
    · cases hname
      rcases hends with hends | ⟨_, hends⟩
      · cases hends
      · cases hends
        exact hnot hused
  · cases heq
    rcases hname with hname | ⟨igate, hname⟩
    · cases hname
    · cases hname
      exact hnot hused

theorem SideOk.connectedOn
    (h : SideOk chainType bess {e | e ∈ baseObjects datapathNICIP} us side) :
    ConnectedOn chainType bess us side.sibm side.bess := by
  obtain ⟨ogates, hside⟩ := h
  constructor
  · intro table rule g htable hrule
    have hne : table ≠ .wm1 := by
      rintro rfl
      simp at htable
    obtain ⟨u, hu, d, hd, rfl, rfl, hg⟩ := exists_use_of_rule hside hne hrule
    have hused : Used us u.vnfi.vnfiID d := ⟨u, hu, rfl, hd⟩
    refine ⟨u, hu, d, hd, rfl, entry_gate hside hused hg, ?_⟩
    rw [(hside.shows _ _).mpr (.module hused (List.mem_cons_of_mem _
      List.mem_cons_self))]
    rfl
  · intro v d hused
    obtain ⟨g, hg⟩ := (hside.gates.used v d).mpr hused
    refine ⟨fun e he => (hside.shows e.1 e.2).mpr ?_, ogates, g, hside.known, hg,
      entry_gate hside hused hg⟩
    rcases List.mem_append.mp he with hmodule | hinner
    · exact .module hused hmodule
    · exact .inner hused hinner
  · intro v d hnot
    refine ⟨fun nameClass _ => ?_, fun nameClass g => ?_,
      fun m g nameClass igate hlink => ?_, ogates, hside.known, ?_⟩
    · apply Option.eq_none_iff_forall_ne_some.mpr
      intro c hc
      exact not_required_module hside.base hnot ((hside.shows _ _).mp hc)
    · apply Option.eq_none_iff_forall_ne_some.mpr
      intro c hc
      exact not_required_gate hside.base hnot (.inl rfl) ((hside.shows _ _).mp hc)
    · exact not_required_gate hside.base hnot (.inr ⟨igate, rfl⟩)
        ((hside.shows _ _).mp hlink)
    · apply Option.eq_none_iff_forall_ne_some.mpr
      intro g hg
      exact hnot ((hside.gates.used v d).mp ⟨g, hg⟩)

theorem not_connectedOn_of_gate {sibm : Sibm} {b : β} {table : BaseName}
    {rule : Match} {g : Nat} (htable : table = .wm2 ∨ table = .em1)
    (hrule : bess.entry b (.rule (.base table) rule) = some (.rule g))
    (hgate : bess.entry b (.gate (.base table) g) = none) :
    ¬ ConnectedOn chainType bess us sibm b := by
  intro h
  obtain ⟨u, -, d, -, -, hlink, -⟩ := h.rule table rule g htable hrule
  rw [hgate] at hlink
  cases hlink

theorem Connected.connectedOn {s : SffSystem β} {serverID : Nat} {sibm : Sibm}
    (h : Connected chainType bess s)
    (hsibm : s.controller.sibms.get? serverID = some sibm) :
    ConnectedOn chainType bess (usesOn serverID (usesOf s.installed)) sibm
      (s.controller.bess serverID) := by
  have hserver := h serverID
  rw [hsibm] at hserver
  exact hserver

theorem Sound.connected {s : SffSystem β} (h : Sound chainType bess s) :
    Connected chainType bess s := by
  intro serverID
  have hserver := h.servers serverID
  cases hsibm : s.controller.sibms.get? serverID with
  | none =>
      rw [hsibm] at hserver
      exact hserver
  | some sibm =>
      rw [hsibm] at hserver
      obtain ⟨datapathNICIP, hside⟩ := hserver
      exact hside.connectedOn

end Connected

/-! ## The uses of the installed SFCIs -/

section Uses

variable {chainType : ChainType} {installed : Dict Nat InstalledSFCI}
  {i : InstalledSFCI} {sfciID serverID : Nat} {us us' : List Use} {u : Use}

theorem RulesDiffer.perm (h : RulesDiffer chainType us) (hperm : us.Perm us') :
    RulesDiffer chainType us' :=
  (hperm.flatMap_right _).nodup_iff.mp h

theorem RulesDiffer.of_sublist (h : RulesDiffer chainType us)
    (hsub : us'.Sublist us) : RulesDiffer chainType us' :=
  h.sublist (hsub.flatMap _)

theorem RulesDiffer.usesOk (h : RulesDiffer chainType us)
    (hwellFormed : ∀ u ∈ us, (∀ d ∈ u.directions, d = 0 ∨ d = 1) ∧
      u.directions.Nodup) (serverID : Nat) :
    UsesOk chainType (usesOn serverID us) where
  direction u hu := (hwellFormed u (List.mem_of_mem_filter hu)).1
  nodup u hu := (hwellFormed u (List.mem_of_mem_filter hu)).2
  rules := by
    have hon : RulesDiffer chainType (usesOn serverID us) :=
      h.of_sublist List.filter_sublist
    have hserver : ((usesOn serverID us).flatMap fun u =>
        (u.directions.map (u.rule chainType)).map (serverID, ·)) =
        (usesOn serverID us).flatMap fun u =>
          u.directions.map fun d => (u.server.serverID, u.rule chainType d) := by
      apply List.flatMap_congr
      intro u hu
      have hserver : u.server.serverID = serverID := by
        simpa using (List.mem_filter.mp hu).2
      rw [List.map_map, hserver]
      rfl
    apply List.Nodup.of_map (serverID, ·)
    rw [List.map_flatMap, hserver]
    exact hon

theorem mem_usesOf : u ∈ usesOf installed ↔
    ∃ sfciID i, installed.get? sfciID = some i ∧ u ∈ i.uses := by
  simp only [usesOf, List.mem_flatMap, Dict.mem_values_iff]
  constructor
  · rintro ⟨i, ⟨sfciID, hget⟩, hu⟩
    exact ⟨sfciID, i, hget, hu⟩
  · rintro ⟨sfciID, i, hget, hu⟩
    exact ⟨i, ⟨sfciID, hget⟩, hu⟩

theorem perm_usesOf_set (h : installed.get? sfciID = none) :
    (i.uses ++ usesOf installed).Perm (usesOf (installed.set sfciID i)) := by
  rw [usesOf, usesOf, Dict.values_set_of_get?_eq_none h, List.flatMap_append,
    List.flatMap_singleton]
  exact List.perm_append_comm

theorem perm_usesOf_erase (h : installed.get? sfciID = some i) :
    (usesOf installed).Perm (i.uses ++ usesOf (installed.erase sfciID)) :=
  (Dict.perm_values_erase h).flatMap_right _

/-- Stages that are not empty have a VNF type, so that the type behind a stage can
be read. -/
theorem exists_nextVNFID {vnfID : Nat} {vnfiSequence : List (List VNFI)}
    (hstage : ∀ vnf ∈ vnfiSequence, vnf ≠ [])
    (hmem : ∃ vnf ∈ vnfiSequence, ∃ vnfi, vnf.head? = some vnfi ∧
      vnfi.vnfID = vnfID) :
    ∃ next, nextVNFID vnfID vnfiSequence = .ok (some next) := by
  induction vnfiSequence with
  | nil =>
      obtain ⟨_, hvnf, -⟩ := hmem
      cases hvnf
  | cons vnf rest ih =>
      cases vnf with
      | nil => exact absurd rfl (hstage [] List.mem_cons_self)
      | cons currentVNF vnf =>
          change ∃ next, (if currentVNF.vnfID = vnfID then _ else _) = _
          split
          · cases rest with
            | nil => exact ⟨_, rfl⟩
            | cons next rest =>
                cases next with
                | nil => exact absurd rfl (hstage [] (by simp))
                | cons vnfi next => exact ⟨vnfi.vnfID, rfl⟩
          · next hne =>
              apply ih (fun vnf hvnf => hstage vnf (List.mem_cons_of_mem _ hvnf))
              obtain ⟨vnf', hvnf', vnfi, hhead, hvnfi⟩ := hmem
              rcases List.mem_cons.mp hvnf' with rfl | hvnf'
              · obtain rfl := Option.some.inj hhead
                exact absurd hvnfi hne
              · exact ⟨vnf', hvnf', vnfi, hhead, hvnfi⟩

theorem exists_stage_of_mem_uses (h : u ∈ i.uses) :
    ∃ vnf ∈ i.sfci.vnfiSequence, u.vnfi ∈ vnf := by
  obtain ⟨⟨vnf, vnfiIdx⟩, hvnf, hu⟩ := List.mem_flatMap.mp h
  obtain ⟨vnfi, hvnfi, huse⟩ := List.mem_filterMap.mp hu
  refine ⟨vnf, List.fst_mem_of_mem_zipIdx hvnf, ?_⟩
  rw [InstalledSFCI.useOf?] at huse
  split at huse
  · obtain rfl := Option.some.inj huse
    exact hvnfi
  · cases huse

theorem InstalledSFCI.WellFormed.exists_updateArg (h : i.WellFormed) (hu : u ∈ i.uses)
    {d : Nat} (hd : d ∈ u.directions) : ∃ arg,
      updateArg chainType u.server u.sfci u.vnfi u.vnfiIdx d = .ok arg := by
  obtain ⟨hsfci, hdirections, -⟩ := of_mem_uses hu
  rw [hdirections] at hd
  cases chainType with
  | nshOverEth => exact ⟨_, rfl⟩
  | ufrr =>
      obtain ⟨vnf, hvnf, hvnfi⟩ := exists_stage_of_mem_uses hu
      have hmem : ∃ vnf ∈ i.sfci.vnfiSequence, ∃ vnfi, vnf.head? = some vnfi ∧
          vnfi.vnfID = u.vnfi.vnfID := by
        obtain ⟨vnfi, rest, rfl⟩ := List.exists_cons_of_ne_nil (h.stage vnf hvnf).1
        exact ⟨_, hvnf, vnfi, rfl, (h.stage _ hvnf).2 _ List.mem_cons_self _ hvnfi⟩
      have hnext : ∃ next, getNextVNFID u.sfci u.vnfi d = .ok (some next) := by
        rw [hsfci, getNextVNFID]
        rcases h.direction d hd with rfl | rfl
        · exact exists_nextVNFID (fun vnf hvnf => (h.stage vnf hvnf).1) hmem
        · apply exists_nextVNFID
          · exact fun vnf hvnf => (h.stage vnf (List.mem_reverse.mp hvnf)).1
          · obtain ⟨vnf, hvnf, hhead⟩ := hmem
            exact ⟨vnf, List.mem_reverse.mpr hvnf, hhead⟩
      obtain ⟨next, hnext⟩ := hnext
      rw [updateArg, hnext]
      exact ⟨_, rfl⟩

end Uses

/-! ## Runs -/

section Steps

variable {β : Type} {chainType : ChainType} {bess : Bess β} {s : SffSystem β}
  {cmd : SffCommand} {c : SffController β}

theorem step_of_ok (h : (handleCommand chainType bess cmd).run s.controller =
    .ok () c) :
    s.step chainType bess cmd = ⟨c, installedAfter cmd s.installed⟩ := by
  rw [SffSystem.step, h]

theorem step_of_error {e : PyError}
    (h : (handleCommand chainType bess cmd).run s.controller =
      .error e s.controller) : s.step chainType bess cmd = s := by
  rw [SffSystem.step, h]

theorem Sound.usesOk (h : Sound chainType bess s) {us : List Use}
    (hrules : RulesDiffer chainType us)
    (hfrom : ∀ u ∈ us, u ∈ usesOf s.installed ∨
      ∃ i : InstalledSFCI, i.WellFormed ∧ u ∈ i.uses) (serverID : Nat) :
    UsesOk chainType (usesOn serverID us) := by
  apply hrules.usesOk
  intro u hu
  have hi : ∃ i : InstalledSFCI, i.WellFormed ∧ u ∈ i.uses := by
    rcases hfrom u hu with hinstalled | hi
    · obtain ⟨sfciID, i, hget, hui⟩ := mem_usesOf.mp hinstalled
      exact ⟨i, (h.entries sfciID i hget).1, hui⟩
    · exact hi
  obtain ⟨i, hwellFormed, hui⟩ := hi
  rw [(InstalledSFCI.of_mem_uses hui).2.1]
  exact ⟨hwellFormed.direction, hwellFormed.nodup⟩

theorem run_addSFCIHandler (hbess : bess.Lawful) (h : Sound chainType bess s)
    (hwellFormed : cmd.toInstalled.WellFormed)
    (hcheck : checkVNFISequence cmd.sfci.vnfiSequence = .ok ())
    (hcovered : Covered (usesOf s.installed) cmd.toInstalled.uses)
    (hrules : RulesDiffer chainType
      (cmd.toInstalled.uses ++ usesOf s.installed)) :
    ∃ c', (addSFCIHandler chainType bess cmd).run s.controller = .ok () c' ∧
      ServersOk chainType bess (cmd.toInstalled.uses ++ usesOf s.installed) c' ∧
      c'.sfciDict = s.controller.sfciDict.set cmd.sfci.sfciID cmd.sfci := by
  have hservers : ServersOk chainType bess (usesOf s.installed)
      { s.controller with
        sfciDict := s.controller.sfciDict.set cmd.sfci.sfciID cmd.sfci } :=
    h.servers
  obtain ⟨c', hrun, hservers', hdict⟩ := run_addUses hbess
    (fun u hu => InstalledSFCI.of_mem_uses hu) hservers
    (h.usesOk hrules fun u hu => (List.mem_append.mp hu).symm.imp_right
      fun hu => ⟨_, hwellFormed, hu⟩) hcovered
    (fun u hu _ d hd => hwellFormed.exists_updateArg hu hd)
  have hloop := InstalledSFCI.forM_uses (f := addVNFI chainType bess cmd.sfci
    cmd.directions) (fun _ vnfi hnode => by rw [addVNFI, hnode]) cmd.toInstalled
  refine ⟨c', ?_, hservers', hdict⟩
  rw [addSFCIHandler, hcheck]
  exact (congrArg (fun x : PyM (SffController β) PUnit => x.run { s.controller with
    sfciDict := s.controller.sfciDict.set cmd.sfci.sfciID cmd.sfci })
    hloop).trans hrun

theorem run_delSFCIHandler (hbess : bess.Lawful) (h : Sound chainType bess s)
    (hget : s.installed.get? cmd.sfci.sfciID = some cmd.toInstalled)
    (hcovered : Covered (usesOf (s.installed.erase cmd.sfci.sfciID))
      cmd.toInstalled.uses) :
    ∃ c', (delSFCIHandler chainType bess cmd).run s.controller = .ok () c' ∧
      ServersOk chainType bess (usesOf (s.installed.erase cmd.sfci.sfciID)) c' ∧
      c'.sfciDict = s.controller.sfciDict.erase cmd.sfci.sfciID := by
  have hperm := perm_usesOf_erase hget
  have hservers : ServersOk chainType bess
      (cmd.toInstalled.uses ++ usesOf (s.installed.erase cmd.sfci.sfciID))
      { s.controller with
        sfciDict := s.controller.sfciDict.erase cmd.sfci.sfciID } :=
    h.servers.perm hperm
  obtain ⟨c', hrun, hservers', hdict⟩ := run_delUses hbess
    (fun u hu => InstalledSFCI.of_mem_uses hu) hservers
    (h.usesOk (h.rules.perm hperm) fun u hu => .inl (hperm.mem_iff.mpr hu)) hcovered
  have hknown : s.controller.sfciDict.contains cmd.sfci.sfciID = true := by
    rw [h.known, Dict.contains, hget]
    rfl
  have hforget : (forgetSFCI cmd.sfci.sfciID).run s.controller = .ok ()
      { s.controller with
        sfciDict := s.controller.sfciDict.erase cmd.sfci.sfciID } := by
    rw [forgetSFCI, PyM.run_bind_get, if_pos hknown]
    rfl
  have hcheck : checkVNFISequence cmd.sfci.vnfiSequence = .ok () :=
    (h.entries _ _ hget).2
  have hloop := InstalledSFCI.forM_uses (f := delVNFI chainType bess cmd.sfci
    cmd.directions) (fun _ vnfi hnode => by rw [delVNFI, hnode]) cmd.toInstalled
  refine ⟨c', ?_, hservers', hdict⟩
  rw [delSFCIHandler, hcheck]
  refine (PyM.run_bind_ok hforget _).trans ?_
  exact (congrArg (fun x : PyM (SffController β) PUnit => x.run { s.controller with
    sfciDict := s.controller.sfciDict.erase cmd.sfci.sfciID }) hloop).trans hrun

theorem Sound.add (hbess : bess.Lawful) (h : Sound chainType bess s)
    (hwellFormed : cmd.toInstalled.WellFormed)
    (hnew : s.installed.get? cmd.sfci.sfciID = none)
    (hcmdType : cmd.cmdType = .addSFCI) (hkeeps : KeepsShared chainType s cmd) :
    Sound chainType bess (s.step chainType bess cmd) := by
  have hhandle : handleCommand chainType bess cmd =
      addSFCIHandler chainType bess cmd := by
    rw [handleCommand, hcmdType]
  rw [KeepsShared, hcmdType] at hkeeps
  cases hcheck : checkVNFISequence cmd.sfci.vnfiSequence with
  | error e =>
      rw [step_of_error (e := e) (by rw [hhandle, addSFCIHandler, hcheck]; rfl)]
      exact h
  | ok _ =>
      obtain ⟨hcovered, hrules⟩ := hkeeps hcheck
      obtain ⟨c', hrun, hservers, hdict⟩ :=
        run_addSFCIHandler hbess h hwellFormed hcheck hcovered hrules
      have hperm := perm_usesOf_set (i := cmd.toInstalled) hnew
      rw [step_of_ok (by rw [hhandle]; exact hrun), installedAfter, hcmdType]
      refine ⟨hservers.perm hperm, hrules.perm hperm, fun sfciID i hget => ?_,
        fun sfciID => ?_⟩
      · rw [Dict.get?_set] at hget
        split at hget
        · obtain rfl := Option.some.inj hget
          exact ⟨hwellFormed, hcheck⟩
        · exact h.entries sfciID i hget
      · have hknown := h.known sfciID
        simp only [hdict, Dict.contains, Dict.get?_set] at hknown ⊢
        split
        · rfl
        · exact hknown

theorem Sound.delete (hbess : bess.Lawful) (h : Sound chainType bess s)
    (hsame : ∀ i, s.installed.get? cmd.sfci.sfciID = some i →
      i = cmd.toInstalled)
    (hcmdType : cmd.cmdType = .delSFCI) (hkeeps : KeepsShared chainType s cmd) :
    Sound chainType bess (s.step chainType bess cmd) := by
  have hhandle : handleCommand chainType bess cmd =
      delSFCIHandler chainType bess cmd := by
    rw [handleCommand, hcmdType]
  rw [KeepsShared, hcmdType] at hkeeps
  cases hget : s.installed.get? cmd.sfci.sfciID with
  | none =>
      have hknown : s.controller.sfciDict.contains cmd.sfci.sfciID = false := by
        rw [h.known, Dict.contains, hget]
        rfl
      have hforget : (forgetSFCI cmd.sfci.sfciID).run s.controller =
          .error .keyError s.controller := by
        rw [forgetSFCI, PyM.run_bind_get, if_neg (by rw [hknown]; decide)]
        rfl
      have herror : ∃ e, (delSFCIHandler chainType bess cmd).run s.controller =
          .error e s.controller := by
        rw [delSFCIHandler]
        cases hcheck : checkVNFISequence cmd.sfci.vnfiSequence with
        | error e => exact ⟨e, rfl⟩
        | ok _ => exact ⟨_, PyM.run_bind_error hforget _⟩
      obtain ⟨e, herror⟩ := herror
      rw [step_of_error (by rw [hhandle]; exact herror)]
      exact h
  | some i =>
      obtain rfl := hsame i hget
      obtain ⟨c', hrun, hservers, hdict⟩ := run_delSFCIHandler hbess h hget
        (hkeeps (by rw [Dict.contains, hget]; rfl))
      rw [step_of_ok (by rw [hhandle]; exact hrun), installedAfter, hcmdType]
      refine ⟨hservers, ?_, fun sfciID i hget => ?_, fun sfciID => ?_⟩
      · exact (h.rules.perm (perm_usesOf_erase hget)).of_sublist
          (List.sublist_append_right _ _)
      · rw [Dict.get?_erase] at hget
        split at hget
        · cases hget
        · exact h.entries sfciID i hget
      · have hknown := h.known sfciID
        simp only [hdict, Dict.contains, Dict.get?_erase] at hknown ⊢
        split
        · rfl
        · exact hknown

theorem Sound.step (hbess : bess.Lawful) (h : Sound chainType bess s)
    (hadmits : Admits s cmd) (hkeeps : KeepsShared chainType s cmd) :
    Sound chainType bess (s.step chainType bess cmd) := by
  obtain ⟨hwellFormed, hadmits⟩ := hadmits
  cases hcmdType : cmd.cmdType with
  | addSFCI =>
      rw [hcmdType] at hadmits
      exact h.add hbess hwellFormed hadmits hcmdType hkeeps
  | delSFCI =>
      rw [hcmdType] at hadmits
      exact h.delete hbess hadmits hcmdType hkeeps
  | _ =>
      rw [step_of_error (by rw [handleCommand, hcmdType]; rfl)]
      exact h

theorem sound_init (h : s.installed = Dict.empty)
    (hsibms : s.controller.sibms = Dict.empty)
    (hdict : s.controller.sfciDict = Dict.empty) : Sound chainType bess s where
  servers serverID := by
    rw [hsibms, h]
    rfl
  rules := by
    rw [h]
    exact List.nodup_nil
  entries sfciID i hget := by
    rw [h] at hget
    cases hget
  known sfciID := by
    rw [h, hdict]
    rfl

/-- As long as SFCIs share VNFIs only in the same directions, the rules are
connected, and there is a data path for what is used. -/
theorem connected_of_keepsShared (hbess : bess.Lawful)
    {τ : List (SffSystem β × SffCommand)}
    (hrun : (machine chainType bess).Run τ s)
    (hkeeps : ∀ e ∈ τ, KeepsShared chainType e.1 e.2) :
    (∀ e ∈ τ, Connected chainType bess e.1) ∧ Connected chainType bess s := by
  have hsound : (∀ e ∈ τ, Sound chainType bess e.1) ∧ Sound chainType bess s := by
    refine hrun.all_of_meets ?_ ?_ hkeeps
    · rintro s ⟨hinstalled, hsibms, hdict⟩
      exact sound_init hinstalled hsibms hdict
    · intro s cmd h hadmits hkeeps
      exact h.step hbess hadmits hkeeps
  exact ⟨fun e he => (hsound.1 e he).connected, hsound.2.connected⟩

end Steps

/-! ## A shared firewall -/

instance (us : List Use) (vnfiID : UUID) : Decidable (Present us vnfiID) :=
  inferInstanceAs (Decidable (∃ u ∈ us, u.vnfi.vnfiID = vnfiID))

instance (us : List Use) (vnfiID : UUID) (directionID : Nat) :
    Decidable (Used us vnfiID directionID) :=
  inferInstanceAs (Decidable (∃ u ∈ us, u.vnfi.vnfiID = vnfiID ∧
    directionID ∈ u.directions))

instance (us new : List Use) : Decidable (Covered us new) :=
  inferInstanceAs (Decidable (∀ u ∈ new,
    Present (usesOn u.server.serverID us) u.vnfi.vnfiID → ∀ d ∈ u.directions,
      Used (usesOn u.server.serverID us) u.vnfi.vnfiID d))

instance (chainType : ChainType) (us : List Use) :
    Decidable (RulesDiffer chainType us) :=
  inferInstanceAs (Decidable (List.Nodup _))

def dictBess : Bess (Dict Key Content) where
  getVersion _ := true
  call request b := (true,
    match request with
    | .resetAll => .empty
    | request =>
        match request.created, request.destroyed with
        | some e, _ => b.set e.1 e.2
        | none, some k => b.erase k
        | none, none => b)
  entry := Dict.get?

theorem dictBess_lawful : dictBess.Lawful where
  answers _ := rfl
  pauseAll _ := rfl
  resumeAll _ := rfl
  resetAll _ := rfl
  create := by
    intro request e b S hcreated hshows hcreatable
    have hcall : dictBess.call request b = (true, b.set e.1 e.2) := by
      cases request <;> cases hcreated <;> rfl
    rw [hcall]
    refine ⟨rfl, fun k c => ?_⟩
    change (b.set e.1 e.2).get? k = some c ↔ _
    rw [Dict.get?_set, Set.mem_insert_iff, ← hshows k c]
    split
    · next heq =>
        subst heq
        have hunused : b.get? e.1 ≠ some c := fun hc =>
          hcreatable.unused c ((hshows e.1 c).mp hc)
        constructor
        · intro hc
          exact .inl (Prod.ext rfl (Option.some.inj hc).symm)
        · rintro (heq | hc)
          · rw [← heq]
          · exact absurd hc hunused
    · next hne =>
        constructor
        · exact .inr
        · rintro (heq | hc)
          · exact absurd (congrArg Prod.fst heq) hne
          · exact hc
  destroy := by
    rintro request b S ⟨k', c'⟩ hdestroyed hshows hdestroyable
    have hcall : dictBess.call request b = (true, b.erase k') := by
      cases request <;> cases hdestroyed <;> rfl
    have hthere : b.get? k' = some c' := (hshows k' c').mpr hdestroyable.there
    rw [hcall]
    refine ⟨rfl, fun k c => ?_⟩
    change (b.erase k').get? k = some c ↔ _
    rw [Dict.get?_erase, Set.mem_sdiff, Set.mem_singleton_iff, ← hshows k c]
    split
    · next heq =>
        subst heq
        constructor
        · intro hc
          cases hc
        · rintro ⟨hc, hne⟩
          have hsame : some c' = some c := hthere.symm.trans hc
          rw [Option.some.inj hsame] at hne
          exact absurd rfl hne
    · next hne =>
        constructor
        · exact fun hc => ⟨hc, fun heq => hne (congrArg Prod.fst heq)⟩
        · exact fun hc => hc.1
  configure := by
    intro request name b c hconfigured _
    cases request <;> cases hconfigured <;> exact ⟨rfl, rfl⟩

def firewallSFCI (sfciID : Nat) : SFCI :=
  ⟨sfciID, [[⟨1, ⟨0, 1⟩, .server ⟨10001, 2, 3⟩⟩]]⟩

def exampleStart : SffSystem (Dict Key Content) :=
  ⟨⟨.empty, .empty, fun _ => .empty⟩, .empty⟩

def exampleCommand (cmdType : CmdType) (sfciID : Nat) (directions : List Nat) :
    SffCommand :=
  ⟨cmdType, directions, firewallSFCI sfciID⟩

/-- An SFCI is added, a second one that uses the firewall in both directions, and
the first one is deleted. -/
def added (directions : List Nat) : SffSystem (Dict Key Content) :=
  (machine .nshOverEth dictBess).step exampleStart
    (exampleCommand .addSFCI 1 directions)

def shared (directions : List Nat) : SffSystem (Dict Key Content) :=
  (machine .nshOverEth dictBess).step (added directions)
    (exampleCommand .addSFCI 2 [0, 1])

def deleted (directions : List Nat) : SffSystem (Dict Key Content) :=
  (machine .nshOverEth dictBess).step (shared directions)
    (exampleCommand .delSFCI 1 directions)

theorem wellFormed_example {cmdType : CmdType} {sfciID : Nat}
    {directions : List Nat} (hdirection : ∀ d ∈ directions, d = 0 ∨ d = 1)
    (hnodup : directions.Nodup) :
    (exampleCommand cmdType sfciID directions).toInstalled.WellFormed where
  direction := hdirection
  nodup := hnodup
  stage vnf hvnf := by
    obtain rfl := List.mem_singleton.mp hvnf
    refine ⟨List.cons_ne_nil _ _, fun vnfi hvnfi vnfi' hvnfi' => ?_⟩
    rw [List.mem_singleton.mp hvnfi, List.mem_singleton.mp hvnfi']

theorem run_shared {directions : List Nat}
    (hdirection : ∀ d ∈ directions, d = 0 ∨ d = 1) (hnodup : directions.Nodup)
    (hnew : (added directions).installed.get? 2 = none) :
    (machine .nshOverEth dictBess).Run
      [(exampleStart, exampleCommand .addSFCI 1 directions),
        (added directions, exampleCommand .addSFCI 2 [0, 1])]
      (shared directions) := by
  have hstart : (machine .nshOverEth dictBess).Run [] exampleStart :=
    .start ⟨rfl, rfl, rfl⟩
  have hadded : (machine .nshOverEth dictBess).Run
      [(exampleStart, exampleCommand .addSFCI 1 directions)] (added directions) :=
    .step hstart ⟨wellFormed_example hdirection hnodup, rfl⟩
  exact .step hadded ⟨wellFormed_example (by decide) (by decide), hnew⟩

/-- Two SFCIs use the firewall in both directions, and the first one is deleted. -/
theorem connected_of_keepsShared_sameDirections :
    (machine .nshOverEth dictBess).Reachable (deleted [0, 1]) ∧
      Connected .nshOverEth dictBess (deleted [0, 1]) := by
  have hinstalled : (shared [0, 1]).installed.get? 1 =
      some (exampleCommand .delSFCI 1 [0, 1]).toInstalled := by
    decide +kernel
  have hadmits : Admits (shared [0, 1]) (exampleCommand .delSFCI 1 [0, 1]) :=
    ⟨wellFormed_example (by decide) (by decide),
      fun i hi => Option.some.inj (hi.symm.trans hinstalled)⟩
  have hnew : (added [0, 1]).installed.get? 2 = none := by
    decide +kernel
  have hrun : (machine .nshOverEth dictBess).Run
      [(exampleStart, exampleCommand .addSFCI 1 [0, 1]),
        (added [0, 1], exampleCommand .addSFCI 2 [0, 1]),
        (shared [0, 1], exampleCommand .delSFCI 1 [0, 1])] (deleted [0, 1]) :=
    .step (run_shared (by decide) (by decide) hnew) hadmits
  have hkeeps : ∀ e ∈ [(exampleStart, exampleCommand .addSFCI 1 [0, 1]),
      (added [0, 1], exampleCommand .addSFCI 2 [0, 1]),
      (shared [0, 1], exampleCommand .delSFCI 1 [0, 1])],
      KeepsShared .nshOverEth e.1 e.2 := by
    simp only [List.forall_mem_cons, List.not_mem_nil, false_implies, implies_true,
      and_true]
    refine ⟨fun _ => ⟨?_, ?_⟩, fun _ => ⟨?_, ?_⟩, fun _ => ?_⟩
    all_goals decide +kernel
  exact (connected_of_keepsShared dictBess_lawful hrun hkeeps).imp_left
    fun _ => hrun.reachable

/-- The first SFCI uses the firewall in one direction, the second one in both. The
rule of the second one in the other direction is for a gate without a link. -/
theorem unconnected_rule :
    (machine .nshOverEth dictBess).Reachable (shared [0]) ∧
      ¬ Connected .nshOverEth dictBess (shared [0]) := by
  have hrule : dictBess.entry ((shared [0]).controller.bess 10001)
      (.rule (.base .em1) ⟨[(2 + (1 <<< 23)) * 256 + 1], []⟩) =
        some (.rule 2) := by
    decide +kernel
  have hgate : dictBess.entry ((shared [0]).controller.bess 10001)
      (.gate (.base .em1) 2) = none := by
    decide +kernel
  have hset : ((shared [0]).controller.sibms.get? 10001).isSome = true := by
    decide +kernel
  refine ⟨(run_shared (by decide) (by decide) (by decide +kernel)).reachable,
    fun h => ?_⟩
  obtain ⟨sibm, hsibm⟩ := Option.isSome_iff_exists.mp hset
  exact not_connectedOn_of_gate (.inr rfl) hrule hgate (h.connectedOn hsibm)

end SelfAdaptiveMano.Sff

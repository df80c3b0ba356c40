import SelfAdaptiveMano.Simulator.Deletion
import SelfAdaptiveMano.Library.Machine

/-!
# Runs of the simulator

The simulator takes commands one at a time. `CommandSafe` says for each kind of
command when it goes through as a whole or does nothing; where all commands of a
run are safe, the switches, links and nodes hold in every state exactly the
entries of the installed SFCIs.
-/

namespace SelfAdaptiveMano.Simulator

open Library

def members (sib : Sib) (sfc : SFC) : List (Nat × SFCIInfo) :=
  sib.sfcis.items.filter fun e => e.2.sfc.sfcUUID == sfc.sfcUUID

/-- A deletion of an SFC that goes through or leaves everything as it was: it has
no SFCI, the deletion of the first one is refused, or all of them have the
direction ids of the command and the loop over them may shrink the dictionary. -/
inductive DelSFCSafe (py3 : Bool) (sib : Sib) (sfc : SFC) : Prop where
  | noMember : members sib sfc = [] → DelSFCSafe py3 sib sfc
  | refused {e items} : members sib sfc = e :: items →
      DelRefused sib sfc e.2.sfci → DelSFCSafe py3 sib sfc
  | python2 : py3 = false → (∀ e ∈ members sib sfc,
      (sfc.directions.map Direction.ID).Perm
        (e.2.sfc.directions.map Direction.ID)) → DelSFCSafe py3 sib sfc

def CommandSafe (py3 : Bool) (sib : Sib) (cmd : SimCommand) : Prop :=
  match cmd.cmdType with
  | .addSFC => True
  | .addSFCI => AddSafe py3 sib cmd.sfc cmd.sfci
  | .delSFCI => DelSafe sib cmd.sfc cmd.sfci
  | .delSFC => DelSFCSafe py3 sib cmd.sfc
  | _ => True

section DelSFC

variable {py3 : Bool} {u₀ : Nat → Nat} {sib : Sib} {sfc : SFC}

theorem mem_members_iff {sfciID : Nat} {info : SFCIInfo} :
    (sfciID, info) ∈ members sib sfc ↔
      sib.sfcis.get? sfciID = some info ∧ info.sfc.sfcUUID = sfc.sfcUUID := by
  rw [members, List.mem_filter, Dict.mem_items_iff, beq_iff_eq]

theorem removeMembers_filter (items : List (Nat × SFCIInfo)) :
    removeMembers py3 sfc items = removeMembers py3 sfc
      (items.filter fun e => e.2.sfc.sfcUUID == sfc.sfcUUID) := by
  induction items with
  | nil => rfl
  | cons e items ih =>
      rw [List.filter_cons]
      by_cases huuid : e.2.sfc.sfcUUID = sfc.sfcUUID
      · rw [if_pos (by simpa using huuid), removeMembers, removeMembers,
          if_pos huuid, if_pos huuid, ih]
      · rw [if_neg (by simpa using huuid), removeMembers, if_neg huuid, ih]

theorem run_removeMembers (hs : Sound u₀ sib) {items : List (Nat × SFCIInfo)}
    (hitems : ∀ e ∈ items, sib.sfcis.get? e.1 = some e.2 ∧
      e.2.sfc.sfcUUID = sfc.sfcUUID ∧ (sfc.directions.map Direction.ID).Perm
        (e.2.sfc.directions.map Direction.ID))
    (hnodup : (items.map Prod.fst).Nodup) :
    ∃ sib', (removeMembers false sfc items).run sib = .ok () sib' ∧
      Sound u₀ sib' ∧ sib'.sfcs = sib.sfcs ∧ ∀ sfciID info,
        sib'.sfcis.get? sfciID = some info →
          sib.sfcis.get? sfciID = some info ∧ sfciID ∉ items.map Prod.fst := by
  induction items generalizing sib with
  | nil => exact ⟨sib, rfl, hs, rfl, fun _ _ h => ⟨h, List.not_mem_nil⟩⟩
  | cons e items ih =>
      obtain ⟨sfciID, info⟩ := e
      obtain ⟨hinfo, huuid, hperm⟩ := hitems _ List.mem_cons_self
      have hid : info.sfci.sfciID = sfciID := hs.id _ _ hinfo
      have hagrees : Agrees info sfc info.sfci :=
        ⟨hperm, fun _ _ => rfl, fun _ _ => rfl⟩
      obtain ⟨sib₁, hrun₁, hs₁, hsfcis₁, hsfcs₁⟩ :=
        run_remove hs (hid ▸ hinfo) hagrees
      rw [hid] at hsfcis₁
      rw [List.map_cons, List.nodup_cons] at hnodup
      obtain ⟨sib₂, hrun₂, hs₂, hsfcs₂, hget₂⟩ := ih hs₁ (by
        intro e he
        obtain ⟨hget, hrest⟩ := hitems e (List.mem_cons_of_mem _ he)
        refine ⟨?_, hrest⟩
        have hne : e.1 ≠ sfciID := by
          intro heq
          refine hnodup.1 (List.mem_map.mpr ⟨e, he, heq⟩)
        rw [hsfcis₁, Dict.get?_erase, if_neg hne, hget]) hnodup.2
      refine ⟨sib₂, ?_, hs₂, hsfcs₂.trans hsfcs₁, ?_⟩
      · rw [removeMembers, if_pos huuid, PyM.run_bind_ok hrun₁]
        exact hrun₂
      · intro sfciID' info' hinfo'
        obtain ⟨hold, hnot⟩ := hget₂ sfciID' info' hinfo'
        rw [hsfcis₁, Dict.get?_erase] at hold
        split at hold
        · cases hold
        · next hne =>
            refine ⟨hold, ?_⟩
            rw [List.map_cons, List.mem_cons, not_or]
            exact ⟨hne, hnot⟩

theorem Sound.forget (hs : Sound u₀ sib) (hnone : members sib sfc = []) :
    Sound u₀ { sib with sfcs := sib.sfcs.erase sfc.sfcUUID } := by
  refine ⟨hs.hops.of_eq rfl rfl rfl, hs.vnfis, hs.id, hs.routed, ?_, hs.traffic⟩
  intro sfciID info hinfo
  rw [Dict.contains, Dict.get?_erase]
  split
  · next huuid =>
      have hmem : (sfciID, info) ∈ members sib sfc :=
        mem_members_iff.mpr ⟨hinfo, huuid⟩
      rw [hnone] at hmem
      cases hmem
  · exact hs.stored sfciID info hinfo

theorem del_sfc_handler_eq (cmd : SimCommand) :
    (del_sfc_handler py3 cmd).run sib = (do
      removeMembers py3 cmd.sfc (members sib cmd.sfc)
      let sib ← get
      if sib.sfcs.contains cmd.sfc.sfcUUID then
        set { sib with sfcs := sib.sfcs.erase cmd.sfc.sfcUUID }
      else throw .keyError : PyM Sib Unit).run sib := by
  rw [del_sfc_handler, PyM.run_bind_get, removeMembers_filter]
  rfl

/-- An SFC without SFCIs is forgotten, if it is known. -/
theorem allOrNothing_del_sfc_of_nil {cmd : SimCommand} (hs : Sound u₀ sib)
    (hnone : members sib cmd.sfc = []) :
    AllOrNothing u₀ (del_sfc_handler py3 cmd) sib := by
  rw [AllOrNothing, del_sfc_handler_eq, hnone]
  cases hknown : sib.sfcs.contains cmd.sfc.sfcUUID with
  | true =>
      refine Or.inl ⟨_, ?_, hs.forget hnone⟩
      refine (PyM.run_bind_ok rfl _).trans ?_
      rw [PyM.run_bind_get, if_pos hknown]
      rfl
  | false =>
      refine Or.inr ⟨.keyError, ?_⟩
      refine (PyM.run_bind_ok rfl _).trans ?_
      rw [PyM.run_bind_get, if_neg (by simp [hknown])]
      rfl

/-- A safe deletion of an SFC goes through, or fails and leaves everything as it
was. -/
theorem allOrNothing_del_sfc {cmd : SimCommand} (hs : Sound u₀ sib)
    (hsafe : DelSFCSafe py3 sib cmd.sfc) :
    AllOrNothing u₀ (del_sfc_handler py3 cmd) sib := by
  cases hmembers : members sib cmd.sfc with
  | nil => exact allOrNothing_del_sfc_of_nil hs hmembers
  | cons e items =>
      have hmem : e ∈ members sib cmd.sfc := by
        rw [hmembers]
        exact List.mem_cons_self
      obtain ⟨hinfo, huuid⟩ := mem_members_iff.mp hmem
      rw [AllOrNothing, del_sfc_handler_eq]
      cases hsafe with
      | noMember hnone =>
          rw [hnone] at hmembers
          cases hmembers
      | refused hfirst hrefused =>
          obtain ⟨rfl, rfl⟩ := List.cons.inj (hmembers.symm.trans hfirst)
          obtain ⟨error, hrun⟩ := run_remove_refused hrefused
          refine Or.inr ⟨error, PyM.run_bind_error ?_ _⟩
          rw [hmembers, removeMembers, if_pos huuid]
          exact PyM.run_bind_error hrun _
      | python2 hpy hids =>
          have hnodup : ((members sib cmd.sfc).map Prod.fst).Nodup :=
            sib.sfcis.nodup_keys.sublist (List.filter_sublist.map Prod.fst)
          obtain ⟨sib', hrun, hs', hsfcs, hget⟩ := run_removeMembers hs
            (fun e he => ⟨(mem_members_iff.mp he).1, (mem_members_iff.mp he).2,
              hids e he⟩) hnodup
          have hnone : members sib' cmd.sfc = [] := by
            rw [List.eq_nil_iff_forall_not_mem]
            rintro ⟨sfciID, info⟩ hleft
            obtain ⟨hinfo', huuid'⟩ := mem_members_iff.mp hleft
            obtain ⟨hold, hnot⟩ := hget sfciID info hinfo'
            refine hnot (List.mem_map.mpr ⟨(sfciID, info), ?_, rfl⟩)
            exact mem_members_iff.mpr ⟨hold, huuid'⟩
          have hknown : sib'.sfcs.contains cmd.sfc.sfcUUID = true := by
            rw [hsfcs, ← huuid]
            exact hs.stored _ _ hinfo
          refine Or.inl ⟨_, ?_, hs'.forget hnone⟩
          rw [hpy, PyM.run_bind_ok hrun, PyM.run_bind_get, if_pos hknown]
          rfl

end DelSFC

section Machine

/-- A data centre that no SFCI uses; the TCAMs may be in use by others. -/
structure Fresh (u₀ : Nat → Nat) (sib : Sib) : Prop where
  usage : ∀ w info, sib.switches.get? w = some info → info.tcamUsage = u₀ w
  nextHop : ∀ w info, sib.switches.get? w = some info →
    info.nextHop = Dict.empty
  serverLinks : ∀ l info, sib.serverLinks.get? l = some info → info.usedBy = ∅
  links : ∀ l info, sib.links.get? l = some info → info.usedBy = ∅
  vnfis : ∀ w, (sib.vnfis.get? w).getD [] = []
  sfcis : sib.sfcis = Dict.empty

/-- The simulator, whose TCAM usage is `u₀` at the start. -/
def machine (py3 : Bool) (u₀ : Nat → Nat) : Machine Sib SimCommand where
  init := Fresh u₀
  admits _ _ := True
  step sib cmd := (command_handler py3 cmd).finalState sib

/-- The usage of each TCAM is its initial usage plus the number of its next-hop
entries, and the switches, links and nodes hold the entries of the installed
SFCIs and no others. -/
def Consistent (u₀ : Nat → Nat) (sib : Sib) : Prop :=
  Holds u₀ sib (installedHops sib) ∧ VNFIsHold sib.vnfis (installedVNFIs sib)

variable {py3 : Bool} {u₀ : Nat → Nat} {sib : Sib}

theorem Fresh.sound (hfresh : Fresh u₀ sib) : Sound u₀ sib := by
  have hhops : installedHops sib = ∅ := by
    rw [installedHops, hfresh.sfcis, Dict.needed_empty]
  have hvnfis : installedVNFIs sib = ∅ := by
    rw [installedVNFIs, hfresh.sfcis, Dict.needed_empty]
  have hnone : ∀ {sfciID info}, ¬ sib.sfcis.get? sfciID = some info := by
    intro sfciID info hinfo
    rw [hfresh.sfcis] at hinfo
    cases hinfo
  refine ⟨?_, ?_, fun _ _ h => absurd h hnone, fun _ _ h => absurd h hnone,
    fun _ _ h => absurd h hnone, fun _ _ h => absurd h hnone⟩
  · rw [hhops]
    refine ⟨?_, ?_, ?_, ?_, fun h hh => absurd hh (Set.notMem_empty h)⟩
    · intro w info hinfo
      rw [hfresh.usage w info hinfo, hfresh.nextHop w info hinfo]
      rfl
    · intro w info hinfo key dst
      simp [hfresh.nextHop w info hinfo]
    · intro l info hinfo key
      simp [hfresh.serverLinks l info hinfo]
    · intro l info hinfo key
      simp [hfresh.links l info hinfo]
  · rw [hvnfis]
    constructor
    · intro w
      rw [hfresh.vnfis]
      exact List.nodup_nil
    · intro w info
      simp [hfresh.vnfis]

theorem allOrNothing_command {cmd : SimCommand} (hs : Sound u₀ sib)
    (hsafe : CommandSafe py3 sib cmd) :
    AllOrNothing u₀ (command_handler py3 cmd) sib := by
  rw [command_handler]
  rw [CommandSafe] at hsafe
  split
  · exact allOrNothing_add_sfc hs cmd
  · next htype =>
      rw [htype] at hsafe
      exact allOrNothing_add_sfci hs hsafe
  · next htype =>
      rw [htype] at hsafe
      exact allOrNothing_remove hs hsafe
  · next htype =>
      rw [htype] at hsafe
      exact allOrNothing_del_sfc hs hsafe
  · exact Or.inl ⟨sib, rfl, hs⟩

theorem sound_step {cmd : SimCommand} (hs : Sound u₀ sib)
    (hsafe : CommandSafe py3 sib cmd) :
    Sound u₀ ((command_handler py3 cmd).finalState sib) := by
  obtain ⟨sib', hrun, hs'⟩ | ⟨e, hrun⟩ := allOrNothing_command hs hsafe
  · rw [PyM.finalState_of_ok hrun]
    exact hs'
  · rw [PyM.finalState_of_error hrun]
    exact hs

theorem sound_of_safe {history : List (Sib × SimCommand)}
    (hrun : (machine py3 u₀).Run history sib)
    (hsafe : ∀ e ∈ history, CommandSafe py3 e.1 e.2) : Sound u₀ sib := by
  refine hrun.invariant_of_meets (P := Sound u₀) ?_ ?_ hsafe
  · exact fun sib hfresh => Fresh.sound hfresh
  · exact fun sib cmd _ hs _ hcmd => sound_step hs hcmd

theorem sound_of_mem {history : List (Sib × SimCommand)}
    (hrun : (machine py3 u₀).Run history sib)
    (hsafe : ∀ e ∈ history, CommandSafe py3 e.1 e.2) :
    ∀ e ∈ history, Sound u₀ e.1 := by
  induction hrun with
  | start _ => exact fun e he => absurd he List.not_mem_nil
  | @step history sib cmd hrun _ ih =>
      rw [List.forall_mem_append, List.forall_mem_singleton] at hsafe ⊢
      exact ⟨ih hsafe.1, sound_of_safe hrun hsafe.1⟩

/-- In each run whose commands are all safe, the entries are in every state
those of the installed SFCIs, and each command that failed left everything as it
was. -/
theorem consistent_of_safe {history : List (Sib × SimCommand)}
    (hrun : (machine py3 u₀).Run history sib)
    (hsafe : ∀ e ∈ history, CommandSafe py3 e.1 e.2) :
    (∀ e ∈ history, Consistent u₀ e.1) ∧ Consistent u₀ sib ∧
      ∀ e ∈ history, (command_handler py3 e.2).raises e.1 = true →
        (command_handler py3 e.2).finalState e.1 = e.1 := by
  refine ⟨fun e he => ?_, ?_, fun e he hraises => ?_⟩
  · have hs := sound_of_mem hrun hsafe e he
    exact ⟨hs.hops, hs.vnfis⟩
  · have hs := sound_of_safe hrun hsafe
    exact ⟨hs.hops, hs.vnfis⟩
  · obtain ⟨sib', hok, -⟩ | ⟨error, herror⟩ :=
      allOrNothing_command (sound_of_mem hrun hsafe e he) (hsafe e he)
    · rw [PyM.raises, hok] at hraises
      cases hraises
    · exact PyM.finalState_of_error herror

end Machine

section Example

/-- A classifier `1` and a server `2` at switch `10`, whose TCAM has the given
size. -/
def exampleStart (tcamSize : Nat) : Sib where
  switches := Dict.empty.set 10 ⟨0, tcamSize, Dict.empty⟩
  servers := (Dict.empty.set 1 .classifier).set 2 .nfvi
  links := Dict.empty
  serverLinks := (((Dict.empty.set (1, 10) ⟨∅⟩).set (10, 2) ⟨∅⟩).set (2, 10)
    ⟨∅⟩).set (10, 1) ⟨∅⟩
  vnfis := Dict.empty
  sfcs := Dict.empty
  sfcis := Dict.empty
  flows := Dict.empty
  torNum := 2

def exampleSFC : SFC := ⟨⟨0, 0⟩, [⟨0, .server 1, .server 1⟩], some 1⟩

def exampleSFCI : SFCI where
  sfciID := 5
  vnfiSequence := [[⟨4, .server 2, 1, 1, none⟩]]
  primaryForwardingPath := Dict.empty.set 1
    [[(0, 1), (0, 10), (0, 2)], [(0, 2), (0, 10), (0, 1)]]

def addExample : SimCommand := ⟨.addSFCI, exampleSFC, exampleSFCI⟩
def delExample : SimCommand := ⟨.delSFCI, exampleSFC, exampleSFCI⟩

def exampleRun (tcamSize : Nat) (cmds : List SimCommand) : Sib :=
  cmds.foldl (machine false fun _ => 0).step (exampleStart tcamSize)

theorem exampleStart_fresh (tcamSize : Nat) :
    Fresh (fun _ => 0) (exampleStart tcamSize) := by
  have hswitch : ∀ {w info}, (exampleStart tcamSize).switches.get? w =
      some info → info = ⟨0, tcamSize, Dict.empty⟩ := by
    intro w info hinfo
    rw [exampleStart, Dict.get?_set] at hinfo
    split at hinfo
    · exact (Option.some.inj hinfo).symm
    · cases hinfo
  refine ⟨?_, ?_, ?_, fun _ _ h => absurd h (by simp [exampleStart]),
    fun _ => rfl, rfl⟩
  · rintro w info hinfo
    rw [hswitch hinfo]
  · rintro w info hinfo
    rw [hswitch hinfo]
  · intro l info hinfo
    simp only [exampleStart, Dict.get?_set, Dict.get?_empty] at hinfo
    grind

theorem addSafe_example :
    CommandSafe false (exampleStart 2) addExample := by
  refine fun _ => Or.inl ⟨rfl, ?_, 1024, rfl⟩
  intro h hh info hinfo
  have hcount : ∀ h ∈ sfciHops exampleSFC exampleSFCI,
      startsAt (sfciHops exampleSFC exampleSFCI) h.src ≤ 2 := by decide
  rw [exampleStart, Dict.get?_set] at hinfo
  split at hinfo
  · obtain rfl := Option.some.inj hinfo
    have hle := hcount h hh
    show 0 + startsAt (sfciHops exampleSFC exampleSFCI) h.src ≤ 2
    omega
  · cases hinfo

theorem delSafe_example :
    CommandSafe false (exampleRun 2 [addExample]) delExample := by
  refine Or.inl ⟨⟨exampleSFC, exampleSFCI, Dict.empty.set 0 [0]⟩, ?_, ?_⟩
  · decide +kernel
  · exact ⟨List.Perm.refl _, fun _ _ => rfl, fun _ _ => rfl⟩

theorem exampleRun_run (tcamSize : Nat) (cmd cmd' : SimCommand) :
    (machine false fun _ => 0).Run
      [(exampleStart tcamSize, cmd), (exampleRun tcamSize [cmd], cmd')]
      (exampleRun tcamSize [cmd, cmd']) :=
  .step (i := cmd') (.step (i := cmd) (.start (exampleStart_fresh tcamSize))
    trivial) trivial

/-- With room for two entries the SFCI comes and goes. -/
theorem consistent_of_safe_deleted :
    Consistent (fun _ => 0) (exampleRun 2 [addExample]) ∧
      Consistent (fun _ => 0) (exampleRun 2 [addExample, delExample]) := by
  have hsafe : ∀ e ∈ [(exampleStart 2, addExample),
      (exampleRun 2 [addExample], delExample)], CommandSafe false e.1 e.2 := by
    rw [List.forall_mem_cons, List.forall_mem_singleton]
    constructor
    · exact addSafe_example
    · dsimp only
      exact delSafe_example
  have h := consistent_of_safe (exampleRun_run 2 addExample delExample) hsafe
  obtain ⟨hbefore, hafter, -⟩ := h
  rw [List.forall_mem_cons, List.forall_mem_singleton] at hbefore
  obtain ⟨-, hadded⟩ := hbefore
  dsimp only at hadded
  exact ⟨hadded, hafter⟩

/-- With room for one entry the addition stops at the second hop from the
switch. It fails and leaves the first entry and the VNFI behind, with no SFCI
installed. -/
theorem failed_addition_left_entries :
    (machine false fun _ => 0).Reachable (exampleRun 1 [addExample]) ∧
      (command_handler false addExample).raises (exampleStart 1) = true ∧
      exampleRun 1 [addExample] ≠ exampleStart 1 ∧
      ((exampleRun 1 [addExample]).switches.get? 10).map
        (fun info => info.nextHop.items) = some [(⟨5, 0, 0, 1⟩, 2)] ∧
      ¬ Consistent (fun _ => 0) (exampleRun 1 [addExample]) := by
  have hentry : (exampleRun 1 [addExample]).switches.get? 10 =
      some ⟨1, 1, Dict.empty.set ⟨5, 0, 0, 1⟩ 2⟩ := by decide
  have hnone : (exampleRun 1 [addExample]).sfcis = Dict.empty := by
    decide
  refine ⟨⟨_, .step (i := addExample) (.start (exampleStart_fresh 1)) trivial⟩,
    by decide, by decide, by rw [hentry]; rfl, ?_⟩
  rintro ⟨hhops, -⟩
  have hmem := (hhops.nextHop 10 _ hentry ⟨5, 0, 0, 1⟩ 2).mp rfl
  rw [installedHops, hnone, Dict.needed_empty] at hmem
  exact hmem

end Example

end SelfAdaptiveMano.Simulator

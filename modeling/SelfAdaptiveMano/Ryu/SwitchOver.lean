import SelfAdaptiveMano.Library.Hoare
import SelfAdaptiveMano.Ryu.E2EProtection

/-!
# Switching over to backup paths

When a node or a link fails, the directions of SFCIs whose primary path has it are
switched over to their backup paths: the priority of all entries of these is
raised, and all other entries stay as they are. The search for the failed element
ends with the first stage of a path, so that this is only so for failures that are
seen there.
-/

namespace SelfAdaptiveMano.Ryu

open Library
open Mapping (LayerNode)
open Sff (getPathID)

inductive Failure where
  | node (nodeID : Nat)
  | link (linkID : Nat × Nat)

namespace Failure

/-- The element lies on the way through a stage, a link in either orientation. -/
def In : Failure → List LayerNode → Prop
  | node nodeID, segPath => ∃ layerNodeID ∈ segPath, layerNodeID.2 = nodeID
  | link linkID, segPath => ∃ (i : Nat) (u v : LayerNode), segPath[i]? = some u ∧
      segPath[i + 1]? = some v ∧ ((u.2, v.2) = linkID ∨ (v.2, u.2) = linkID)

def found : Failure → Mapping.ForwardingPath → Bool
  | node nodeID => fun fp => E2EProtection._isPathHasFailureNodeID fp nodeID
  | link linkID => fun fp => E2EProtection._isPathHasFailureLinkID fp linkID

def affected (e : E2EProtection) : Failure → List (Nat × Nat)
  | node nodeID => e._getAffectedSFCIIDListByFailureNodeID nodeID
  | link linkID => e._getAffectedSFCIIDListByFailureLinkID linkID

def handle (dpset : Nat → Bool) : Failure → PyM E2EProtection Unit
  | node nodeID => E2EProtection._e2eProtectionHandleNodeFailure dpset nodeID
  | link linkID => E2EProtection._e2eProtectionHandleLinkFailure dpset linkID

end Failure

namespace E2EProtection

def Protected (e : E2EProtection) (sfciID pathID : Nat)
    (primaryFP : Mapping.ForwardingPath) : Prop :=
  ∃ sfci directionID, e.sfciDict.get? sfciID = some sfci ∧ directionID ∈ [0, 1] ∧
    pathID = getPathID directionID ∧ _getPrimaryPath sfci pathID = some primaryFP ∧
    (_getBackupPaths sfci pathID).isSome

theorem Protected.unique {e : E2EProtection} {sfciID pathID : Nat}
    {primaryFP primaryFP' : Mapping.ForwardingPath}
    (h : e.Protected sfciID pathID primaryFP)
    (h' : e.Protected sfciID pathID primaryFP') : primaryFP = primaryFP' := by
  obtain ⟨sfci, -, hsfci, -, -, hprimary, -⟩ := h
  obtain ⟨sfci', -, hsfci', -, -, hprimary', -⟩ := h'
  rw [hsfci] at hsfci'
  obtain rfl := Option.some.inj hsfci'
  rw [hprimary] at hprimary'
  exact Option.some.inj hprimary'

def Affected (e : E2EProtection) (failure : Failure) (sfciID pathID : Nat) : Prop :=
  ∃ primaryFP, e.Protected sfciID pathID primaryFP ∧
    ∃ segPath ∈ primaryFP, failure.In segPath

def entries? (e : E2EProtection) (key : Nat × Nat) (dpid : Nat) :
    Option (List FlowTableEntry) :=
  (e.sfciRIB.get? key).bind fun entries => entries.get? dpid

def itemMods (item : Nat × List FlowTableEntry) : List (Nat × FlowMod) :=
  (item.2.flatMap raiseMods).map fun mod => (item.1, mod)

def switchMods (e : E2EProtection) (pair : Nat × Nat) : List (Nat × FlowMod) :=
  match e.sfciRIB.get? (pair.1, pair.2 + 1) with
  | some entries => entries.items.flatMap itemMods
  | none => []

/-- The entries of the backup paths of the affected directions have the raised
priority, and all other entries are as before. -/
structure SwitchedOver (e : E2EProtection) (failure : Failure) (e' : E2EProtection) :
    Prop where
  sfcis : e'.sfciDict = e.sfciDict
  sent : e'.sent = e.sent ++ (failure.affected e).flatMap e.switchMods
  raised : ∀ sfciID pathID, e.Affected failure sfciID pathID → ∀ dpid,
    e'.entries? (sfciID, pathID + 1) dpid =
      (e.entries? (sfciID, pathID + 1) dpid).map fun entryList =>
        entryList.map fun entry => { entry with priority := UPPER_BACKUP_ENTRY_PRIORITY }
  others : ∀ key, (∀ sfciID pathID, e.Affected failure sfciID pathID →
      key ≠ (sfciID, pathID + 1)) →
    ∀ dpid, e'.entries? key dpid = e.entries? key dpid

structure SwitchesOver (dpset : Nat → Bool) (e : E2EProtection) (failure : Failure) :
    Prop where
  affected : ∀ sfciID pathID, (sfciID, pathID) ∈ failure.affected e ↔
    e.Affected failure sfciID pathID
  returns : ∃ e', (failure.handle dpset).run e = .ok () e' ∧
    SwitchedOver e failure e'

def Raisable (dpset : Nat → Bool) (e : E2EProtection) (pair : Nat × Nat) : Prop :=
  ∃ entries, e.sfciRIB.get? (pair.1, pair.2 + 1) = some entries ∧
    ∀ dpid ∈ entries.keys, dpset dpid = true

/-- An element that is in some stage is in the first one, and there are entries to
raise. -/
def FailureOk (dpset : Nat → Bool) (e : E2EProtection) (failure : Failure) : Prop :=
  ∀ sfciID pathID primaryFP, e.Protected sfciID pathID primaryFP →
    (∃ segPath ∈ primaryFP, failure.In segPath) →
    (∃ segPath, primaryFP.head? = some segPath ∧ failure.In segPath) ∧
      Raisable dpset e (sfciID, pathID)

/-! ## The search -/

theorem found_iff (failure : Failure) (primaryFP : Mapping.ForwardingPath) :
    failure.found primaryFP = true ↔
      ∃ segPath, primaryFP.head? = some segPath ∧ failure.In segPath := by
  cases primaryFP with
  | nil => cases failure <;> simp [Failure.found, _isPathHasFailureNodeID,
      _isPathHasFailureLinkID]
  | cons segPath primaryFP =>
      cases failure with
      | node nodeID => simp [Failure.found, Failure.In, _isPathHasFailureNodeID]
      | link linkID =>
          simp only [Failure.found, Failure.In, _isPathHasFailureLinkID, List.any_eq_true,
            List.head?_cons, Option.some.injEq, exists_eq_left', Bool.or_eq_true,
            beq_iff_eq]
          constructor
          · rintro ⟨⟨u, v⟩, hmem, hlink⟩
            obtain ⟨i, hi⟩ := List.mem_iff_getElem?.mp hmem
            obtain ⟨hu, hv⟩ := List.getElem?_zip_eq_some.mp hi
            rw [List.getElem?_tail] at hv
            exact ⟨i, u, v, hu, hv, hlink⟩
          · rintro ⟨i, u, v, hu, hv, hlink⟩
            refine ⟨(u, v), List.mem_iff_getElem?.mpr ⟨i, ?_⟩, hlink⟩
            rw [List.getElem?_zip_eq_some, List.getElem?_tail]
            exact ⟨hu, hv⟩

theorem affected_eq (e : E2EProtection) (failure : Failure) :
    failure.affected e = e.affectedSFCIIDList failure.found := by
  cases failure <;> rfl

theorem handle_eq (dpset : Nat → Bool) (failure : Failure) :
    failure.handle dpset = (do
      let e ← get
      increaseAll dpset (failure.affected e)) := by
  cases failure <;> rfl

theorem eq_of_mem_affected {has : Mapping.ForwardingPath → Bool} {sfciID directionID : Nat}
    {sfci : SFCI} {pair : Nat × Nat}
    (h : affectedDirection has sfciID sfci directionID = some pair) :
    pair = (sfciID, getPathID directionID) := by
  rw [affectedDirection] at h
  split at h
  · obtain ⟨-, h⟩ := Option.ite_none_right_eq_some.mp h
    exact (Option.some.inj h).symm
  · cases h

theorem mem_affectedSFCIIDList {e : E2EProtection} {has : Mapping.ForwardingPath → Bool}
    {sfciID pathID : Nat} : (sfciID, pathID) ∈ e.affectedSFCIIDList has ↔
      ∃ primaryFP, e.Protected sfciID pathID primaryFP ∧ has primaryFP = true := by
  simp only [affectedSFCIIDList, List.mem_flatMap, Prod.exists, List.mem_filterMap]
  constructor
  · rintro ⟨sfciID', sfci, hsfci, directionID, hdirection, hfound⟩
    obtain ⟨rfl, rfl⟩ := Prod.mk.inj (eq_of_mem_affected hfound)
    rw [Dict.mem_items_iff] at hsfci
    rw [affectedDirection] at hfound
    split at hfound
    next primaryFP backupFPs hprimary hbackup =>
      obtain ⟨hhas, -⟩ := Option.ite_none_right_eq_some.mp hfound
      exact ⟨primaryFP, ⟨sfci, directionID, hsfci, hdirection, rfl, hprimary,
        by rw [hbackup, Option.isSome_some]⟩, hhas⟩
    next => cases hfound
  · rintro ⟨primaryFP, ⟨sfci, directionID, hsfci, hdirection, rfl, hprimary, hbackup⟩,
      hhas⟩
    obtain ⟨backupFPs, hbackup⟩ := Option.isSome_iff_exists.mp hbackup
    refine ⟨sfciID, sfci, Dict.mem_items_iff.mpr hsfci, directionID, hdirection, ?_⟩
    simp only [affectedDirection, hprimary, hbackup, hhas, if_true]

/-- No direction is found twice. -/
theorem nodup_affectedSFCIIDList (e : E2EProtection) (has : Mapping.ForwardingPath → Bool) :
    (e.affectedSFCIIDList has).Nodup := by
  refine List.nodup_flatMap.mpr ⟨?_, ?_⟩
  · rintro ⟨sfciID, sfci⟩ -
    refine List.pairwise_filterMap.mpr (List.pairwise_pair.mpr ?_)
    rintro pair hpair pair' hpair' rfl
    have heq := (eq_of_mem_affected hpair).symm.trans (eq_of_mem_affected hpair')
    exact absurd (Prod.mk.inj heq).2 (by decide)
  · have hkeys : (e.sfciDict.items.map Prod.fst).Nodup := e.sfciDict.nodup_keys
    refine (List.pairwise_map.mp hkeys).imp ?_
    rintro ⟨sfciID, sfci⟩ ⟨sfciID', sfci'⟩ hne pair hpair hpair'
    obtain ⟨directionID, -, hpair⟩ := List.mem_filterMap.mp hpair
    obtain ⟨directionID', -, hpair'⟩ := List.mem_filterMap.mp hpair'
    have heq := (eq_of_mem_affected hpair).symm.trans (eq_of_mem_affected hpair')
    exact hne (Prod.mk.inj heq).1

/-! ## Raising the priority -/

theorem entries?_modify (e : E2EProtection) (key key' : Nat × Nat) (dpid dpid' : Nat)
    (sent : List (Nat × FlowMod)) (f : List FlowTableEntry → List FlowTableEntry) :
    E2EProtection.entries?
        { e with
          sfciRIB := e.sfciRIB.modify key fun entries => entries.modify dpid f
          sent := sent } key' dpid' =
      if key' = key ∧ dpid' = dpid then (e.entries? key dpid).map f
      else e.entries? key' dpid' := by
  simp only [entries?, Dict.get?_modify]
  by_cases hkey : key' = key
  · subst hkey
    cases hentries : e.sfciRIB.get? key' with
    | none => simp
    | some entries => simp [Dict.get?_modify]
  · simp [hkey]

/-- What a raise of some entries under a key leaves alone, and what it sends. -/
structure RaisedAt (e : E2EProtection) (key : Nat × Nat) (done : Nat → Prop)
    (mods : List (Nat × FlowMod)) (e' : E2EProtection) : Prop where
  sfcis : e'.sfciDict = e.sfciDict
  sent : e'.sent = e.sent ++ mods
  others : ∀ key', key' ≠ key → e'.sfciRIB.get? key' = e.sfciRIB.get? key'
  raised : ∀ dpid, done dpid → e'.entries? key dpid =
    (e.entries? key dpid).map (List.map raisePriority)
  same : ∀ dpid, ¬ done dpid → e'.entries? key dpid = e.entries? key dpid

theorem run_increaseEntries (dpset : Nat → Bool) (sfciID backupPathID : Nat)
    {dpid : Nat} {entryList : List FlowTableEntry} (hne : entryList ≠ []) (e : E2EProtection) :
    (dpset dpid = true ∧
      (increaseEntries dpset sfciID backupPathID dpid entryList).run e = .ok ()
        { e with
          sfciRIB := e.sfciRIB.modify (sfciID, backupPathID) fun entries =>
            entries.modify dpid fun entryList => entryList.map raisePriority
          sent := e.sent ++ itemMods (dpid, entryList) }) ∨
    (dpset dpid = false ∧ ∃ error e',
      (increaseEntries dpset sfciID backupPathID dpid entryList).run e =
        .error error e') := by
  rw [increaseEntries, if_neg hne]
  cases hconnected : dpset dpid with
  | true => exact Or.inl ⟨rfl, rfl⟩
  | false => exact Or.inr ⟨rfl, _, _, rfl⟩

/-- All entries of the backup paths of a direction are raised, or a switch is not
connected. -/
theorem run_increaseSFCIBackupPathPriority (dpset : Nat → Bool)
    {sfciID backupPathID : Nat} {e : E2EProtection}
    {entries : Dict Nat (List FlowTableEntry)}
    (hentries : e.sfciRIB.get? (sfciID, backupPathID) = some entries)
    (hne : ∀ dpid entryList, entries.get? dpid = some entryList → entryList ≠ []) :
    (∃ e', (_increaseSFCIBackupPathPriority dpset sfciID backupPathID).run e =
        .ok () e' ∧ (∀ dpid ∈ entries.keys, dpset dpid = true) ∧
      RaisedAt e (sfciID, backupPathID) (fun _ => True)
        (entries.items.flatMap itemMods) e') ∨
    ((∃ dpid ∈ entries.keys, dpset dpid = false) ∧ ∃ error e',
      (_increaseSFCIBackupPathPriority dpset sfciID backupPathID).run e =
        .error error e') := by
  have hrun : (_increaseSFCIBackupPathPriority dpset sfciID backupPathID).run e =
      (entries.items.forM fun item =>
        increaseEntries dpset sfciID backupPathID item.1 item.2).run e := by
    rw [_increaseSFCIBackupPathPriority, PyM.run_bind_get, hentries]
    rfl
  have hloop := PyM.run_forM_or (l := entries.items) (s := e)
    (f := fun item => increaseEntries dpset sfciID backupPathID item.1 item.2)
    (B := fun item => dpset item.1 = false)
    (R := fun done e' => RaisedAt e (sfciID, backupPathID)
      (fun dpid => dpid ∈ done.map Prod.fst) (done.flatMap itemMods) e')
    ⟨rfl, by simp, fun _ _ => rfl, by simp, fun _ _ => rfl⟩ (by
      rintro done ⟨dpid, entryList⟩ rest e' hitems hdone
      have hmem : (dpid, entryList) ∈ entries.items := by simp [hitems]
      have hnot : dpid ∉ done.map Prod.fst := by
        have hkeys := entries.nodup_keys
        rw [hitems, List.map_append, List.map_cons, List.nodup_middle,
          List.nodup_cons] at hkeys
        exact fun hin => hkeys.1 (List.mem_append_left _ hin)
      obtain ⟨hconnected, hrun⟩ | ⟨hconnected, herror⟩ :=
        run_increaseEntries dpset sfciID backupPathID
          (hne dpid entryList (Dict.mem_items_iff.mp hmem)) e'
      · refine Or.inl ⟨_, hrun, by simp [hconnected], hdone.sfcis, ?_, ?_, ?_, ?_⟩
        · simp [hdone.sent]
        · intro key' hkey'
          rw [Dict.get?_modify, if_neg hkey', hdone.others key' hkey']
        · intro dpid' hdpid'
          rw [entries?_modify]
          simp only [List.map_append, List.map_cons, List.map_nil, List.mem_append,
            List.mem_singleton] at hdpid'
          split_ifs with heq
          · rw [heq.2, hdone.same dpid hnot]
          · obtain hold | rfl := hdpid'
            · exact hdone.raised dpid' hold
            · exact absurd ⟨rfl, rfl⟩ heq
        · intro dpid' hdpid'
          simp only [List.map_append, List.map_cons, List.map_nil, List.mem_append,
            List.mem_singleton, not_or] at hdpid'
          rw [entries?_modify, if_neg (fun heq => hdpid'.2 heq.2),
            hdone.same dpid' hdpid'.1]
      · exact Or.inr ⟨hconnected, herror⟩)
  rw [hrun]
  obtain ⟨e', hok, hconnected, hraised⟩ | ⟨⟨item, hitem, hnot⟩, herror⟩ := hloop
  · refine Or.inl ⟨e', hok, fun dpid hdpid => ?_, hraised.sfcis, hraised.sent,
      hraised.others, fun dpid _ => ?_, fun dpid hdpid => absurd trivial hdpid⟩
    · obtain ⟨item, hitem, rfl⟩ := List.mem_map.mp hdpid
      simpa using hconnected item hitem
    · by_cases hdpid : dpid ∈ entries.keys
      · exact hraised.raised dpid hdpid
      · rw [hraised.same dpid hdpid]
        have hnone := Dict.get?_eq_none_iff.mpr hdpid
        simp [entries?, hentries, hnone]
  · exact Or.inr ⟨⟨item.1, List.mem_map_of_mem hitem, hnot⟩, herror⟩

theorem run_increaseAll (dpset : Nat → Bool) {e : E2EProtection}
    {affectedSFCIIDList : List (Nat × Nat)} (hnodup : affectedSFCIIDList.Nodup)
    (hne : ∀ key dpid entryList, e.entries? key dpid = some entryList →
      entryList ≠ []) :
    (∃ e', (increaseAll dpset affectedSFCIIDList).run e = .ok () e' ∧
      (∀ pair ∈ affectedSFCIIDList, Raisable dpset e pair) ∧
      e'.sfciDict = e.sfciDict ∧
      e'.sent = e.sent ++ affectedSFCIIDList.flatMap e.switchMods ∧
      (∀ pair ∈ affectedSFCIIDList, ∀ dpid,
        e'.entries? (pair.1, pair.2 + 1) dpid =
          (e.entries? (pair.1, pair.2 + 1) dpid).map (List.map raisePriority)) ∧
      ∀ key, (∀ pair ∈ affectedSFCIIDList, key ≠ (pair.1, pair.2 + 1)) →
        e'.sfciRIB.get? key = e.sfciRIB.get? key) ∨
    ((∃ pair ∈ affectedSFCIIDList, ¬ Raisable dpset e pair) ∧ ∃ error e',
      (increaseAll dpset affectedSFCIIDList).run e = .error error e') := by
  have hloop := PyM.run_forM_or (l := affectedSFCIIDList) (s := e)
    (f := fun pair => _increaseSFCIBackupPathPriority dpset pair.1 (pair.2 + 1))
    (B := fun pair => ¬ Raisable dpset e pair)
    (R := fun done e' => e'.sfciDict = e.sfciDict ∧
      e'.sent = e.sent ++ done.flatMap e.switchMods ∧
      (∀ pair ∈ done, ∀ dpid, e'.entries? (pair.1, pair.2 + 1) dpid =
        (e.entries? (pair.1, pair.2 + 1) dpid).map (List.map raisePriority)) ∧
      ∀ key, (∀ pair ∈ done, key ≠ (pair.1, pair.2 + 1)) →
        e'.sfciRIB.get? key = e.sfciRIB.get? key)
    ⟨rfl, by simp, by simp, fun _ _ => rfl⟩ (by
      rintro done ⟨sfciID, pathID⟩ rest e' hlist ⟨hsfcis, hsent, hraised, hothers⟩
      have hnot : ∀ pair ∈ done, (sfciID, pathID + 1) ≠ (pair.1, pair.2 + 1) := by
        rw [hlist, List.nodup_middle, List.nodup_cons] at hnodup
        rintro ⟨sfciID', pathID'⟩ hpair heq
        obtain ⟨rfl, hpathID⟩ := Prod.mk.inj heq
        obtain rfl := Nat.succ.inj hpathID
        exact hnodup.1 (List.mem_append_left _ hpair)
      have hkey := hothers _ hnot
      cases hentries : e.sfciRIB.get? (sfciID, pathID + 1) with
      | none =>
          refine Or.inr ⟨?_, .keyError, e', ?_⟩
          · rintro ⟨entries, hsome, -⟩
            rw [hentries] at hsome
            cases hsome
          · rw [_increaseSFCIBackupPathPriority, PyM.run_bind_get, hkey, hentries]
            rfl
      | some entries =>
          rw [hentries] at hkey
          have hlists : ∀ dpid entryList, entries.get? dpid = some entryList →
              entryList ≠ [] := by
            intro dpid entryList hget
            apply hne (sfciID, pathID + 1) dpid
            rw [entries?, hentries]
            exact hget
          obtain ⟨e'', hrun, hconnected, hstep⟩ | ⟨⟨dpid, hdpid, hnotIn⟩, herror⟩ :=
            run_increaseSFCIBackupPathPriority dpset hkey hlists
          · refine Or.inl ⟨e'', hrun, fun hbad => hbad ⟨entries, hentries, hconnected⟩,
              hstep.sfcis.trans hsfcis, ?_, ?_, ?_⟩
            · rw [hstep.sent, hsent, List.flatMap_append, List.flatMap_singleton,
                switchMods, hentries, List.append_assoc]
            · intro pair hpair dpid
              obtain hpair | hpair := List.mem_append.mp hpair
              · rw [← hraised pair hpair dpid, entries?, entries?,
                  hstep.others _ (hnot pair hpair).symm]
              · obtain rfl := List.mem_singleton.mp hpair
                rw [hstep.raised dpid trivial, entries?, entries?, hkey, hentries]
            · intro key hnew
              rw [List.forall_mem_append, List.forall_mem_singleton] at hnew
              rw [hstep.others key hnew.2, hothers key hnew.1]
          · refine Or.inr ⟨?_, herror⟩
            rintro ⟨entries', hsome, hall⟩
            rw [hentries] at hsome
            obtain rfl := Option.some.inj hsome
            have hin := hall dpid hdpid
            rw [hnotIn] at hin
            cases hin)
  obtain ⟨e', hrun, hgood, hrest⟩ | hbad := hloop
  · exact Or.inl ⟨e', hrun, fun pair hpair => not_not.mp (hgood pair hpair), hrest⟩
  · exact Or.inr hbad

/-! ## The entries in all runs -/

/-- The list of a switch has an entry, and the entries of backup paths have one of
both priorities. -/
structure ListOk (key : Nat × Nat) (entryList : List FlowTableEntry) : Prop where
  ne_nil : entryList ≠ []
  priority : ∀ directionID, key.2 = getPathID directionID + 1 →
    ∀ entry ∈ entryList, entry.priority = LOWER_BACKUP_ENTRY_PRIORITY ∨
      entry.priority = UPPER_BACKUP_ENTRY_PRIORITY

def EntriesOk (e : E2EProtection) : Prop :=
  ∀ key dpid entryList, e.entries? key dpid = some entryList → ListOk key entryList

theorem entries?_addSFCIE2EPFlowTableEntry (e : E2EProtection)
    (sfciID pathID dpid : Nat) (newEntry : FlowTableEntry) (key : Nat × Nat)
    (dpid' : Nat) :
    (e.addSFCIE2EPFlowTableEntry sfciID pathID dpid newEntry).entries? key dpid' =
      if key = (sfciID, pathID) ∧ dpid' = dpid then
        some ((e.entries? key dpid).getD [] ++ [newEntry])
      else e.entries? key dpid' := by
  simp only [entries?, addSFCIE2EPFlowTableEntry, Dict.get?_set]
  by_cases hkey : key = (sfciID, pathID)
  · subst hkey
    cases hentries : e.sfciRIB.get? (sfciID, pathID) with
    | none => by_cases hdpid : dpid' = dpid <;> simp [Dict.get?_set, hdpid]
    | some entries => by_cases hdpid : dpid' = dpid <;> simp [Dict.get?_set, hdpid]
  · simp [hkey]

theorem EntriesOk.add {e : E2EProtection} (h : EntriesOk e)
    {sfciID pathID dpid : Nat} {newEntry : FlowTableEntry}
    (hnew : ∀ directionID, pathID = getPathID directionID + 1 →
      newEntry.priority = LOWER_BACKUP_ENTRY_PRIORITY) :
    EntriesOk (e.addSFCIE2EPFlowTableEntry sfciID pathID dpid newEntry) := by
  intro key dpid' entryList hlist
  rw [entries?_addSFCIE2EPFlowTableEntry] at hlist
  split_ifs at hlist with heq
  · obtain rfl := Option.some.inj hlist
    obtain ⟨rfl, rfl⟩ := heq
    refine ⟨by simp, fun directionID hpath entry hentry => ?_⟩
    obtain hentry | hentry := List.mem_append.mp hentry
    · cases hold : e.entries? (sfciID, pathID) dpid' with
      | none => simp [hold] at hentry
      | some entryList =>
          rw [hold, Option.getD_some] at hentry
          exact (h _ _ _ hold).priority directionID hpath entry hentry
    · rw [List.mem_singleton.mp hentry]
      exact Or.inl (hnew directionID hpath)
  · exact h key dpid' entryList hlist

theorem raisePriority_priority (entry : FlowTableEntry) :
    (raisePriority entry).priority = UPPER_BACKUP_ENTRY_PRIORITY ∨
      (raisePriority entry).priority = entry.priority := by
  rw [raisePriority]
  split
  · exact Or.inl rfl
  · exact Or.inr rfl

theorem EntriesOk.raise {e : E2EProtection} (h : EntriesOk e) (key : Nat × Nat)
    (dpid : Nat) :
    EntriesOk { e with
      sfciRIB := e.sfciRIB.modify key fun entries =>
        entries.modify dpid fun entryList => entryList.map raisePriority } := by
  intro key' dpid' entryList hlist
  have hmodify := entries?_modify e key key' dpid dpid' e.sent
    fun entryList => entryList.map raisePriority
  rw [hmodify] at hlist
  split_ifs at hlist with heq
  · obtain ⟨old, hold, rfl⟩ := Option.map_eq_some_iff.mp hlist
    have hok := h key dpid old hold
    refine ⟨by simpa using hok.ne_nil, fun directionID hpath entry hentry => ?_⟩
    obtain ⟨entry, hmem, rfl⟩ := List.mem_map.mp hentry
    obtain hupper | hsame := raisePriority_priority entry
    · exact Or.inr hupper
    · rw [hsame]
      exact hok.priority directionID (heq.1 ▸ hpath) entry hmem
  · exact h key' dpid' entryList hlist

open PyM in
theorem keeps_addE2EPSFCIFlowtable {net : Network} {currentDpid nextDpid : Nat}
    {sfci : SFCI} {directionID pathID inPortIndex dstIP priority : Nat}
    (h : ∀ directionID, pathID = getPathID directionID + 1 →
      priority = LOWER_BACKUP_ENTRY_PRIORITY) :
    Keeps EntriesOk (_addE2EPSFCIFlowtable net currentDpid nextDpid sfci directionID
      pathID inPortIndex dstIP priority) := by
  refine Meets.ite (fun _ => ?_) fun _ => ?_
  · exact fun _ hs => hs
  · refine Meets.bind_ofExcept (fun fields _ => ?_) fun _ hs => hs
    refine Meets.bind_ofOption (fun port _ => ?_) fun _ hs => hs
    exact fun s hs => EntriesOk.add hs h

open PyM in
theorem keeps_addSegPath {net : Network} {sfci : SFCI}
    {directionID pathID dstIP priority : Nat} {segPath : List LayerNode}
    (h : ∀ directionID, pathID = getPathID directionID + 1 →
      priority = LOWER_BACKUP_ENTRY_PRIORITY) :
    Keeps EntriesOk
      (addSegPath net sfci directionID pathID dstIP priority segPath) := by
  refine Keeps.forM fun i _ => ?_
  refine Meets.bind_ofExcept (fun prevNode _ => ?_) fun _ hs => hs
  refine Meets.bind_ofExcept (fun currentSwitch _ => ?_) fun _ hs => hs
  refine Meets.bind_ofExcept (fun inPortIndex _ => ?_) fun _ hs => hs
  refine Meets.bind_ofExcept (fun nextNode _ => ?_) fun _ hs => hs
  exact keeps_addE2EPSFCIFlowtable h

theorem getPathID_ne_succ (directionID directionID' : Nat) :
    getPathID directionID ≠ getPathID directionID' + 1 := by
  simp only [getPathID, Sff.DIRECTION0_PATHID_OFFSET, Sff.DIRECTION1_PATHID_OFFSET]
  split <;> split <;> decide

open PyM in
theorem keeps_addSFCIHandler (net : Network) (directionIDs : List Nat)
    (sfci : SFCI) : Keeps EntriesOk (_addSFCIHandler net directionIDs sfci) := by
  refine Keeps.bind (Keeps.forM fun directionID _ => Keeps.bind ?_ fun _ => ?_)
    fun _ s hs => hs
  · refine Meets.bind_ofOption (fun primaryFP _ => ?_) fun _ hs => hs
    refine Keeps.forM fun stage _ => Meets.ite (fun _ _ hs => hs) fun _ => ?_
    refine Meets.bind_ofExcept (fun dstIP _ => ?_) fun _ hs => hs
    refine Meets.bind_ofExcept (fun _ _ => ?_) fun _ hs => hs
    refine Meets.bind_ofExcept (fun _ _ => ?_) fun _ hs => hs
    exact keeps_addSegPath fun directionID' hpath =>
      absurd hpath (getPathID_ne_succ directionID directionID')
  · refine Meets.bind_ofOption (fun backupFPs _ => ?_) fun _ hs => hs
    refine Keeps.forM fun backupPath _ => Keeps.forM fun stage _ => ?_
    refine Meets.ite (fun _ _ hs => hs) fun _ => ?_
    refine Meets.bind_ofExcept (fun dstIP _ => ?_) fun _ hs => hs
    exact keeps_addSegPath fun _ _ => rfl

open PyM in
theorem keeps_increaseAll (dpset : Nat → Bool) (affectedSFCIIDList : List (Nat × Nat)) :
    Keeps EntriesOk (increaseAll dpset affectedSFCIIDList) := by
  refine Keeps.forM fun pair _ => Meets.bind_get_any fun e => ?_
  refine Meets.bind_ofOption (fun entries _ => ?_) fun _ hs => hs
  refine Keeps.forM fun item _ => ?_
  refine Meets.ite (fun _ _ hs => hs) fun _ => Meets.ite (fun _ _ hs => hs) fun _ => ?_
  exact fun s hs => EntriesOk.raise (e := { s with sent := _ }) hs _ _

open PyM in
theorem entriesOk_of_reachable {e : E2EProtection} (h : machine.Reachable e) :
    EntriesOk e := by
  refine h.invariant (P := EntriesOk) ?_ ?_
  · rintro e rfl key dpid entryList hlist
    cases hlist
  · rintro e event he -
    have hfailure : ∀ failure dpset, Keeps EntriesOk (Failure.handle dpset failure) := by
      intro failure dpset
      rw [handle_eq]
      exact Meets.bind_get_any fun e => keeps_increaseAll _ _
    have hkeeps : Keeps EntriesOk (handle event) := by
      cases event with
      | addSFCI net directionIDs sfci => exact keeps_addSFCIHandler net directionIDs sfci
      | switchLeave dpset switchID => exact hfailure (.node switchID) dpset
      | linkDelete dpset linkID => exact hfailure (.link linkID) dpset
      | serverDown dpset serverIDs =>
          exact Keeps.forM fun serverID _ => hfailure (.node serverID) dpset
    exact Meets.finalState hkeeps he

/-! ## Switching over -/

theorem map_raisePriority {sfciID directionID : Nat} {entryList : List FlowTableEntry}
    (h : ListOk (sfciID, getPathID directionID + 1) entryList) :
    entryList.map raisePriority = entryList.map fun entry =>
      { entry with priority := UPPER_BACKUP_ENTRY_PRIORITY } := by
  apply List.map_congr_left
  intro entry hentry
  rw [raisePriority]
  obtain hlower | hupper := h.priority directionID rfl entry hentry
  · rw [if_pos hlower]
  · rw [if_neg (by rw [hupper]; decide), ← hupper]

/-- A failure is handled as it should be exactly when the element is in the first
stage of every path that it is in, and the backup paths there have entries in
connected switches. -/
theorem switchesOver_iff {e : E2EProtection} (h : machine.Reachable e)
    (dpset : Nat → Bool) (failure : Failure) :
    SwitchesOver dpset e failure ↔ FailureOk dpset e failure := by
  have hok := entriesOk_of_reachable h
  have hnodup := e.nodup_affectedSFCIIDList failure.found
  rw [← affected_eq] at hnodup
  have hmem : ∀ sfciID pathID, (sfciID, pathID) ∈ failure.affected e ↔
      ∃ primaryFP, e.Protected sfciID pathID primaryFP ∧
        ∃ segPath, primaryFP.head? = some segPath ∧ failure.In segPath := by
    intro sfciID pathID
    rw [affected_eq, mem_affectedSFCIIDList]
    simp only [found_iff]
  have hrun := run_increaseAll dpset hnodup
    fun key dpid entryList hlist => (hok key dpid entryList hlist).ne_nil
  have hhandle : (failure.handle dpset).run e =
      (increaseAll dpset (failure.affected e)).run e := by
    rw [handle_eq, PyM.run_bind_get]
  rw [← hhandle] at hrun
  constructor
  · rintro ⟨haffected, e', hreturned, -⟩ sfciID pathID primaryFP hprotected hstage
    have hfound := (haffected sfciID pathID).mpr ⟨primaryFP, hprotected, hstage⟩
    obtain ⟨-, -, hraisable, -⟩ | ⟨-, error, e'', herror⟩ := hrun
    · refine ⟨?_, hraisable _ hfound⟩
      obtain ⟨primaryFP', hprotected', hfirst⟩ := (hmem sfciID pathID).mp hfound
      rw [hprotected.unique hprotected']
      exact hfirst
    · rw [hreturned] at herror
      cases herror
  · intro hfailure
    have haffected : ∀ sfciID pathID, (sfciID, pathID) ∈ failure.affected e ↔
        e.Affected failure sfciID pathID := by
      intro sfciID pathID
      rw [hmem]
      constructor
      · rintro ⟨primaryFP, hprotected, segPath, hhead, hin⟩
        exact ⟨primaryFP, hprotected, segPath, List.mem_of_head? hhead, hin⟩
      · rintro ⟨primaryFP, hprotected, hstage⟩
        exact ⟨primaryFP, hprotected,
          (hfailure sfciID pathID primaryFP hprotected hstage).1⟩
    refine ⟨haffected, ?_⟩
    obtain ⟨e', hreturned, -, hsfcis, hsent, hraised, hothers⟩ |
      ⟨⟨⟨sfciID, pathID⟩, hpair, hnot⟩, -⟩ := hrun
    · refine ⟨e', hreturned, hsfcis, hsent, ?_, ?_⟩
      · intro sfciID pathID hpair dpid
        rw [hraised _ ((haffected sfciID pathID).mpr hpair) dpid]
        obtain ⟨primaryFP, ⟨sfci, directionID, -, -, rfl, -⟩, -⟩ := hpair
        cases hlist : e.entries? (sfciID, getPathID directionID + 1) dpid with
        | none => rfl
        | some entryList =>
            rw [Option.map_some, Option.map_some, map_raisePriority (hok _ _ _ hlist)]
      · intro key hkey dpid
        rw [entries?, entries?, hothers key]
        rintro ⟨sfciID, pathID⟩ hpair
        exact hkey sfciID pathID ((haffected sfciID pathID).mp hpair)
    · obtain ⟨primaryFP, hprotected, hstage⟩ := (haffected sfciID pathID).mp hpair
      exact absurd (hfailure sfciID pathID primaryFP hprotected hstage).2 hnot

def twoStages : SFCI where
  sfciID := 1
  vnfiSequence := [[⟨2, ⟨0, 0⟩, .switch⟩]]
  primaryForwardingPath := Dict.empty.set 1
    [[(0, 10001), (0, 1), (0, 2), (0, 10002)], [(1, 10002), (1, 2), (1, 3), (1, 10001)]]
  backupForwardingPath := Dict.empty.set 1
    [[[(0, 10001), (0, 1), (0, 4), (0, 10002)], [(1, 10002), (1, 4), (1, 1), (1, 10001)]]]

def installed : E2EProtection :=
  machine.step init (.addSFCI ⟨fun _ => true, fun _ _ _ _ => .ok 1,
    fun _ _ currentDpid nextDpid => .ok (currentDpid, nextDpid, some 1)⟩ [0] twoStages)

theorem reachable_installed : machine.Reachable installed :=
  (Machine.Reachable.init rfl).step trivial

theorem protected_installed {sfciID pathID : Nat} {primaryFP : Mapping.ForwardingPath} :
    installed.Protected sfciID pathID primaryFP →
      (sfciID, pathID) = (1, 1) ∧
        twoStages.primaryForwardingPath.get? 1 = some primaryFP := by
  rintro ⟨sfci, directionID, hsfci, hdirection, rfl, hprimary, -⟩
  have hdict : installed.sfciDict = Dict.empty.set 1 twoStages := rfl
  rw [hdict, Dict.get?_set] at hsfci
  split_ifs at hsfci with hsfciID
  · obtain rfl := Option.some.inj hsfci
    obtain rfl | hdirection := List.mem_cons.mp hdirection
    · exact ⟨by rw [hsfciID]; rfl, hprimary⟩
    · obtain rfl := List.mem_singleton.mp hdirection
      cases hprimary
  · cases hsfci

/-- Switch 2 is in both stages. -/
theorem switchesOver_iff_firstStage :
    SwitchesOver (fun _ => true) installed (.node 2) := by
  refine (switchesOver_iff reachable_installed _ _).mpr ?_
  intro sfciID pathID primaryFP hprotected _
  obtain ⟨hpair, hprimary⟩ := protected_installed hprotected
  obtain ⟨rfl, rfl⟩ := Prod.mk.inj hpair
  obtain rfl := Option.some.inj hprimary
  refine ⟨⟨_, rfl, (0, 2), by decide, rfl⟩, _, rfl, fun _ _ => rfl⟩

/-- Switch 3 is in the second stage only, and the SFCI is not found. -/
theorem not_switchesOver_secondStage :
    machine.Reachable installed ∧
      ¬ SwitchesOver (fun _ => true) installed (.node 3) := by
  refine ⟨reachable_installed, fun h => ?_⟩
  have haffected : installed.Affected (.node 3) 1 1 :=
    ⟨_, ⟨twoStages, 0, rfl, by decide, rfl, rfl, rfl⟩,
      [(1, 10002), (1, 2), (1, 3), (1, 10001)], by decide, (1, 3), by decide, rfl⟩
  have hmem := (h.affected 1 1).mpr haffected
  exact absurd hmem (by decide)

end E2EProtection

end SelfAdaptiveMano.Ryu

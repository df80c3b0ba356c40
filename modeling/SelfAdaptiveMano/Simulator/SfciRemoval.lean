import SelfAdaptiveMano.Simulator.EntryRemoval
import SelfAdaptiveMano.Simulator.Runs

/-!
# The deletion of stored SFCIs

The deletion of a stored SFCI goes through and leaves nothing under its id exactly
when the SFCI is intact and the TCAMs count its hops. SFCIs with different ids do
not share entries, so the deletion of one does not matter for the others.
-/

namespace SelfAdaptiveMano.Simulator

open Library

section SFCI

variable {sib sib' : Sib} {sfc : SFC} {info : SFCIInfo} {sfciID : Nat}

/-- What the deletion of a stored SFCI changed. -/
structure Removed (sfc : SFC) (sfciID : Nat) (info : SFCIInfo) (sib sib' : Sib) :
    Prop where
  kept : Kept [sfciID] sib sib'
  uncounted : Uncounted (sfciHops sfc info.sfci) sib sib'
  sfcs : sib'.sfcs = sib.sfcs
  sfcis : sib'.sfcis = sib.sfcis.erase sfciID
  flows : ∀ t, sib'.flows.get? t =
    if t ∈ info.traffics.values.flatten then none else sib.flows.get? t

theorem Checked.itemAt_zero (hchecked : Checked sfc) :
    ∃ direction, itemAt sfc.directions 0 = .ok direction := by
  have hlength := hchecked.length
  exact ⟨sfc.directions[0], itemAt_eq_ok_iff.mpr (List.getElem?_eq_getElem (by omega))⟩

theorem path_of_run_removeHops {sfci : SFCI} {directions : List Direction}
    (hids : ∀ d ∈ directions, d.ID = 0 ∨ d.ID = 1)
    {previous : List (List (Nat × Nat))}
    (hrun : (removeHops sfci previous directions).run sib = .ok () sib') :
    ∀ d ∈ directions, ∃ pathlist, pathlistOf sfci d.ID = .ok pathlist := by
  induction directions generalizing previous sib with
  | nil => exact fun d hd => absurd hd List.not_mem_nil
  | cons direction directions ih =>
      rw [removeHops, PyM.run_bind_ofExcept_eq_ok_iff] at hrun
      obtain ⟨pathlist, hpathlist, hrun⟩ := hrun
      obtain ⟨⟨⟩, sib₁, -, hrest⟩ := PyM.run_bind_eq_ok_iff.mp hrun
      rw [pathlistFrom, if_pos (hids direction List.mem_cons_self)] at hpathlist
      rw [List.forall_mem_cons]
      exact ⟨⟨pathlist, hpathlist⟩,
        ih (fun d hd => hids d (List.mem_cons_of_mem direction hd)) hrest⟩

theorem run_remove_sfci_eq_ok_iff (hchecked : Checked sfc)
    (hrouted : Routed info.sfc info.sfci) :
    (remove_sfci sfc info.sfci).run sib = .ok () sib' ↔
      (∀ direction ∈ sfc.directions, ∃ pathlist,
        pathlistOf info.sfci direction.ID = .ok pathlist) ∧
      ∃ sib₁ sib₂,
        ((vnfiStages info.sfci).forM fun e => removeVNFI info.sfci e.1 e.2).run sib =
          .ok () sib₁ ∧
        ((sfciHops sfc info.sfci).forM removeHop).run sib₁ = .ok () sib₂ ∧
        (purge info.sfci.sfciID).run sib₂ = .ok () sib' := by
  obtain ⟨direction, hfirst⟩ := hchecked.itemAt_zero
  obtain ⟨d, hd, hzero⟩ := hrouted.direction_zero
  obtain ⟨pathlist, hpathlist, -⟩ := hrouted.path d hd
  rw [hzero] at hpathlist
  have hids : ∀ d ∈ sfc.directions, d.ID = 0 ∨ d.ID = 1 :=
    fun d hd => hchecked.direction_lt hd
  have hvnfis : removeVNFIs info.sfci pathlist =
      (vnfiStages info.sfci).forM fun e => removeVNFI info.sfci e.1 e.2 := by
    rw [vnfiStages, hpathlist]
    rfl
  have hrun : (remove_sfci sfc info.sfci).run sib = (do
      (vnfiStages info.sfci).forM fun e => removeVNFI info.sfci e.1 e.2
      removeHops info.sfci pathlist sfc.directions
      purge info.sfci.sfciID : PyM Sib Unit).run sib := by
    rw [remove_sfci, hfirst, hpathlist]
    refine (PyM.run_bind_ok (PyM.run_ofExcept_ok ..) _).trans ?_
    refine (PyM.run_bind_ok (PyM.run_ofExcept_ok ..) _).trans ?_
    rw [hvnfis]
  rw [hrun, PyM.run_bind_eq_ok_iff]
  constructor
  · rintro ⟨⟨⟩, sib₁, hrunVNFIs, hrest⟩
    obtain ⟨⟨⟩, sib₂, hrunHops, hrunPurge⟩ := PyM.run_bind_eq_ok_iff.mp hrest
    have hpath := path_of_run_removeHops hids hrunHops
    rw [removeHops_eq hids hpath] at hrunHops
    exact ⟨hpath, sib₁, sib₂, hrunVNFIs, hrunHops, hrunPurge⟩
  · rintro ⟨hpath, sib₁, sib₂, hrunVNFIs, hrunHops, hrunPurge⟩
    refine ⟨(), sib₁, hrunVNFIs, ?_⟩
    rw [removeHops_eq hids hpath]
    exact (PyM.run_bind_ok hrunHops _).trans hrunPurge

theorem kept_stored (sib : Sib) (sfcs : Dict UUID SFC) (sfcis : Dict Nat SFCIInfo)
    (flows : Dict Nat Flow) :
    Kept [] sib { sib with sfcs := sfcs, sfcis := sfcis, flows := flows } := by
  refine ⟨rfl, rfl, fun _ => rfl, fun _ => rfl, fun _ => rfl,
    (Kept.refl [] sib).switch, ?_, fun _ => rfl⟩
  intro key place _
  cases place <;> exact Iff.rfl

theorem entered_vnfis {vnfis : Dict Nat (List VNFIInfo)} {hops : List Hop} :
    Entered { sib with vnfis := vnfis } sfciID hops ↔ Entered sib sfciID hops := by
  have hplace : ∀ {h place}, ({ sib with vnfis := vnfis } : Sib).PlaceOf h place ↔
      sib.PlaceOf h place := by
    intro h place
    cases place <;> exact Iff.rfl
  have henters : ∀ {key place}, ({ sib with vnfis := vnfis } : Sib).Enters key place ↔
      sib.Enters key place := by
    intro key place
    cases place <;> exact Iff.rfl
  constructor
  · rintro ⟨hlinked, hiff⟩
    refine ⟨hlinked, fun key place hkey => ?_⟩
    rw [← henters, hiff key place hkey]
    simp only [hplace]
  · rintro ⟨hlinked, hiff⟩
    refine ⟨hlinked, fun key place hkey => ?_⟩
    rw [henters, hiff key place hkey]
    simp only [hplace]

variable (hs : Filed sib) (hchecked : Checked sfc)
  (hinfo : sib.sfcis.get? sfciID = some info)

include hs hinfo

/-- What is stored when the flows are popped. -/
theorem Filed.run_purge_of_same {sib₁ sib₂ : Sib}
    (hvnfis : ∃ vnfis, { sib with vnfis := vnfis } = sib₁) (hsame : SameBase sib₁ sib₂) :
    ∃ flows, (purge info.sfci.sfciID).run sib₂ = .ok ()
        { sib₂ with flows := flows, sfcis := sib₂.sfcis.erase sfciID } ∧
      sib₂.sfcs = sib.sfcs ∧ sib₂.sfcis = sib.sfcis ∧
      ∀ t, flows.get? t = if t ∈ info.traffics.values.flatten then none
        else sib.flows.get? t := by
  obtain ⟨vnfis, rfl⟩ := hvnfis
  have hrecorded : Recorded sib₂ := hs.toRecorded.of_eq hsame.sfcis hsame.flows
  have hinfo₂ : sib₂.sfcis.get? sfciID = some info := by
    rw [hsame.sfcis]
    exact hinfo
  obtain ⟨flows, hrun, hget, -⟩ := run_purge hrecorded hinfo₂
  rw [hs.id _ _ hinfo]
  refine ⟨flows, hrun, hsame.sfcs, hsame.sfcis, fun t => ?_⟩
  rw [hget, hsame.flows]

include hchecked

theorem run_remove_sfci_effect
    (hrun : (remove_sfci sfc info.sfci).run sib = .ok () sib') :
    Removed sfc sfciID info sib sib' := by
  have hrouted := hs.routed _ _ hinfo
  have hid := hs.id _ _ hinfo
  obtain ⟨-, sib₁, sib₂, hrunVNFIs, hrunHops, hrunPurge⟩ :=
    (run_remove_sfci_eq_ok_iff hchecked hrouted).mp hrun
  obtain ⟨hkept₁, hvnfis⟩ :=
    run_removeVNFIs_effect (fun _ he => hrouted.exists_vnfiAt he) hrunVNFIs
  obtain ⟨hkept₂, hsame, huncounted⟩ :=
    run_removeHops_effect (fun _ hh => key_of_mem_sfciHops hh) hrunHops
  obtain ⟨flows, hpurge, hsfcs, hsfcis, hflows⟩ :=
    hs.run_purge_of_same hinfo hvnfis hsame
  rw [hpurge] at hrunPurge
  cases hrunPurge
  rw [hid] at hkept₁ hkept₂
  have hkept₃ : Kept [sfciID] sib₂
      { sib₂ with flows := flows, sfcis := sib₂.sfcis.erase sfciID } :=
    (kept_stored sib₂ ..).mono (List.nil_subset _)
  obtain ⟨vnfis, rfl⟩ := hvnfis
  exact ⟨(hkept₁.trans hkept₂).trans hkept₃, huncounted, hsfcs, by rw [hsfcis], hflows⟩

theorem run_remove_sfci_iff :
    (∃ sib', (remove_sfci sfc info.sfci).run sib = .ok () sib' ∧
        Cleared [sfciID] sib') ↔
      Intact sfc sib info.sfci ∧ Backed sib (sfciHops sfc info.sfci) := by
  have hrouted := hs.routed _ _ hinfo
  have hid := hs.id _ _ hinfo
  have hread : ∀ e ∈ vnfiStages info.sfci, ∃ v, vnfiAt info.sfci e.1 e.2 = .ok v :=
    fun _ he => hrouted.exists_vnfiAt he
  have hkeys : ∀ h ∈ sfciHops sfc info.sfci, h.key.sfciID = info.sfci.sfciID :=
    fun _ hh => key_of_mem_sfciHops hh
  have hnodup := hchecked.nodup_keys_sfciHops info.sfci
  have hpurged : ∀ {sib₂ : Sib} {flows}, Cleared [sfciID]
      { sib₂ with flows := flows, sfcis := sib₂.sfcis.erase sfciID } ↔
        Entered sib₂ info.sfci.sfciID [] ∧
          ∀ w, sib₂.entriesOf info.sfci.sfciID w = [] := by
    intro sib₂ flows
    rw [hid, ← cleared_singleton_iff]
    exact (kept_stored sib₂ ..).cleared_iff fun _ _ => List.not_mem_nil
  constructor
  · rintro ⟨sib', hrun, hcleared⟩
    obtain ⟨hpath, sib₁, sib₂, hrunVNFIs, hrunHops, hrunPurge⟩ :=
      (run_remove_sfci_eq_ok_iff hchecked hrouted).mp hrun
    obtain ⟨-, hvnfis⟩ := run_removeVNFIs_effect hread hrunVNFIs
    obtain ⟨-, hsame, -⟩ := run_removeHops_effect hkeys hrunHops
    obtain ⟨flows, hpurge, -⟩ := hs.run_purge_of_same hinfo hvnfis hsame
    rw [hpurge] at hrunPurge
    cases hrunPurge
    obtain ⟨hentered, hnone⟩ := hpurged.mp hcleared
    obtain ⟨hentered₁, hbacked⟩ :=
      (run_removeHops_iff hkeys hnodup).mp ⟨sib₂, hrunHops, hentered⟩
    have hdue := (run_removeVNFIs_iff hread).mp ⟨sib₁, hrunVNFIs, fun w => by
      rw [← hnone w, Sib.entriesOf, Sib.entriesOf, hsame.vnfis]⟩
    obtain ⟨vnfis, rfl⟩ := hvnfis
    exact ⟨⟨hpath, entered_vnfis.mp hentered₁, hdue⟩, hbacked⟩
  · rintro ⟨⟨hpath, hentered, hdue⟩, hbacked⟩
    obtain ⟨sib₁, hrunVNFIs, hnone⟩ := (run_removeVNFIs_iff hread).mpr hdue
    obtain ⟨-, hvnfis⟩ := run_removeVNFIs_effect hread hrunVNFIs
    have hready : Entered sib₁ info.sfci.sfciID (sfciHops sfc info.sfci) ∧
        Backed sib₁ (sfciHops sfc info.sfci) := by
      obtain ⟨vnfis, rfl⟩ := hvnfis
      exact ⟨entered_vnfis.mpr hentered, hbacked⟩
    obtain ⟨sib₂, hrunHops, hentered₂⟩ := (run_removeHops_iff hkeys hnodup).mpr hready
    obtain ⟨-, hsame, -⟩ := run_removeHops_effect hkeys hrunHops
    obtain ⟨flows, hrunPurge, -⟩ := hs.run_purge_of_same hinfo hvnfis hsame
    refine ⟨_, (run_remove_sfci_eq_ok_iff hchecked hrouted).mpr
      ⟨hpath, sib₁, sib₂, hrunVNFIs, hrunHops, hrunPurge⟩, hpurged.mpr ⟨hentered₂, ?_⟩⟩
    intro w
    rw [← hnone w, Sib.entriesOf, Sib.entriesOf, hsame.vnfis]

end SFCI

section Members

variable {py3 : Bool} {sib sib' : Sib} {sfc : SFC} {items : List (Nat × SFCIInfo)}

def memberHops (sfc : SFC) (items : List (Nat × SFCIInfo)) : List Hop :=
  items.flatMap fun e => sfciHops sfc e.2.sfci

/-- The SFCIs are gone with their flows, and all other entries are as they were. -/
structure RemovedAll (items : List (Nat × SFCIInfo)) (sib sib' : Sib) : Prop where
  kept : Kept (items.map Prod.fst) sib sib'
  sfcs : sib'.sfcs = sib.sfcs
  sfcis : ∀ sfciID, sib'.sfcis.get? sfciID =
    if sfciID ∈ items.map Prod.fst then none else sib.sfcis.get? sfciID
  flows : ∀ t, sib'.flows.get? t =
    if ∃ e ∈ items, t ∈ e.2.traffics.values.flatten then none
    else sib.flows.get? t

structure Stored (sfc : SFC) (items : List (Nat × SFCIInfo)) (sib : Sib) : Prop where
  get : ∀ e ∈ items, sib.sfcis.get? e.1 = some e.2
  uuid : ∀ e ∈ items, e.2.sfc.sfcUUID = sfc.sfcUUID
  nodup : (items.map Prod.fst).Nodup

theorem stored_members (sib : Sib) (sfc : SFC) : Stored sfc (members sib sfc) sib where
  get _ he := (mem_members_iff.mp he).1
  uuid _ he := (mem_members_iff.mp he).2
  nodup := sib.sfcis.nodup_keys.sublist (List.filter_sublist.map Prod.fst)

theorem Stored.tail {e : Nat × SFCIInfo} (hstored : Stored sfc (e :: items) sib)
    (hremoved : Removed sfc e.1 e.2 sib sib') : Stored sfc items sib' := by
  obtain ⟨hget, huuid, hnodup⟩ := hstored
  rw [List.map_cons, List.nodup_cons] at hnodup
  refine ⟨fun e' he' => ?_, fun e' he' => huuid e' (List.mem_cons_of_mem e he'),
    hnodup.2⟩
  have hne : e'.1 ≠ e.1 :=
    fun heq => hnodup.1 (List.mem_map.mpr ⟨e', he', heq⟩)
  rw [hremoved.sfcis, Dict.get?_erase, if_neg hne]
  exact hget e' (List.mem_cons_of_mem e he')

/-- The loop goes on after the first SFCI in Python 2 only. -/
theorem run_removeMembers_cons_eq_ok_iff {e : Nat × SFCIInfo}
    (huuid : e.2.sfc.sfcUUID = sfc.sfcUUID) :
    (removeMembers py3 sfc (e :: items)).run sib = .ok () sib' ↔
      py3 = false ∧ ∃ sib₁, (remove_sfci sfc e.2.sfci).run sib = .ok () sib₁ ∧
        (removeMembers py3 sfc items).run sib₁ = .ok () sib' := by
  obtain ⟨sfciID, info⟩ := e
  rw [removeMembers, if_pos huuid, PyM.run_bind_eq_ok_iff]
  cases py3 with
  | true =>
      refine iff_of_false ?_ fun h => Bool.noConfusion h.1
      rintro ⟨⟨⟩, sib₁, -, hrest⟩
      cases hrest
  | false =>
      constructor
      · rintro ⟨⟨⟩, sib₁, hfirst, hrest⟩
        exact ⟨rfl, sib₁, hfirst, hrest⟩
      · rintro ⟨-, sib₁, hfirst, hrest⟩
        exact ⟨(), sib₁, hfirst, hrest⟩

theorem Removed.cons {e : Nat × SFCIInfo} {sib₁ : Sib}
    (hfirst : Removed sfc e.1 e.2 sib sib₁) (hrest : RemovedAll items sib₁ sib') :
    RemovedAll (e :: items) sib sib' where
  kept := by
    refine (hfirst.kept.mono ?_).trans (hrest.kept.mono ?_)
    · exact List.cons_subset_cons e.1 (List.nil_subset _)
    · exact List.subset_cons_self ..
  sfcs := hrest.sfcs.trans hfirst.sfcs
  sfcis sfciID := by
    rw [hrest.sfcis, hfirst.sfcis, Dict.get?_erase, List.map_cons]
    by_cases heq : sfciID = e.1
    · rw [if_pos heq, ite_self, if_pos (List.mem_cons.mpr (Or.inl heq))]
    · rw [if_neg heq]
      exact if_congr (by simp [heq]) rfl rfl
  flows t := by
    rw [hrest.flows, hfirst.flows]
    by_cases hlater : ∃ e ∈ items, t ∈ e.2.traffics.values.flatten
    · rw [if_pos hlater, if_pos]
      exact List.exists_mem_cons_iff .. |>.mpr (Or.inr hlater)
    · rw [if_neg hlater]
      refine if_congr ?_ rfl rfl
      rw [List.exists_mem_cons_iff]
      exact (or_iff_left hlater).symm

theorem run_removeMembers_effect (hs : Filed sib) (hchecked : Checked sfc)
    (hstored : Stored sfc items sib)
    (hrun : (removeMembers py3 sfc items).run sib = .ok () sib') :
    RemovedAll items sib sib' := by
  induction items generalizing sib with
  | nil =>
      cases hrun
      exact ⟨Kept.refl _ _, rfl, fun _ => by simp, fun _ => by simp⟩
  | cons e items ih =>
      obtain ⟨-, sib₁, hfirst, hrest⟩ := (run_removeMembers_cons_eq_ok_iff
        (hstored.uuid e List.mem_cons_self)).mp hrun
      have hremoved := run_remove_sfci_effect hs hchecked
        (hstored.get e List.mem_cons_self) hfirst
      exact hremoved.cons (ih ((keeps_remove_sfci _ _).of_run_ok hs hfirst)
        (hstored.tail hremoved) hrest)

/-- The TCAMs count some hops and others when they count the others after the
removal of the first. -/
theorem backed_append_iff {hops hops' : List Hop} {sib₁ : Sib} {ids : List Nat}
    (hkept : Kept ids sib sib₁) (huncounted : Uncounted hops sib sib₁) :
    Backed sib (hops ++ hops') ↔ Backed sib hops ∧ Backed sib₁ hops' := by
  have happend : ∀ w, startsAt (hops ++ hops') w = startsAt hops w + startsAt hops' w :=
    fun w => List.countP_append
  constructor
  · intro hbacked
    refine ⟨fun w info hinfo => ?_, fun w info' hinfo' => ?_⟩
    · have hle := hbacked w info hinfo
      rw [happend] at hle
      omega
    · have hthere : sib.switches.contains w = true := by
        rw [← hkept.switches, Dict.contains, hinfo']
        rfl
      obtain ⟨info, hinfo⟩ := Option.isSome_iff_exists.mp hthere
      have hle := hbacked w info hinfo
      have husage := huncounted w info info' hinfo hinfo'
      rw [happend] at hle
      omega
  · rintro ⟨-, hbacked⟩ w info hinfo
    have hthere : sib₁.switches.contains w = true := by
      rw [hkept.switches, Dict.contains, hinfo]
      rfl
    obtain ⟨info', hinfo'⟩ := Option.isSome_iff_exists.mp hthere
    have hle := hbacked w info' hinfo'
    have husage := huncounted w info info' hinfo hinfo'
    rw [happend]
    omega

variable (py3) in
/-- The deletion of the SFCIs goes through and leaves nothing under their ids
exactly when there is none or the loop may shrink the dictionary, all of them are
intact and the TCAMs count their hops. -/
theorem run_removeMembers_iff (hs : Filed sib) (hchecked : Checked sfc)
    (hstored : Stored sfc items sib) :
    (∃ sib', (removeMembers py3 sfc items).run sib = .ok () sib' ∧
        Cleared (items.map Prod.fst) sib') ↔
      (items = [] ∨ py3 = false) ∧ (∀ e ∈ items, Intact sfc sib e.2.sfci) ∧
        Backed sib (memberHops sfc items) := by
  induction items generalizing sib with
  | nil =>
      refine iff_of_true ⟨sib, rfl, ?_⟩ ⟨Or.inl rfl, ?_, ?_⟩
      · exact ⟨fun _ _ hkey => absurd hkey List.not_mem_nil,
          fun _ _ _ => List.not_mem_nil⟩
      · exact fun e he => absurd he List.not_mem_nil
      · exact fun w info _ => Nat.zero_le _
  | cons e items ih =>
      have hinfo := hstored.get e List.mem_cons_self
      have huuid := hstored.uuid e List.mem_cons_self
      have hnodup := hstored.nodup
      rw [List.map_cons, List.nodup_cons] at hnodup
      have hother : ∀ e' ∈ items, e'.2.sfci.sfciID ∉ [e.1] := by
        intro e' he' hmem
        refine hnodup.1 (List.mem_map.mpr ⟨e', he', ?_⟩)
        have hget := hstored.get e' (List.mem_cons_of_mem e he')
        rw [← hs.id _ _ hget]
        exact List.mem_singleton.mp hmem
      have hnot : ∀ id ∈ [e.1], id ∉ items.map Prod.fst := by
        rintro id hid
        rw [List.mem_singleton.mp hid]
        exact hnodup.1
      -- what the deletion of the first SFCI changes does not matter for the others
      have hsplit : ∀ {sib₁}, (remove_sfci sfc e.2.sfci).run sib = .ok () sib₁ →
          Filed sib₁ ∧ Stored sfc items sib₁ ∧
          ((∀ e' ∈ items, Intact sfc sib₁ e'.2.sfci) ↔
            ∀ e' ∈ items, Intact sfc sib e'.2.sfci) ∧
          (Backed sib (memberHops sfc (e :: items)) ↔
            Backed sib (sfciHops sfc e.2.sfci) ∧
              Backed sib₁ (memberHops sfc items)) := by
        intro sib₁ hrun
        have hremoved := run_remove_sfci_effect hs hchecked hinfo hrun
        refine ⟨(keeps_remove_sfci _ _).of_run_ok hs hrun, hstored.tail hremoved, ?_,
          backed_append_iff hremoved.kept hremoved.uncounted⟩
        exact forall₂_congr fun e' he' => hremoved.kept.intact_iff (hother e' he')
      constructor
      · rintro ⟨sib', hrun, hcleared⟩
        obtain ⟨hpy, sib₁, hfirst, hrest⟩ :=
          (run_removeMembers_cons_eq_ok_iff huuid).mp hrun
        obtain ⟨hs₁, hstored₁, hintact, hbacked⟩ := hsplit hfirst
        obtain ⟨hhere, hthere⟩ := cleared_append_iff.mp
          (show Cleared ([e.1] ++ items.map Prod.fst) sib' from hcleared)
        have hkept := (run_removeMembers_effect hs₁ hchecked hstored₁ hrest).kept
        obtain ⟨hintact₁, hbacked₁⟩ := (run_remove_sfci_iff hs hchecked hinfo).mp
          ⟨sib₁, hfirst, (hkept.cleared_iff hnot).mp hhere⟩
        obtain ⟨-, hintacts, hbackeds⟩ := (ih hs₁ hstored₁).mp ⟨sib', hrest, hthere⟩
        exact ⟨Or.inr hpy, List.forall_mem_cons.mpr ⟨hintact₁, hintact.mp hintacts⟩,
          hbacked.mpr ⟨hbacked₁, hbackeds⟩⟩
      · rintro ⟨hpy, hintacts, hbackeds⟩
        have hpy := hpy.resolve_left (List.cons_ne_nil e items)
        rw [List.forall_mem_cons] at hintacts
        have hbacked₁ : Backed sib (sfciHops sfc e.2.sfci) := by
          intro w info hinfo
          have hle := hbackeds w info hinfo
          rw [startsAt, memberHops, List.flatMap_cons, List.countP_append] at hle
          rw [startsAt]
          omega
        obtain ⟨sib₁, hfirst, hhere⟩ :=
          (run_remove_sfci_iff hs hchecked hinfo).mpr ⟨hintacts.1, hbacked₁⟩
        obtain ⟨hs₁, hstored₁, hintact, hbacked⟩ := hsplit hfirst
        obtain ⟨sib', hrest, hthere⟩ := (ih hs₁ hstored₁).mpr
          ⟨Or.inr hpy, hintact.mpr hintacts.2, (hbacked.mp hbackeds).2⟩
        have hkept := (run_removeMembers_effect hs₁ hchecked hstored₁ hrest).kept
        refine ⟨sib', (run_removeMembers_cons_eq_ok_iff huuid).mpr
          ⟨hpy, sib₁, hfirst, hrest⟩, ?_⟩
        exact cleared_append_iff.mpr ⟨(hkept.cleared_iff hnot).mpr hhere, hthere⟩

end Members

end SelfAdaptiveMano.Simulator

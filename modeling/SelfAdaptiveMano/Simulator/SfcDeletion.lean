import SelfAdaptiveMano.Simulator.SfciRemoval

/-!
# The deletion of an SFC

`DEL_SFC` deletes the SFCIs of the SFC one after the other, each over the
directions of the SFC in the command. So it depends on each SFCI being intact in
these directions. In Python 3 the loop over the dictionary of the SFCIs ends with
an exception after the first of them, and the SFC stays.
-/

namespace SelfAdaptiveMano.Simulator

open Library

section Handler

variable {py3 : Bool} {u₀ : Nat → Nat} {sib : Sib} {cmd : SimCommand}

/-- The SFC is gone with its SFCIs, their flows and what is entered under their
ids, and everything else is as it was. -/
structure SfcGone (sfc : SFC) (sib sib' : Sib) : Prop where
  cleared : Cleared ((members sib sfc).map Prod.fst) sib'
  kept : Kept ((members sib sfc).map Prod.fst) sib sib'
  sfcs : sib'.sfcs = sib.sfcs.erase sfc.sfcUUID
  sfcis : ∀ sfciID, sib'.sfcis.get? sfciID =
    if sfciID ∈ (members sib sfc).map Prod.fst then none else sib.sfcis.get? sfciID
  flows : ∀ t, sib'.flows.get? t =
    if ∃ e ∈ members sib sfc, t ∈ e.2.traffics.values.flatten then none
    else sib.flows.get? t

/-- `DEL_SFC` succeeds and the SFC is gone. -/
def Deletes (py3 : Bool) (sib : Sib) (cmd : SimCommand) : Prop :=
  ∃ sib', (command_handler py3 cmd).run sib = .ok () sib' ∧ SfcGone cmd.sfc sib sib'

/-- The SFC has no SFCI or the loop over them may shrink the dictionary, all of them
are intact in the directions of the SFC and the TCAMs count their hops. -/
structure SfcDeletable (py3 : Bool) (sib : Sib) (sfc : SFC) : Prop where
  python : members sib sfc = [] ∨ py3 = false
  intact : ∀ e ∈ members sib sfc, Intact sfc sib e.2.sfci
  backed : Backed sib (memberHops sfc (members sib sfc))

def simulator (py3 : Bool) : Machine Sib SimCommand where
  init sib := (∃ u₀, Fresh u₀ sib) ∧ sib.sfcs = Dict.empty
  admits _ _ := True
  step sib cmd := (command_handler py3 cmd).finalState sib

theorem filed_of_reachable (h : (simulator py3).Reachable sib) : Filed sib := by
  refine h.invariant ?_ ?_
  · rintro sib ⟨⟨u₀, hfresh⟩, hsfcs⟩
    refine ⟨hfresh.sound.recorded, fun sfcUUID sfc hget => ?_⟩
    rw [hsfcs] at hget
    cases hget
  · exact fun sib cmd hs _ => (keeps_command_handler cmd).finalState hs

/-- In every reachable state, the deletion of a stored SFC does what it should
exactly when the SFC has no SFCI, or the simulator runs under Python 2 and all
SFCIs of the SFC are intact. -/
theorem deletes_iff (h : (simulator py3).Reachable sib) (htype : cmd.cmdType = .delSFC)
    (hstored : sib.sfcs.get? cmd.sfc.sfcUUID = some cmd.sfc) :
    Deletes py3 sib cmd ↔ SfcDeletable py3 sib cmd.sfc := by
  have hs := filed_of_reachable h
  have hchecked := hs.checked _ _ hstored
  have hmembers := stored_members sib cmd.sfc
  have hknown : sib.sfcs.contains cmd.sfc.sfcUUID = true := by
    rw [Dict.contains, hstored]
    rfl
  have hhandler : (command_handler py3 cmd).run sib = (do
      removeMembers py3 cmd.sfc (members sib cmd.sfc)
      let sib ← get
      if sib.sfcs.contains cmd.sfc.sfcUUID then
        set { sib with sfcs := sib.sfcs.erase cmd.sfc.sfcUUID }
      else throw .keyError : PyM Sib Unit).run sib := by
    rw [command_handler, htype]
    exact del_sfc_handler_eq cmd
  have hiff := run_removeMembers_iff py3 hs hchecked hmembers
  rw [Deletes, hhandler]
  constructor
  · rintro ⟨sib', hrun, hgone⟩
    obtain ⟨⟨⟩, sib₁, hremove, hrest⟩ := PyM.run_bind_eq_ok_iff.mp hrun
    have hremoved := run_removeMembers_effect hs hchecked hmembers hremove
    rw [PyM.run_bind_get, hremoved.sfcs, if_pos hknown] at hrest
    cases hrest
    have hcleared := ((kept_stored sib₁ ..).cleared_iff
      fun _ _ => List.not_mem_nil).mp hgone.cleared
    obtain ⟨hpython, hintact, hbacked⟩ := hiff.mp ⟨sib₁, hremove, hcleared⟩
    exact ⟨hpython, hintact, hbacked⟩
  · rintro ⟨hpython, hintact, hbacked⟩
    obtain ⟨sib₁, hremove, hcleared⟩ := hiff.mpr ⟨hpython, hintact, hbacked⟩
    have hremoved := run_removeMembers_effect hs hchecked hmembers hremove
    have hlast := kept_stored sib₁ (sib₁.sfcs.erase cmd.sfc.sfcUUID) sib₁.sfcis
      sib₁.flows
    refine ⟨{ sib₁ with sfcs := sib₁.sfcs.erase cmd.sfc.sfcUUID },
      (PyM.run_bind_ok hremove _).trans ?_, ⟨?_, ?_, ?_, hremoved.sfcis, hremoved.flows⟩⟩
    · rw [PyM.run_bind_get, hremoved.sfcs, if_pos hknown]
      rfl
    · exact (hlast.cleared_iff fun _ _ => List.not_mem_nil).mpr hcleared
    · exact hremoved.kept.trans (hlast.mono (List.nil_subset _))
    · exact congrArg (fun sfcs => sfcs.erase cmd.sfc.sfcUUID) hremoved.sfcs

end Handler

section Sound

variable {u₀ : Nat → Nat} {sib : Sib} {sfc : SFC} {info : SFCIInfo} {sfciID : Nat}

theorem Sound.mem_hops_iff (hs : Sound u₀ sib)
    (hinfo : sib.sfcis.get? sfciID = some info)
    (hids : (sfc.directions.map Direction.ID).Perm
      (info.sfc.directions.map Direction.ID)) {h : Hop}
    (hkey : h.key.sfciID = info.sfci.sfciID) :
    h ∈ sfciHops sfc info.sfci ↔ h ∈ installedHops sib := by
  have hagrees : Agrees info sfc info.sfci := ⟨hids, fun _ _ => rfl, fun _ _ => rfl⟩
  rw [(hagrees.perm_hops rfl).mem_iff]
  constructor
  · exact fun hh => Dict.mem_needed_of_get? hinfo hh
  · rintro ⟨sfciID', info', hinfo', hh⟩
    have heq : sfciID' = sfciID := by
      rw [← hs.id _ _ hinfo', ← hs.id _ _ hinfo, ← hkey]
      exact (key_of_mem_sfciHops hh).symm
    subst heq
    obtain rfl := Option.some.inj (hinfo.symm.trans hinfo')
    exact hh

theorem Sound.entered (hs : Sound u₀ sib)
    (hinfo : sib.sfcis.get? sfciID = some info)
    (hids : (sfc.directions.map Direction.ID).Perm
      (info.sfc.directions.map Direction.ID)) :
    Entered sib info.sfci.sfciID (sfciHops sfc info.sfci) := by
  have hmem : ∀ {key src dst}, key.sfciID = info.sfci.sfciID →
      ((⟨key, src, dst⟩ : Hop) ∈ sfciHops sfc info.sfci ↔
        ⟨key, src, dst⟩ ∈ installedHops sib) :=
    fun hkey => hs.mem_hops_iff hinfo hids hkey
  refine ⟨fun h hh => ?_, fun key place hkey => ?_⟩
  · exact hs.hops.linked h
      ((hs.mem_hops_iff hinfo hids (key_of_mem_sfciHops hh)).mp hh)
  cases place with
  | switch w =>
      constructor
      · rintro ⟨switchInfo, hswitch, hcontains⟩
        obtain ⟨dst, hdst⟩ := Option.isSome_iff_exists.mp hcontains
        have hh := (hs.hops.nextHop w switchInfo hswitch key dst).mp hdst
        exact ⟨⟨key, w, dst⟩, (hmem hkey).mpr hh, rfl, rfl, by simp [Dict.contains, hswitch]⟩
      · rintro ⟨h, hh, rfl, rfl, hthere⟩
        obtain ⟨switchInfo, hswitch⟩ := Option.isSome_iff_exists.mp hthere
        have hdst := (hs.hops.nextHop h.src switchInfo hswitch h.key h.dst).mpr
          ((hmem hkey).mp hh)
        exact ⟨switchInfo, hswitch, by rw [Dict.contains, hdst]; rfl⟩
  | serverLink l =>
      constructor
      · rintro ⟨linkInfo, hlink, hused⟩
        have hh := (hs.hops.serverLinks l linkInfo hlink key).mp hused
        exact ⟨⟨key, l.1, l.2⟩, (hmem hkey).mpr hh, rfl, rfl, by simp [Dict.contains, hlink]⟩
      · rintro ⟨h, hh, rfl, rfl, hthere⟩
        obtain ⟨linkInfo, hlink⟩ := Option.isSome_iff_exists.mp hthere
        exact ⟨linkInfo, hlink, (hs.hops.serverLinks _ linkInfo hlink h.key).mpr
          ((hmem hkey).mp hh)⟩
  | link l =>
      constructor
      · rintro ⟨linkInfo, hlink, hused⟩
        obtain ⟨hnone, hh⟩ := (hs.hops.links l linkInfo hlink key).mp hused
        exact ⟨⟨key, l.1, l.2⟩, (hmem hkey).mpr hh, rfl, rfl, hnone,
          by simp [Dict.contains, hlink]⟩
      · rintro ⟨h, hh, rfl, rfl, hnone, hthere⟩
        obtain ⟨linkInfo, hlink⟩ := Option.isSome_iff_exists.mp hthere
        exact ⟨linkInfo, hlink, (hs.hops.links _ linkInfo hlink h.key).mpr
          ⟨hnone, (hmem hkey).mp hh⟩⟩

theorem vnfisDue_sublist (sfci : SFCI) (stages : List (List (Nat × Nat) × Nat))
    (w : Nat) :
    ((vnfisDue sfci stages w).map Prod.fst).Sublist (stages.map Prod.snd) := by
  induction stages with
  | nil => exact List.Sublist.slnil
  | cons e stages ih =>
      rw [vnfisDue, List.filterMap_cons, ← vnfisDue, List.map_cons]
      cases vnfiAt sfci e.1 e.2 with
      | error error => exact ih.cons _
      | ok v =>
          dsimp only
          by_cases hw : v.1 = w
          · rw [if_pos hw]
            exact ih.cons_cons _
          · rw [if_neg hw]
            exact ih.cons _

theorem mem_vnfisDue_iff {sfci : SFCI} {stages : List (List (Nat × Nat) × Nat)}
    {w : Nat} {entry : Nat × Nat} :
    entry ∈ vnfisDue sfci stages w ↔ ∃ v ∈ vnfisAlong sfci stages,
      v.1 = w ∧ (v.2.stage, v.2.vnfi.vnfType) = entry := by
  rw [vnfisDue, List.mem_filterMap]
  constructor
  · rintro ⟨e, he, hentry⟩
    cases hv : vnfiAt sfci e.1 e.2 with
    | error error =>
        rw [hv] at hentry
        cases hentry
    | ok v =>
        rw [hv] at hentry
        dsimp only at hentry
        split at hentry
        · next hw =>
            refine ⟨v, ⟨e, he, hv⟩, hw, ?_⟩
            rw [show v.2.stage = e.2 from congrArg VNFIInfo.stage (vnfiAt_eq_ok hv).2.2]
            exact Option.some.inj hentry
        · cases hentry
  · rintro ⟨v, ⟨e, he, hv⟩, rfl, rfl⟩
    refine ⟨e, he, ?_⟩
    rw [hv, show v.2.stage = e.2 from congrArg VNFIInfo.stage (vnfiAt_eq_ok hv).2.2]
    exact if_pos rfl

theorem Sound.entriesOf_perm (hs : Sound u₀ sib)
    (hinfo : sib.sfcis.get? sfciID = some info) (w : Nat) :
    (sib.entriesOf info.sfci.sfciID w).Perm
      (vnfisDue info.sfci (vnfiStages info.sfci) w) := by
  refine (List.perm_ext_iff_of_nodup ?_ ?_).mpr fun entry => ?_
  · refine List.Nodup.map_on ?_ ((hs.vnfis.nodup w).filter _)
    intro a ha b hb heq
    obtain ⟨ha, hida⟩ := List.mem_filter.mp ha
    obtain ⟨hb, hidb⟩ := List.mem_filter.mp hb
    have hid : a.sfciID = b.sfciID := (beq_iff_eq.mp hida).trans (beq_iff_eq.mp hidb).symm
    have hsame := hs.keyedVNFIs _ ((hs.vnfis.mem w a).mp ha) _ ((hs.vnfis.mem w b).mp hb)
      hid (Prod.mk.inj heq).1
    exact (Prod.mk.inj hsame).2
  · exact List.Nodup.of_map Prod.fst ((nodup_stages _).sublist (vnfisDue_sublist ..))
  · rw [mem_vnfisDue_iff, Sib.entriesOf, List.mem_map]
    constructor
    · rintro ⟨vnfiInfo, hmem, rfl⟩
      obtain ⟨hmem, hid⟩ := List.mem_filter.mp hmem
      obtain ⟨sfciID', info', hinfo', hv⟩ := (hs.vnfis.mem w vnfiInfo).mp hmem
      have heq : sfciID' = sfciID := by
        rw [← hs.id _ _ hinfo', ← hs.id _ _ hinfo, ← beq_iff_eq.mp hid]
        exact (stage_of_mem_vnfisAlong hv).1.symm
      subst heq
      obtain rfl := Option.some.inj (hinfo.symm.trans hinfo')
      exact ⟨(w, vnfiInfo), hv, rfl, rfl⟩
    · rintro ⟨v, hv, rfl, rfl⟩
      refine ⟨v.2, List.mem_filter.mpr ⟨?_, ?_⟩, rfl⟩
      · exact (hs.vnfis.mem v.1 v.2).mpr (Dict.mem_needed_of_get? hinfo hv)
      · exact beq_iff_eq.mpr (stage_of_mem_vnfisAlong hv).1

theorem Sound.backed (hs : Sound u₀ sib) {items : List (Nat × SFCIInfo)}
    (hstored : Stored sfc items sib)
    (hids : ∀ e ∈ items, (sfc.directions.map Direction.ID).Perm
      (e.2.sfc.directions.map Direction.ID)) :
    Backed sib (memberHops sfc items) := by
  intro w switchInfo hswitch
  have hnodup : ((memberHops sfc items).map Hop.key).Nodup := by
    rw [memberHops, List.map_flatMap, List.nodup_flatMap]
    constructor
    · intro e he
      have hagrees : Agrees e.2 sfc e.2.sfci :=
        ⟨hids e he, fun _ _ => rfl, fun _ _ => rfl⟩
      exact ((hagrees.perm_hops rfl).map Hop.key).nodup_iff.mpr
        (nodup_keys_sfciHops (hs.routed _ _ (hstored.get e he)))
    · refine (List.pairwise_map.mp hstored.nodup).imp_of_mem ?_
      intro e e' he he' hne key hkey hkey'
      obtain ⟨h, hh, rfl⟩ := List.mem_map.mp hkey
      obtain ⟨h', hh', heq⟩ := List.mem_map.mp hkey'
      refine hne ?_
      rw [← hs.id _ _ (hstored.get e he), ← hs.id _ _ (hstored.get e' he'),
        ← key_of_mem_sfciHops hh, ← key_of_mem_sfciHops hh', heq]
  have hsubset : ((memberHops sfc items).filter fun h => h.src == w).map Hop.key ⊆
      switchInfo.nextHop.keys := by
    intro key hkey
    obtain ⟨h, hh, rfl⟩ := List.mem_map.mp hkey
    obtain ⟨hmem, hsrc⟩ := List.mem_filter.mp hh
    obtain ⟨e, he, hmem⟩ := List.mem_flatMap.mp hmem
    have hinstalled := (hs.mem_hops_iff (hstored.get e he) (hids e he)
      (key_of_mem_sfciHops hmem)).mp hmem
    obtain rfl := beq_iff_eq.mp hsrc
    exact Dict.mem_keys_iff.mpr
      ⟨h.dst, (hs.hops.nextHop h.src switchInfo hswitch h.key h.dst).mpr hinstalled⟩
  have hle := (hnodup.sublist (List.filter_sublist.map Hop.key)).subperm hsubset
    |>.length_le
  rw [List.length_map, ← List.countP_eq_length_filter, Dict.keys, List.length_map] at hle
  have husage := hs.hops.usage w switchInfo hswitch
  rw [startsAt]
  omega

/-- In Python 2, an SFC whose SFCIs were installed in its directions can be
deleted as long as the entries are those of the installed SFCIs. -/
theorem Sound.sfcDeletable (hs : Sound u₀ sib)
    (hids : ∀ e ∈ members sib sfc, (sfc.directions.map Direction.ID).Perm
      (e.2.sfc.directions.map Direction.ID)) : SfcDeletable false sib sfc := by
  have hstored := stored_members sib sfc
  refine ⟨Or.inr rfl, fun e he => ?_, hs.backed hstored hids⟩
  have hinfo := hstored.get e he
  have hagrees : Agrees e.2 sfc e.2.sfci := ⟨hids e he, fun _ _ => rfl, fun _ _ => rfl⟩
  exact ⟨fun d hd => (hagrees.path_of_mem (hs.routed _ _ hinfo) hd).2,
    hs.entered hinfo (hids e he), hs.entriesOf_perm hinfo⟩

end Sound

section Example

def delSfcExample : SimCommand := ⟨.delSFC, exampleSFC, exampleSFCI⟩

theorem reachable_example (py3 : Bool) :
    (simulator py3).Reachable ((simulator py3).step (exampleStart 2) addExample) :=
  Machine.Reachable.step (Machine.Reachable.init
    ⟨⟨_, exampleStart_fresh 2⟩, rfl⟩) trivial

/-- In Python 2 the SFC goes with its SFCI. -/
theorem deletes_iff_example :
    Deletes false ((simulator false).step (exampleStart 2) addExample) delSfcExample := by
  have hsound : Sound (fun _ => 0) (exampleRun 2 [addExample]) := by
    refine sound_of_safe (.step (i := addExample) (.start (exampleStart_fresh 2)) trivial) ?_
    rw [List.nil_append, List.forall_mem_singleton]
    exact addSafe_example
  have hmembers : ∀ e ∈ members (exampleRun 2 [addExample]) exampleSFC,
      e.2.sfc.directions = exampleSFC.directions := by decide +kernel
  refine (deletes_iff (reachable_example false) rfl (by decide +kernel)).mpr
    (hsound.sfcDeletable fun e he => ?_)
  rw [hmembers e he]
  exact List.Perm.refl _

/-- In Python 3 the loop over the SFCIs raises after the first one. -/
theorem not_deletes_python3 :
    (simulator true).Reachable ((simulator true).step (exampleStart 2) addExample) ∧
      ((simulator true).step (exampleStart 2) addExample).sfcs.get?
        exampleSFC.sfcUUID = some exampleSFC ∧
      ¬ Deletes true ((simulator true).step (exampleStart 2) addExample)
        delSfcExample := by
  have hraises : (command_handler true delSfcExample).raises
      ((simulator true).step (exampleStart 2) addExample) = true := by decide +kernel
  refine ⟨reachable_example true, by decide +kernel, ?_⟩
  rintro ⟨sib', hrun, -⟩
  rw [PyM.raises_of_ok hrun] at hraises
  cases hraises

end Example

end SelfAdaptiveMano.Simulator

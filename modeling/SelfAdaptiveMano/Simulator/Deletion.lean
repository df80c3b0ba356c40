import SelfAdaptiveMano.Simulator.Addition

/-!
# The deletion of an SFCI

A deletion reads the SFCI from the command and not from the information base.
Where the command names an installed SFCI as it was installed, its VNFIs, hops
and flows are found one by one and the deletion goes through. A deletion that is
refused at the first thing that it would remove leaves everything as it was.
-/

namespace SelfAdaptiveMano.Simulator

open Library

/-- The command has the direction ids of the installed SFCI, in any order, with
its paths and with the types of its VNFIs. -/
structure Agrees (info : SFCIInfo) (sfc : SFC) (sfci : SFCI) : Prop where
  ids : (sfc.directions.map Direction.ID).Perm
    (info.sfc.directions.map Direction.ID)
  path : ∀ direction ∈ sfc.directions,
    pathlistOf sfci direction.ID = pathlistOf info.sfci direction.ID
  vnfType : ∀ stage < info.sfci.vnfiSequence.length,
    vnfTypeAt sfci stage = vnfTypeAt info.sfci stage

def Idle (sib : Sib) (h : Hop) : Prop :=
  sib.switches.get? h.src = none ∧
    sib.serverLinks.get? (h.src, h.dst) = none ∧
    sib.links.get? (h.src, h.dst) = none ∧ h.src = h.dst

/-- The removal of a hop stops before it has written anything. -/
def Blocked (sib : Sib) (h : Hop) : Prop :=
  match sib.switches.get? h.src with
  | some info => info.tcamUsage = 0
  | none =>
      match sib.serverLinks.get? (h.src, h.dst) with
      | some info => h.key ∉ info.usedBy
      | none =>
          match sib.links.get? (h.src, h.dst) with
          | some info => h.key ∉ info.usedBy
          | none => h.src ≠ h.dst

/-- The removal of the hops of these directions, and of the flows after that,
stops before it has written anything. -/
inductive HopsRefused (sib : Sib) (sfci : SFCI) :
    List (List (Nat × Nat)) → List Direction → Prop where
  | noPath {previous direction directions e} :
      pathlistFrom sfci previous direction.ID = .error e →
      HopsRefused sib sfci previous (direction :: directions)
  | blocked {previous direction directions pathlist idle h hops} :
      pathlistFrom sfci previous direction.ID = .ok pathlist →
      hopsOf sfci.sfciID direction.ID pathlist = idle ++ h :: hops →
      (∀ h' ∈ idle, Idle sib h') → Blocked sib h →
      HopsRefused sib sfci previous (direction :: directions)
  | idle {previous direction directions pathlist} :
      pathlistFrom sfci previous direction.ID = .ok pathlist →
      (∀ h' ∈ hopsOf sfci.sfciID direction.ID pathlist, Idle sib h') →
      HopsRefused sib sfci pathlist directions →
      HopsRefused sib sfci previous (direction :: directions)
  | notInstalled {previous} : sib.sfcis.get? sfci.sfciID = none →
      HopsRefused sib sfci previous []

/-- The deletion stops before it has written anything: the directions or the
path of direction `0` are missing, the VNFI of the first stage is not there, or
there is no VNFI to remove and the hops are refused. -/
inductive DelRefused (sib : Sib) (sfc : SFC) (sfci : SFCI) : Prop where
  | noDirection : sfc.directions = [] → DelRefused sib sfc sfci
  | noPath {e} : pathlistOf sfci 0 = .error e → DelRefused sib sfc sfci
  | noVNFI {pathlist path paths} : pathlistOf sfci 0 = .ok pathlist →
      pathlist.dropLast = path :: paths →
      (∀ w info, itemFromEnd (pathNodes path) 1 = .ok w →
        info ∈ (sib.vnfis.get? w).getD [] →
        ∀ vnfType, vnfTypeAt sfci 0 = .ok vnfType →
          info.isFor sfci.sfciID 0 vnfType = false) → DelRefused sib sfc sfci
  | noHop {pathlist} : pathlistOf sfci 0 = .ok pathlist →
      pathlist.dropLast = [] →
      HopsRefused sib sfci pathlist sfc.directions → DelRefused sib sfc sfci

/-- A deletion that goes through or leaves everything as it was. -/
def DelSafe (sib : Sib) (sfc : SFC) (sfci : SFCI) : Prop :=
  (∃ info, sib.sfcis.get? sfci.sfciID = some info ∧ Agrees info sfc sfci) ∨
    DelRefused sib sfc sfci

section Refused

variable {sib : Sib} {sfc : SFC} {sfci : SFCI} {h : Hop}

theorem run_removeHop_of_idle (hidle : Idle sib h) :
    (removeHop h).run sib = .ok () sib := by
  obtain ⟨hswitch, hserver, hlink, heq⟩ := hidle
  have htcam : (releaseTcam h).run sib = .ok () sib := by
    rw [releaseTcam, PyM.run_bind_get, hswitch]
    rfl
  have hassert : pyAssert (h.src == h.dst) = .ok () := by
    rw [pyAssert_eq_ok_iff, beq_iff_eq, heq]
  rw [removeHop, PyM.run_bind_ok htcam, releaseLink, PyM.run_bind_get, hserver]
  dsimp only
  rw [hlink]
  dsimp only
  rw [hassert]
  rfl

theorem run_removeHop_of_blocked (hblocked : Blocked sib h) :
    ∃ e, (removeHop h).run sib = .error e sib := by
  rw [Blocked] at hblocked
  cases hswitch : sib.switches.get? h.src with
  | some info =>
      rw [hswitch] at hblocked
      have htcam : (releaseTcam h).run sib =
          .error (.valueError "no tcam to release on switch %d") sib := by
        rw [releaseTcam, PyM.run_bind_get, hswitch]
        dsimp only
        rw [if_pos hblocked]
        rfl
      exact ⟨_, PyM.run_bind_error htcam _⟩
  | none =>
      rw [hswitch] at hblocked
      have htcam : (releaseTcam h).run sib = .ok () sib := by
        rw [releaseTcam, PyM.run_bind_get, hswitch]
        rfl
      rw [removeHop, PyM.run_bind_ok htcam, releaseLink, PyM.run_bind_get]
      dsimp only at hblocked
      cases hserver : sib.serverLinks.get? (h.src, h.dst) with
      | some info =>
          rw [hserver] at hblocked
          refine ⟨.keyError, ?_⟩
          dsimp only
          rw [if_neg hblocked]
          rfl
      | none =>
          rw [hserver] at hblocked
          dsimp only at hblocked
          cases hlink : sib.links.get? (h.src, h.dst) with
          | some info =>
              rw [hlink] at hblocked
              refine ⟨.keyError, ?_⟩
              dsimp only
              rw [if_neg hblocked]
              rfl
          | none =>
              rw [hlink] at hblocked
              refine ⟨.assertionError, ?_⟩
              rw [show (h.src == h.dst) = false from
                beq_eq_false_iff_ne.mpr hblocked]
              rfl

theorem run_removeIdle {hops : List Hop} (hidle : ∀ h ∈ hops, Idle sib h) :
    (hops.forM removeHop).run sib = .ok () sib := by
  induction hops with
  | nil => rfl
  | cons h hops ih =>
      have hrun := run_removeHop_of_idle (hidle h List.mem_cons_self)
      exact (PyM.run_bind_ok hrun _).trans
        (ih fun h' hh' => hidle h' (List.mem_cons_of_mem h hh'))

/-- Hops that are refused stop the deletion, and the flows are not reached. -/
theorem run_removeHops_refused {previous : List (List (Nat × Nat))}
    {directions : List Direction}
    (hrefused : HopsRefused sib sfci previous directions) :
    ∃ e, (do
      removeHops sfci previous directions
      purge sfci.sfciID : PyM Sib Unit).run sib = .error e sib := by
  induction hrefused with
  | noPath hpath =>
      rw [removeHops, hpath]
      exact ⟨_, rfl⟩
  | blocked hpath hhops hidle hblocked =>
      obtain ⟨e, hrun⟩ := run_removeHop_of_blocked hblocked
      refine ⟨e, PyM.run_bind_error ?_ _⟩
      rw [removeHops, hpath]
      refine (PyM.run_bind_ok (PyM.run_ofExcept_ok ..) _).trans ?_
      rw [hhops, PyM.forM_append]
      refine PyM.run_bind_error ?_ _
      rw [PyM.run_bind_ok (run_removeIdle hidle)]
      exact PyM.run_bind_error hrun _
  | @idle previous direction directions pathlist hpath hidle _ ih =>
      obtain ⟨e, hrun⟩ := ih
      have hstep : (removeHops sfci previous (direction :: directions)).run sib =
          (removeHops sfci pathlist directions).run sib := by
        rw [removeHops, hpath]
        refine (PyM.run_bind_ok (PyM.run_ofExcept_ok ..) _).trans ?_
        rw [PyM.run_bind_ok (run_removeIdle hidle)]
      refine ⟨e, ?_⟩
      rw [EStateM.run_bind, hstep, ← EStateM.run_bind, hrun]
  | notInstalled hnone =>
      refine ⟨.keyError, ?_⟩
      rw [removeHops]
      refine (PyM.run_bind_ok rfl _).trans ?_
      rw [purge, PyM.run_bind_get, hnone]
      rfl

/-- A stage whose VNFI is not there stops the deletion. -/
theorem run_removeVNFI_refused {path : List (Nat × Nat)} {stage : Nat}
    (hnone : ∀ w info, itemFromEnd (pathNodes path) 1 = .ok w →
      info ∈ (sib.vnfis.get? w).getD [] →
      ∀ vnfType, vnfTypeAt sfci stage = .ok vnfType →
        info.isFor sfci.sfciID stage vnfType = false) :
    ∃ e, (removeVNFI sfci path stage).run sib = .error e sib := by
  rw [removeVNFI]
  cases hw : itemFromEnd (pathNodes path) 1 with
  | error e => exact ⟨e, rfl⟩
  | ok w =>
      cases hl : sib.vnfis.get? w with
      | none =>
          refine ⟨.assertionError, ?_⟩
          refine (PyM.run_bind_ok (PyM.run_ofExcept_ok ..) _).trans ?_
          rw [PyM.run_bind_get, hl]
          rfl
      | some l =>
          by_cases hat : l.any (VNFIInfo.isAt sfci.sfciID stage) = true
          · cases htype : vnfTypeAt sfci stage with
            | error e =>
                refine ⟨e, (PyM.run_bind_ok (PyM.run_ofExcept_ok ..) _).trans ?_⟩
                rw [PyM.run_bind_get, PyM.run_bind_ofOption hl, if_pos hat]
                rfl
            | ok vnfType =>
                have hany : ¬ l.any
                    (VNFIInfo.isFor sfci.sfciID stage vnfType) = true := by
                  intro hany
                  obtain ⟨info, hinfo, hfor⟩ := List.any_eq_true.mp hany
                  have hmem : info ∈ (sib.vnfis.get? w).getD [] := by
                    rw [hl]
                    exact hinfo
                  rw [hnone w info hw hmem vnfType htype] at hfor
                  cases hfor
                refine ⟨.valueError "no vnfi to remove on server %d vnfType %d",
                  (PyM.run_bind_ok (PyM.run_ofExcept_ok ..) _).trans ?_⟩
                rw [PyM.run_bind_get, PyM.run_bind_ofOption hl, if_pos hat]
                refine (PyM.run_bind_ok (PyM.run_ofExcept_ok ..) _).trans ?_
                rw [if_neg hany]
                rfl
          · refine ⟨.valueError "no vnfi to remove on server %d vnfType %d",
              (PyM.run_bind_ok (PyM.run_ofExcept_ok ..) _).trans ?_⟩
            rw [PyM.run_bind_get, PyM.run_bind_ofOption hl, if_neg hat]
            rfl

/-- A refused deletion stops before it has written anything. -/
theorem run_remove_refused (hrefused : DelRefused sib sfc sfci) :
    ∃ e, (remove_sfci sfc sfci).run sib = .error e sib := by
  cases hdirections : sfc.directions with
  | nil =>
      refine ⟨.indexError, ?_⟩
      rw [remove_sfci, hdirections]
      rfl
  | cons direction directions =>
      have hfirst : itemAt sfc.directions 0 = .ok direction := by
        rw [hdirections]
        rfl
      rw [remove_sfci, hfirst]
      cases hrefused with
      | noDirection hnone =>
          rw [hnone] at hdirections
          cases hdirections
      | noPath hpath =>
          rw [hpath]
          exact ⟨_, rfl⟩
      | noVNFI hpath hdrop hnone =>
          obtain ⟨e, hrun⟩ := run_removeVNFI_refused hnone
          refine ⟨e, (PyM.run_bind_ok (PyM.run_ofExcept_ok ..) _).trans ?_⟩
          rw [hpath]
          refine (PyM.run_bind_ok (PyM.run_ofExcept_ok ..) _).trans ?_
          rw [removeVNFIs, hdrop]
          exact PyM.run_bind_error (PyM.run_bind_error hrun _) _
      | noHop hpath hdrop hhops =>
          obtain ⟨e, hrun⟩ := run_removeHops_refused hhops
          refine ⟨e, (PyM.run_bind_ok (PyM.run_ofExcept_ok ..) _).trans ?_⟩
          rw [hpath]
          refine (PyM.run_bind_ok (PyM.run_ofExcept_ok ..) _).trans ?_
          rw [removeVNFIs, hdrop]
          exact (PyM.run_bind_ok rfl _).trans hrun

end Refused

section Agreed

variable {u₀ : Nat → Nat} {sib : Sib} {sfc : SFC} {sfci : SFCI} {info : SFCIInfo}

theorem removeVNFI_congr {sfci' : SFCI} (hid : sfci.sfciID = sfci'.sfciID)
    {stage : Nat} (htype : vnfTypeAt sfci stage = vnfTypeAt sfci' stage)
    (path : List (Nat × Nat)) :
    removeVNFI sfci path stage = removeVNFI sfci' path stage := by
  rw [removeVNFI, removeVNFI, hid, htype]

theorem removeHops_eq {directions : List Direction}
    (hids : ∀ d ∈ directions, d.ID = 0 ∨ d.ID = 1)
    (hpath : ∀ d ∈ directions, ∃ pathlist,
      pathlistOf sfci d.ID = .ok pathlist)
    (previous : List (List (Nat × Nat))) :
    removeHops sfci previous directions =
      (directions.flatMap fun direction => hopsOf sfci.sfciID direction.ID
        ((pathlistOf sfci direction.ID).toOption.getD [])).forM removeHop := by
  induction directions generalizing previous with
  | nil => rfl
  | cons direction directions ih =>
      obtain ⟨pathlist, hpathlist⟩ := hpath direction List.mem_cons_self
      have ih' := ih (fun d hd => hids d (List.mem_cons_of_mem direction hd))
        (fun d hd => hpath d (List.mem_cons_of_mem direction hd)) pathlist
      rw [removeHops, pathlistFrom, if_pos (hids direction List.mem_cons_self),
        List.flatMap_cons, hpathlist, PyM.forM_append, ← ih']
      rfl

theorem Agrees.perm_hops (hagrees : Agrees info sfc sfci)
    (hid : sfci.sfciID = info.sfci.sfciID) :
    (sfciHops sfc sfci).Perm (sfciHops info.sfc info.sfci) := by
  let f (dirID : Nat) := hopsOf info.sfci.sfciID dirID
    ((pathlistOf info.sfci dirID).toOption.getD [])
  have hleft : sfciHops sfc sfci = (sfc.directions.map Direction.ID).flatMap f := by
    rw [sfciHops, List.flatMap_map]
    refine List.flatMap_congr fun direction hdirection => ?_
    rw [hid, hagrees.path direction hdirection]
  have hright : sfciHops info.sfc info.sfci =
      (info.sfc.directions.map Direction.ID).flatMap f := by
    rw [sfciHops, List.flatMap_map]
  rw [hleft, hright]
  exact hagrees.ids.flatMap_right f

/-- The ids of the directions are `0` and maybe `1`, and each has its path. -/
theorem Agrees.path_of_mem (hagrees : Agrees info sfc sfci)
    (hrouted : Routed info.sfc info.sfci) {direction : Direction}
    (hdirection : direction ∈ sfc.directions) :
    (direction.ID = 0 ∨ direction.ID = 1) ∧ ∃ pathlist,
      pathlistOf sfci direction.ID = .ok pathlist := by
  have hmem : direction.ID ∈ info.sfc.directions.map Direction.ID :=
    hagrees.ids.mem_iff.mp (List.mem_map_of_mem hdirection)
  obtain ⟨d, hd, hID⟩ := List.mem_map.mp hmem
  obtain ⟨pathlist, hpathlist, -⟩ := hrouted.path d hd
  rw [hagrees.path direction hdirection, ← hID]
  exact ⟨hrouted.checked.direction_lt hd, pathlist, hpathlist⟩

/-- The path of direction `0` is that of the installed SFCI. -/
theorem Agrees.path_zero (hagrees : Agrees info sfc sfci)
    (hrouted : Routed info.sfc info.sfci) : ∃ pathlist,
      pathlistOf sfci 0 = .ok pathlist ∧ pathlistOf info.sfci 0 = .ok pathlist ∧
        pathlist.length = info.sfci.vnfiSequence.length + 1 := by
  obtain ⟨d, hd, hzero⟩ := hrouted.direction_zero
  obtain ⟨pathlist, hpathlist, hlength, -⟩ := hrouted.path d hd
  have hmem : d.ID ∈ sfc.directions.map Direction.ID :=
    hagrees.ids.mem_iff.mpr (List.mem_map_of_mem hd)
  obtain ⟨d', hd', hID⟩ := List.mem_map.mp hmem
  have hpath := hagrees.path d' hd'
  rw [hID, hzero] at hpath
  rw [hzero] at hpathlist
  exact ⟨pathlist, hpath.trans hpathlist, hpathlist, hlength⟩

theorem Agrees.removeVNFIs_eq (hagrees : Agrees info sfc sfci)
    (hid : sfci.sfciID = info.sfci.sfciID) {pathlist : List (List (Nat × Nat))}
    (hpathlist : pathlistOf info.sfci 0 = .ok pathlist)
    (hlength : pathlist.length = info.sfci.vnfiSequence.length + 1) :
    removeVNFIs sfci pathlist = (vnfiStages info.sfci).forM fun e =>
      removeVNFI info.sfci e.1 e.2 := by
  rw [removeVNFIs, vnfiStages, hpathlist]
  refine PyM.forM_congr fun e he => removeVNFI_congr hid ?_ e.1
  refine hagrees.vnfType e.2 ?_
  rw [List.mem_zipIdx_iff_getElem?] at he
  have hlt := (List.getElem?_eq_some_iff.mp he).1
  rw [List.length_dropLast] at hlt
  omega

theorem sound_purge (hs : Sound u₀ sib) {sfciID : Nat}
    (hinfo : sib.sfcis.get? sfciID = some info) {sib' : Sib}
    (hhops : Holds u₀ sib'
      (installedHops sib \ {h | h ∈ sfciHops info.sfc info.sfci}))
    (hvnfis : VNFIsHold sib'.vnfis
      (installedVNFIs sib \ vnfisAlong info.sfci (vnfiStages info.sfci)))
    (hsfcs : sib'.sfcs = sib.sfcs) (hsfcis : sib'.sfcis = sib.sfcis)
    (hflows : sib'.flows = sib.flows) :
    ∃ sib'', (purge sfciID).run sib' = .ok () sib'' ∧ Sound u₀ sib'' ∧
      sib''.sfcis = sib.sfcis.erase sfciID ∧ sib''.sfcs = sib.sfcs := by
  have hgot : sib'.sfcis.get? sfciID = some info := hsfcis ▸ hinfo
  obtain ⟨flows, hrun, -, hrecorded⟩ := run_purge (hs.recorded.of_eq hsfcis hflows) hgot
  refine ⟨_, hrun, ?_, by rw [hsfcis], hsfcs⟩
  refine ⟨?_, ?_, hrecorded.id, hrecorded.routed, ?_, hrecorded.traffic⟩
  · rw [installedHops]
    dsimp only
    rw [hsfcis, Dict.needed_erase_of_disjoint hinfo]
    · exact hhops.of_eq rfl rfl rfl
    · rintro h hh hother
      obtain ⟨sfciID', info', hne, hinfo', hh'⟩ :=
        Dict.mem_needed_erase_iff.mp hother
      refine hne ?_
      rw [← hs.id _ _ hinfo', ← hs.id _ _ hinfo, ← key_of_mem_sfciHops hh,
        ← key_of_mem_sfciHops hh']
  · rw [installedVNFIs]
    dsimp only
    rw [hsfcis, Dict.needed_erase_of_disjoint hinfo]
    · exact hvnfis
    · rintro v hv hother
      obtain ⟨sfciID', info', hne, hinfo', hv'⟩ :=
        Dict.mem_needed_erase_iff.mp hother
      refine hne ?_
      rw [← hs.id _ _ hinfo', ← hs.id _ _ hinfo,
        ← (stage_of_mem_vnfisAlong hv).1, ← (stage_of_mem_vnfisAlong hv').1]
  · intro sfciID' info' hinfo'
    rw [Dict.get?_erase, hsfcis] at hinfo'
    split at hinfo'
    · cases hinfo'
    · dsimp only
      rw [hsfcs]
      exact hs.stored sfciID' info' hinfo'

theorem run_remove (hs : Sound u₀ sib)
    (hinfo : sib.sfcis.get? sfci.sfciID = some info)
    (hagrees : Agrees info sfc sfci) :
    ∃ sib', (remove_sfci sfc sfci).run sib = .ok () sib' ∧ Sound u₀ sib' ∧
      sib'.sfcis = sib.sfcis.erase sfci.sfciID ∧ sib'.sfcs = sib.sfcs := by
  have hid : sfci.sfciID = info.sfci.sfciID := (hs.id _ _ hinfo).symm
  have hrouted := hs.routed _ _ hinfo
  obtain ⟨pathlist, hpathlist, hpathlist', hlength⟩ := hagrees.path_zero hrouted
  have hownVNFIs : ∀ v ∈ vnfisAlong info.sfci (vnfiStages info.sfci),
      v ∈ installedVNFIs sib := fun v hv => Dict.mem_needed_of_get? hinfo hv
  obtain ⟨vnfis, hrunVNFIs, hvnfis⟩ := run_removeVNFIs hs.vnfis hs.keyedVNFIs
    (fun e he => by
      obtain ⟨v, hv⟩ := hrouted.exists_vnfiAt he
      exact ⟨v, hv, hownVNFIs v ⟨e, he, hv⟩⟩) (nodup_stages info.sfci)
  generalize hsib₁ : ({ sib with vnfis := vnfis } : Sib) = sib₁ at hrunVNFIs
  have hholds₁ : Holds u₀ sib₁ (installedHops sib) := by
    subst hsib₁
    exact hs.hops.of_eq rfl rfl rfl
  have hperm := hagrees.perm_hops hid
  have hownHops : ∀ h ∈ sfciHops sfc sfci, h ∈ installedHops sib :=
    fun h hh => Dict.mem_needed_of_get? hinfo (hperm.mem_iff.mp hh)
  have hnodup : ((sfciHops sfc sfci).map Hop.key).Nodup :=
    (hperm.map Hop.key).nodup_iff.mpr (nodup_keys_sfciHops hrouted)
  obtain ⟨sib₂, hrunHops, hholds₂, hsame⟩ := run_removeHops hholds₁ hs.keyed
    hownHops hnodup
  have hhops₂ : Holds u₀ sib₂
      (installedHops sib \ {h | h ∈ sfciHops info.sfc info.sfci}) := by
    convert hholds₂ using 2
    ext h
    exact hperm.mem_iff.symm
  have hvnfis₂ : VNFIsHold sib₂.vnfis
      (installedVNFIs sib \ vnfisAlong info.sfci (vnfiStages info.sfci)) := by
    rw [hsame.vnfis, ← hsib₁]
    exact hvnfis
  have hbase : sib₁.sfcs = sib.sfcs ∧ sib₁.sfcis = sib.sfcis ∧
      sib₁.flows = sib.flows := by
    subst hsib₁
    exact ⟨rfl, rfl, rfl⟩
  obtain ⟨sib₃, hrunPurge, hs₃, hsfcis₃, hsfcs₃⟩ := sound_purge hs hinfo hhops₂
    hvnfis₂ (hsame.sfcs.trans hbase.1) (hsame.sfcis.trans hbase.2.1)
    (hsame.flows.trans hbase.2.2)
  refine ⟨sib₃, ?_, hs₃, hsfcis₃, hsfcs₃⟩
  have hfirst : ∃ direction, itemAt sfc.directions 0 = .ok direction := by
    obtain ⟨d, hd, -⟩ := hrouted.direction_zero
    have hmem := hagrees.ids.mem_iff.mpr (List.mem_map_of_mem hd)
    obtain ⟨d', hd', -⟩ := List.mem_map.mp hmem
    have hpos := List.length_pos_of_mem hd'
    exact ⟨sfc.directions[0], itemAt_eq_ok_iff.mpr (List.getElem?_eq_getElem hpos)⟩
  obtain ⟨direction, hfirst⟩ := hfirst
  rw [remove_sfci, hfirst, hpathlist]
  refine (PyM.run_bind_ok (PyM.run_ofExcept_ok ..) _).trans ?_
  refine (PyM.run_bind_ok (PyM.run_ofExcept_ok ..) _).trans ?_
  rw [hagrees.removeVNFIs_eq hid hpathlist' hlength, PyM.run_bind_ok hrunVNFIs,
    removeHops_eq (fun d hd => (hagrees.path_of_mem hrouted hd).1)
      (fun d hd => (hagrees.path_of_mem hrouted hd).2)]
  exact (PyM.run_bind_ok hrunHops _).trans hrunPurge

theorem allOrNothing_remove (hs : Sound u₀ sib) (hsafe : DelSafe sib sfc sfci) :
    AllOrNothing u₀ (remove_sfci sfc sfci) sib := by
  obtain ⟨info, hinfo, hagrees⟩ | hrefused := hsafe
  · obtain ⟨sib', hrun, hs', -⟩ := run_remove hs hinfo hagrees
    exact Or.inl ⟨sib', hrun, hs'⟩
  · exact Or.inr (run_remove_refused hrefused)

end Agreed

end SelfAdaptiveMano.Simulator

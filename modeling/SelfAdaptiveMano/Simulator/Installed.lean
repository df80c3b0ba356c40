import SelfAdaptiveMano.Simulator.Contents
import SelfAdaptiveMano.Simulator.Recorded
import SelfAdaptiveMano.Library.Cover

/-!
# The hops and VNFIs of the installed SFCIs

The keys of the hops tell apart the SFCIs, and within an SFCI the directions, the
stages and the hops, and so do the keys of the VNFI entries. So the hops and the
entries of all installed SFCIs can be told apart by their keys.
-/

namespace SelfAdaptiveMano.Simulator

open Library

def sfciHops (sfc : SFC) (sfci : SFCI) : List Hop :=
  sfc.directions.flatMap fun direction =>
    hopsOf sfci.sfciID direction.ID
      ((pathlistOf sfci direction.ID).toOption.getD [])

def vnfiStages (sfci : SFCI) : List (List (Nat × Nat) × Nat) :=
  ((pathlistOf sfci 0).toOption.getD []).dropLast.zipIdx

def installedHops (sib : Sib) : Set Hop :=
  sib.sfcis.needed fun info => {h | h ∈ sfciHops info.sfc info.sfci}

def installedVNFIs (sib : Sib) : Set (Nat × VNFIInfo) :=
  sib.sfcis.needed fun info => vnfisAlong info.sfci (vnfiStages info.sfci)

section Keys

variable {sfciID dirID : Nat} {pathlist : List (List (Nat × Nat))} {h : Hop}
  {sfc : SFC} {sfci : SFCI}

theorem pairwise_zipIdx {α : Type} (l : List α) :
    l.zipIdx.Pairwise fun a b => a.2 ≠ b.2 := by
  have hnodup : (l.zipIdx.map Prod.snd).Nodup := by
    rw [List.zipIdx_map_snd]
    exact List.nodup_range'
  exact List.pairwise_map.mp hnodup

theorem key_of_mem_hopsOf (hmem : h ∈ hopsOf sfciID dirID pathlist) :
    h.key.sfciID = sfciID ∧ h.key.dirID = dirID := by
  obtain ⟨e, -, hmem⟩ := List.mem_flatMap.mp hmem
  obtain ⟨e', -, rfl⟩ := List.mem_map.mp hmem
  exact ⟨rfl, rfl⟩

theorem nodup_keys_hopsOf (sfciID dirID : Nat)
    (pathlist : List (List (Nat × Nat))) :
    ((hopsOf sfciID dirID pathlist).map Hop.key).Nodup := by
  rw [hopsOf, List.map_flatMap, List.nodup_flatMap]
  constructor
  · rintro ⟨path, stage⟩ -
    rw [List.map_map]
    refine List.pairwise_map.mpr ((pairwise_zipIdx _).imp ?_)
    rintro ⟨ends, hop⟩ ⟨ends', hop'⟩ hne heq
    exact hne (congrArg HopKey.hop heq)
  · refine (pairwise_zipIdx pathlist).imp ?_
    rintro ⟨path, stage⟩ ⟨path', stage'⟩ hne key hkey hkey'
    obtain ⟨h, hh, rfl⟩ := List.mem_map.mp hkey
    obtain ⟨h', hh', heq⟩ := List.mem_map.mp hkey'
    obtain ⟨e, -, rfl⟩ := List.mem_map.mp hh
    obtain ⟨e', -, rfl⟩ := List.mem_map.mp hh'
    exact hne (congrArg HopKey.stage heq).symm

theorem key_of_mem_sfciHops (hmem : h ∈ sfciHops sfc sfci) :
    h.key.sfciID = sfci.sfciID := by
  obtain ⟨direction, -, hmem⟩ := List.mem_flatMap.mp hmem
  exact (key_of_mem_hopsOf hmem).1

theorem Checked.pairwise_directions (hchecked : Checked sfc) :
    sfc.directions.Pairwise fun d d' => d.ID ≠ d'.ID := by
  have hnodup : (sfc.directions.map Direction.ID).Nodup := by
    rw [hchecked.ids]
    exact List.nodup_range
  exact List.pairwise_map.mp hnodup

theorem Checked.nodup_keys_sfciHops (hchecked : Checked sfc) (sfci : SFCI) :
    ((sfciHops sfc sfci).map Hop.key).Nodup := by
  rw [sfciHops, List.map_flatMap, List.nodup_flatMap]
  constructor
  · exact fun direction _ => nodup_keys_hopsOf ..
  · refine hchecked.pairwise_directions.imp ?_
    intro d d' hne key hkey hkey'
    obtain ⟨h, hh, rfl⟩ := List.mem_map.mp hkey
    obtain ⟨h', hh', heq⟩ := List.mem_map.mp hkey'
    rw [← (key_of_mem_hopsOf hh).2, ← (key_of_mem_hopsOf hh').2, heq] at hne
    exact hne rfl

theorem nodup_keys_sfciHops (hrouted : Routed sfc sfci) :
    ((sfciHops sfc sfci).map Hop.key).Nodup :=
  hrouted.checked.nodup_keys_sfciHops sfci

/-- Direction `0` or `1`, as the ids are. -/
theorem Checked.direction_lt (hchecked : Checked sfc) {direction : Direction}
    (hdirection : direction ∈ sfc.directions) :
    direction.ID = 0 ∨ direction.ID = 1 := by
  have hmem : direction.ID ∈ sfc.directions.map Direction.ID :=
    List.mem_map_of_mem hdirection
  rw [hchecked.ids, List.mem_range] at hmem
  have hlength := hchecked.length
  omega

/-- There is a direction `0`. -/
theorem Routed.direction_zero (hrouted : Routed sfc sfci) :
    ∃ direction ∈ sfc.directions, direction.ID = 0 := by
  have hmem : 0 ∈ sfc.directions.map Direction.ID := by
    rw [hrouted.ids, List.mem_range]
    have hlength := hrouted.length
    omega
  exact List.mem_map.mp hmem

theorem Routed.exists_vnfiAt (hrouted : Routed sfc sfci)
    {e : List (Nat × Nat) × Nat} (he : e ∈ vnfiStages sfci) :
    ∃ v, vnfiAt sfci e.1 e.2 = .ok v := by
  obtain ⟨direction, hdirection, hzero⟩ := hrouted.direction_zero
  obtain ⟨pathlist, hpathlist, hlength, hpath⟩ := hrouted.path direction hdirection
  rw [hzero] at hpathlist
  rw [vnfiStages, hpathlist] at he
  obtain ⟨path, stage⟩ := e
  rw [List.mem_zipIdx_iff_getElem?] at he
  obtain ⟨hlt, hget⟩ := List.getElem?_eq_some_iff.mp he
  have hmem : path ∈ pathlist := List.mem_of_mem_dropLast (List.mem_of_getElem? he)
  have hnodes : 1 ≤ (pathNodes path).length := by
    rw [pathNodes, List.length_map]
    have := hpath path hmem
    omega
  have hstage : stage < sfci.vnfiSequence.length := by
    rw [List.length_dropLast] at hlt
    have hlt' : stage < pathlist.length - 1 := hlt
    omega
  obtain ⟨vnfi, hvnfi⟩ := hrouted.stage _ (List.getElem_mem hstage)
  have hlast : ∃ w, itemFromEnd (pathNodes path) 1 = .ok w := by
    refine ⟨(pathNodes path)[(pathNodes path).length - 1], ?_⟩
    rw [itemFromEnd_eq_ok_iff]
    exact ⟨hnodes, List.getElem?_eq_getElem (by omega)⟩
  obtain ⟨w, hw⟩ := hlast
  have hread : (itemAt sfci.vnfiSequence stage >>= (itemAt · 0)) = .ok vnfi := by
    rw [except_bind_eq_ok_iff]
    refine ⟨[vnfi], ?_, rfl⟩
    rw [itemAt_eq_ok_iff, List.getElem?_eq_getElem hstage, hvnfi]
  refine ⟨(w, ⟨sfci.sfciID, stage, vnfi, vnfi.maxCPUNum, vnfi.maxMem⟩), ?_⟩
  rw [vnfiAt, hw, hread]
  rfl

end Keys

section Invariant

/-- The invariant of the information base. An SFCI is stored under its id, was
routed when it was added, and its SFC is stored too; its flows are flows of the
information base that name the SFCI and the direction. -/
structure Sound (u₀ : Nat → Nat) (sib : Sib) : Prop where
  hops : Holds u₀ sib (installedHops sib)
  vnfis : VNFIsHold sib.vnfis (installedVNFIs sib)
  id : ∀ sfciID info, sib.sfcis.get? sfciID = some info →
    info.sfci.sfciID = sfciID
  routed : ∀ sfciID info, sib.sfcis.get? sfciID = some info →
    Routed info.sfc info.sfci
  stored : ∀ sfciID info, sib.sfcis.get? sfciID = some info →
    sib.sfcs.contains info.sfc.sfcUUID = true
  traffic : ∀ sfciID info, sib.sfcis.get? sfciID = some info →
    ∀ dirID trafficIDs, info.traffics.get? dirID = some trafficIDs →
      trafficIDs.Nodup ∧ ∀ t ∈ trafficIDs, ∃ flow,
        sib.flows.get? t = some flow ∧ flow.sfciID = sfciID ∧
          flow.dirID = dirID

variable {u₀ : Nat → Nat} {sib : Sib}

theorem Sound.recorded (hs : Sound u₀ sib) : Recorded sib :=
  ⟨hs.id, hs.routed, hs.traffic⟩

theorem Sound.keyed (hs : Sound u₀ sib) : Keyed (installedHops sib) := by
  rintro h ⟨sfciID, info, hinfo, hmem⟩ h' ⟨sfciID', info', hinfo', hmem'⟩ hkey
  have hid : sfciID = sfciID' := by
    rw [← hs.id _ _ hinfo, ← hs.id _ _ hinfo', ← key_of_mem_sfciHops hmem,
      ← key_of_mem_sfciHops hmem', hkey]
  subst hid
  obtain rfl := Option.some.inj (hinfo.symm.trans hinfo')
  exact List.inj_on_of_nodup_map (nodup_keys_sfciHops (hs.routed _ _ hinfo))
    hmem hmem' hkey

theorem mem_stages_unique {sfci : SFCI} {e e' : List (Nat × Nat) × Nat}
    (he : e ∈ vnfiStages sfci) (he' : e' ∈ vnfiStages sfci)
    (hstage : e.2 = e'.2) : e = e' := by
  obtain ⟨path, stage⟩ := e
  obtain ⟨path', stage'⟩ := e'
  rw [vnfiStages, List.mem_zipIdx_iff_getElem?] at he he'
  dsimp only at hstage he he'
  subst hstage
  rw [Option.some.inj (he.symm.trans he')]

/-- The SFCI and the stage tell the installed VNFIs apart. -/
theorem Sound.keyedVNFIs (hs : Sound u₀ sib) :
    KeyedVNFIs (installedVNFIs sib) := by
  rintro v ⟨sfciID, info, hinfo, hv⟩ v' ⟨sfciID', info', hinfo', hv'⟩ hid hstage
  have hsame : sfciID = sfciID' := by
    rw [← hs.id _ _ hinfo, ← hs.id _ _ hinfo',
      ← (stage_of_mem_vnfisAlong hv).1, ← (stage_of_mem_vnfisAlong hv').1, hid]
  subst hsame
  obtain rfl := Option.some.inj (hinfo.symm.trans hinfo')
  obtain ⟨e, he, hread⟩ := hv
  obtain ⟨e', he', hread'⟩ := hv'
  rw [show v.2.stage = e.2 from congrArg VNFIInfo.stage (vnfiAt_eq_ok hread).2.2,
    show v'.2.stage = e'.2 from
      congrArg VNFIInfo.stage (vnfiAt_eq_ok hread').2.2] at hstage
  obtain rfl := mem_stages_unique he he' hstage
  exact Except.ok.inj (hread.symm.trans hread')

end Invariant

end SelfAdaptiveMano.Simulator

import SelfAdaptiveMano.Simulator.Installed

/-!
# The addition of an SFCI

Where the checks pass, the id is new, the TCAMs have room for all hops and the
bandwidth of the flows can be computed, the addition goes through. Where the
checks fail, or the very first write is refused, nothing is written.
-/

namespace SelfAdaptiveMano.Simulator

open Library

/-- The command goes through and keeps the invariant, or it fails and leaves the
information base as it was. -/
def AllOrNothing (u₀ : Nat → Nat) (x : PyM Sib Unit) (sib : Sib) : Prop :=
  (∃ sib', x.run sib = .ok () sib' ∧ Sound u₀ sib') ∨
    ∃ e, x.run sib = .error e sib

/-- The id is new, the TCAMs have room for the hops, and the service level
objective and the rate limiters say what the bandwidth of the flows is. -/
structure AddReady (sib : Sib) (sfc : SFC) (sfci : SFCI) : Prop where
  new : sib.sfcis.get? sfci.sfciID = none
  room : Room sib (sfciHops sfc sfci)
  bandwidth : ∃ bw, flowBandwidth sfc sfci = .ok bw

/-- The chain is empty and the first hop starts at a switch without room. -/
def AddRefused (sib : Sib) (sfc : SFC) (sfci : SFCI) : Prop :=
  sfci.vnfiSequence = [] ∧ ∃ h hops info, sfciHops sfc sfci = h :: hops ∧
    sib.switches.get? h.src = some info ∧ info.tcamSize ≤ info.tcamUsage

/-- An addition that goes through or leaves everything as it was. -/
def AddSafe (py3 : Bool) (sib : Sib) (sfc : SFC) (sfci : SFCI) : Prop :=
  checkAddSFCI py3 sib sfc sfci = .ok () →
    AddReady sib sfc sfci ∨ AddRefused sib sfc sfci

section Addition

variable {py3 : Bool} {u₀ : Nat → Nat} {sib : Sib} {sfc : SFC} {sfci : SFCI}

theorem forM_hops (hrouted : Routed sfc sfci) (f : Hop → PyM Sib Unit) :
    (sfc.directions.forM fun direction => do
      let pathlist ← PyM.ofExcept (pathlistOf sfci direction.ID)
      (hopsOf sfci.sfciID direction.ID pathlist).forM f) =
    (sfciHops sfc sfci).forM f := by
  have hpath := hrouted.path
  rw [sfciHops]
  generalize sfc.directions = directions at hpath
  induction directions with
  | nil => rfl
  | cons direction directions ih =>
      obtain ⟨pathlist, hpathlist, -⟩ := hpath direction List.mem_cons_self
      have ih' := ih fun d hd => hpath d (List.mem_cons_of_mem direction hd)
      rw [List.flatMap_cons, hpathlist, PyM.forM_append, ← ih']
      show ((PyM.ofExcept (pathlistOf sfci direction.ID) >>= fun pathlist =>
        (hopsOf sfci.sfciID direction.ID pathlist).forM f) >>= fun _ =>
          directions.forM _) = _
      rw [hpathlist]
      rfl

theorem Holds.of_eq {sib' : Sib} {H : Set Hop} (hs : Holds u₀ sib H)
    (hswitches : sib'.switches = sib.switches)
    (hserverLinks : sib'.serverLinks = sib.serverLinks)
    (hlinks : sib'.links = sib.links) : Holds u₀ sib' H := by
  obtain ⟨usage, nextHop, serverLinks, links, linked⟩ := hs
  refine ⟨?_, ?_, ?_, ?_, ?_⟩
  · rwa [hswitches]
  · rwa [hswitches]
  · rwa [hserverLinks]
  · rwa [hlinks, hserverLinks]
  · intro h hh
    rw [Linked, hserverLinks, hlinks]
    exact linked h hh

theorem run_addFlow (hs : Sound u₀ sib) (dirID : Nat) {bw : Nat}
    (hbw : flowBandwidth sfc sfci = .ok bw) :
    ∃ sib', (addFlow sfc sfci dirID).run sib = .ok () sib' ∧ Sound u₀ sib' := by
  generalize ht : newTrafficID sib.flows = t
  have hfresh : sib.flows.get? t = none := ht ▸ get?_newTrafficID sib.flows
  refine ⟨{ sib with
      flows := sib.flows.set t ⟨bw, sfci.sfciID, dirID⟩
      sfcis := sib.sfcis.modify sfci.sfciID (·.addTraffic dirID t) }, ?_, ?_⟩
  · rw [addFlow, hbw, ← ht]
    rfl
  have hrecorded := hs.recorded.addFlow hfresh bw sfci.sfciID dirID
  refine ⟨?_, ?_, hrecorded.id, hrecorded.routed, ?_, hrecorded.traffic⟩
  · rw [installedHops]
    dsimp only
    rw [Dict.needed_modify]
    · exact hs.hops.of_eq rfl rfl rfl
    · exact fun _ => rfl
  · rw [installedVNFIs]
    dsimp only
    rw [Dict.needed_modify]
    · exact hs.vnfis
    · exact fun _ => rfl
  · intro sfciID info' hinfo'
    rw [Dict.get?_modify] at hinfo'
    split at hinfo'
    · obtain ⟨info, hinfo, rfl⟩ := Option.map_eq_some_iff.mp hinfo'
      exact hs.stored _ info hinfo
    · exact hs.stored sfciID info' hinfo'

theorem run_addFlows (hs : Sound u₀ sib) {bw : Nat}
    (hbw : flowBandwidth sfc sfci = .ok bw) (directions : List Direction) :
    ∃ sib', (directions.forM fun direction =>
        addFlow sfc sfci direction.ID).run sib = .ok () sib' ∧
      Sound u₀ sib' := by
  induction directions generalizing sib with
  | nil => exact ⟨sib, rfl, hs⟩
  | cons direction directions ih =>
      obtain ⟨sib₁, hrun₁, hs₁⟩ := run_addFlow hs direction.ID hbw
      obtain ⟨sib₂, hrun₂, hs₂⟩ := ih hs₁
      exact ⟨sib₂, (PyM.run_bind_ok hrun₁ _).trans hrun₂, hs₂⟩

theorem sound_store (hs : Sound u₀ sib)
    (hnew : sib.sfcis.get? sfci.sfciID = none) (hrouted : Routed sfc sfci)
    {sib' : Sib}
    (hhops : Holds u₀ sib' (installedHops sib ∪ {h | h ∈ sfciHops sfc sfci}))
    (hvnfis : VNFIsHold sib'.vnfis
      (installedVNFIs sib ∪ vnfisAlong sfci (vnfiStages sfci)))
    (hsfcs : sib'.sfcs = sib.sfcs) (hsfcis : sib'.sfcis = sib.sfcis)
    (hflows : sib'.flows = sib.flows) :
    ∃ sib'', (storeSFCI sfc sfci).run sib' = .ok () sib'' ∧
      Sound u₀ sib'' := by
  have hrecorded := (hs.recorded.of_eq hsfcis hflows).store hrouted
  refine ⟨_, rfl, ?_, ?_, hrecorded.id, hrecorded.routed, ?_, hrecorded.traffic⟩
  · rw [installedHops]
    dsimp only
    rw [hsfcis, Dict.needed_set_of_get?_eq_none hnew]
    exact hhops.of_eq rfl rfl rfl
  · rw [installedVNFIs]
    dsimp only
    rw [hsfcis, Dict.needed_set_of_get?_eq_none hnew]
    exact hvnfis
  · intro sfciID info hinfo
    rw [Dict.contains, Dict.get?_set]
    split
    · rfl
    rw [Dict.get?_set, hsfcis] at hinfo
    split at hinfo
    · next hne _ =>
        obtain rfl := Option.some.inj hinfo
        exact absurd rfl hne
    · rw [hsfcs]
      exact hs.stored sfciID info hinfo

theorem Sound.hop_ne (hs : Sound u₀ sib) {sfciID : Nat}
    (hnew : sib.sfcis.get? sfciID = none) {h : Hop} (hh : h ∈ installedHops sib) :
    h.key.sfciID ≠ sfciID := by
  obtain ⟨sfciID', info, hinfo, hmem⟩ := hh
  rw [key_of_mem_sfciHops hmem, hs.id _ _ hinfo]
  rintro rfl
  rw [hnew] at hinfo
  cases hinfo

theorem Sound.vnfi_ne (hs : Sound u₀ sib) {sfciID : Nat}
    (hnew : sib.sfcis.get? sfciID = none) {v : Nat × VNFIInfo}
    (hv : v ∈ installedVNFIs sib) : v.2.sfciID ≠ sfciID := by
  obtain ⟨sfciID', info, hinfo, hmem⟩ := hv
  rw [(stage_of_mem_vnfisAlong hmem).1, hs.id _ _ hinfo]
  rintro rfl
  rw [hnew] at hinfo
  cases hinfo

theorem nodup_stages (sfci : SFCI) : ((vnfiStages sfci).map Prod.snd).Nodup := by
  rw [vnfiStages, List.zipIdx_map_snd]
  exact List.nodup_range'

/-- The loop over the stages, where the path of direction `0` can be read. -/
theorem addVNFIs_eq (hrouted : Routed sfc sfci) :
    addVNFIs sfci = (vnfiStages sfci).forM fun e => addVNFI sfci e.1 e.2 := by
  obtain ⟨direction, hdirection, hzero⟩ := hrouted.direction_zero
  obtain ⟨pathlist, hpathlist, -⟩ := hrouted.path direction hdirection
  rw [hzero] at hpathlist
  rw [addVNFIs, vnfiStages, hpathlist]
  rfl

theorem addHops_eq (hrouted : Routed sfc sfci) :
    sfc.directions.forM (addHops sfci) = (sfciHops sfc sfci).forM addHop :=
  forM_hops hrouted addHop

theorem run_add (hs : Sound u₀ sib)
    (hcheck : checkAddSFCI py3 sib sfc sfci = .ok ())
    (hready : AddReady sib sfc sfci) {cmdType : CmdType} :
    ∃ sib', (add_sfci_handler py3 ⟨cmdType, sfc, sfci⟩).run sib = .ok () sib' ∧
      Sound u₀ sib' := by
  obtain ⟨hnew, hroom, bw, hbw⟩ := hready
  obtain ⟨hrouted, hlinked⟩ := routed_of_checkAddSFCI hcheck
  obtain ⟨vnfis, hrunVNFIs, hvnfis⟩ := run_addVNFIs hs.vnfis
    (fun e he => hrouted.exists_vnfiAt he) (nodup_stages sfci)
    (fun v hv hid => absurd hid (hs.vnfi_ne hnew hv))
  generalize hsib₁ : ({ sib with vnfis := vnfis } : Sib) = sib₁ at hrunVNFIs
  have hholds₁ : Holds u₀ sib₁ (installedHops sib) := by
    subst hsib₁
    exact hs.hops.of_eq rfl rfl rfl
  have hroom₁ : Room sib₁ (sfciHops sfc sfci) := by
    subst hsib₁
    exact hroom
  have hlinked₁ : ∀ h ∈ sfciHops sfc sfci, Linked sib₁ h.src h.dst := by
    intro h hh
    obtain ⟨direction, hdirection, hmem⟩ := List.mem_flatMap.mp hh
    obtain ⟨pathlist, hpathlist, -⟩ := hrouted.path direction hdirection
    rw [hpathlist] at hmem
    subst hsib₁
    exact hlinked direction hdirection pathlist hpathlist h hmem
  have hfresh : ∀ h ∈ sfciHops sfc sfci, ∀ h' ∈ installedHops sib,
      h'.key ≠ h.key := by
    intro h hh h' hh' heq
    refine hs.hop_ne hnew hh' ?_
    rw [heq, key_of_mem_sfciHops hh]
  obtain ⟨sib₂, hrunHops, hholds₂, hsame⟩ := run_addHops hholds₁ hroom₁
    hlinked₁ (nodup_keys_sfciHops hrouted) hfresh
  have hvnfis₂ : VNFIsHold sib₂.vnfis
      (installedVNFIs sib ∪ vnfisAlong sfci (vnfiStages sfci)) := by
    rw [hsame.vnfis, ← hsib₁]
    exact hvnfis
  have hbase : sib₁.sfcs = sib.sfcs ∧ sib₁.sfcis = sib.sfcis ∧
      sib₁.flows = sib.flows := by
    subst hsib₁
    exact ⟨rfl, rfl, rfl⟩
  obtain ⟨sib₃, hrunStore, hs₃⟩ := sound_store hs hnew hrouted hholds₂ hvnfis₂
    (hsame.sfcs.trans hbase.1) (hsame.sfcis.trans hbase.2.1)
    (hsame.flows.trans hbase.2.2)
  obtain ⟨sib₄, hrunFlows, hs₄⟩ := run_addFlows hs₃ hbw sfc.directions
  refine ⟨sib₄, ?_, hs₄⟩
  rw [add_sfci_handler, PyM.run_bind_get]
  dsimp only
  rw [hcheck]
  refine (PyM.run_bind_ok (PyM.run_ofExcept_ok ..) _).trans ?_
  rw [addVNFIs_eq hrouted, PyM.run_bind_ok hrunVNFIs]
  rw [addHops_eq hrouted, PyM.run_bind_ok hrunHops, PyM.run_bind_ok hrunStore,
    hrunFlows]

/-- An addition that is refused stops before it writes anything. -/
theorem run_add_refused (hcheck : checkAddSFCI py3 sib sfc sfci = .ok ())
    (hrefused : AddRefused sib sfc sfci) {cmdType : CmdType} :
    ∃ e, (add_sfci_handler py3 ⟨cmdType, sfc, sfci⟩).run sib = .error e sib := by
  obtain ⟨hseq, h, hops, info, hhops, hinfo, hfull⟩ := hrefused
  obtain ⟨hrouted, -⟩ := routed_of_checkAddSFCI hcheck
  have hstages : vnfiStages sfci = [] := by
    obtain ⟨direction, hdirection, hzero⟩ := hrouted.direction_zero
    obtain ⟨pathlist, hpathlist, hlength, -⟩ := hrouted.path direction hdirection
    rw [hzero] at hpathlist
    rw [hseq] at hlength
    have hdrop : pathlist.dropLast = [] := by
      rw [← List.length_eq_zero_iff, List.length_dropLast, hlength]
      rfl
    rw [vnfiStages, hpathlist]
    exact congrArg List.zipIdx hdrop
  have htcam : (takeTcam h).run sib =
      .error (.valueError "no tcam available on switch %d") sib := by
    rw [takeTcam, PyM.run_bind_get, hinfo]
    dsimp only
    rw [if_pos hfull]
    rfl
  refine ⟨.valueError "no tcam available on switch %d", ?_⟩
  rw [add_sfci_handler, PyM.run_bind_get]
  dsimp only
  rw [hcheck]
  refine (PyM.run_bind_ok (PyM.run_ofExcept_ok ..) _).trans ?_
  rw [addVNFIs_eq hrouted, hstages]
  refine (PyM.run_bind_ok rfl _).trans ?_
  rw [addHops_eq hrouted, hhops]
  exact PyM.run_bind_error (PyM.run_bind_error (PyM.run_bind_error htcam _) _) _

/-- A safe addition goes through, or fails and leaves everything as it was. -/
theorem allOrNothing_add_sfci {cmdType : CmdType} (hs : Sound u₀ sib)
    (hsafe : AddSafe py3 sib sfc sfci) :
    AllOrNothing u₀ (add_sfci_handler py3 ⟨cmdType, sfc, sfci⟩) sib := by
  cases hcheck : checkAddSFCI py3 sib sfc sfci with
  | error e =>
      refine Or.inr ⟨e, ?_⟩
      rw [add_sfci_handler, PyM.run_bind_get]
      dsimp only
      rw [hcheck]
      rfl
  | ok _ =>
      obtain hready | hrefused := hsafe hcheck
      · exact Or.inl (run_add hs hcheck hready)
      · exact Or.inr (run_add_refused hcheck hrefused)

theorem allOrNothing_add_sfc (hs : Sound u₀ sib) (cmd : SimCommand) :
    AllOrNothing u₀ (add_sfc_handler py3 cmd) sib := by
  cases hcheck : check_sfc py3 sib cmd.sfc with
  | error e =>
      refine Or.inr ⟨e, ?_⟩
      rw [add_sfc_handler, PyM.run_bind_get, hcheck]
      rfl
  | ok _ =>
      refine Or.inl
        ⟨{ sib with sfcs := sib.sfcs.set cmd.sfc.sfcUUID cmd.sfc }, ?_, ?_⟩
      · rw [add_sfc_handler, PyM.run_bind_get, hcheck]
        rfl
      · refine ⟨hs.hops.of_eq rfl rfl rfl, hs.vnfis, hs.id, hs.routed, ?_,
          hs.traffic⟩
        intro sfciID info hinfo
        rw [Dict.contains, Dict.get?_set]
        split
        · rfl
        · exact hs.stored sfciID info hinfo

end Addition

end SelfAdaptiveMano.Simulator

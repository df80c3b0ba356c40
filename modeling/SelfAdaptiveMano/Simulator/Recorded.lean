import SelfAdaptiveMano.Simulator.Checks
import SelfAdaptiveMano.Library.Hoare

/-!
# What is stored of the SFCs and SFCIs

A command may stop in the middle and leave entries behind in the switches, links
and nodes. What is stored of the SFCs, the SFCIs and the flows stays in order all
the same: an SFC passed its check, an SFCI is under its own id and passed the
checks of the addition, and its flows are there and name it. So the flows of an
SFCI can always be popped.
-/

namespace SelfAdaptiveMano.Simulator

open Library

/-- An SFCI is stored under its id and was routed when it was added; its flows
are flows of the information base that name the SFCI and the direction. -/
structure Recorded (sib : Sib) : Prop where
  id : ∀ sfciID info, sib.sfcis.get? sfciID = some info →
    info.sfci.sfciID = sfciID
  routed : ∀ sfciID info, sib.sfcis.get? sfciID = some info →
    Routed info.sfc info.sfci
  traffic : ∀ sfciID info, sib.sfcis.get? sfciID = some info →
    ∀ dirID trafficIDs, info.traffics.get? dirID = some trafficIDs →
      trafficIDs.Nodup ∧ ∀ t ∈ trafficIDs, ∃ flow,
        sib.flows.get? t = some flow ∧ flow.sfciID = sfciID ∧
          flow.dirID = dirID

/-- The SFC has the direction `0`, and maybe the direction `1` after it. -/
structure Checked (sfc : SFC) : Prop where
  length : sfc.directions.length = 1 ∨ sfc.directions.length = 2
  ids : sfc.directions.map Direction.ID = List.range sfc.directions.length

/-- The SFCs are in order too. -/
structure Filed (sib : Sib) : Prop extends Recorded sib where
  checked : ∀ sfcUUID sfc, sib.sfcs.get? sfcUUID = some sfc → Checked sfc

section Recorded

variable {sib sib' : Sib} {sfc : SFC} {sfci : SFCI} {sfciID : Nat} {info : SFCIInfo}

theorem Recorded.of_eq (hs : Recorded sib) (hsfcis : sib'.sfcis = sib.sfcis)
    (hflows : sib'.flows = sib.flows) : Recorded sib' := by
  obtain ⟨id, routed, traffic⟩ := hs
  refine ⟨?_, ?_, ?_⟩
  · rwa [hsfcis]
  · rwa [hsfcis]
  · rwa [hsfcis, hflows]

theorem exists_of_foldl_max (ks : List Nat) (k : Nat) :
    k ≤ ks.foldl max k ∧ ∀ k' ∈ ks, k' ≤ ks.foldl max k := by
  induction ks generalizing k with
  | nil => simp
  | cons k' ks ih =>
      obtain ⟨hmax, hall⟩ := ih (max k k')
      rw [List.foldl_cons]
      refine ⟨by omega, fun k'' hk'' => ?_⟩
      obtain rfl | hk'' := List.mem_cons.mp hk''
      · omega
      · exact hall k'' hk''

/-- The id of a new flow is not in use. -/
theorem get?_newTrafficID (flows : Dict Nat Flow) :
    flows.get? (newTrafficID flows) = none := by
  rw [Dict.get?_eq_none_iff, newTrafficID]
  split
  · next hkeys =>
      rw [hkeys]
      exact List.not_mem_nil
  · next k ks hkeys =>
      obtain ⟨hmax, hall⟩ := exists_of_foldl_max ks k
      rw [hkeys]
      intro hmem
      obtain heq | hmem := List.mem_cons.mp hmem
      · omega
      · have := hall _ hmem
        omega

theorem Recorded.addFlow (hs : Recorded sib) {t : Nat}
    (hfresh : sib.flows.get? t = none) (bw sfciID dirID : Nat) :
    Recorded { sib with
      flows := sib.flows.set t ⟨bw, sfciID, dirID⟩
      sfcis := sib.sfcis.modify sfciID (·.addTraffic dirID t) } := by
  have hkept : ∀ {sfciID' info'},
      (sib.sfcis.modify sfciID (·.addTraffic dirID t)).get? sfciID' =
        some info' → ∃ info, sib.sfcis.get? sfciID' = some info ∧
          info'.sfc = info.sfc ∧ info'.sfci = info.sfci := by
    intro sfciID' info' hinfo'
    rw [Dict.get?_modify] at hinfo'
    split at hinfo'
    · next hid =>
        obtain ⟨info, hinfo, rfl⟩ := Option.map_eq_some_iff.mp hinfo'
        exact ⟨info, hid ▸ hinfo, rfl, rfl⟩
    · exact ⟨info', hinfo', rfl, rfl⟩
  refine ⟨?_, ?_, ?_⟩
  · intro sfciID' info' hinfo'
    obtain ⟨info, hinfo, -, hsfci⟩ := hkept hinfo'
    rw [hsfci]
    exact hs.id sfciID' info hinfo
  · intro sfciID' info' hinfo'
    obtain ⟨info, hinfo, hsfc, hsfci⟩ := hkept hinfo'
    rw [hsfc, hsfci]
    exact hs.routed sfciID' info hinfo
  · have hold : ∀ {sfciID' info dirID' trafficIDs t'},
        sib.sfcis.get? sfciID' = some info →
        info.traffics.get? dirID' = some trafficIDs → t' ∈ trafficIDs →
        ∃ flow, (sib.flows.set t ⟨bw, sfciID, dirID⟩).get? t' = some flow ∧
          flow.sfciID = sfciID' ∧ flow.dirID = dirID' := by
      intro sfciID' info dirID' trafficIDs t' hinfo htraffics hmem
      obtain ⟨flow, hflow, hnames⟩ :=
        (hs.traffic sfciID' info hinfo dirID' trafficIDs htraffics).2 t' hmem
      refine ⟨flow, ?_, hnames⟩
      rw [Dict.get?_set_of_ne]
      · exact hflow
      · rintro rfl
        rw [hfresh] at hflow
        cases hflow
    intro sfciID' info' hinfo' dirID' trafficIDs htraffics
    rw [Dict.get?_modify] at hinfo'
    split at hinfo'
    · next hid =>
        obtain ⟨info, hinfo, rfl⟩ := Option.map_eq_some_iff.mp hinfo'
        subst hid
        rw [SFCIInfo.addTraffic, Dict.get?_modify] at htraffics
        split at htraffics
        · next hdir =>
            obtain ⟨old, hgot, rfl⟩ := Option.map_eq_some_iff.mp htraffics
            subst hdir
            refine ⟨((hs.traffic _ info hinfo _ old hgot).1).insert, ?_⟩
            intro t' ht'
            obtain rfl | ht' := List.mem_insert_iff.mp ht'
            · exact ⟨_, Dict.get?_set_self .., rfl, rfl⟩
            · exact hold hinfo hgot ht'
        · exact ⟨(hs.traffic _ info hinfo _ _ htraffics).1,
            fun t' ht' => hold hinfo htraffics ht'⟩
    · exact ⟨(hs.traffic _ info' hinfo' _ _ htraffics).1,
        fun t' ht' => hold hinfo' htraffics ht'⟩

/-- A new SFCI has no flows yet. -/
theorem noTraffic {directions : List Direction} {d : Dict Nat (List Nat)}
    (hd : ∀ dirID l, d.get? dirID = some l → l = []) {dirID : Nat}
    {trafficIDs : List Nat} (h : (directions.foldl
      (fun d direction => d.set direction.ID []) d).get? dirID =
        some trafficIDs) : trafficIDs = [] := by
  induction directions generalizing d with
  | nil => exact hd dirID trafficIDs h
  | cons direction directions ih =>
      refine ih (fun dirID l hl => ?_) h
      rw [Dict.get?_set] at hl
      split at hl
      · exact (Option.some.inj hl).symm
      · exact hd dirID l hl

/-- An SFCI that passed the checks is stored, in place of one with the same
id. -/
theorem Recorded.store (hs : Recorded sib) (hrouted : Routed sfc sfci) :
    Recorded { sib with
      sfcs := sib.sfcs.set sfc.sfcUUID sfc
      sfcis := sib.sfcis.set sfci.sfciID ⟨sfc, sfci,
        sfc.directions.foldl (fun d direction => d.set direction.ID [])
          Dict.empty⟩ } := by
  generalize htraffics : sfc.directions.foldl
    (fun d direction => d.set direction.ID []) Dict.empty = traffics
  -- what is stored under an id is the new SFCI or was stored before
  have hget : ∀ {sfciID info},
      (sib.sfcis.set sfci.sfciID ⟨sfc, sfci, traffics⟩).get? sfciID =
        some info →
      (sfciID = sfci.sfciID ∧ info = ⟨sfc, sfci, traffics⟩) ∨
        sib.sfcis.get? sfciID = some info := by
    intro sfciID info hinfo
    rw [Dict.get?_set] at hinfo
    split at hinfo
    · next hid => exact Or.inl ⟨hid, (Option.some.inj hinfo).symm⟩
    · exact Or.inr hinfo
  refine ⟨?_, ?_, ?_⟩
  · intro sfciID info hinfo
    obtain ⟨rfl, rfl⟩ | hinfo := hget hinfo
    · rfl
    · exact hs.id sfciID info hinfo
  · intro sfciID info hinfo
    obtain ⟨rfl, rfl⟩ | hinfo := hget hinfo
    · exact hrouted
    · exact hs.routed sfciID info hinfo
  · intro sfciID info hinfo dirID trafficIDs hgot
    obtain ⟨rfl, rfl⟩ | hinfo := hget hinfo
    · have hnone : trafficIDs = [] := by
        refine noTraffic (d := Dict.empty) ?_ (htraffics ▸ hgot)
        intro dirID l hl
        cases hl
      subst hnone
      exact ⟨List.nodup_nil, fun t ht => absurd ht List.not_mem_nil⟩
    · exact hs.traffic sfciID info hinfo dirID trafficIDs hgot

theorem run_popFlows {trafficIDs : List Nat} (hnodup : trafficIDs.Nodup)
    (hthere : ∀ t ∈ trafficIDs, sib.flows.contains t = true) :
    ∃ flows, (trafficIDs.forM popFlow).run sib =
        .ok () { sib with flows := flows } ∧
      ∀ t, flows.get? t = if t ∈ trafficIDs then none else sib.flows.get? t := by
  induction trafficIDs generalizing sib with
  | nil => exact ⟨sib.flows, rfl, fun t => by simp⟩
  | cons t trafficIDs ih =>
      rw [List.nodup_cons] at hnodup
      have hrun : (popFlow t).run sib =
          .ok () { sib with flows := sib.flows.erase t } := by
        rw [popFlow, PyM.run_bind_get, if_pos (hthere t List.mem_cons_self)]
        rfl
      have hrest : ∀ t' ∈ trafficIDs, ({ sib with
          flows := sib.flows.erase t } : Sib).flows.contains t' = true := by
        intro t' ht'
        have hne : t' ≠ t := fun heq => hnodup.1 (heq ▸ ht')
        dsimp only
        rw [Dict.contains, Dict.get?_erase, if_neg hne]
        exact hthere t' (List.mem_cons_of_mem t ht')
      obtain ⟨flows, hrunRest, hget⟩ := ih hnodup.2 hrest
      refine ⟨flows, (PyM.run_bind_ok hrun _).trans hrunRest, fun t' => ?_⟩
      rw [hget]
      dsimp only
      rw [Dict.get?_erase]
      by_cases heq : t' = t
      · rw [if_pos heq, if_pos (List.mem_cons.mpr (Or.inl heq)), ite_self]
      · rw [if_neg heq]
        exact if_congr (by simp [heq]) rfl rfl

theorem Recorded.flows_of_installed (hs : Recorded sib)
    (hinfo : sib.sfcis.get? sfciID = some info) :
    info.traffics.values.flatten.Nodup ∧
      ∀ t ∈ info.traffics.values.flatten, ∃ flow,
        sib.flows.get? t = some flow ∧ flow.sfciID = sfciID := by
  have htraffic := hs.traffic sfciID info hinfo
  constructor
  · rw [List.nodup_flatten]
    constructor
    · intro l hl
      obtain ⟨dirID, hget⟩ := Dict.mem_values_iff.mp hl
      exact (htraffic dirID l hget).1
    · have hkeys : info.traffics.items.Pairwise fun e e' => e.1 ≠ e'.1 :=
        List.pairwise_map.mp info.traffics.nodup_keys
      refine List.pairwise_map.mpr (hkeys.imp_of_mem ?_)
      rintro ⟨dirID, l⟩ ⟨dirID', l'⟩ hmem hmem' hne t ht ht'
      have hget := htraffic dirID l (Dict.mem_items_iff.mp hmem)
      have hget' := htraffic dirID' l' (Dict.mem_items_iff.mp hmem')
      obtain ⟨flow, hflow, -, hdir⟩ := hget.2 t ht
      obtain ⟨flow', hflow', -, hdir'⟩ := hget'.2 t ht'
      obtain rfl := Option.some.inj (hflow.symm.trans hflow')
      exact hne (hdir.symm.trans hdir')
  · intro t ht
    obtain ⟨l, hl, hmem⟩ := List.mem_flatten.mp ht
    obtain ⟨dirID, hget⟩ := Dict.mem_values_iff.mp hl
    obtain ⟨flow, hflow, hid, -⟩ := (htraffic dirID l hget).2 t hmem
    exact ⟨flow, hflow, hid⟩

theorem run_purge (hs : Recorded sib)
    (hinfo : sib.sfcis.get? sfciID = some info) :
    ∃ flows, (purge sfciID).run sib = .ok ()
        { sib with flows := flows, sfcis := sib.sfcis.erase sfciID } ∧
      (∀ t, flows.get? t = if t ∈ info.traffics.values.flatten then none
        else sib.flows.get? t) ∧
      Recorded { sib with flows := flows, sfcis := sib.sfcis.erase sfciID } := by
  obtain ⟨hnodup, hnames⟩ := hs.flows_of_installed hinfo
  have hthere : ∀ t ∈ info.traffics.values.flatten,
      sib.flows.contains t = true := by
    intro t ht
    obtain ⟨flow, hflow, -⟩ := hnames t ht
    rw [Dict.contains, hflow]
    rfl
  obtain ⟨flows, hrun, hget⟩ := run_popFlows hnodup hthere
  refine ⟨flows, ?_, hget, ?_⟩
  · rw [purge, PyM.run_bind_get, PyM.run_bind_ofOption hinfo, PyM.run_bind_ok hrun]
    rfl
  have hother : ∀ {sfciID' info'},
      (sib.sfcis.erase sfciID).get? sfciID' = some info' →
      sfciID' ≠ sfciID ∧ sib.sfcis.get? sfciID' = some info' := by
    intro sfciID' info' hinfo'
    rw [Dict.get?_erase] at hinfo'
    split at hinfo'
    · cases hinfo'
    · next hne => exact ⟨hne, hinfo'⟩
  refine ⟨?_, ?_, ?_⟩
  · intro sfciID' info' hinfo'
    exact hs.id sfciID' info' (hother hinfo').2
  · intro sfciID' info' hinfo'
    exact hs.routed sfciID' info' (hother hinfo').2
  · intro sfciID' info' hinfo' dirID trafficIDs hgot
    obtain ⟨hne, hinfo'⟩ := hother hinfo'
    obtain ⟨hnodup', hall⟩ := hs.traffic sfciID' info' hinfo' dirID trafficIDs hgot
    refine ⟨hnodup', fun t ht => ?_⟩
    obtain ⟨flow, hflow, hid, hdir⟩ := hall t ht
    refine ⟨flow, ?_, hid, hdir⟩
    dsimp only
    rw [hget, if_neg, hflow]
    intro hpopped
    obtain ⟨flow', hflow', hid'⟩ := hnames t hpopped
    obtain rfl := Option.some.inj (hflow.symm.trans hflow')
    exact hne (hid.symm.trans hid')

end Recorded

section Filed

variable {py3 : Bool} {sib sib' : Sib} {sfc : SFC} {sfci : SFCI}

theorem Filed.of_eq (hs : Filed sib) (hsfcs : sib'.sfcs = sib.sfcs)
    (hsfcis : sib'.sfcis = sib.sfcis) (hflows : sib'.flows = sib.flows) :
    Filed sib' where
  toRecorded := hs.toRecorded.of_eq hsfcis hflows
  checked := by
    rw [hsfcs]
    exact hs.checked

theorem Routed.checked (hrouted : Routed sfc sfci) : Checked sfc :=
  ⟨hrouted.length, hrouted.ids⟩

theorem checked_of_check_sfc (h : check_sfc py3 sib sfc = .ok ()) : Checked sfc := by
  obtain ⟨⟨⟩, hlength, h⟩ := except_bind_eq_ok_iff.mp h
  obtain ⟨⟨⟩, hids, -⟩ := except_bind_eq_ok_iff.mp h
  rw [pyAssert_eq_ok_iff] at hlength hids
  exact ⟨by simpa using hlength, by simpa using hids⟩

theorem checked_set (hs : Filed sib) (hchecked : Checked sfc) {sfcUUID : UUID}
    {sfc' : SFC}
    (hget : (sib.sfcs.set sfc.sfcUUID sfc).get? sfcUUID = some sfc') :
    Checked sfc' := by
  rw [Dict.get?_set] at hget
  split at hget
  · obtain rfl := Option.some.inj hget
    exact hchecked
  · exact hs.checked sfcUUID sfc' hget

theorem keeps_takeTcam (h : Hop) : PyM.Keeps Filed (takeTcam h) := by
  refine PyM.Meets.bind_get fun sib hs => ?_
  cases sib.switches.get? h.src with
  | none => exact fun _ heq => heq ▸ hs
  | some switchInfo =>
      refine PyM.Meets.ite (fun _ => ?_) fun _ => ?_
      · exact fun _ heq => heq ▸ hs
      · exact fun _ _ => hs.of_eq rfl rfl rfl

theorem keeps_assert (condition : Bool) :
    PyM.Keeps Filed (PyM.ofExcept (pyAssert condition)) := by
  cases condition with
  | true => exact fun _ hs => hs
  | false => exact fun _ hs => hs

theorem keeps_takeLink (h : Hop) : PyM.Keeps Filed (takeLink h) := by
  refine PyM.Meets.bind_get fun sib hs => ?_
  cases sib.serverLinks.get? (h.src, h.dst) with
  | some linkInfo => exact fun _ _ => hs.of_eq rfl rfl rfl
  | none =>
      cases sib.links.get? (h.src, h.dst) with
      | some linkInfo => exact fun _ _ => hs.of_eq rfl rfl rfl
      | none => exact fun _ heq => keeps_assert _ _ (heq ▸ hs)

theorem keeps_releaseTcam (h : Hop) : PyM.Keeps Filed (releaseTcam h) := by
  refine PyM.Meets.bind_get fun sib hs => ?_
  cases sib.switches.get? h.src with
  | none => exact fun _ heq => heq ▸ hs
  | some switchInfo =>
      refine PyM.Meets.ite (fun _ => ?_) fun _ => ?_
      · exact fun _ heq => heq ▸ hs
      · refine PyM.Meets.bind (Q := fun _ => Filed) ?_ fun _ => ?_
        · exact fun _ _ => hs.of_eq rfl rfl rfl
        · exact PyM.Meets.ite (fun _ _ _ => hs.of_eq rfl rfl rfl) fun _ _ h => h

theorem keeps_releaseLink (h : Hop) : PyM.Keeps Filed (releaseLink h) := by
  refine PyM.Meets.bind_get fun sib hs => ?_
  cases sib.serverLinks.get? (h.src, h.dst) with
  | some linkInfo =>
      exact PyM.Meets.ite (fun _ _ _ => hs.of_eq rfl rfl rfl)
        fun _ _ heq => heq ▸ hs
  | none =>
      cases sib.links.get? (h.src, h.dst) with
      | some linkInfo =>
          exact PyM.Meets.ite (fun _ _ _ => hs.of_eq rfl rfl rfl)
            fun _ _ heq => heq ▸ hs
      | none => exact fun _ heq => keeps_assert _ _ (heq ▸ hs)

theorem keeps_removeVNFI (sfci : SFCI) (path : List (Nat × Nat)) (stage : Nat) :
    PyM.Keeps Filed (removeVNFI sfci path stage) := by
  refine PyM.Meets.bind_ofExcept (fun serverID _ => ?_) fun _ hs => hs
  refine PyM.Meets.bind_get fun sib hs => ?_
  refine PyM.Meets.bind_ofOption (fun vnfis _ => ?_) fun _ heq => heq ▸ hs
  refine PyM.Meets.ite (fun _ => ?_) fun _ => ?_
  · refine PyM.Meets.bind_ofExcept (fun vnfType _ => ?_) fun _ heq => heq ▸ hs
    refine PyM.Meets.ite (fun _ => ?_) fun _ => ?_
    · exact fun _ _ => hs.of_eq rfl rfl rfl
    · exact fun _ heq => heq ▸ hs
  · exact fun _ heq => heq ▸ hs

theorem keeps_addVNFI (sfci : SFCI) (path : List (Nat × Nat)) (stage : Nat) :
    PyM.Keeps Filed (addVNFI sfci path stage) := by
  refine PyM.Meets.bind_ofExcept (fun serverID _ => ?_) fun _ hs => hs
  refine PyM.Meets.bind_ofExcept (fun vnfi _ => ?_) fun _ hs => hs
  exact fun sib hs => hs.of_eq rfl rfl rfl

theorem keeps_addFlow (sfc : SFC) (sfci : SFCI) (dirID : Nat) :
    PyM.Keeps Filed (addFlow sfc sfci dirID) := by
  refine PyM.Meets.bind_ofExcept (fun bw _ => ?_) fun _ hs => hs
  exact fun sib hs => ⟨hs.toRecorded.addFlow (get?_newTrafficID sib.flows) ..,
    hs.checked⟩

theorem keeps_storeSFCI (hrouted : Routed sfc sfci) :
    PyM.Keeps Filed (storeSFCI sfc sfci) :=
  fun _ hs => ⟨hs.toRecorded.store hrouted, fun _ _ => checked_set hs hrouted.checked⟩

theorem keeps_add_sfci_handler (cmd : SimCommand) :
    PyM.Keeps Filed (add_sfci_handler py3 cmd) := by
  refine PyM.Meets.bind_get fun sib hs => ?_
  refine PyM.Meets.bind_ofExcept (fun _ hcheck => ?_) fun _ heq => heq ▸ hs
  obtain ⟨hrouted, -⟩ := routed_of_checkAddSFCI hcheck
  refine PyM.Meets.conseq ?_ (fun _ heq => heq ▸ hs) (fun _ _ h => h) fun _ h => h
  refine PyM.Keeps.bind ?_ fun _ => PyM.Keeps.bind ?_ fun _ =>
    PyM.Keeps.bind (keeps_storeSFCI hrouted) fun _ =>
      PyM.Keeps.forM fun _ _ => keeps_addFlow _ _ _
  · refine PyM.Meets.bind_ofExcept (fun pathlist _ => ?_) fun _ hs => hs
    exact PyM.Keeps.forM fun e _ => keeps_addVNFI _ _ _
  · refine PyM.Keeps.forM fun direction _ => ?_
    refine PyM.Meets.bind_ofExcept (fun pathlist _ => ?_) fun _ hs => hs
    exact PyM.Keeps.forM fun h _ =>
      PyM.Keeps.bind (keeps_takeTcam h) fun _ => keeps_takeLink h

theorem keeps_removeHops (sfci : SFCI) (directions : List Direction)
    (previous : List (List (Nat × Nat))) :
    PyM.Keeps Filed (removeHops sfci previous directions) := by
  induction directions generalizing previous with
  | nil => exact fun _ hs => hs
  | cons direction directions ih =>
      refine PyM.Meets.bind_ofExcept (fun pathlist _ => ?_) fun _ hs => hs
      refine PyM.Keeps.bind ?_ fun _ => ih pathlist
      exact PyM.Keeps.forM fun h _ =>
        PyM.Keeps.bind (keeps_releaseTcam h) fun _ => keeps_releaseLink h

theorem keeps_purge (sfciID : Nat) : PyM.Keeps Filed (purge sfciID) := by
  intro sib hs
  cases hinfo : sib.sfcis.get? sfciID with
  | none =>
      rw [purge, PyM.run_bind_get, hinfo]
      exact hs
  | some info =>
      obtain ⟨flows, hrun, -, hrecorded⟩ := run_purge hs.toRecorded hinfo
      rw [hrun]
      exact ⟨hrecorded, hs.checked⟩

theorem keeps_remove_sfci (sfc : SFC) (sfci : SFCI) :
    PyM.Keeps Filed (remove_sfci sfc sfci) := by
  refine PyM.Meets.bind_ofExcept (fun _ _ => ?_) fun _ hs => hs
  refine PyM.Meets.bind_ofExcept (fun pathlist _ => ?_) fun _ hs => hs
  refine PyM.Keeps.bind (PyM.Keeps.forM fun e _ => keeps_removeVNFI _ _ _) fun _ => ?_
  exact PyM.Keeps.bind (keeps_removeHops _ _ _) fun _ => keeps_purge _

theorem keeps_removeMembers (sfc : SFC) (items : List (Nat × SFCIInfo)) :
    PyM.Keeps Filed (removeMembers py3 sfc items) := by
  induction items with
  | nil => exact fun _ hs => hs
  | cons e items ih =>
      rw [removeMembers]
      refine PyM.Meets.ite (fun _ => ?_) fun _ => ih
      refine PyM.Keeps.bind (keeps_remove_sfci _ _) fun _ => ?_
      exact PyM.Meets.ite (fun _ _ hs => hs) fun _ => ih

theorem keeps_del_sfc_handler (cmd : SimCommand) :
    PyM.Keeps Filed (del_sfc_handler py3 cmd) := by
  refine PyM.Meets.bind_get_any fun sib => ?_
  refine PyM.Keeps.bind (keeps_removeMembers _ _) fun _ => ?_
  refine PyM.Meets.bind_get fun sib hs => ?_
  refine PyM.Meets.ite (fun _ _ _ => ?_) fun _ _ heq => heq ▸ hs
  refine ⟨hs.toRecorded.of_eq rfl rfl, fun sfcUUID sfc hget => ?_⟩
  dsimp only at hget
  rw [Dict.get?_erase] at hget
  split at hget
  · cases hget
  · exact hs.checked sfcUUID sfc hget

theorem keeps_command_handler (cmd : SimCommand) :
    PyM.Keeps Filed (command_handler py3 cmd) := by
  rw [command_handler]
  split
  · refine PyM.Meets.bind_get fun sib hs => ?_
    refine PyM.Meets.bind_ofExcept (fun _ hcheck => ?_) fun _ heq => heq ▸ hs
    exact fun _ _ => ⟨hs.toRecorded.of_eq rfl rfl,
      fun _ _ => checked_set hs (checked_of_check_sfc hcheck)⟩
  · exact keeps_add_sfci_handler cmd
  · exact keeps_remove_sfci _ _
  · exact keeps_del_sfc_handler cmd
  · exact fun _ hs => hs

end Filed

end SelfAdaptiveMano.Simulator

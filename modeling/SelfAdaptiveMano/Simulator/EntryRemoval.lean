import SelfAdaptiveMano.Simulator.Entries
import SelfAdaptiveMano.Simulator.Deletion

/-!
# The removal of entries

A deletion looks up each hop and each VNFI of the SFCI and stops at the first one
that is missing. What it removes bears the id of the SFCI; so it goes through and
leaves nothing under the id exactly when the hops and VNFIs that it goes over are
what is entered there, and the TCAMs count the hops at least.
-/

namespace SelfAdaptiveMano.Simulator

open Library

section Hops

variable {sib sib' : Sib} {h : Hop} {hops : List Hop} {sfciID : Nat}

/-- The removal of a hop finds everything that it looks up. -/
structure Removable (sib : Sib) (h : Hop) : Prop where
  linked : Linked sib h.src h.dst
  enters : ∀ place, sib.PlaceOf h place → sib.Enters h.key place
  usage : ∀ info, sib.switches.get? h.src = some info → info.tcamUsage ≠ 0

theorem run_releaseTcam_eq_ok_iff :
    (releaseTcam h).run sib = .ok () sib' ↔
      (∀ info, sib.switches.get? h.src = some info →
        info.tcamUsage ≠ 0 ∧ info.nextHop.contains h.key = true) ∧
      sib.onSwitch h (·.remove h) = sib' := by
  rw [releaseTcam, PyM.run_bind_get, Sib.onSwitch]
  cases hinfo : sib.switches.get? h.src with
  | none => simp [Dict.modify, hinfo]
  | some info =>
      by_cases husage : info.tcamUsage = 0
      · simp [husage]
      · by_cases hkey : info.nextHop.contains h.key = true
        · simp [Dict.modify_eq_set hinfo, husage, hkey]
        · simp [husage, hkey]

theorem run_releaseLink_eq_ok_iff :
    (releaseLink h).run sib = .ok () sib' ↔
      (Linked sib h.src h.dst ∧
        (∀ info, sib.serverLinks.get? (h.src, h.dst) = some info →
          h.key ∈ info.usedBy) ∧
        (sib.serverLinks.get? (h.src, h.dst) = none →
          ∀ info, sib.links.get? (h.src, h.dst) = some info →
            h.key ∈ info.usedBy)) ∧
      sib.onLink h (·.remove h) = sib' := by
  rw [releaseLink, PyM.run_bind_get]
  cases hserver : sib.serverLinks.get? (h.src, h.dst) with
  | some info =>
      by_cases hkey : h.key ∈ info.usedBy
      · simp [Linked, Sib.onLink, Dict.contains, hserver, Dict.modify_eq_set hserver,
          hkey]
      · simp [hkey]
  | none =>
      cases hlink : sib.links.get? (h.src, h.dst) with
      | some info =>
          by_cases hkey : h.key ∈ info.usedBy
          · simp [Linked, Sib.onLink, Dict.contains, hserver, hlink,
              Dict.modify_eq_set hlink, hkey]
          · simp [hkey]
      | none =>
          rw [onLink_of_none hserver hlink]
          by_cases heq : h.src = h.dst
          · simp [Linked, heq, pyAssert]
          · have hnot : ¬ Linked sib h.src h.dst := by
              simp [Linked, Dict.contains, hserver, hlink, heq]
            simp [hnot, heq, pyAssert]

theorem run_removeHop_eq_ok_iff :
    (removeHop h).run sib = .ok () sib' ↔
      Removable sib h ∧ sib.withoutHop h = sib' := by
  rw [removeHop, PyM.run_bind_eq_ok_iff]
  constructor
  · rintro ⟨⟨⟩, sib₁, htcam, hlink⟩
    obtain ⟨hswitch, rfl⟩ := run_releaseTcam_eq_ok_iff.mp htcam
    obtain ⟨⟨hlinked, hserver, hother⟩, rfl⟩ := run_releaseLink_eq_ok_iff.mp hlink
    refine ⟨⟨hlinked, ?_, fun info hinfo => (hswitch info hinfo).1⟩, rfl⟩
    rintro (w | l | l) hplace
    · obtain ⟨rfl, hthere⟩ := hplace
      obtain ⟨info, hinfo⟩ := Option.isSome_iff_exists.mp hthere
      exact ⟨info, hinfo, (hswitch info hinfo).2⟩
    · obtain ⟨rfl, hthere⟩ := hplace
      obtain ⟨info, hinfo⟩ := Option.isSome_iff_exists.mp hthere
      exact ⟨info, hinfo, hserver info hinfo⟩
    · obtain ⟨rfl, hnone, hthere⟩ := hplace
      obtain ⟨info, hinfo⟩ := Option.isSome_iff_exists.mp hthere
      have hnone' : sib.serverLinks.get? (h.src, h.dst) = none := by
        simpa [Dict.contains] using hnone
      exact ⟨info, hinfo, hother hnone' info hinfo⟩
  · rintro ⟨⟨hlinked, henters, husage⟩, rfl⟩
    refine ⟨(), sib.onSwitch h (·.remove h), run_releaseTcam_eq_ok_iff.mpr ⟨?_, rfl⟩,
      run_releaseLink_eq_ok_iff.mpr ⟨⟨hlinked, ?_, ?_⟩, rfl⟩⟩
    · intro info hinfo
      refine ⟨husage info hinfo, ?_⟩
      obtain ⟨info', hinfo', hkey⟩ := henters (.switch h.src)
        ⟨rfl, by simp [Dict.contains, hinfo]⟩
      obtain rfl := Option.some.inj (hinfo.symm.trans hinfo')
      exact hkey
    · intro info hinfo
      obtain ⟨info', hinfo', hkey⟩ := henters (.serverLink (h.src, h.dst))
        ⟨rfl, by rw [Dict.contains, show sib.serverLinks.get? _ = _ from hinfo]; rfl⟩
      obtain rfl := Option.some.inj (hinfo.symm.trans hinfo')
      exact hkey
    · intro hnone info hinfo
      obtain ⟨info', hinfo', hkey⟩ := henters (.link (h.src, h.dst))
        ⟨rfl, by rw [Dict.contains, show sib.serverLinks.get? _ = _ from hnone]; rfl,
          by rw [Dict.contains, show sib.links.get? _ = _ from hinfo]; rfl⟩
      obtain rfl := Option.some.inj (hinfo.symm.trans hinfo')
      exact hkey

theorem exists_usedBy_modify {links : Dict (Nat × Nat) LinkInfo} {l : Nat × Nat}
    {key : HopKey} :
    (∃ info, (links.modify (h.src, h.dst) (·.remove h)).get? l = some info ∧
        key ∈ info.usedBy) ↔
      (∃ info, links.get? l = some info ∧ key ∈ info.usedBy) ∧
        ¬ (key = h.key ∧ (h.src, h.dst) = l) := by
  rw [Dict.get?_modify]
  by_cases hl : l = (h.src, h.dst)
  · rw [if_pos hl, hl]
    simp only [Option.map_eq_some_iff, LinkInfo.remove]
    constructor
    · rintro ⟨_, ⟨info, hinfo, rfl⟩, hmem⟩
      obtain ⟨hne, hmem⟩ := Finset.mem_erase.mp hmem
      exact ⟨⟨info, hinfo, hmem⟩, fun heq => hne heq.1⟩
    · rintro ⟨⟨info, hinfo, hmem⟩, hnot⟩
      exact ⟨_, ⟨info, hinfo, rfl⟩,
        Finset.mem_erase.mpr ⟨fun heq => hnot ⟨heq, trivial⟩, hmem⟩⟩
  · rw [if_neg hl]
    exact (and_iff_left fun heq => hl heq.2.symm).symm

/-- Only the key of the hop goes, and only at its places. -/
theorem enters_withoutHop {key : HopKey} {place : Place} :
    (sib.withoutHop h).Enters key place ↔
      sib.Enters key place ∧ ¬ (key = h.key ∧ sib.PlaceOf h place) := by
  rw [Sib.withoutHop]
  cases place with
  | switch w =>
      rw [Sib.Enters, Sib.Enters, Sib.PlaceOf, switches_onHop, Dict.get?_modify]
      by_cases hw : w = h.src
      · subst hw
        simp only [if_pos, Option.map_eq_some_iff, SwitchInfo.remove]
        constructor
        · rintro ⟨_, ⟨info, hinfo, rfl⟩, hkey⟩
          rw [Dict.contains, Dict.get?_erase] at hkey
          split at hkey
          · cases hkey
          · next hne => exact ⟨⟨info, hinfo, hkey⟩, fun heq => hne heq.1⟩
        · rintro ⟨⟨info, hinfo, hkey⟩, hnot⟩
          refine ⟨_, ⟨info, hinfo, rfl⟩, ?_⟩
          rw [Dict.contains, Dict.get?_erase, if_neg]
          · exact hkey
          · exact fun heq => hnot ⟨heq, trivial, by simp [Dict.contains, hinfo]⟩
      · rw [if_neg hw]
        exact (and_iff_left fun heq => hw heq.2.1.symm).symm
  | serverLink l =>
      rw [Sib.Enters, Sib.Enters, Sib.PlaceOf, serverLinks_onHop, exists_usedBy_modify]
      refine and_congr_right ?_
      rintro ⟨info, hinfo, -⟩
      simp [Dict.contains, hinfo]
  | link l =>
      rw [Sib.Enters, Sib.Enters, Sib.PlaceOf, links_onHop]
      by_cases hserver : sib.serverLinks.contains (h.src, h.dst) = true
      · rw [if_pos hserver]
        refine (and_iff_left ?_).symm
        rintro ⟨-, rfl, hnot, -⟩
        rw [hserver] at hnot
        cases hnot
      · rw [if_neg hserver, exists_usedBy_modify]
        refine and_congr_right ?_
        rintro ⟨info, hinfo, -⟩
        have hthere : sib.links.contains l = true := by
          rw [Dict.contains, hinfo]
          rfl
        rw [Bool.not_eq_true] at hserver
        refine not_congr (and_congr_right fun _ => ?_)
        constructor
        · rintro rfl
          exact ⟨rfl, hserver, hthere⟩
        · exact And.left

theorem entered_cons_iff (hid : h.key.sfciID = sfciID)
    (hnot : h.key ∉ hops.map Hop.key) :
    Entered sib sfciID (h :: hops) ↔
      (Linked sib h.src h.dst ∧ ∀ place, sib.PlaceOf h place → sib.Enters h.key place) ∧
        Entered (sib.withoutHop h) sfciID hops := by
  have hsame : SameBase sib (sib.withoutHop h) := sameBase_onHop ..
  have hplace : ∀ {h' place}, (sib.withoutHop h).PlaceOf h' place ↔
      sib.PlaceOf h' place := by
    intro h' place
    cases place with
    | switch w => rw [Sib.PlaceOf, Sib.PlaceOf, hsame.switches]
    | serverLink l => rw [Sib.PlaceOf, Sib.PlaceOf, hsame.serverLinks]
    | link l => rw [Sib.PlaceOf, Sib.PlaceOf, hsame.serverLinks, hsame.links]
  have hfirst : ∀ {place}, (∃ h' ∈ h :: hops, h'.key = h.key ∧ sib.PlaceOf h' place) ↔
      sib.PlaceOf h place := by
    intro place
    constructor
    · rintro ⟨h', hh', hkey, hh'place⟩
      obtain rfl | hh' := List.mem_cons.mp hh'
      · exact hh'place
      · exact absurd (List.mem_map.mpr ⟨h', hh', hkey⟩) hnot
    · exact fun hh => ⟨h, List.mem_cons_self, rfl, hh⟩
  have hrest : ∀ {key place}, key ≠ h.key →
      ((∃ h' ∈ h :: hops, h'.key = key ∧ sib.PlaceOf h' place) ↔
        ∃ h' ∈ hops, h'.key = key ∧ sib.PlaceOf h' place) := by
    intro key place hne
    simp [Ne.symm hne]
  constructor
  · rintro ⟨hlinked, henters⟩
    refine ⟨⟨hlinked h List.mem_cons_self, fun place hh => ?_⟩, ?_, ?_⟩
    · exact (henters h.key place hid).mpr (hfirst.mpr hh)
    · intro h' hh'
      exact hsame.linked.mpr (hlinked h' (List.mem_cons_of_mem h hh'))
    · intro key place hkey
      rw [enters_withoutHop, henters key place hkey]
      simp only [hplace]
      by_cases heq : key = h.key
      · subst heq
        rw [hfirst]
        refine iff_of_false (fun hh => hh.2 ⟨rfl, hh.1⟩) ?_
        rintro ⟨h', hh', hkey', -⟩
        exact hnot (List.mem_map.mpr ⟨h', hh', hkey'⟩)
      · rw [hrest heq]
        exact and_iff_left fun hh => heq hh.1
  · rintro ⟨⟨hlink, hthere⟩, hlinked, henters⟩
    refine ⟨?_, ?_⟩
    · intro h' hh'
      obtain rfl | hh' := List.mem_cons.mp hh'
      · exact hlink
      · exact hsame.linked.mp (hlinked h' hh')
    · intro key place hkey
      have hiff := henters key place hkey
      simp only [enters_withoutHop, hplace] at hiff
      by_cases heq : key = h.key
      · subst heq
        rw [hfirst]
        refine ⟨fun hin => by_contra fun hh => ?_, hthere place⟩
        obtain ⟨h', hh', hkey', -⟩ := hiff.mp ⟨hin, fun hp => hh hp.2⟩
        exact hnot (List.mem_map.mpr ⟨h', hh', hkey'⟩)
      · rw [hrest heq, ← hiff]
        exact (and_iff_left fun hh => heq hh.1).symm

theorem switch_withoutHop {w : Nat} {info' : SwitchInfo}
    (hinfo' : (sib.withoutHop h).switches.get? w = some info') :
    ∃ info, sib.switches.get? w = some info ∧
      info' = if w = h.src then info.remove h else info := by
  rw [Sib.withoutHop, switches_onHop, Dict.get?_modify] at hinfo'
  split at hinfo'
  · next hw =>
      subst hw
      obtain ⟨info, hinfo, rfl⟩ := Option.map_eq_some_iff.mp hinfo'
      exact ⟨info, hinfo, (if_pos rfl).symm⟩
  · next hw => exact ⟨info', hinfo', (if_neg hw).symm⟩

theorem kept_withoutHop (hremovable : Removable sib h) :
    Kept [h.key.sfciID] sib (sib.withoutHop h) := by
  have hsame : SameBase sib (sib.withoutHop h) := sameBase_onHop ..
  refine ⟨?_, ?_, hsame.switches, hsame.serverLinks, hsame.links, ?_, ?_, ?_⟩
  · rw [Sib.withoutHop, Sib.onHop, Sib.onLink]
    split <;> rfl
  · rw [Sib.withoutHop, Sib.onHop, Sib.onLink]
    split <;> rfl
  · intro w info info' hinfo hinfo'
    obtain ⟨info₀, hinfo₀, rfl⟩ := switch_withoutHop hinfo'
    obtain rfl := Option.some.inj (hinfo.symm.trans hinfo₀)
    split
    · next hw =>
        subst hw
        obtain ⟨info₁, hinfo₁, hkey⟩ := hremovable.enters (.switch h.src)
          ⟨rfl, by simp [Dict.contains, hinfo]⟩
        obtain rfl := Option.some.inj (hinfo.symm.trans hinfo₁)
        obtain ⟨dst, hdst⟩ := Option.isSome_iff_exists.mp hkey
        have hlength := Dict.length_erase hdst
        have husage := hremovable.usage info hinfo
        rw [SwitchInfo.remove]
        refine ⟨rfl, by dsimp only; omega, fun key hne => ?_⟩
        refine (Dict.get?_erase ..).trans (if_neg ?_)
        rintro rfl
        exact hne List.mem_cons_self
    · exact ⟨rfl, rfl, fun _ _ => rfl⟩
  · intro key place hne
    rw [enters_withoutHop]
    refine and_iff_left ?_
    rintro ⟨rfl, -⟩
    exact hne List.mem_cons_self
  · intro w
    rw [hsame.vnfis]

theorem startsAt_cons (h : Hop) (hops : List Hop) (w : Nat) :
    startsAt (h :: hops) w = startsAt hops w + if w = h.src then 1 else 0 := by
  rw [startsAt, List.countP_cons, startsAt]
  congr 1
  refine if_congr ?_ rfl rfl
  rw [beq_iff_eq, eq_comm]

/-- The TCAMs do not count the hops any more. -/
def Uncounted (hops : List Hop) (sib sib' : Sib) : Prop :=
  ∀ w info info', sib.switches.get? w = some info →
    sib'.switches.get? w = some info' →
      info'.tcamUsage + startsAt hops w = info.tcamUsage

theorem run_removeHops_effect (hids : ∀ h ∈ hops, h.key.sfciID = sfciID)
    (hrun : (hops.forM removeHop).run sib = .ok () sib') :
    Kept [sfciID] sib sib' ∧ SameBase sib sib' ∧ Uncounted hops sib sib' := by
  induction hops generalizing sib with
  | nil =>
      cases hrun
      refine ⟨Kept.refl _ _, .refl _, fun w info info' hinfo hinfo' => ?_⟩
      obtain rfl := Option.some.inj (hinfo.symm.trans hinfo')
      rfl
  | cons h hops ih =>
      obtain ⟨⟨⟩, sib₁, hfirst, hrest⟩ := PyM.run_bind_eq_ok_iff.mp hrun
      obtain ⟨hremovable, rfl⟩ := run_removeHop_eq_ok_iff.mp hfirst
      have hsame : SameBase sib (sib.withoutHop h) := sameBase_onHop ..
      obtain ⟨hkept, hsame', husage⟩ :=
        ih (fun h' hh' => hids h' (List.mem_cons_of_mem h hh')) hrest
      have hkept₁ := kept_withoutHop hremovable
      rw [hids h List.mem_cons_self] at hkept₁
      refine ⟨hkept₁.trans hkept, hsame.trans hsame', fun w info info' hinfo hinfo' => ?_⟩
      have hthere : (sib.withoutHop h).switches.contains w = true := by
        rw [hsame.switches, Dict.contains, hinfo]
        rfl
      obtain ⟨info₁, hinfo₁⟩ := Option.isSome_iff_exists.mp hthere
      have hlast := husage w info₁ info' hinfo₁ hinfo'
      obtain ⟨info₀, hinfo₀, rfl⟩ := switch_withoutHop hinfo₁
      obtain rfl := Option.some.inj (hinfo.symm.trans hinfo₀)
      rw [startsAt_cons]
      split at hlast
      · next hw =>
          subst hw
          have hpos := hremovable.usage info hinfo
          rw [SwitchInfo.remove] at hlast
          dsimp only at hlast
          rw [if_pos rfl]
          omega
      · next hw =>
          rw [if_neg hw]
          omega

theorem backed_cons_iff : Backed sib (h :: hops) ↔
      (∀ info, sib.switches.get? h.src = some info → info.tcamUsage ≠ 0) ∧
        Backed (sib.withoutHop h) hops := by
  constructor
  · intro hbacked
    constructor
    · intro info hinfo
      have hle := hbacked h.src info hinfo
      rw [startsAt_cons, if_pos rfl] at hle
      omega
    · intro w info' hinfo'
      obtain ⟨info, hinfo, rfl⟩ := switch_withoutHop hinfo'
      have hle := hbacked w info hinfo
      rw [startsAt_cons] at hle
      split
      · next hw =>
          rw [if_pos hw] at hle
          rw [SwitchInfo.remove]
          dsimp only
          omega
      · omega
  · rintro ⟨hpos, hbacked⟩ w info hinfo
    have hget : (sib.withoutHop h).switches.get? w =
        some (if w = h.src then info.remove h else info) := by
      rw [Sib.withoutHop, switches_onHop, Dict.get?_modify]
      split
      · next hw =>
          subst hw
          rw [hinfo]
          rfl
      · exact hinfo
    have hle := hbacked w _ hget
    rw [startsAt_cons]
    by_cases hw : w = h.src
    · subst hw
      have hpos := hpos info hinfo
      rw [if_pos rfl, SwitchInfo.remove] at hle
      rw [if_pos rfl]
      dsimp only at hle
      omega
    · rw [if_neg hw] at hle ⊢
      exact hle

theorem run_removeHops_iff (hids : ∀ h ∈ hops, h.key.sfciID = sfciID)
    (hnodup : (hops.map Hop.key).Nodup) :
    (∃ sib', (hops.forM removeHop).run sib = .ok () sib' ∧ Entered sib' sfciID []) ↔
      Entered sib sfciID hops ∧ Backed sib hops := by
  induction hops generalizing sib with
  | nil =>
      constructor
      · rintro ⟨sib', hrun, hentered⟩
        cases hrun
        exact ⟨hentered, fun w info _ => Nat.zero_le _⟩
      · exact fun h => ⟨sib, rfl, h.1⟩
  | cons h hops ih =>
      rw [List.map_cons, List.nodup_cons] at hnodup
      have hid := hids h List.mem_cons_self
      have ih := @ih (sib.withoutHop h)
        (fun h' hh' => hids h' (List.mem_cons_of_mem h hh')) hnodup.2
      rw [entered_cons_iff hid hnodup.1]
      constructor
      · rintro ⟨sib', hrun, hentered⟩
        obtain ⟨⟨⟩, sib₁, hfirst, hrest⟩ := PyM.run_bind_eq_ok_iff.mp hrun
        obtain ⟨hremovable, rfl⟩ := run_removeHop_eq_ok_iff.mp hfirst
        obtain ⟨hentered₁, hbacked₁⟩ := ih.mp ⟨sib', hrest, hentered⟩
        refine ⟨⟨⟨hremovable.linked, hremovable.enters⟩, hentered₁⟩, ?_⟩
        exact backed_cons_iff.mpr ⟨hremovable.usage, hbacked₁⟩
      · rintro ⟨⟨⟨hlinked, henters⟩, hentered⟩, hbacked⟩
        obtain ⟨husage, hbacked₁⟩ := backed_cons_iff.mp hbacked
        obtain ⟨sib', hrest, hentered'⟩ := ih.mpr ⟨hentered, hbacked₁⟩
        have hfirst := run_removeHop_eq_ok_iff.mpr ⟨⟨hlinked, henters, husage⟩, rfl⟩
        exact ⟨sib', (PyM.run_bind_ok hfirst _).trans hrest, hentered'⟩

end Hops

section VNFIs

variable {sib sib' : Sib} {sfci : SFCI} {stages : List (List (Nat × Nat) × Nat)}
  {path : List (Nat × Nat)} {stage : Nat} {v : Nat × VNFIInfo}

theorem run_removeVNFI_eq_ok_iff (h : vnfiAt sfci path stage = .ok v) :
    (removeVNFI sfci path stage).run sib = .ok () sib' ↔
      ∃ l, sib.vnfis.get? v.1 = some l ∧
        l.any (VNFIInfo.isFor sfci.sfciID stage v.2.vnfi.vnfType) = true ∧
        { sib with
          vnfis := sib.vnfis.set v.1
            (l.eraseP (VNFIInfo.isFor sfci.sfciID stage v.2.vnfi.vnfType)) } = sib' := by
  constructor
  · intro hrun
    obtain ⟨hw, hvnfi, -⟩ := vnfiAt_eq_ok h
    by_cases hfound : ∃ l, sib.vnfis.get? v.1 = some l ∧
        l.any (VNFIInfo.isFor sfci.sfciID stage v.2.vnfi.vnfType) = true
    · obtain ⟨l, hl, hany⟩ := hfound
      rw [run_removeVNFI_of_any h hl hany] at hrun
      cases hrun
      exact ⟨l, hl, hany, rfl⟩
    · have hnone : ∀ w info, itemFromEnd (pathNodes path) 1 = .ok w →
          info ∈ (sib.vnfis.get? w).getD [] →
          ∀ vnfType, vnfTypeAt sfci stage = .ok vnfType →
            info.isFor sfci.sfciID stage vnfType = false := by
        intro w info hw' hinfo vnfType htype
        obtain rfl := Except.ok.inj (hw.symm.trans hw')
        rw [vnfTypeAt, hvnfi] at htype
        obtain rfl := Except.ok.inj htype
        rw [Bool.eq_false_iff]
        intro hfor
        cases hl : sib.vnfis.get? v.1 with
        | none => simp [hl] at hinfo
        | some l =>
            rw [hl] at hinfo
            exact hfound ⟨l, hl, List.any_eq_true.mpr ⟨info, hinfo, hfor⟩⟩
      obtain ⟨e, herror⟩ := run_removeVNFI_refused hnone
      rw [herror] at hrun
      cases hrun
  · rintro ⟨l, hl, hany, rfl⟩
    exact run_removeVNFI_of_any h hl hany

theorem eraseP_isFor_entries {l : List VNFIInfo} {sfciID vnfType : Nat}
    (hany : l.any (VNFIInfo.isFor sfciID stage vnfType) = true) :
    ((l.filter fun info => info.sfciID == sfciID).map
        fun info => (info.stage, info.vnfi.vnfType)).Perm
      ((stage, vnfType) :: ((l.eraseP (VNFIInfo.isFor sfciID stage vnfType)).filter
        fun info => info.sfciID == sfciID).map
          fun info => (info.stage, info.vnfi.vnfType)) ∧
    (l.eraseP (VNFIInfo.isFor sfciID stage vnfType)).filter
        (fun info => info.sfciID ∉ [sfciID]) =
      l.filter fun info => info.sfciID ∉ [sfciID] := by
  obtain ⟨info, hinfo, hfor⟩ := List.any_eq_true.mp hany
  obtain ⟨info', l₁, l₂, -, hfor', rfl, herase⟩ := List.exists_of_eraseP hinfo hfor
  rw [herase]
  simp only [VNFIInfo.isFor, VNFIInfo.isAt, Bool.and_eq_true, beq_iff_eq] at hfor'
  obtain ⟨⟨hid, hstage⟩, htype⟩ := hfor'
  constructor
  · simp only [List.filter_append, List.filter_cons, hid, beq_self_eq_true, if_true,
      List.map_append, List.map_cons, hstage, htype]
    exact List.perm_middle
  · simp [List.filter_append, hid]

theorem entriesOf_set {l : List VNFIInfo} {sfciID w w' : Nat} :
    ({ sib with vnfis := sib.vnfis.set w l } : Sib).entriesOf sfciID w' =
      if w' = w then (l.filter fun info => info.sfciID == sfciID).map
        fun info => (info.stage, info.vnfi.vnfType)
      else sib.entriesOf sfciID w' := by
  rw [Sib.entriesOf]
  dsimp only
  rw [Dict.get?_set]
  split
  · rfl
  · rfl

theorem vnfisDue_cons (h : vnfiAt sfci path stage = .ok v) (w : Nat) :
    vnfisDue sfci ((path, stage) :: stages) w =
      if w = v.1 then (stage, v.2.vnfi.vnfType) :: vnfisDue sfci stages w
      else vnfisDue sfci stages w := by
  rw [vnfisDue, List.filterMap_cons, ← vnfisDue]
  dsimp only
  rw [h]
  by_cases hw : v.1 = w
  · simp [hw]
  · simp [hw, Ne.symm hw]

theorem kept_removeVNFI {sfciID vnfType w : Nat} {l : List VNFIInfo}
    (hl : sib.vnfis.get? w = some l)
    (hany : l.any (VNFIInfo.isFor sfciID stage vnfType) = true) :
    Kept [sfciID] sib { sib with
      vnfis := sib.vnfis.set w
        (l.eraseP (VNFIInfo.isFor sfciID stage vnfType)) } := by
  have hkept := Kept.refl [sfciID] sib
  refine ⟨rfl, rfl, fun _ => rfl, fun _ => rfl, fun _ => rfl, hkept.switch, ?_, ?_⟩
  · intro key place _
    cases place <;> exact Iff.rfl
  · intro w'
    dsimp only
    rw [Dict.get?_set]
    split
    · next hw =>
        rw [hw, hl]
        exact (eraseP_isFor_entries hany).2
    · rfl

theorem run_removeVNFIs_effect
    (hread : ∀ e ∈ stages, ∃ v, vnfiAt sfci e.1 e.2 = .ok v)
    (hrun : (stages.forM fun e => removeVNFI sfci e.1 e.2).run sib = .ok () sib') :
    Kept [sfci.sfciID] sib sib' ∧ ∃ vnfis, { sib with vnfis := vnfis } = sib' := by
  induction stages generalizing sib with
  | nil =>
      cases hrun
      exact ⟨Kept.refl _ _, _, rfl⟩
  | cons e stages ih =>
      obtain ⟨⟨⟩, sib₁, hfirst, hrest⟩ := PyM.run_bind_eq_ok_iff.mp hrun
      obtain ⟨v, hv⟩ := hread e List.mem_cons_self
      obtain ⟨l, hl, hany, rfl⟩ := (run_removeVNFI_eq_ok_iff hv).mp hfirst
      obtain ⟨hkept, vnfis, rfl⟩ :=
        ih (fun e' he' => hread e' (List.mem_cons_of_mem e he')) hrest
      exact ⟨(kept_removeVNFI hl hany).trans hkept, vnfis, rfl⟩

theorem run_removeVNFIs_iff
    (hread : ∀ e ∈ stages, ∃ v, vnfiAt sfci e.1 e.2 = .ok v) :
    (∃ sib', (stages.forM fun e => removeVNFI sfci e.1 e.2).run sib = .ok () sib' ∧
        ∀ w, sib'.entriesOf sfci.sfciID w = []) ↔
      ∀ w, (sib.entriesOf sfci.sfciID w).Perm (vnfisDue sfci stages w) := by
  induction stages generalizing sib with
  | nil =>
      constructor
      · rintro ⟨sib', hrun, hnone⟩ w
        cases hrun
        rw [hnone]
        exact List.Perm.refl _
      · exact fun hperm => ⟨sib, rfl, fun w => (hperm w).eq_nil⟩
  | cons e stages ih =>
      obtain ⟨path, stage⟩ := e
      obtain ⟨v, hv⟩ := hread (path, stage) List.mem_cons_self
      have ih := fun sib₁ : Sib => @ih sib₁
        fun e' he' => hread e' (List.mem_cons_of_mem _ he')
      simp only [vnfisDue_cons hv]
      constructor
      · rintro ⟨sib', hrun, hnone⟩ w
        obtain ⟨⟨⟩, sib₁, hfirst, hrest⟩ := PyM.run_bind_eq_ok_iff.mp hrun
        obtain ⟨l, hl, hany, rfl⟩ := (run_removeVNFI_eq_ok_iff hv).mp hfirst
        have hdue := (ih _).mp ⟨sib', hrest, hnone⟩ w
        rw [entriesOf_set] at hdue
        split
        · next hw =>
            rw [if_pos hw] at hdue
            rw [Sib.entriesOf, hw, hl]
            rw [hw] at hdue
            exact (eraseP_isFor_entries hany).1.trans (hdue.cons _)
        · next hw =>
            rw [if_neg hw] at hdue
            exact hdue
      · intro hperm
        have hhere := hperm v.1
        rw [if_pos rfl] at hhere
        have hmem := hhere.mem_iff.mpr List.mem_cons_self
        cases hl : sib.vnfis.get? v.1 with
        | none => simp [Sib.entriesOf, hl] at hmem
        | some l =>
            have hany : l.any (VNFIInfo.isFor sfci.sfciID stage v.2.vnfi.vnfType) =
                true := by
              rw [Sib.entriesOf, hl, List.mem_map] at hmem
              obtain ⟨info, hinfo, heq⟩ := hmem
              obtain ⟨hinfo, hid⟩ := List.mem_filter.mp hinfo
              obtain ⟨hstage, htype⟩ := Prod.mk.inj heq
              refine List.any_eq_true.mpr ⟨info, hinfo, ?_⟩
              simp only [VNFIInfo.isFor, VNFIInfo.isAt, hid, hstage, htype,
                beq_self_eq_true, Bool.and_self]
            have hfirst := run_removeVNFI_of_any hv hl hany
            obtain ⟨sib', hrest, hnone⟩ := (ih _).mpr fun w => by
              rw [entriesOf_set]
              split
              · next hw =>
                  rw [Sib.entriesOf, hl] at hhere
                  rw [hw]
                  exact ((eraseP_isFor_entries hany).1.symm.trans hhere).cons_inv
              · next hw =>
                  have hother := hperm w
                  rwa [if_neg hw] at hother
            exact ⟨sib', (PyM.run_bind_ok hfirst _).trans hrest, hnone⟩

end VNFIs

end SelfAdaptiveMano.Simulator

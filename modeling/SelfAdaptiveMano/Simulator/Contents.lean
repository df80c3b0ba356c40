import SelfAdaptiveMano.Simulator.Checks
import Mathlib.Data.Set.Insert

/-!
# What the switches and links hold

`Holds u₀ sib H` says that the switches and links hold exactly the hops `H`, and
that the usage of each TCAM is its initial usage `u₀` plus the number of its
next-hop entries. Adding a hop with a new key and removing a hop that is there
keep this true of the larger and of the smaller set.
-/

namespace SelfAdaptiveMano.Simulator

open Library

/-- The switches and links hold the hops `H` and nothing else. A link between
servers is kept apart from the other links and goes first. -/
structure Holds (u₀ : Nat → Nat) (sib : Sib) (H : Set Hop) : Prop where
  usage : ∀ w info, sib.switches.get? w = some info →
    info.tcamUsage = u₀ w + info.nextHop.items.length
  nextHop : ∀ w info, sib.switches.get? w = some info →
    ∀ key dst, info.nextHop.get? key = some dst ↔ ⟨key, w, dst⟩ ∈ H
  serverLinks : ∀ l info, sib.serverLinks.get? l = some info →
    ∀ key, key ∈ info.usedBy ↔ ⟨key, l.1, l.2⟩ ∈ H
  links : ∀ l info, sib.links.get? l = some info →
    ∀ key, key ∈ info.usedBy ↔
      sib.serverLinks.contains l = false ∧ ⟨key, l.1, l.2⟩ ∈ H
  linked : ∀ h ∈ H, Linked sib h.src h.dst

def Keyed (H : Set Hop) : Prop :=
  ∀ h ∈ H, ∀ h' ∈ H, h.key = h'.key → h = h'

namespace Sib

def onSwitch (h : Hop) (f : SwitchInfo → SwitchInfo) (sib : Sib) : Sib :=
  { sib with switches := sib.switches.modify h.src f }

def onLink (h : Hop) (g : LinkInfo → LinkInfo) (sib : Sib) : Sib :=
  if sib.serverLinks.contains (h.src, h.dst) then
    { sib with serverLinks := sib.serverLinks.modify (h.src, h.dst) g }
  else { sib with links := sib.links.modify (h.src, h.dst) g }

def onHop (h : Hop) (f : SwitchInfo → SwitchInfo) (g : LinkInfo → LinkInfo)
    (sib : Sib) : Sib :=
  (sib.onSwitch h f).onLink h g

def withHop (h : Hop) (sib : Sib) : Sib := sib.onHop h (·.add h) (·.add h)

def withoutHop (h : Hop) (sib : Sib) : Sib :=
  sib.onHop h (·.remove h) (·.remove h)

end Sib

/-- The data centre is the same, and so are the VNFIs, SFCs and flows. -/
structure SameBase (sib sib' : Sib) : Prop where
  switches : ∀ w, sib'.switches.contains w = sib.switches.contains w
  serverLinks : ∀ l, sib'.serverLinks.contains l = sib.serverLinks.contains l
  links : ∀ l, sib'.links.contains l = sib.links.contains l
  vnfis : sib'.vnfis = sib.vnfis
  sfcs : sib'.sfcs = sib.sfcs
  sfcis : sib'.sfcis = sib.sfcis
  flows : sib'.flows = sib.flows

variable {u₀ : Nat → Nat} {sib sib' sib'' : Sib} {H H' : Set Hop} {h : Hop}
  {f : SwitchInfo → SwitchInfo} {g : LinkInfo → LinkInfo}

theorem SameBase.refl (sib : Sib) : SameBase sib sib :=
  ⟨fun _ => rfl, fun _ => rfl, fun _ => rfl, rfl, rfl, rfl, rfl⟩

theorem SameBase.trans (h₁ : SameBase sib sib') (h₂ : SameBase sib' sib'') :
    SameBase sib sib'' where
  switches w := (h₂.switches w).trans (h₁.switches w)
  serverLinks l := (h₂.serverLinks l).trans (h₁.serverLinks l)
  links l := (h₂.links l).trans (h₁.links l)
  vnfis := h₂.vnfis.trans h₁.vnfis
  sfcs := h₂.sfcs.trans h₁.sfcs
  sfcis := h₂.sfcis.trans h₁.sfcis
  flows := h₂.flows.trans h₁.flows

theorem SameBase.linked (hsame : SameBase sib sib') {src dst : Nat} :
    Linked sib' src dst ↔ Linked sib src dst := by
  rw [Linked, Linked, hsame.serverLinks, hsame.links]

theorem sameBase_onHop (h : Hop) (f : SwitchInfo → SwitchInfo)
    (g : LinkInfo → LinkInfo) (sib : Sib) : SameBase sib (sib.onHop h f g) := by
  rw [Sib.onHop, Sib.onLink]
  split
  · exact ⟨fun w => by simp [Sib.onSwitch], fun l => by simp [Sib.onSwitch],
      fun _ => rfl, rfl, rfl, rfl, rfl⟩
  · exact ⟨fun w => by simp [Sib.onSwitch], fun _ => rfl,
      fun l => by simp [Sib.onSwitch], rfl, rfl, rfl, rfl⟩

theorem switches_onHop :
    (sib.onHop h f g).switches = sib.switches.modify h.src f := by
  rw [Sib.onHop, Sib.onLink]
  split <;> rfl

theorem serverLinks_onHop : (sib.onHop h f g).serverLinks =
    sib.serverLinks.modify (h.src, h.dst) g := by
  rw [Sib.onHop, Sib.onLink]
  split
  · rfl
  · next hnot =>
      have hnone : sib.serverLinks.get? (h.src, h.dst) = none := by
        simpa [Dict.contains, Sib.onSwitch] using hnot
      simp [Dict.modify, hnone, Sib.onSwitch]

theorem links_onHop : (sib.onHop h f g).links =
    if sib.serverLinks.contains (h.src, h.dst) then sib.links
    else sib.links.modify (h.src, h.dst) g := by
  rw [Sib.onHop, Sib.onLink]
  split
  · next hserver => exact (if_pos hserver).symm
  · next hnot => exact (if_neg hnot).symm

theorem Holds.onHop (hs : Holds u₀ sib H)
    (hswitch : ∀ info, sib.switches.get? h.src = some info →
      (f info).tcamUsage = u₀ h.src + (f info).nextHop.items.length ∧
        ∀ key dst, (f info).nextHop.get? key = some dst ↔
          ⟨key, h.src, dst⟩ ∈ H')
    (hlink : ∀ info, (∀ key, key ∈ info.usedBy ↔ ⟨key, h.src, h.dst⟩ ∈ H) →
      ∀ key, key ∈ (g info).usedBy ↔ ⟨key, h.src, h.dst⟩ ∈ H')
    (hother : ∀ h', (h'.src, h'.dst) ≠ (h.src, h.dst) → (h' ∈ H' ↔ h' ∈ H))
    (hlinked : ∀ h' ∈ H', Linked sib h'.src h'.dst) :
    Holds u₀ (sib.onHop h f g) H' := by
  have hsame := sameBase_onHop h f g sib
  refine ⟨?_, ?_, ?_, ?_, ?_⟩
  · intro w info' hinfo'
    rw [switches_onHop, Dict.get?_modify] at hinfo'
    split at hinfo'
    · next hw =>
        obtain ⟨info, hinfo, rfl⟩ := Option.map_eq_some_iff.mp hinfo'
        rw [hw]
        exact (hswitch info hinfo).1
    · exact hs.usage w info' hinfo'
  · intro w info' hinfo' key dst
    rw [switches_onHop, Dict.get?_modify] at hinfo'
    split at hinfo'
    · next hw =>
        obtain ⟨info, hinfo, rfl⟩ := Option.map_eq_some_iff.mp hinfo'
        rw [hw]
        exact (hswitch info hinfo).2 key dst
    · next hw =>
        rw [hs.nextHop w info' hinfo' key dst]
        exact (hother ⟨key, w, dst⟩ fun heq => hw (Prod.ext_iff.mp heq).1).symm
  · intro l info' hinfo' key
    rw [serverLinks_onHop, Dict.get?_modify] at hinfo'
    split at hinfo'
    · next hl =>
        obtain ⟨info, hinfo, rfl⟩ := Option.map_eq_some_iff.mp hinfo'
        subst hl
        exact hlink info (hs.serverLinks _ info hinfo) key
    · next hl =>
        rw [hs.serverLinks l info' hinfo' key]
        exact (hother ⟨key, l.1, l.2⟩ hl).symm
  · intro l info' hinfo' key
    rw [links_onHop] at hinfo'
    rw [hsame.serverLinks]
    by_cases hserver : sib.serverLinks.contains l = true
    · have hinfo : sib.links.get? l = some info' := by
        split at hinfo'
        · exact hinfo'
        · next hnot =>
            rw [Dict.get?_modify] at hinfo'
            split at hinfo'
            · next hl => exact absurd (hl ▸ hserver) hnot
            · exact hinfo'
      rw [hs.links l info' hinfo key, hserver]
      simp
    · rw [Bool.not_eq_true] at hserver
      by_cases hl : l = (h.src, h.dst)
      · subst hl
        rw [if_neg (by simp [hserver]), Dict.get?_modify, if_pos rfl] at hinfo'
        obtain ⟨info, hinfo, rfl⟩ := Option.map_eq_some_iff.mp hinfo'
        rw [and_iff_right hserver]
        refine hlink info (fun key => ?_) key
        rw [hs.links _ info hinfo key, and_iff_right hserver]
      · have hinfo : sib.links.get? l = some info' := by
          split at hinfo'
          · exact hinfo'
          · rwa [Dict.get?_modify, if_neg hl] at hinfo'
        rw [hs.links l info' hinfo key]
        exact and_congr_right fun _ => (hother ⟨key, l.1, l.2⟩ hl).symm
  · intro h' hh'
    exact hsame.linked.mpr (hlinked h' hh')

theorem Holds.withHop (hs : Holds u₀ sib H) (hlinked : Linked sib h.src h.dst)
    (hnew : ∀ h' ∈ H, h'.key ≠ h.key) :
    Holds u₀ (sib.withHop h) (insert h H) := by
  have hfresh : ∀ src dst, (⟨h.key, src, dst⟩ : Hop) ∉ H :=
    fun src dst hmem => hnew _ hmem rfl
  refine hs.onHop (fun info hinfo => ⟨?_, fun key dst => ?_⟩)
    (fun info hinfo key => ?_) (fun h' hne => ?_) fun h' hh' => ?_
  · have husage := hs.usage h.src info hinfo
    have hnone : info.nextHop.get? h.key = none := by
      rw [Option.eq_none_iff_forall_ne_some]
      intro dst hdst
      exact hfresh _ _ ((hs.nextHop h.src info hinfo h.key dst).mp hdst)
    rw [SwitchInfo.add, Dict.length_set_of_get?_eq_none hnone]
    dsimp only
    omega
  · rw [SwitchInfo.add, Dict.get?_set, Set.mem_insert_iff]
    by_cases hkey : key = h.key
    · subst hkey
      rw [if_pos rfl, Option.some.injEq, or_iff_left (hfresh _ _)]
      constructor
      · rintro rfl
        rfl
      · intro heq
        exact (congrArg Hop.dst heq).symm
    · rw [if_neg hkey, hs.nextHop _ info hinfo key dst]
      exact (or_iff_right fun heq => hkey (congrArg Hop.key heq)).symm
  · rw [LinkInfo.add, Finset.mem_insert, hinfo key, Set.mem_insert_iff]
    refine or_congr_left ?_
    constructor
    · rintro rfl
      rfl
    · exact fun heq => congrArg Hop.key heq
  · rw [Set.mem_insert_iff]
    refine or_iff_right fun heq => hne ?_
    rw [heq]
  · obtain rfl | hh' := hh'
    · exact hlinked
    · exact hs.linked h' hh'

theorem Holds.withoutHop (hs : Holds u₀ sib H) (hkeyed : Keyed H) (hmem : h ∈ H) :
    Holds u₀ (sib.withoutHop h) (H \ {h}) := by
  have honly : ∀ src dst, (⟨h.key, src, dst⟩ : Hop) ∉ H \ {h} :=
    fun src dst hother => hother.2 (hkeyed _ hother.1 _ hmem rfl)
  have hne : ∀ {key src dst}, key ≠ h.key →
      ((⟨key, src, dst⟩ : Hop) ∈ H \ {h} ↔ ⟨key, src, dst⟩ ∈ H) := by
    intro key src dst hkey
    exact and_iff_left fun heq => hkey (congrArg Hop.key heq)
  refine hs.onHop (fun info hinfo => ⟨?_, fun key dst => ?_⟩)
    (fun info hinfo key => ?_) (fun h' hne => ?_) fun h' hh' => ?_
  · have husage := hs.usage h.src info hinfo
    have hthere : info.nextHop.get? h.key = some h.dst :=
      (hs.nextHop h.src info hinfo h.key h.dst).mpr hmem
    have hlength := Dict.length_erase hthere
    rw [SwitchInfo.remove]
    dsimp only
    omega
  · rw [SwitchInfo.remove, Dict.get?_erase]
    by_cases hkey : key = h.key
    · subst hkey
      rw [if_pos rfl]
      exact iff_of_false (by simp) (honly _ _)
    · rw [if_neg hkey, hs.nextHop _ info hinfo key dst, hne hkey]
  · rw [LinkInfo.remove, Finset.mem_erase, hinfo key]
    by_cases hkey : key = h.key
    · subst hkey
      exact iff_of_false (fun hnot => hnot.1 rfl) (honly _ _)
    · rw [hne hkey, and_iff_right hkey]
  · refine and_iff_left fun heq => hne ?_
    rw [Set.mem_singleton_iff.mp heq]
  · exact hs.linked h' hh'.1

theorem run_takeTcam (hroom : ∀ info, sib.switches.get? h.src = some info →
    info.tcamUsage < info.tcamSize) :
    (takeTcam h).run sib = .ok () (sib.onSwitch h (·.add h)) := by
  rw [takeTcam, PyM.run_bind_get, Sib.onSwitch]
  cases hinfo : sib.switches.get? h.src with
  | none => simp [Dict.modify, hinfo]
  | some info =>
      have hnot : ¬ info.tcamSize ≤ info.tcamUsage := by
        have := hroom info hinfo
        omega
      simp [Dict.modify_eq_set hinfo, hnot]

theorem onLink_of_none (hserver : sib.serverLinks.get? (h.src, h.dst) = none)
    (hlink : sib.links.get? (h.src, h.dst) = none) : sib.onLink h g = sib := by
  rw [Sib.onLink, if_neg (by simp [Dict.contains, hserver]), Dict.modify, hlink]

theorem pyAssert_of_linked (hlinked : Linked sib h.src h.dst)
    (hserver : sib.serverLinks.get? (h.src, h.dst) = none)
    (hlink : sib.links.get? (h.src, h.dst) = none) :
    pyAssert (h.src == h.dst) = .ok () := by
  have heq : h.src = h.dst := by
    simpa [Linked, Dict.contains, hserver, hlink] using hlinked
  rw [pyAssert_eq_ok_iff, beq_iff_eq, heq]

theorem run_takeLink (hlinked : Linked sib h.src h.dst) :
    (takeLink h).run sib = .ok () (sib.onLink h (·.add h)) := by
  rw [takeLink, PyM.run_bind_get]
  cases hserver : sib.serverLinks.get? (h.src, h.dst) with
  | some info =>
      simp [Sib.onLink, Dict.contains, hserver, Dict.modify_eq_set hserver]
  | none =>
      cases hlink : sib.links.get? (h.src, h.dst) with
      | some info =>
          simp [Sib.onLink, Dict.contains, hserver, Dict.modify_eq_set hlink]
      | none =>
          rw [onLink_of_none hserver hlink, pyAssert_of_linked hlinked hserver hlink]
          rfl

theorem run_addHop (hroom : ∀ info, sib.switches.get? h.src = some info →
    info.tcamUsage < info.tcamSize) (hlinked : Linked sib h.src h.dst) :
    (addHop h).run sib = .ok () (sib.withHop h) := by
  rw [addHop, PyM.run_bind_ok (run_takeTcam hroom)]
  exact run_takeLink hlinked

theorem run_releaseTcam (hs : Holds u₀ sib H) (hmem : h ∈ H) :
    (releaseTcam h).run sib = .ok () (sib.onSwitch h (·.remove h)) := by
  rw [releaseTcam, PyM.run_bind_get, Sib.onSwitch]
  cases hinfo : sib.switches.get? h.src with
  | none => simp [Dict.modify, hinfo]
  | some info =>
      have hthere : info.nextHop.get? h.key = some h.dst :=
        (hs.nextHop h.src info hinfo h.key h.dst).mpr hmem
      have hpos : info.tcamUsage ≠ 0 := by
        have husage := hs.usage h.src info hinfo
        have hlength := Dict.length_erase hthere
        omega
      simp [Dict.modify_eq_set hinfo, hpos, Dict.contains, hthere]

theorem run_releaseLink (hs : Holds u₀ sib H) (hmem : h ∈ H) :
    (releaseLink h).run (sib.onSwitch h f) =
      .ok () ((sib.onSwitch h f).onLink h (·.remove h)) := by
  rw [releaseLink, PyM.run_bind_get]
  cases hserver : (sib.onSwitch h f).serverLinks.get? (h.src, h.dst) with
  | some info =>
      have hused : h.key ∈ info.usedBy :=
        (hs.serverLinks _ info hserver h.key).mpr hmem
      simp [Sib.onLink, Dict.contains, hserver, Dict.modify_eq_set hserver,
        hused]
  | none =>
      have hnot : (sib.onSwitch h f).serverLinks.contains (h.src, h.dst) =
          false := by
        simp [Dict.contains, hserver]
      cases hlink : (sib.onSwitch h f).links.get? (h.src, h.dst) with
      | some info =>
          have hused : h.key ∈ info.usedBy :=
            (hs.links _ info hlink h.key).mpr ⟨hnot, hmem⟩
          simp [Sib.onLink, hnot, Dict.modify_eq_set hlink, hused]
      | none =>
          have hlinked : Linked (sib.onSwitch h f) h.src h.dst :=
            hs.linked h hmem
          rw [onLink_of_none hserver hlink, pyAssert_of_linked hlinked hserver hlink]
          rfl

theorem run_removeHop (hs : Holds u₀ sib H) (hmem : h ∈ H) :
    (removeHop h).run sib = .ok () (sib.withoutHop h) := by
  rw [removeHop, PyM.run_bind_ok (run_releaseTcam hs hmem)]
  exact run_releaseLink hs hmem

section Loops

variable {hops : List Hop}

def startsAt (hops : List Hop) (w : Nat) : Nat :=
  hops.countP fun h => h.src == w

def Room (sib : Sib) (hops : List Hop) : Prop :=
  ∀ h ∈ hops, ∀ info, sib.switches.get? h.src = some info →
    info.tcamUsage + startsAt hops h.src ≤ info.tcamSize

theorem Room.tail (hroom : Room sib (h :: hops)) :
    Room (sib.withHop h) hops := by
  intro h' hh' info' hinfo'
  rw [Sib.withHop, switches_onHop, Dict.get?_modify] at hinfo'
  have hcount : startsAt (h :: hops) h'.src =
      startsAt hops h'.src + if h.src == h'.src then 1 else 0 :=
    List.countP_cons
  have hmem := List.mem_cons_of_mem h hh'
  split at hinfo'
  · next hsrc =>
      obtain ⟨info, hinfo, rfl⟩ := Option.map_eq_some_iff.mp hinfo'
      have hle := hroom h' hmem info (hsrc ▸ hinfo)
      rw [hcount, if_pos (by simp [hsrc])] at hle
      rw [SwitchInfo.add]
      dsimp only
      omega
  · have hle := hroom h' hmem info' hinfo'
    omega

theorem run_addHops (hs : Holds u₀ sib H) (hroom : Room sib hops)
    (hlinked : ∀ h ∈ hops, Linked sib h.src h.dst)
    (hnodup : (hops.map Hop.key).Nodup)
    (hnew : ∀ h ∈ hops, ∀ h' ∈ H, h'.key ≠ h.key) :
    ∃ sib', (hops.forM addHop).run sib = .ok () sib' ∧
      Holds u₀ sib' (H ∪ {h | h ∈ hops}) ∧ SameBase sib sib' := by
  induction hops generalizing sib H with
  | nil =>
      refine ⟨sib, rfl, ?_, .refl sib⟩
      simpa using hs
  | cons h hops ih =>
      have hsame : SameBase sib (sib.withHop h) := sameBase_onHop ..
      have hnow : ∀ info, sib.switches.get? h.src = some info →
          info.tcamUsage < info.tcamSize := by
        intro info hinfo
        have hle := hroom h List.mem_cons_self info hinfo
        have hpos : 0 < startsAt (h :: hops) h.src :=
          List.countP_pos_iff.mpr ⟨h, List.mem_cons_self, by simp⟩
        omega
      have hlink := hlinked h List.mem_cons_self
      rw [List.map_cons, List.nodup_cons] at hnodup
      obtain ⟨sib', hrun, hholds, hsame'⟩ := ih
        (hs.withHop hlink (hnew h List.mem_cons_self)) hroom.tail
        (fun h' hh' => hsame.linked.mpr
          (hlinked h' (List.mem_cons_of_mem h hh'))) hnodup.2 (by
          rintro h' hh' h'' (rfl | hh'')
          · intro heq
            exact hnodup.1 (heq ▸ List.mem_map_of_mem hh')
          · exact hnew h' (List.mem_cons_of_mem h hh') h'' hh'')
      refine ⟨sib', ?_, ?_, hsame.trans hsame'⟩
      · exact (PyM.run_bind_ok (run_addHop hnow hlink) _).trans hrun
      · convert hholds using 1
        ext h'
        simp only [Set.mem_union, Set.mem_ofPred_eq, List.mem_cons,
          Set.mem_insert_iff]
        tauto

theorem run_removeHops (hs : Holds u₀ sib H) (hkeyed : Keyed H)
    (hmem : ∀ h ∈ hops, h ∈ H) (hnodup : (hops.map Hop.key).Nodup) :
    ∃ sib', (hops.forM removeHop).run sib = .ok () sib' ∧
      Holds u₀ sib' (H \ {h | h ∈ hops}) ∧ SameBase sib sib' := by
  induction hops generalizing sib H with
  | nil =>
      refine ⟨sib, rfl, ?_, .refl sib⟩
      simpa using hs
  | cons h hops ih =>
      have hsame : SameBase sib (sib.withoutHop h) := sameBase_onHop ..
      have hthere := hmem h List.mem_cons_self
      rw [List.map_cons, List.nodup_cons] at hnodup
      obtain ⟨sib', hrun, hholds, hsame'⟩ := ih (hs.withoutHop hkeyed hthere)
        (fun a ha b hb => hkeyed a ha.1 b hb.1) (by
          intro h' hh'
          refine ⟨hmem h' (List.mem_cons_of_mem h hh'), ?_⟩
          rintro rfl
          exact hnodup.1 (List.mem_map_of_mem hh')) hnodup.2
      refine ⟨sib', ?_, ?_, hsame.trans hsame'⟩
      · exact (PyM.run_bind_ok (run_removeHop hs hthere) _).trans hrun
      · convert hholds using 1
        ext h'
        simp only [Set.mem_sdiff, Set.mem_ofPred_eq, List.mem_cons,
          Set.mem_singleton_iff]
        tauto

end Loops

section VNFIs

variable {sfci : SFCI} {V : Set (Nat × VNFIInfo)}
  {path : List (Nat × Nat)} {stage : Nat} {v : Nat × VNFIInfo}

def vnfiAt (sfci : SFCI) (path : List (Nat × Nat)) (stage : Nat) :
    Except PyError (Nat × VNFIInfo) := do
  let serverID ← itemFromEnd (pathNodes path) 1
  let vnfi ← itemAt sfci.vnfiSequence stage >>= (itemAt · 0)
  return (serverID, ⟨sfci.sfciID, stage, vnfi, vnfi.maxCPUNum, vnfi.maxMem⟩)

/-- The nodes hold the entries `V`, each once. -/
structure VNFIsHold (vnfis : Dict Nat (List VNFIInfo))
    (V : Set (Nat × VNFIInfo)) : Prop where
  nodup : ∀ w, ((vnfis.get? w).getD []).Nodup
  mem : ∀ w info, info ∈ (vnfis.get? w).getD [] ↔ (w, info) ∈ V

def KeyedVNFIs (V : Set (Nat × VNFIInfo)) : Prop :=
  ∀ v ∈ V, ∀ v' ∈ V, v.2.sfciID = v'.2.sfciID → v.2.stage = v'.2.stage → v = v'

theorem vnfiAt_eq_ok (h : vnfiAt sfci path stage = .ok v) :
    itemFromEnd (pathNodes path) 1 = .ok v.1 ∧
      (itemAt sfci.vnfiSequence stage >>= (itemAt · 0)) = .ok v.2.vnfi ∧
      v.2 = ⟨sfci.sfciID, stage, v.2.vnfi, v.2.vnfi.maxCPUNum,
        v.2.vnfi.maxMem⟩ := by
  obtain ⟨w, hw, h⟩ := except_bind_eq_ok_iff.mp h
  obtain ⟨vnfi, hvnfi, h⟩ := except_bind_eq_ok_iff.mp h
  obtain rfl := Except.ok.inj h
  exact ⟨hw, hvnfi, rfl⟩

theorem run_addVNFI (h : vnfiAt sfci path stage = .ok v) :
    (addVNFI sfci path stage).run sib = .ok () { sib with
      vnfis := sib.vnfis.set v.1 ((sib.vnfis.get? v.1).getD [] ++ [v.2]) } := by
  obtain ⟨hw, hvnfi, hinfo⟩ := vnfiAt_eq_ok h
  rw [addVNFI, hw, hvnfi, hinfo]
  rfl

/-- An entry for a new stage comes on top. -/
theorem VNFIsHold.add {vnfis : Dict Nat (List VNFIInfo)} (hs : VNFIsHold vnfis V)
    (hnew : v ∉ V) :
    VNFIsHold (vnfis.set v.1 ((vnfis.get? v.1).getD [] ++ [v.2]))
      (insert v V) where
  nodup w := by
    rw [Dict.get?_set]
    split
    · rw [Option.getD_some, List.nodup_append]
      refine ⟨hs.nodup v.1, List.nodup_singleton _, ?_⟩
      rintro info hinfo _ hsingle rfl
      rw [List.mem_singleton] at hsingle
      subst hsingle
      exact hnew ((hs.mem v.1 v.2).mp hinfo)
    · exact hs.nodup w
  mem w info := by
    rw [Dict.get?_set, Set.mem_insert_iff, Prod.ext_iff]
    split
    · next hw =>
        rw [hw, Option.getD_some, List.mem_append, List.mem_singleton,
          hs.mem v.1 info, and_iff_right rfl, or_comm]
    · next hw => rw [hs.mem w info, or_iff_right fun h => hw h.1]

theorem eraseP_isFor {l : List VNFIInfo} {info : VNFIInfo} {vnfType : Nat}
    (htype : info.vnfi.vnfType = vnfType) (hmem : info ∈ l)
    (honly : ∀ info' ∈ l, info'.sfciID = info.sfciID →
      info'.stage = info.stage → info' = info) :
    l.eraseP (VNFIInfo.isFor info.sfciID info.stage vnfType) = l.erase info := by
  induction l with
  | nil => rfl
  | cons info' l ih =>
      by_cases heq : info' = info
      · subst heq
        rw [List.erase_cons_head, List.eraseP_cons_of_pos]
        simp [VNFIInfo.isFor, VNFIInfo.isAt, htype]
      · have hnot : VNFIInfo.isFor info.sfciID info.stage vnfType info' =
            false := by
          rw [Bool.eq_false_iff]
          intro hfor
          simp only [VNFIInfo.isFor, VNFIInfo.isAt, Bool.and_eq_true,
            beq_iff_eq] at hfor
          exact heq (honly info' List.mem_cons_self hfor.1.1 hfor.1.2)
        have hmem' : info ∈ l :=
          (List.mem_cons.mp hmem).resolve_left (Ne.symm heq)
        rw [List.eraseP_cons_of_neg (by simp [hnot]),
          List.erase_cons_tail (by simpa using heq), ih hmem' fun info'' h =>
            honly info'' (List.mem_cons_of_mem info' h)]

theorem run_removeVNFI_of_any (h : vnfiAt sfci path stage = .ok v)
    {l : List VNFIInfo} (hl : sib.vnfis.get? v.1 = some l)
    (hany : l.any (VNFIInfo.isFor sfci.sfciID stage v.2.vnfi.vnfType) = true) :
    (removeVNFI sfci path stage).run sib = .ok () { sib with
      vnfis := sib.vnfis.set v.1
        (l.eraseP (VNFIInfo.isFor sfci.sfciID stage v.2.vnfi.vnfType)) } := by
  obtain ⟨hw, hvnfi, -⟩ := vnfiAt_eq_ok h
  have hat : l.any (VNFIInfo.isAt sfci.sfciID stage) = true := by
    obtain ⟨info, hmem, hfor⟩ := List.any_eq_true.mp hany
    rw [VNFIInfo.isFor, Bool.and_eq_true] at hfor
    exact List.any_eq_true.mpr ⟨info, hmem, hfor.1⟩
  rw [removeVNFI, hw, vnfTypeAt, hvnfi]
  refine (PyM.run_bind_ok (PyM.run_ofExcept_ok ..) _).trans ?_
  rw [PyM.run_bind_get, PyM.run_bind_ofOption hl, if_pos hat]
  refine (PyM.run_bind_ok (PyM.run_ofExcept_ok ..) _).trans ?_
  rw [if_pos hany]
  rfl

theorem run_removeVNFI (hs : VNFIsHold sib.vnfis V) (hkeyed : KeyedVNFIs V)
    (h : vnfiAt sfci path stage = .ok v) (hmem : v ∈ V) :
    ∃ vnfis, (removeVNFI sfci path stage).run sib =
        .ok () { sib with vnfis := vnfis } ∧ VNFIsHold vnfis (V \ {v}) := by
  have hinfo := (vnfiAt_eq_ok h).2.2
  have hlist : v.2 ∈ (sib.vnfis.get? v.1).getD [] := (hs.mem v.1 v.2).mpr hmem
  cases hl : sib.vnfis.get? v.1 with
  | none => simp [hl] at hlist
  | some l =>
      have hnodup := hs.nodup v.1
      rw [hl, Option.getD_some] at hlist hnodup
      have honly : ∀ info' ∈ l, info'.sfciID = v.2.sfciID →
          info'.stage = v.2.stage → info' = v.2 := by
        intro info' hinfo' hid hstage
        have hmem' : (v.1, info') ∈ V := by
          rw [← hs.mem, hl]
          exact hinfo'
        exact congrArg Prod.snd (hkeyed _ hmem' _ hmem hid hstage)
      have herase := eraseP_isFor rfl hlist honly
      have hany : l.any (VNFIInfo.isFor sfci.sfciID stage v.2.vnfi.vnfType) =
          true := by
        refine List.any_eq_true.mpr ⟨v.2, hlist, ?_⟩
        rw [hinfo]
        simp [VNFIInfo.isFor, VNFIInfo.isAt]
      refine ⟨sib.vnfis.set v.1 (l.erase v.2), ?_, ?_, ?_⟩
      · rw [show v.2.sfciID = sfci.sfciID from congrArg VNFIInfo.sfciID hinfo,
          show v.2.stage = stage from congrArg VNFIInfo.stage hinfo] at herase
        rw [run_removeVNFI_of_any h hl hany, herase]
      · intro w
        rw [Dict.get?_set]
        split
        · exact hnodup.erase v.2
        · exact hs.nodup w
      · intro w info
        rw [Dict.get?_set]
        split
        · next hw' =>
            subst hw'
            have hold := hs.mem v.1 info
            rw [hl, Option.getD_some] at hold
            rw [Option.getD_some, hnodup.mem_erase_iff, hold, Set.mem_sdiff,
              Set.mem_singleton_iff, and_comm, Prod.ext_iff, and_iff_right rfl]
        · next hw' =>
            rw [hs.mem w info]
            refine (and_iff_left fun heq => hw' ?_).symm
            exact congrArg Prod.fst heq

def vnfisAlong (sfci : SFCI) (stages : List (List (Nat × Nat) × Nat)) :
    Set (Nat × VNFIInfo) :=
  {v | ∃ e ∈ stages, vnfiAt sfci e.1 e.2 = .ok v}

theorem vnfisAlong_cons {e : List (Nat × Nat) × Nat}
    {stages : List (List (Nat × Nat) × Nat)}
    (h : vnfiAt sfci e.1 e.2 = .ok v) :
    vnfisAlong sfci (e :: stages) = insert v (vnfisAlong sfci stages) := by
  ext v'
  simp only [vnfisAlong, Set.mem_ofPred_eq, List.mem_cons, Set.mem_insert_iff,
    exists_eq_or_imp, h, Except.ok.injEq]
  exact or_congr_left eq_comm

theorem stage_of_mem_vnfisAlong {stages : List (List (Nat × Nat) × Nat)}
    (h : v ∈ vnfisAlong sfci stages) :
    v.2.sfciID = sfci.sfciID ∧ v.2.stage ∈ stages.map Prod.snd := by
  obtain ⟨e, he, hv⟩ := h
  have hinfo := (vnfiAt_eq_ok hv).2.2
  constructor
  · exact congrArg VNFIInfo.sfciID hinfo
  · rw [show v.2.stage = e.2 from congrArg VNFIInfo.stage hinfo]
    exact List.mem_map_of_mem he

theorem run_addVNFIs {stages : List (List (Nat × Nat) × Nat)}
    (hs : VNFIsHold sib.vnfis V)
    (hread : ∀ e ∈ stages, ∃ v, vnfiAt sfci e.1 e.2 = .ok v)
    (hnodup : (stages.map Prod.snd).Nodup)
    (hnew : ∀ v ∈ V, v.2.sfciID = sfci.sfciID →
      v.2.stage ∉ stages.map Prod.snd) :
    ∃ vnfis, (stages.forM fun e => addVNFI sfci e.1 e.2).run sib =
        .ok () { sib with vnfis := vnfis } ∧
      VNFIsHold vnfis (V ∪ vnfisAlong sfci stages) := by
  induction stages generalizing sib V with
  | nil =>
      refine ⟨sib.vnfis, rfl, ?_⟩
      simpa [vnfisAlong] using hs
  | cons e stages ih =>
      obtain ⟨v, hv⟩ := hread e List.mem_cons_self
      have hinfo := (vnfiAt_eq_ok hv).2.2
      have hid : v.2.sfciID = sfci.sfciID := congrArg VNFIInfo.sfciID hinfo
      have hstage : v.2.stage = e.2 := congrArg VNFIInfo.stage hinfo
      rw [List.map_cons, List.nodup_cons] at hnodup
      have hfresh : v ∉ V := by
        intro hmem
        refine hnew v hmem hid ?_
        rw [hstage, List.map_cons]
        exact List.mem_cons_self
      have hs' := hs.add hfresh
      generalize hvnfis₁ : sib.vnfis.set v.1
        ((sib.vnfis.get? v.1).getD [] ++ [v.2]) = vnfis₁ at hs'
      have hs₁ : VNFIsHold ({ sib with vnfis := vnfis₁ } : Sib).vnfis _ := hs'
      obtain ⟨vnfis, hrun, hholds⟩ := ih hs₁
          (fun e' he' => hread e' (List.mem_cons_of_mem e he')) hnodup.2 (by
            rintro v' (rfl | hv') hid'
            · rw [hstage]
              exact hnodup.1
            · intro hmem
              refine hnew v' hv' hid' ?_
              exact List.mem_cons_of_mem _ hmem)
      refine ⟨vnfis, ?_, ?_⟩
      · refine (PyM.run_bind_ok (run_addVNFI hv) _).trans ?_
        rw [hvnfis₁]
        exact hrun
      · rw [vnfisAlong_cons hv, Set.union_insert, ← Set.insert_union]
        exact hholds

theorem run_removeVNFIs {stages : List (List (Nat × Nat) × Nat)}
    (hs : VNFIsHold sib.vnfis V) (hkeyed : KeyedVNFIs V)
    (hread : ∀ e ∈ stages, ∃ v, vnfiAt sfci e.1 e.2 = .ok v ∧ v ∈ V)
    (hnodup : (stages.map Prod.snd).Nodup) :
    ∃ vnfis, (stages.forM fun e => removeVNFI sfci e.1 e.2).run sib =
        .ok () { sib with vnfis := vnfis } ∧
      VNFIsHold vnfis (V \ vnfisAlong sfci stages) := by
  induction stages generalizing sib V with
  | nil =>
      refine ⟨sib.vnfis, rfl, ?_⟩
      simpa [vnfisAlong] using hs
  | cons e stages ih =>
      obtain ⟨v, hv, hmem⟩ := hread e List.mem_cons_self
      have hinfo := (vnfiAt_eq_ok hv).2.2
      have hstage : v.2.stage = e.2 := congrArg VNFIInfo.stage hinfo
      rw [List.map_cons, List.nodup_cons] at hnodup
      obtain ⟨vnfis₁, hrun₁, hs'⟩ := run_removeVNFI hs hkeyed hv hmem
      have hs₁ : VNFIsHold ({ sib with vnfis := vnfis₁ } : Sib).vnfis _ := hs'
      obtain ⟨vnfis, hrun, hholds⟩ := ih hs₁
          (fun a ha b hb => hkeyed a ha.1 b hb.1) (by
            intro e' he'
            obtain ⟨v', hv', hmem'⟩ := hread e' (List.mem_cons_of_mem e he')
            refine ⟨v', hv', hmem', ?_⟩
            rintro rfl
            have hstage' : v'.2.stage = e'.2 :=
              congrArg VNFIInfo.stage (vnfiAt_eq_ok hv').2.2
            rw [hstage] at hstage'
            exact hnodup.1 (hstage' ▸ List.mem_map_of_mem he')) hnodup.2
      refine ⟨vnfis, (PyM.run_bind_ok hrun₁ _).trans hrun, ?_⟩
      rw [vnfisAlong_cons hv]
      convert hholds using 1
      ext v'
      simp only [Set.mem_sdiff, Set.mem_insert_iff, Set.mem_singleton_iff]
      tauto

end VNFIs

end SelfAdaptiveMano.Simulator

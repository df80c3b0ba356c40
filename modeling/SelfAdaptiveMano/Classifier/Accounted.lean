import SelfAdaptiveMano.Classifier.Sides

/-!
# The SFCIs of a classifier

An SFCI is installed for a direction when the load balancer of the direction is
connected to it. `Accounted` says how the list of a direction, the gates and the
links belong together. It is kept by the functions that add an SFC to a
classifier or delete one from it, as long as they empty no list.
-/

namespace SelfAdaptiveMano.Classifier

open Library

namespace View

def Linked (v : View) : Prop :=
  ∀ n g m, v.links n g = some m → v.modules n ≠ none ∧ v.modules m ≠ none

theorem Linked.after {v : View} {r : Request} (h : v.Linked)
    (hpossible : v.Possible r) : (v.after r).Linked := by
  intro n g m hlink
  cases r with
  | resetAll => cases hlink
  | createModule name m' =>
      obtain ⟨hn, hm⟩ := h n g m hlink
      simp only [View.after]
      constructor
      · split
        · exact Option.some_ne_none m'
        · exact hn
      · split
        · exact Option.some_ne_none m'
        · exact hm
  | destroyModule name =>
      simp only [View.after] at hlink ⊢
      split at hlink
      · cases hlink
      · next hne =>
          obtain ⟨hn, hm⟩ := h n g m hlink
          rw [not_or] at hne
          have hne' : m ≠ name := by
            rintro rfl
            exact hne.2 hlink
          rw [if_neg hne.1, if_neg hne']
          exact ⟨hn, hm⟩
  | connectModules m1 m2 ogate igate =>
      simp only [View.after] at hlink
      split at hlink
      · next heq =>
          obtain ⟨rfl, rfl⟩ := heq
          obtain rfl := Option.some.inj hlink
          exact hpossible
      · exact h n g m hlink
  | disconnectModules name ogate =>
      simp only [View.after] at hlink
      split at hlink
      · cases hlink
      · exact h n g m hlink
  | _ => exact h n g m hlink

theorem Legal.possible {v : View} {r : Request} (h : v.Legal r) :
    v.Possible r := by
  cases r with
  | createModule name m => exact h.1
  | connectModules m1 m2 ogate igate => exact ⟨h.1, h.2.1⟩
  | _ => trivial

theorem LegalAll.linked {v : View} {rs : List Request} (h : v.LegalAll rs)
    (hv : v.Linked) : (rs.foldl View.after v).Linked := by
  induction rs generalizing v with
  | nil => exact hv
  | cons r rs ih => exact ih h.2 (hv.after h.1.possible)

end View

namespace Sight

variable {S S' : Sight} {sfcUUID : UUID} {directionID : Nat}

def sfciIDs? (S : Sight) (sfcUUID : UUID) (directionID : Nat) :
    Option (List Nat) :=
  S.cibm.sfcSet.get? (sfcUUID, directionID)

def Installed (S : Sight) (sfcUUID : UUID) (directionID sfciID : Nat) : Prop :=
  ∃ g, S.view.links (.hashLB sfcUUID directionID) g =
    some (.sfci .genericDecap sfciID directionID)

/-- What the modules of an SFCI are connected to, by gate `0`. -/
def sfciLinks (sfciID directionID : Nat) : List (Name × Name) :=
  [(.sfci .genericDecap sfciID directionID,
      .sfci .setMetadata sfciID directionID),
    (.sfci .setMetadata sfciID directionID, .sfci .ipEncap sfciID directionID),
    (.sfci .ipEncap sfciID directionID, .base .etherEncapMerge)]

/-- What belongs together for a direction of an SFC that is not deleted: its
list is that of the installed SFCIs, and its load balancer has a gate for each
of them. -/
structure Live (S : Sight) (sfcUUID : UUID) (directionID : Nat)
    (sfciIDs : List Nat) : Prop where
  nodup : sfciIDs.Nodup
  mem_iff : ∀ sfciID, sfciID ∈ sfciIDs ↔ S.Installed sfcUUID directionID sfciID
  balancer : S.view.modules (.hashLB sfcUUID directionID) ≠ none
  gates : ∃ ogates, S.cibm.modules.get? (.hashLB sfcUUID directionID) =
      some ogates ∧
    ∀ k g, ogates.get? k = some g ↔ ∃ sfciID, k = .sfci sfciID ∧
      S.view.links (.hashLB sfcUUID directionID) g =
        some (.sfci .genericDecap sfciID directionID)

/-- The list, the gates and the links of every direction belong together. An
SFCI that could not be installed may leave its first module behind. -/
structure Accounted (S : Sight) : Prop where
  linked : S.view.Linked
  merge : S.view.modules (.base .etherEncapMerge) ≠ none
  live : ∀ sfcUUID directionID sfciIDs,
    S.sfciIDs? sfcUUID directionID = some sfciIDs →
      S.Live sfcUUID directionID sfciIDs
  gone : ∀ sfcUUID directionID, S.sfciIDs? sfcUUID directionID = none →
    ∀ g, S.view.links (.hashLB sfcUUID directionID) g = none
  only : ∀ sfcUUID directionID g m,
    S.view.links (.hashLB sfcUUID directionID) g = some m →
      ∃ sfciID, m = .sfci .genericDecap sfciID directionID
  once : ∀ sfcUUID sfcUUID' directionID sfciID,
    S.Installed sfcUUID directionID sfciID →
      S.Installed sfcUUID' directionID sfciID → sfcUUID = sfcUUID'
  chain : ∀ sfciID directionID, ∀ e ∈ sfciLinks sfciID directionID, ∀ g m,
    S.view.links e.1 g = some m ↔
      (∃ sfcUUID, S.Installed sfcUUID directionID sfciID) ∧ g = 0 ∧ m = e.2
  made : ∀ sfciID directionID,
    S.view.modules (.sfci .genericDecap sfciID directionID) = none →
      S.view.modules (.sfci .setMetadata sfciID directionID) = none ∧
        S.view.modules (.sfci .ipEncap sfciID directionID) = none

/-- Nothing that concerns SFCIs differs. -/
structure SameSFCIs (S S' : Sight) : Prop where
  sfcSet : S'.cibm.sfcSet = S.cibm.sfcSet
  ogates : ∀ sfcUUID directionID,
    S'.cibm.modules.get? (.hashLB sfcUUID directionID) =
      S.cibm.modules.get? (.hashLB sfcUUID directionID)
  modules : S'.view.modules = S.view.modules
  hashLB : ∀ sfcUUID directionID, S'.view.links (.hashLB sfcUUID directionID) =
    S.view.links (.hashLB sfcUUID directionID)
  sfci : ∀ mclass sfciID directionID,
    S'.view.links (.sfci mclass sfciID directionID) =
      S.view.links (.sfci mclass sfciID directionID)

theorem SameSFCIs.installed_iff (h : SameSFCIs S S') {sfciID : Nat} :
    S'.Installed sfcUUID directionID sfciID ↔
      S.Installed sfcUUID directionID sfciID := by
  rw [Installed, Installed, h.hashLB]

theorem Live.congr (h : SameSFCIs S S') {sfciIDs : List Nat}
    (hlive : S.Live sfcUUID directionID sfciIDs) :
    S'.Live sfcUUID directionID sfciIDs where
  nodup := hlive.nodup
  mem_iff sfciID := (hlive.mem_iff sfciID).trans h.installed_iff.symm
  balancer := by
    rw [h.modules]
    exact hlive.balancer
  gates := by
    rw [h.ogates, h.hashLB]
    exact hlive.gates

theorem Accounted.congr (hS : S.Accounted) (h : SameSFCIs S S')
    (hlinked : S'.view.Linked) : S'.Accounted where
  linked := hlinked
  merge := by
    rw [h.modules]
    exact hS.merge
  live sfcUUID directionID sfciIDs hids := by
    rw [sfciIDs?, h.sfcSet] at hids
    exact (hS.live _ _ _ hids).congr h
  gone sfcUUID directionID hids := by
    rw [sfciIDs?, h.sfcSet] at hids
    rw [h.hashLB]
    exact hS.gone _ _ hids
  only sfcUUID directionID := by
    rw [h.hashLB]
    exact hS.only sfcUUID directionID
  once sfcUUID sfcUUID' directionID sfciID := by
    rw [h.installed_iff, h.installed_iff]
    exact hS.once sfcUUID sfcUUID' directionID sfciID
  chain sfciID directionID e he g m := by
    have hsfci : S'.view.links e.1 = S.view.links e.1 := by
      simp only [sfciLinks, List.mem_cons, List.not_mem_nil, or_false] at he
      obtain rfl | rfl | rfl := he <;> exact h.sfci _ _ _
    simp only [hsfci, h.installed_iff]
    exact hS.chain sfciID directionID e he g m
  made sfciID directionID := by
    rw [h.modules]
    exact hS.made sfciID directionID

/-! ## The calls for an SFC -/

theorem sameSFCIs_setOGates (name : BaseName) (ogates : Dict GateKey Nat) :
    SameSFCIs S (S.setOGates (.base name) ogates) := by
  constructor <;> intros <;> simp [setOGates, Dict.get?_set]

theorem sameSFCIs_connect (name : BaseName) (m2 : Name) (ogate igate : Nat) :
    SameSFCIs S (S.call (.connectModules (.base name) m2 ogate igate)) := by
  constructor <;> intros <;> simp [View.after]

theorem sameSFCIs_disconnect (name : BaseName) (ogate : Nat) :
    SameSFCIs S (S.call (.disconnectModules (.base name) ogate)) := by
  constructor <;> intros <;> simp [View.after]

theorem sameSFCIs_addRule (table : Name) (rule : Match) (gate : Nat) :
    SameSFCIs S (S.call (.addRule table rule gate)) := by
  constructor <;> intros <;> rfl

theorem sameSFCIs_deleteRule (table : Name) (rule : Match) :
    SameSFCIs S (S.call (.deleteRule table rule)) := by
  constructor <;> intros <;> rfl

theorem Accounted.createHashLB (hS : S.Accounted) {m : Module}
    (hpossible : S.view.Possible
      (.createModule (.hashLB sfcUUID directionID) m)) :
    (S.call (.createModule (.hashLB sfcUUID directionID) m)).Accounted where
  linked := hS.linked.after hpossible
  merge := by simpa [View.after] using hS.merge
  live sfcUUID' directionID' sfciIDs hids := by
    have hlive := hS.live _ _ _ hids
    refine ⟨hlive.nodup, hlive.mem_iff, ?_, hlive.gates⟩
    simp only [view_call, View.after]
    split
    · exact Option.some_ne_none m
    · exact hlive.balancer
  gone := hS.gone
  only := hS.only
  once := hS.once
  chain := hS.chain
  made sfciID directionID' := by simpa [View.after] using hS.made sfciID _

/-- The gates of a load balancer without a list are not looked at. -/
theorem Accounted.addModule (hS : S.Accounted)
    (hids : S.sfciIDs? sfcUUID directionID = none) :
    ({ S with cibm := S.cibm.addModule (.hashLB sfcUUID directionID) } :
      Sight).Accounted where
  linked := hS.linked
  merge := hS.merge
  live sfcUUID' directionID' sfciIDs hids' := by
    have hlive : S.Live sfcUUID' directionID' sfciIDs := hS.live _ _ _ hids'
    have hne : Name.hashLB sfcUUID' directionID' ≠
        .hashLB sfcUUID directionID := by
      intro heq
      obtain ⟨rfl, rfl⟩ := Name.hashLB.inj heq
      cases hids.symm.trans hids'
    have hogates : (S.cibm.addModule (.hashLB sfcUUID directionID)).modules.get?
        (.hashLB sfcUUID' directionID') =
          S.cibm.modules.get? (.hashLB sfcUUID' directionID') :=
      Dict.get?_set_of_ne _ _ hne
    refine ⟨hlive.nodup, hlive.mem_iff, hlive.balancer, ?_⟩
    rw [hogates]
    exact hlive.gates
  gone := hS.gone
  only := hS.only
  once := hS.once
  chain := hS.chain
  made := hS.made

theorem Accounted.addSFCDirection (hS : S.Accounted)
    (hids : S.sfciIDs? sfcUUID directionID = none)
    (hbalancer : S.view.modules (.hashLB sfcUUID directionID) ≠ none)
    (hogates : S.cibm.modules.get? (.hashLB sfcUUID directionID) =
      some Dict.empty) :
    ({ S with cibm := S.cibm.addSFCDirection sfcUUID directionID } :
      Sight).Accounted where
  linked := hS.linked
  merge := hS.merge
  live sfcUUID' directionID' sfciIDs hids' := by
    rw [sfciIDs?, Cibm.addSFCDirection, Dict.get?_set] at hids'
    split at hids'
    · next heq =>
        obtain ⟨rfl, rfl⟩ := Prod.mk.inj heq
        obtain rfl := Option.some.inj hids'
        have hgone := hS.gone _ _ hids
        refine ⟨List.nodup_nil, fun sfciID => ?_, hbalancer, _, hogates, ?_⟩
        · simp [Installed, hgone]
        · simp [hgone]
    · have hlive := hS.live _ _ _ hids'
      exact ⟨hlive.nodup, hlive.mem_iff, hlive.balancer, hlive.gates⟩
  gone sfcUUID' directionID' hids' := by
    rw [sfciIDs?, Cibm.addSFCDirection, Dict.get?_set] at hids'
    split at hids'
    · cases hids'
    · exact hS.gone _ _ hids'
  only := hS.only
  once := hS.once
  chain := hS.chain
  made := hS.made

def delDirection (S : Sight) (sfcUUID : UUID) (directionID : Nat) : Sight where
  cibm := (S.cibm.delModule (.hashLB sfcUUID directionID)).delSFCDirection
    sfcUUID directionID
  view := S.view.after (.destroyModule (.hashLB sfcUUID directionID))

theorem Accounted.links_eq_none (hS : S.Accounted)
    (hids : S.sfciIDs? sfcUUID directionID = some []) (g : Nat) :
    S.view.links (.hashLB sfcUUID directionID) g = none := by
  have hlive := hS.live _ _ _ hids
  cases hlink : S.view.links (.hashLB sfcUUID directionID) g with
  | none => rfl
  | some m =>
      obtain ⟨sfciID, rfl⟩ := hS.only _ _ _ _ hlink
      have hmem : sfciID ∈ [] := (hlive.mem_iff sfciID).mpr ⟨g, hlink⟩
      cases hmem

theorem links_delDirection (hS : S.Accounted)
    (hids : S.sfciIDs? sfcUUID directionID = some []) {n : Name} {g : Nat}
    (hlink : S.view.links n g ≠ some (.hashLB sfcUUID directionID)) :
    (S.delDirection sfcUUID directionID).view.links n g = S.view.links n g := by
  simp only [delDirection, View.after]
  split
  · next h =>
      obtain rfl | h := h
      · exact (hS.links_eq_none hids g).symm
      · exact absurd h hlink
  · rfl

/-- Only `wm2` is connected to load balancers. -/
theorem links_hashLB_delDirection (hS : S.Accounted)
    (hids : S.sfciIDs? sfcUUID directionID = some []) (sfcUUID' : UUID)
    (directionID' g : Nat) :
    (S.delDirection sfcUUID directionID).view.links
      (.hashLB sfcUUID' directionID') g =
        S.view.links (.hashLB sfcUUID' directionID') g := by
  refine links_delDirection hS hids fun hlink => ?_
  obtain ⟨_, hname⟩ := hS.only _ _ _ _ hlink
  cases hname

theorem installed_delDirection_iff (hS : S.Accounted)
    (hids : S.sfciIDs? sfcUUID directionID = some []) {sfcUUID' : UUID}
    {directionID' sfciID : Nat} :
    (S.delDirection sfcUUID directionID).Installed sfcUUID' directionID' sfciID ↔
      S.Installed sfcUUID' directionID' sfciID := by
  simp only [Installed, links_hashLB_delDirection hS hids]

theorem sfciIDs?_delDirection (sfcUUID' : UUID) (directionID' : Nat) :
    (S.delDirection sfcUUID directionID).sfciIDs? sfcUUID' directionID' =
      if (sfcUUID', directionID') = (sfcUUID, directionID) then none
      else S.sfciIDs? sfcUUID' directionID' :=
  Dict.get?_erase ..

theorem Accounted.delDirection (hS : S.Accounted)
    (hids : S.sfciIDs? sfcUUID directionID = some []) :
    (S.delDirection sfcUUID directionID).Accounted where
  linked :=
    hS.linked.after (r := .destroyModule (.hashLB sfcUUID directionID)) trivial
  merge := by simpa [Sight.delDirection, View.after] using hS.merge
  live sfcUUID' directionID' sfciIDs hids' := by
    rw [sfciIDs?_delDirection] at hids'
    split at hids'
    · cases hids'
    · next hne =>
        have hname : Name.hashLB sfcUUID' directionID' ≠
            .hashLB sfcUUID directionID := by
          intro heq
          obtain ⟨rfl, rfl⟩ := Name.hashLB.inj heq
          exact hne rfl
        have hlive := hS.live _ _ _ hids'
        have hogates : (S.delDirection sfcUUID directionID).cibm.modules.get?
            (.hashLB sfcUUID' directionID') =
              S.cibm.modules.get? (.hashLB sfcUUID' directionID') :=
          (Dict.get?_erase ..).trans (if_neg hname)
        refine ⟨hlive.nodup, fun sfciID => ?_, ?_, ?_⟩
        · rw [installed_delDirection_iff hS hids]
          exact hlive.mem_iff sfciID
        · simpa [Sight.delDirection, View.after, hname] using hlive.balancer
        · simp only [hogates, links_hashLB_delDirection hS hids]
          exact hlive.gates
  gone sfcUUID' directionID' hids' g := by
    rw [links_hashLB_delDirection hS hids]
    rw [sfciIDs?_delDirection] at hids'
    split at hids'
    · next heq =>
        obtain ⟨rfl, rfl⟩ := Prod.mk.inj heq
        exact hS.links_eq_none hids g
    · exact hS.gone _ _ hids' g
  only sfcUUID' directionID' g m := by
    rw [links_hashLB_delDirection hS hids]
    exact hS.only _ _ g m
  once sfcUUID₁ sfcUUID₂ directionID' sfciID := by
    rw [installed_delDirection_iff hS hids, installed_delDirection_iff hS hids]
    exact hS.once _ _ directionID' sfciID
  chain sfciID directionID' e he g m := by
    have hlink : S.view.links e.1 g ≠ some (.hashLB sfcUUID directionID) := by
      intro hlink
      have hname := ((hS.chain sfciID directionID' e he g _).mp hlink).2.2
      simp only [sfciLinks, List.mem_cons, List.not_mem_nil, or_false] at he
      obtain rfl | rfl | rfl := he <;> cases hname
    simp only [links_delDirection hS hids hlink,
      installed_delDirection_iff hS hids]
    exact hS.chain sfciID directionID' e he g m
  made sfciID directionID' := by
    simpa [Sight.delDirection, View.after] using hS.made sfciID directionID'

end Sight

end SelfAdaptiveMano.Classifier

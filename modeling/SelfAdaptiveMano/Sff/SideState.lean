import SelfAdaptiveMano.Sff.OutputGates
import Mathlib.Data.List.Flatten

/-!
# The state of a server

`SideShows` says that a server has the objects that the uses of its VNFIs
require, and that its information base counts them. What a further use requires
falls into its ports, modules, links and rules; the first three are required
already where the VNFI is used in all directions of the use.
-/

namespace SelfAdaptiveMano.Sff

open Library Library.Objects

/-- The pipeline has exactly the required objects, and the information base has
the gates and the counts. -/
structure SideShows {β : Type} (chainType : ChainType) (bess : Bess β)
    (B : Set Object) (us : List Use) (ogates : Dict GateKey Nat)
    (side : Side β) : Prop where
  base : IsBase chainType B
  known : side.sibm.ogates.get? chainType.table = some ogates
  gates : Gates us ogates
  shows : bess.Shows side.bess (required chainType B us ogates)
  counts : Counts us side.sibm.vnfiDict

/-- The server is in order for the uses `us`. -/
def SideOk {β : Type} (chainType : ChainType) (bess : Bess β) (B : Set Object)
    (us : List Use) (side : Side β) : Prop :=
  ∃ ogates, SideShows chainType bess B us ogates side

section Required

variable {chainType : ChainType} {B : Set Object} {us : List Use} {u : Use}
  {ogates ogates' : Dict GateKey Nat} {v : UUID} {d : Nat}

theorem present_cons : Present (u :: us) v ↔ u.vnfi.vnfiID = v ∨ Present us v := by
  simp [Present]

theorem used_cons : Used (u :: us) v d ↔
    (u.vnfi.vnfiID = v ∧ d ∈ u.directions) ∨ Used us v d := by
  simp [Used]

theorem Present.mono {us' : List Use} (h : Present us v) (hsub : us ⊆ us') :
    Present us' v := by
  obtain ⟨u, hu, hv⟩ := h
  exact ⟨u, hsub hu, hv⟩

theorem Used.present (h : Used us v d) : Present us v := by
  obtain ⟨u, hu, hv, -⟩ := h
  exact ⟨u, hu, hv⟩

theorem required_congr (h : ∀ v d, Used us v d → ∀ g,
    ogates'.get? (.vnfi v d) = some g ↔ ogates.get? (.vnfi v d) = some g) :
    required chainType B us ogates' = required chainType B us ogates := by
  ext e
  constructor
  · rintro (hB | ⟨hv, he⟩ | ⟨hd, he⟩ | ⟨hd, he⟩ | ⟨hd, hg⟩ | ⟨hu, hd, hg⟩)
    · exact .base hB
    · exact .port hv he
    · exact .module hd he
    · exact .inner hd he
    · exact .gate hd ((h _ _ hd _).mp hg)
    · exact .rule hu hd ((h _ _ ⟨_, hu, rfl, hd⟩ _).mp hg)
  · rintro (hB | ⟨hv, he⟩ | ⟨hd, he⟩ | ⟨hd, he⟩ | ⟨hd, hg⟩ | ⟨hu, hd, hg⟩)
    · exact .base hB
    · exact .port hv he
    · exact .module hd he
    · exact .inner hd he
    · exact .gate hd ((h _ _ hd _).mpr hg)
    · exact .rule hu hd ((h _ _ ⟨_, hu, rfl, hd⟩ _).mpr hg)

def datapath (chainType : ChainType) (ogates : Dict GateKey Nat) (v : UUID)
    (ds : List Nat) : Set Object :=
  {e | e ∈ portObjects v} ∪ {e | e ∈ ds.flatMap (moduleObjects chainType v)} ∪
    {e | e ∈ ds.flatMap (linkObjects chainType ogates v)}

theorem required_mono : required chainType B us ogates ⊆
    required chainType B (u :: us) ogates := by
  rintro e (hB | ⟨hv, he⟩ | ⟨hd, he⟩ | ⟨hd, he⟩ | ⟨hd, hg⟩ | ⟨hu, hd, hg⟩)
  · exact .base hB
  · exact .port (present_cons.mpr (Or.inr hv)) he
  · exact .module (used_cons.mpr (Or.inr hd)) he
  · exact .inner (used_cons.mpr (Or.inr hd)) he
  · exact .gate (used_cons.mpr (Or.inr hd)) hg
  · exact .rule (List.mem_cons_of_mem u hu) hd hg

theorem datapath_subset {ds : List Nat} (hv : Present us v)
    (hd : ∀ d ∈ ds, Used us v d)
    (hgates : ∀ d ∈ ds, ∃ g, ogates.get? (.vnfi v d) = some g) :
    datapath chainType ogates v ds ⊆ required chainType B us ogates := by
  rintro e ((he | he) | he)
  · exact .port hv he
  · obtain ⟨d, hmem, he⟩ := List.mem_flatMap.mp he
    exact .module (hd d hmem) he
  · obtain ⟨d, hmem, he⟩ := List.mem_flatMap.mp he
    obtain rfl | he := List.mem_cons.mp he
    · obtain ⟨g, hg⟩ := hgates d hmem
      rw [hg]
      exact .gate (hd d hmem) hg
    · exact .inner (hd d hmem) he

theorem ruleObjects_subset (hu : u ∈ us) :
    ruleObjects chainType u ogates u.directions ⊆
      required chainType B us ogates := by
  rintro e ⟨d, hd, g, hg, rfl⟩
  exact .rule hu hd hg

theorem required_cons (hgates : ∀ d ∈ u.directions, ∃ g,
      ogates.get? (.vnfi u.vnfi.vnfiID d) = some g) :
    required chainType B (u :: us) ogates = required chainType B us ogates ∪
      datapath chainType ogates u.vnfi.vnfiID u.directions ∪
      ruleObjects chainType u ogates u.directions := by
  apply Set.Subset.antisymm
  · rintro e (hB | ⟨hv, he⟩ | ⟨hd, he⟩ | ⟨hd, he⟩ | ⟨hd, hg⟩ | ⟨hu, hd, hg⟩)
    · exact Or.inl (Or.inl (.base hB))
    · obtain rfl | hv := present_cons.mp hv
      · exact Or.inl (Or.inr (Or.inl (Or.inl he)))
      · exact Or.inl (Or.inl (.port hv he))
    · obtain ⟨rfl, hmem⟩ | hd := used_cons.mp hd
      · exact Or.inl (Or.inr (Or.inl (Or.inr
          (List.mem_flatMap.mpr ⟨_, hmem, he⟩))))
      · exact Or.inl (Or.inl (.module hd he))
    · obtain ⟨rfl, hmem⟩ | hd := used_cons.mp hd
      · exact Or.inl (Or.inr (Or.inr (List.mem_flatMap.mpr
          ⟨_, hmem, List.mem_cons_of_mem _ he⟩)))
      · exact Or.inl (Or.inl (.inner hd he))
    · obtain ⟨rfl, hmem⟩ | hd := used_cons.mp hd
      · refine Or.inl (Or.inr (Or.inr (List.mem_flatMap.mpr ⟨_, hmem, ?_⟩)))
        rw [linkObjects, hg]
        exact List.mem_cons_self
      · exact Or.inl (Or.inl (.gate hd hg))
    · obtain rfl | hu := List.mem_cons.mp hu
      · exact Or.inr ⟨_, hd, _, hg, rfl⟩
      · exact Or.inl (Or.inl (.rule hu hd hg))
  · apply Set.union_subset
    · apply Set.union_subset required_mono
      refine datapath_subset (present_cons.mpr (Or.inl rfl)) ?_ hgates
      exact fun d hd => used_cons.mpr (Or.inl ⟨rfl, hd⟩)
    · exact ruleObjects_subset List.mem_cons_self

theorem Gates.cons (h : Gates us ogates)
    (hassigned : Assigned u.vnfi.vnfiID u.directions ogates ogates') :
    Gates (u :: us) ogates' where
  default := hassigned.kept _ _ h.default
  used := by
    intro v d
    rw [used_cons]
    constructor
    · rintro ⟨g, hg⟩
      obtain hg | ⟨d', hd', heq⟩ := hassigned.only _ g hg
      · exact Or.inr ((h.used v d).mp ⟨g, hg⟩)
      · cases heq
        exact Or.inl ⟨rfl, hd'⟩
    · rintro (⟨rfl, hd⟩ | hd)
      · exact hassigned.all d hd
      · obtain ⟨g, hg⟩ := (h.used v d).mpr hd
        exact ⟨g, hassigned.kept _ g hg⟩
  inj := hassigned.inj h.inj

theorem Gates.iff_of_used (h : Gates us ogates) {ds : List Nat}
    {v' : UUID} (hassigned : Assigned v' ds ogates ogates')
    (hused : Used us v d) (g : Nat) :
    ogates'.get? (.vnfi v d) = some g ↔ ogates.get? (.vnfi v d) = some g := by
  obtain ⟨g', hg'⟩ := (h.used v d).mpr hused
  rw [hassigned.kept _ g' hg', hg']

theorem useCount_cons : useCount (u :: us) v =
    useCount us v + if u.vnfi.vnfiID = v then 1 else 0 := by
  rw [useCount, useCount, List.countP_cons]
  simp

theorem useCount_eq_zero_iff : useCount us v = 0 ↔ ¬ Present us v := by
  rw [useCount, List.countP_eq_zero, Present]
  simp

theorem Counts.cons {vnfiDict : Dict UUID (List VNFI)} (h : Counts us vnfiDict) :
    Counts (u :: us) (vnfiDict.set u.vnfi.vnfiID
      ((vnfiDict.get? u.vnfi.vnfiID).getD [] ++ [u.vnfi])) where
  length := by
    intro v
    have hlength := h.length v
    rw [useCount_cons, Dict.get?_set]
    split
    · next heq =>
        rw [← heq, if_pos rfl, ← hlength, Option.getD_some, List.length_append]
        rfl
    · next hne => rw [if_neg (Ne.symm hne), hlength, Nat.add_zero]
  ne_nil := by
    intro v
    rw [Dict.get?_set]
    split
    · simp
    · exact h.ne_nil v

theorem Counts.contains_iff {vnfiDict : Dict UUID (List VNFI)}
    (h : Counts us vnfiDict) : vnfiDict.contains v = true ↔ Present us v := by
  have hlength := h.length v
  have hne := h.ne_nil v
  rw [← not_iff_not, ← useCount_eq_zero_iff, ← hlength, Dict.contains]
  cases hget : vnfiDict.get? v with
  | none => simp
  | some l =>
      rw [hget] at hne
      have hl : l ≠ [] := fun heq => hne (congrArg some heq)
      simp [hl]

end Required

section Order

variable {chainType : ChainType} {B : Set Object} {us us' : List Use}
  {ogates : Dict GateKey Nat} {v : UUID} {d : Nat}

theorem present_perm (h : us.Perm us') : Present us v ↔ Present us' v :=
  exists_congr fun _ => and_congr_left' h.mem_iff

theorem used_perm (h : us.Perm us') : Used us v d ↔ Used us' v d :=
  exists_congr fun _ => and_congr_left' h.mem_iff

theorem Required.perm (h : us.Perm us') {e : Object}
    (he : Required chainType B us ogates e) :
    Required chainType B us' ogates e := by
  cases he with
  | base hB => exact .base hB
  | port hv hmem => exact .port ((present_perm h).mp hv) hmem
  | module hd hmem => exact .module ((used_perm h).mp hd) hmem
  | inner hd hmem => exact .inner ((used_perm h).mp hd) hmem
  | gate hd hg => exact .gate ((used_perm h).mp hd) hg
  | rule hu hd hg => exact .rule (h.mem_iff.mp hu) hd hg

theorem required_perm (h : us.Perm us') :
    required chainType B us ogates = required chainType B us' ogates :=
  Set.ext fun _ => ⟨Required.perm h, Required.perm h.symm⟩

theorem SideOk.perm {β : Type} {bess : Bess β} {side : Side β}
    (hside : SideOk chainType bess B us side) (h : us.Perm us') :
    SideOk chainType bess B us' side := by
  obtain ⟨ogates, hside⟩ := hside
  refine ⟨ogates, hside.base, hside.known, ?_, ?_, ?_⟩
  · refine ⟨hside.gates.default, fun v d => ?_, hside.gates.inj⟩
    rw [hside.gates.used, used_perm h]
  · rw [← required_perm h]
    exact hside.shows
  · refine ⟨fun v => ?_, hside.counts.ne_nil⟩
    rw [hside.counts.length, useCount, useCount, h.countP_eq]

theorem UsesOk.perm (huses : UsesOk chainType us) (h : us.Perm us') :
    UsesOk chainType us' where
  direction := fun u hu => huses.direction u (h.mem_iff.mpr hu)
  nodup := fun u hu => huses.nodup u (h.mem_iff.mpr hu)
  rules := (h.flatMap_right _).nodup_iff.mp huses.rules

theorem UsesOk.of_sublist (huses : UsesOk chainType us) (h : us'.Sublist us) :
    UsesOk chainType us' where
  direction := fun u hu => huses.direction u (h.subset hu)
  nodup := fun u hu => huses.nodup u (h.subset hu)
  rules := huses.rules.sublist (h.flatMap _)

end Order

end SelfAdaptiveMano.Sff

import SelfAdaptiveMano.Sff.StageAddress

/-!
# The next hops of a chain

The Update module of a VNFI writes the type of the next VNF into the packets.
`getNextVNFID` looks for it behind the first stage that has the type of the VNF,
so that the hops lead through a chain exactly when its types are different.
-/

namespace SelfAdaptiveMano.Sff

open Library

namespace SFCI

def order (sfci : SFCI) (directionID : Nat) : List (List VNFI) :=
  if directionID = 0 then sfci.vnfiSequence else sfci.vnfiSequence.reverse

/-- The type that every VNFI with the type `vnfID` is answered. -/
def Hop (sfci : SFCI) (directionID vnfID nextID : Nat) : Prop :=
  ∀ vnf : VNFI, vnf.vnfID = vnfID →
    getNextVNFID sfci vnf directionID = .ok (some nextID)

/-- The hops from the first stage on visit every stage once and in order, and then
lead to the classifier. -/
def VisitsAll (sfci : SFCI) (directionID : Nat) : Prop :=
  ∃ types, List.Forall₂ IsFirstType types (sfci.order directionID) ∧
    ∀ first ∈ types.head?,
      Successors.Visits (sfci.Hop directionID) VNF_TYPE_CLASSIFIER first types

/-- The stages have VNFIs of different types, and none behind the first has the id
of a classifier. -/
def TypesApart (sfci : SFCI) (directionID : Nat) : Prop :=
  ∃ types, List.Forall₂ IsFirstType types (sfci.order directionID) ∧
    types.Nodup ∧ VNF_TYPE_CLASSIFIER ∉ types.tail

variable {sfci : SFCI} {directionID : Nat} {types : List Nat}

theorem getNextVNFID_eq (hdirection : directionID < 2)
    (htypes : List.Forall₂ IsFirstType types (sfci.order directionID))
    (vnf : VNFI) :
    getNextVNFID sfci vnf directionID =
      .ok (Successors.next VNF_TYPE_CLASSIFIER types vnf.vnfID) := by
  rw [getNextVNFID]
  rw [order] at htypes
  obtain rfl | rfl : directionID = 0 ∨ directionID = 1 := by omega
  · rw [if_pos rfl] at htypes ⊢
    exact nextVNFID_eq htypes _
  · rw [if_neg Nat.one_ne_zero] at htypes ⊢
    exact nextVNFID_eq htypes _

theorem hop_iff (hdirection : directionID < 2)
    (htypes : List.Forall₂ IsFirstType types (sfci.order directionID))
    {vnfID nextID : Nat} :
    sfci.Hop directionID vnfID nextID ↔
      Successors.next VNF_TYPE_CLASSIFIER types vnfID = some nextID := by
  constructor
  · intro h
    have hnext := h ⟨vnfID, ⟨0, 0⟩, .switch⟩ rfl
    rw [getNextVNFID_eq hdirection htypes] at hnext
    exact Except.ok.inj hnext
  · rintro h vnf rfl
    rw [getNextVNFID_eq hdirection htypes, h]

theorem visits_iff (hdirection : directionID < 2)
    (htypes : List.Forall₂ IsFirstType types (sfci.order directionID)) :
    (∀ first ∈ types.head?,
      Successors.Visits (sfci.Hop directionID) VNF_TYPE_CLASSIFIER first types) ↔
      types.Nodup ∧ VNF_TYPE_CLASSIFIER ∉ types.tail := by
  have hhop : sfci.Hop directionID = fun vnfID nextID =>
      Successors.next VNF_TYPE_CLASSIFIER types vnfID = some nextID := by
    funext vnfID nextID
    exact propext (hop_iff hdirection htypes)
  rw [hhop]
  cases types with
  | nil => simp
  | cons first types =>
      simp only [List.head?_cons, Option.mem_def, Option.some.injEq, forall_eq']
      exact Successors.visits_self_iff

/-- The hops lead through a chain exactly when its types are apart. -/
theorem visitsAll_iff (hdirection : directionID < 2) :
    sfci.VisitsAll directionID ↔ sfci.TypesApart directionID := by
  constructor
  · rintro ⟨types, htypes, hvisits⟩
    exact ⟨types, htypes, (visits_iff hdirection htypes).mp hvisits⟩
  · rintro ⟨types, htypes, hapart⟩
    exact ⟨types, htypes, (visits_iff hdirection htypes).mpr hapart⟩

def ofTypes (types : List Nat) : SFCI :=
  ⟨1, types.map fun vnfType => [⟨vnfType, ⟨0, vnfType⟩, .server ⟨0, 0, 0⟩⟩]⟩

theorem forall₂_ofTypes (types : List Nat) :
    List.Forall₂ IsFirstType types (ofTypes types).vnfiSequence :=
  List.forall₂_map_right_iff.mpr (List.forall₂_same.mpr fun _ _ => rfl)

/-- The second direction of a chain with two VNFs. -/
theorem visitsAll_two : 1 < 2 ∧ (ofTypes [2, 3]).VisitsAll 1 := by
  have htypes : List.Forall₂ IsFirstType [3, 2] ((ofTypes [2, 3]).order 1) :=
    List.rel_reverse (forall₂_ofTypes [2, 3])
  exact ⟨Nat.one_lt_two, (visitsAll_iff Nat.one_lt_two).mpr
    ⟨[3, 2], htypes, by decide, by decide⟩⟩

/-- The SFF of the last VNF finds the first stage with the type of its VNF. -/
theorem not_visitsAll_repeated : ¬ ∀ (sfci : SFCI) (directionID : Nat),
    directionID < 2 → sfci.vnfiSequence ≠ [] →
      (∀ vnf ∈ sfci.vnfiSequence, vnf ≠ []) → sfci.VisitsAll directionID := by
  intro h
  obtain ⟨types, htypes, hvisits⟩ :=
    h (ofTypes [2, 3, 2]) 0 Nat.two_pos (by decide) (by decide)
  have hleft : Relator.LeftUnique IsFirstType := by
    intro vnfType vnf vnfType' h h'
    exact Option.some.inj (h.symm.trans h')
  obtain rfl : types = [2, 3, 2] :=
    List.left_unique_forall₂' hleft htypes (forall₂_ofTypes [2, 3, 2])
  obtain ⟨-, -, hrest⟩ :=
    Successors.visits_cons_cons_iff.mp (hvisits 2 rfl)
  obtain ⟨-, -, hlast⟩ := Successors.visits_cons_cons_iff.mp hrest
  have hnext := Successors.visits_singleton_iff.mp hlast ⟨2, ⟨0, 2⟩, .switch⟩ rfl
  have hfirst : getNextVNFID (ofTypes [2, 3, 2]) ⟨2, ⟨0, 2⟩, .switch⟩ 0 =
      .ok (some 3) := rfl
  rw [hfirst] at hnext
  cases hnext

end SFCI

end SelfAdaptiveMano.Sff

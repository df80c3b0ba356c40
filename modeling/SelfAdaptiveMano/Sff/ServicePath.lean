import SelfAdaptiveMano.Sff.Identifier

/-!
# The way of a packet through a service path

The ingress classifier of the P4 controller writes an NSH header, each SFF
passes a packet whose header its exact-match table knows to a VNF and rewrites
the header behind it, and the egress classifier takes off the header that it
matches. The three are written independently: the classifier knows neither
direction nor the hops taken, while the SFF has the direction in the service
path id and counts the service index down.
-/

namespace SelfAdaptiveMano

open Library Library.BitFields

namespace ServicePath

/-- What the SFFs install for one VNFI of an SFCI in one direction: the position
of its VNF in the chain, the header that the rule matches and the header that
the Update module behind the VNFI writes. -/
structure Hop where
  vnfiIdx : Nat
  matchValue : Nat
  updateValue : Nat
  deriving DecidableEq, Repr

def serverID? : Node → Option Nat
  | .server server => some server.serverID
  | .switch _ => none

/-- The first stage of the chain with the VNFI on its server, for which
`_addModules` makes the modules of the VNFI. -/
def moduleIdx (sfci : SFCI) (vnfi : VNFI) : Nat :=
  sfci.vnfiSequence.findIdx fun vnf => vnf.any fun other =>
    other.vnfiID = vnfi.vnfiID ∧ serverID? other.node = serverID? vnfi.node

/-- The rules of `addSFCIHandler` for one direction, from all the servers, which
have no other SFCI. -/
def hops (sfci : SFCI) (directionID : Nat) : List Hop :=
  sfci.vnfiSequence.zipIdx.flatMap fun (vnf, vnfiIdx) =>
    (vnf.filter fun vnfi => (serverID? vnfi.node).isSome).map fun vnfi =>
      { vnfiIdx
        matchValue := SIBMaintainer.getSFFEM1MatchValue sfci vnfiIdx directionID
        updateValue := SIBMaintainer.getUpdateValue4NSH sfci directionID
          (moduleIdx sfci vnfi) }

/-- The header that the ingress classifier encapsulates with: the fields
`FIELD_TYPE_SPI` and `FIELD_TYPE_SI` of `_addsfc`, which are the same for every
direction. -/
def classifierHeader (sfci : SFCI) : Nat :=
  pack [(24, sfci.sfciID), (8, sfci.vnfiSequence.length)]

def egressMatch (sfci : SFCI) : Nat :=
  (sfci.sfciID <<< 8) + sfci.vnfiSequence.length

/-- A packet with the header `header` can pass the VNFs at the positions given,
one after the other, and has the header `final` behind the last one. -/
inductive Visits (rules : List Hop) : Nat → List Nat → Nat → Prop
  | leave (header : Nat) : Visits rules header [] header
  | hop {rule : Hop} {visited : List Nat} {final : Nat} (hrule : rule ∈ rules)
      (rest : Visits rules rule.updateValue visited final) :
      Visits rules rule.matchValue (rule.vnfiIdx :: visited) final

def chainOrder (sfci : SFCI) (directionID : Nat) : List Nat :=
  let order := List.range sfci.vnfiSequence.length
  if directionID = 0 then order else order.reverse

/-- A packet of the direction passes each VNF of the chain once, in the order of
the direction, and leaves with the header that the egress classifier takes
off. -/
def Traverses (sfci : SFCI) (directionID : Nat) : Prop :=
  Visits (hops sfci directionID) (classifierHeader sfci)
    (chainOrder sfci directionID) (egressMatch sfci)

/-! ## Rules and walks -/

theorem mem_hops {sfci : SFCI} {directionID : Nat} {rule : Hop}
    (h : rule ∈ hops sfci directionID) :
    rule.vnfiIdx < sfci.vnfiSequence.length ∧
      rule.matchValue =
        SIBMaintainer.getSFFEM1MatchValue sfci rule.vnfiIdx directionID ∧
      ∃ module, rule.updateValue =
        SIBMaintainer.getUpdateValue4NSH sfci directionID module := by
  obtain ⟨⟨vnf, vnfiIdx⟩, hvnf, hrule⟩ := List.mem_flatMap.mp h
  obtain ⟨vnfi, -, rfl⟩ := List.mem_map.mp hrule
  obtain ⟨-, hlt, -⟩ := List.mem_zipIdx hvnf
  simp only [Nat.zero_add] at hlt
  exact ⟨hlt, rfl, moduleIdx sfci vnfi, rfl⟩

theorem visits_nil {rules : List Hop} {header final : Nat}
    (h : Visits rules header [] final) : header = final := by
  cases h
  rfl

theorem visits_cons {rules : List Hop} {header vnfiIdx final : Nat}
    {visited : List Nat} (h : Visits rules header (vnfiIdx :: visited) final) :
    ∃ rule ∈ rules, rule.vnfiIdx = vnfiIdx ∧ rule.matchValue = header ∧
      Visits rules rule.updateValue visited final := by
  cases h with
  | hop hrule rest => exact ⟨_, hrule, rfl, rfl, rest⟩

theorem Visits.final_written {rules : List Hop} {header final : Nat}
    {visited : List Nat} (h : Visits rules header visited final)
    (hvisited : visited ≠ []) : ∃ rule ∈ rules,
      visited.getLast? = some rule.vnfiIdx ∧ final = rule.updateValue := by
  induction h with
  | leave header => exact (hvisited rfl).elim
  | @hop rule visited final hrule rest ih =>
      cases visited with
      | nil => exact ⟨rule, hrule, rfl, (visits_nil rest).symm⟩
      | cons next visited =>
          obtain ⟨last, hlast, hidx, hfinal⟩ := ih (List.cons_ne_nil _ _)
          exact ⟨last, hlast, by simpa using hidx, hfinal⟩

/-! ## Headers -/

theorem headerWord_le (spi si : Nat) :
    ((spi <<< 8) + si) &&& 0xFFFFFFFF ≤ (spi <<< 8) + si :=
  Nat.and_le_left

theorem updateValue_lt_egressMatch {sfci : SFCI}
    (hchain : sfci.vnfiSequence ≠ []) (module : Nat) :
    SIBMaintainer.getUpdateValue4NSH sfci 0 module < egressMatch sfci := by
  have hpos : 0 < sfci.vnfiSequence.length := List.length_pos_iff.mpr hchain
  have hle := headerWord_le sfci.sfciID (sfci.vnfiSequence.length - module - 1)
  simp only [SIBMaintainer.getUpdateValue4NSH, egressMatch, Nat.zero_shiftLeft,
    Nat.add_zero]
  omega

/-- The classifier leaves out the direction that the SFF looks for at the VNF
that is visited first in direction 1. -/
theorem classifierHeader_ne_matchValue (sfci : SFCI) :
    classifierHeader sfci ≠ SIBMaintainer.getSFFEM1MatchValue sfci
      (sfci.vnfiSequence.length - 1) 1 := by
  intro heq
  have hone : sfci.vnfiSequence.length - (sfci.vnfiSequence.length - 1) < 256 := by
    omega
  simp only [classifierHeader, SIBMaintainer.getSFFEM1MatchValue] at heq
  rw [headerWord_eq hone] at heq
  obtain ⟨hspi, -⟩ := (pack_cons_inj (by rfl)).mp heq
  simp only [Nat.shiftLeft_eq] at hspi
  omega

theorem classifierHeader_eq_egressMatch {sfci : SFCI}
    (hchain : sfci.vnfiSequence = []) :
    classifierHeader sfci = egressMatch sfci ↔ sfci.sfciID < 2 ^ 24 := by
  simp only [classifierHeader, egressMatch, hchain, List.length_nil, pack_cons,
    pack_nil, width_cons, width_nil, Nat.shiftLeft_eq]
  omega

/-! ## Which service paths work -/

theorem not_traverses_zero {sfci : SFCI} (hchain : sfci.vnfiSequence ≠ []) :
    ¬ Traverses sfci 0 := by
  intro htraverses
  have horder : chainOrder sfci 0 ≠ [] := by
    simpa [chainOrder] using hchain
  obtain ⟨rule, hrule, -, hfinal⟩ := htraverses.final_written horder
  obtain ⟨-, -, module, hupdate⟩ := mem_hops hrule
  have hlt := updateValue_lt_egressMatch hchain module
  rw [← hupdate, ← hfinal] at hlt
  exact Nat.lt_irrefl _ hlt

theorem not_traverses_one {sfci : SFCI} (hchain : sfci.vnfiSequence ≠ []) :
    ¬ Traverses sfci 1 := by
  intro htraverses
  have hpos : 0 < sfci.vnfiSequence.length := List.length_pos_iff.mpr hchain
  obtain ⟨n, hn⟩ : ∃ n, sfci.vnfiSequence.length = n + 1 :=
    ⟨sfci.vnfiSequence.length - 1, by omega⟩
  have horder : chainOrder sfci 1 = n :: (List.range n).reverse := by
    simp [chainOrder, hn, List.range_succ]
  rw [Traverses, horder] at htraverses
  obtain ⟨rule, hrule, hidx, hmatch, -⟩ := visits_cons htraverses
  obtain ⟨-, hvalue, -⟩ := mem_hops hrule
  rw [hvalue, hidx] at hmatch
  have hlast : n = sfci.vnfiSequence.length - 1 := by omega
  rw [hlast] at hmatch
  exact classifierHeader_ne_matchValue sfci hmatch.symm

/-- A packet of either direction visits the VNFs of a chain in the order of the
direction, and leaves with the header that the egress classifier takes off,
exactly when there is no VNF to visit and the id of the SFCI fits into the
service path id. -/
theorem traverses_iff_empty (sfci : SFCI) {directionID : Nat}
    (hdirection : directionID = 0 ∨ directionID = 1) :
    Traverses sfci directionID ↔
      sfci.vnfiSequence = [] ∧ sfci.sfciID < 2 ^ 24 := by
  by_cases hchain : sfci.vnfiSequence = []
  · have horder : chainOrder sfci directionID = [] := by
      simp [chainOrder, hchain]
    rw [Traverses, horder, ← classifierHeader_eq_egressMatch hchain]
    constructor
    · intro hvisits
      exact ⟨hchain, visits_nil hvisits⟩
    · rintro ⟨-, heq⟩
      rw [heq]
      exact .leave _
  · have hnot : ¬ Traverses sfci directionID := by
      obtain rfl | rfl := hdirection
      · exact not_traverses_zero hchain
      · exact not_traverses_one hchain
    exact ⟨fun h => (hnot h).elim, fun h => (hchain h.1).elim⟩

def oneFirewall : SFCI where
  sfciID := 1
  vnfiSequence := [[⟨2, ⟨0, 1⟩, "", .server ⟨10001, []⟩, 1⟩]]

theorem traverses_iff_empty_oneFirewall :
    Traverses oneFirewall 1 ↔
      oneFirewall.vnfiSequence = [] ∧ oneFirewall.sfciID < 2 ^ 24 :=
  traverses_iff_empty oneFirewall (.inr rfl)

/-- A packet that has passed the only firewall of a chain leaves with the
service index `0`, while the egress classifier matches the index `1`. -/
theorem oneFirewall_not_decapsulated :
    Visits (hops oneFirewall 0) (classifierHeader oneFirewall) [0] 256 ∧
      ∀ final, Visits (hops oneFirewall 0) (classifierHeader oneFirewall) [0]
        final → final ≠ egressMatch oneFirewall := by
  constructor
  · have hrule : (⟨0, 257, 256⟩ : Hop) ∈ hops oneFirewall 0 := by decide
    exact .hop hrule (.leave _)
  · intro final hvisits
    obtain ⟨rule, hrule, -, -, hrest⟩ := visits_cons hvisits
    have honly : hops oneFirewall 0 = [⟨0, 257, 256⟩] := by decide
    rw [honly, List.mem_singleton] at hrule
    subst hrule
    rw [← visits_nil hrest]
    decide

end ServicePath

end SelfAdaptiveMano

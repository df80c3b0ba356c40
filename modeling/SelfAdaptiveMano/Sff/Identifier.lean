import SelfAdaptiveMano.Base.Sfc
import SelfAdaptiveMano.Library.BitFields
import SelfAdaptiveMano.Library.Python
import SelfAdaptiveMano.VnfController.SourceAllocator

/-!
# The identifiers of a service hop

A service hop is a stage of an SFCI in one direction. The IPv4 routing morphic
and the wildcard table of the SFF write the SFCI, the VNF type and the direction
of the hop into an address `10.0.0.0/8`; the exact-match table matches the NSH
header, with the direction in the service path id and the number of VNFs left
to visit as the service index.

An address has twelve bits for the SFCI, and the ids that the Regulator hands
out go up to `10000`.
-/

namespace SelfAdaptiveMano

open Library Library.BitFields

namespace SIBMaintainer

def getSFFWM2MatchValue (sfciID vnfID directionID : Nat) : Nat :=
  (10 <<< 24) + ((vnfID &&& 0xF) <<< 20)
    + ((sfciID &&& 0xFFF) <<< 8) + ((directionID &&& 0x1) <<< 7)

def getSFFEM1MatchValue (sfci : SFCI) (vnfiIdx directionID : Nat) : Nat :=
  let spi := sfci.sfciID + (directionID <<< 23)
  -- `max(len - vnfiIdx, 0)` is subtraction on the natural numbers
  let si := sfci.vnfiSequence.length - vnfiIdx
  ((spi <<< 8) + si) &&& 0xFFFFFFFF

def getUpdateValue4NSH (sfci : SFCI) (directionID vnfiIdx : Nat) : Nat :=
  let spi := sfci.sfciID + (directionID <<< 23)
  let si := sfci.vnfiSequence.length - vnfiIdx - 1
  ((spi <<< 8) + si) &&& 0xFFFFFFFF

end SIBMaintainer

/-- A routing morphic, with the name it is given and the size of its
identifier. -/
structure RoutingMorphic where
  morphicName : String
  identifierBits : Nat
  deriving DecidableEq, Repr

namespace RoutingMorphic

def ipv4 : RoutingMorphic := ⟨"IPv4", 32⟩

def encodeIdentifierForSFC (morphic : RoutingMorphic) (sfciID vnfID : Nat) :
    Except PyError Nat :=
  if morphic.identifierBits < 32 ∨ morphic.identifierBits % 8 ≠ 0 then
    throw (.valueError "Invalid identifier bits")
  else if morphic.morphicName = "IPv4" then
    return (10 <<< 24) + ((vnfID &&& 0xF) <<< 20)
      + ((sfciID &&& 0xFFF) <<< 8) + (0 &&& 0xFF)
  else
    -- the mask is the text that `hex` returns, and `&` has no text operand
    throw .typeError

def decodeIdentifierDictForSFC (identifierValue : Nat) : Nat × Nat :=
  let vnfID := (identifierValue &&& 0x00F00000) >>> 20
  let sfciID := (identifierValue &&& 0x000FF00) >>> 8
  (sfciID, vnfID)

end RoutingMorphic

namespace SFCIDAllocator

def allocatedRange : Int × Int := (0, 10000)

/-- `allocateSpecificSFCID`, `none` when the id is not free. -/
def allocateSpecificSFCID (sfciID : Nat) (unallocatedList : List (Int × Int)) :
    Option (List (Int × Int)) :=
  (SourceAllocator.takeSpecific sfciID 1 unallocatedList).map
    SourceAllocator.mergeAdjacent

end SFCIDAllocator

/-- A hop of an SFCI: the position of its VNF in the chain, the type of the VNF
and the direction. -/
structure ServiceHop where
  sfci : SFCI
  vnfiIdx : Nat
  vnfID : Nat
  directionID : Nat

namespace ServiceHop

variable (hop hop' : ServiceHop)

def identifier : Except PyError Nat :=
  RoutingMorphic.ipv4.encodeIdentifierForSFC hop.sfci.sfciID hop.vnfID

def wildcardValue : Nat :=
  SIBMaintainer.getSFFWM2MatchValue hop.sfci.sfciID hop.vnfID hop.directionID

def exactValue : Nat :=
  SIBMaintainer.getSFFEM1MatchValue hop.sfci hop.vnfiIdx hop.directionID

/-- The hop is one of an SFCI with an allocated id, in one of the two
directions, and the chain fits into the service index. -/
structure Allocated : Prop where
  inRange : (hop.sfci.sfciID : Int) ≤ SFCIDAllocator.allocatedRange.2
  direction : hop.directionID ≤ 1
  position : hop.vnfiIdx < hop.sfci.vnfiSequence.length
  fits : hop.sfci.vnfiSequence.length < 256

/-- The hops differ in the bits of the SFCI and of the VNF that an address
keeps. -/
def DifferInAddress : Prop :=
  hop.sfci.sfciID % 2 ^ 12 ≠ hop'.sfci.sfciID % 2 ^ 12 ∨
    hop.vnfID % 2 ^ 4 ≠ hop'.vnfID % 2 ^ 4

end ServiceHop

/-! ## The values as bit fields -/

theorem getSFFWM2MatchValue_eq (sfciID vnfID directionID : Nat) :
    SIBMaintainer.getSFFWM2MatchValue sfciID vnfID directionID =
      pack [(8, 10), (4, vnfID), (12, sfciID), (1, directionID), (7, 0)] := by
  have hvnf : vnfID &&& 0xF = vnfID % 2 ^ 4 := land_mask vnfID 4
  have hsfci : sfciID &&& 0xFFF = sfciID % 2 ^ 12 := land_mask sfciID 12
  have hdirection : directionID &&& 0x1 = directionID % 2 ^ 1 :=
    land_mask directionID 1
  simp only [SIBMaintainer.getSFFWM2MatchValue, hvnf, hsfci, hdirection,
    Nat.shiftLeft_eq, pack_cons, pack_nil, width_cons, width_nil]
  omega

theorem encodeIdentifierForSFC_ipv4 (sfciID vnfID : Nat) :
    RoutingMorphic.ipv4.encodeIdentifierForSFC sfciID vnfID =
      .ok (pack [(8, 10), (4, vnfID), (12, sfciID), (8, 0)]) := by
  have hvnf : vnfID &&& 0xF = vnfID % 2 ^ 4 := land_mask vnfID 4
  have hsfci : sfciID &&& 0xFFF = sfciID % 2 ^ 12 := land_mask sfciID 12
  have hvalue : (10 <<< 24) + ((vnfID &&& 0xF) <<< 20)
      + ((sfciID &&& 0xFFF) <<< 8) + (0 &&& 0xFF) =
        pack [(8, 10), (4, vnfID), (12, sfciID), (8, 0)] := by
    simp only [hvnf, hsfci, Nat.shiftLeft_eq, pack_cons, pack_nil, width_cons,
      width_nil, Nat.zero_and]
    omega
  rw [← hvalue]
  rfl

theorem headerWord_eq {spi si : Nat} (hsi : si < 256) :
    ((spi <<< 8) + si) &&& 0xFFFFFFFF = pack [(24, spi), (8, si)] := by
  have hmask : ((spi <<< 8) + si) &&& 0xFFFFFFFF =
      ((spi <<< 8) + si) % 2 ^ 32 := land_mask _ 32
  rw [hmask]
  simp only [Nat.shiftLeft_eq, pack_cons, pack_nil, width_cons, width_nil]
  omega

theorem decodeIdentifierDictForSFC_pack (sfciID vnfID : Nat) :
    RoutingMorphic.decodeIdentifierDictForSFC
        (pack [(8, 10), (4, vnfID), (12, sfciID), (8, 0)]) =
      (sfciID % 2 ^ 8, vnfID % 2 ^ 4) := by
  have hbits (value low width : Nat) :
      (value &&& ((2 ^ width - 1) <<< low)) >>> low =
        value / 2 ^ low % 2 ^ width := by
    apply Nat.eq_of_testBit_eq
    intro i
    simp [Nat.testBit_shiftRight, Nat.testBit_and, Nat.testBit_shiftLeft,
      Nat.testBit_mod_two_pow, Nat.testBit_div_two_pow, Nat.testBit_two_pow_sub_one,
      Nat.add_comm, Bool.and_comm]
  have hvnf := hbits (pack [(8, 10), (4, vnfID), (12, sfciID), (8, 0)]) 20 4
  have hsfci := hbits (pack [(8, 10), (4, vnfID), (12, sfciID), (8, 0)]) 8 8
  simp only [RoutingMorphic.decodeIdentifierDictForSFC]
  refine Prod.ext ?_ ?_
  · refine hsfci.trans ?_
    simp only [pack_cons, pack_nil, width_cons, width_nil]
    omega
  · refine hvnf.trans ?_
    simp only [pack_cons, pack_nil, width_cons, width_nil]
    omega

/-! ## Which hops share a value -/

namespace ServiceHop

variable (hop hop' : ServiceHop)

theorem identifier_eq_iff :
    hop.identifier = hop'.identifier ↔ ¬ DifferInAddress hop hop' := by
  rw [identifier, identifier, encodeIdentifierForSFC_ipv4,
    encodeIdentifierForSFC_ipv4, Except.ok.injEq, DifferInAddress,
    pack_cons_inj, pack_cons_inj, pack_cons_inj]
  · tauto
  all_goals rfl

theorem wildcardValue_eq_iff :
    hop.wildcardValue = hop'.wildcardValue ↔
      ¬ DifferInAddress hop hop' ∧
        hop.directionID % 2 = hop'.directionID % 2 := by
  rw [wildcardValue, wildcardValue, getSFFWM2MatchValue_eq,
    getSFFWM2MatchValue_eq, DifferInAddress, pack_cons_inj, pack_cons_inj,
    pack_cons_inj, pack_cons_inj]
  · tauto
  all_goals rfl

/-- The exact-match values of allocated hops agree only when the SFCI, the
direction and the number of VNFs that are left agree. -/
theorem exactValue_eq {hop hop' : ServiceHop} (h : hop.Allocated)
    (h' : hop'.Allocated) (heq : hop.exactValue = hop'.exactValue) :
    hop.sfci.sfciID = hop'.sfci.sfciID ∧ hop.directionID = hop'.directionID ∧
      hop.sfci.vnfiSequence.length - hop.vnfiIdx =
        hop'.sfci.vnfiSequence.length - hop'.vnfiIdx := by
  obtain ⟨hrange, hdirection, -, hfits⟩ := h
  obtain ⟨hrange', hdirection', -, hfits'⟩ := h'
  simp only [SFCIDAllocator.allocatedRange] at hrange hrange'
  simp only [exactValue, SIBMaintainer.getSFFEM1MatchValue] at heq
  rw [headerWord_eq (Nat.lt_of_le_of_lt (Nat.sub_le ..) hfits),
    headerWord_eq (Nat.lt_of_le_of_lt (Nat.sub_le ..) hfits')] at heq
  obtain ⟨hspi, hindex⟩ := (pack_cons_inj (by rfl)).mp heq
  obtain ⟨hsi, -⟩ := (pack_cons_inj (by rfl)).mp hindex
  simp only [Nat.shiftLeft_eq] at hspi
  have hsfci : hop.sfci.sfciID = hop'.sfci.sfciID := by omega
  have hdir : hop.directionID = hop'.directionID := by omega
  refine ⟨hsfci, hdir, ?_⟩
  omega

/-- Two hops have different identifiers exactly when they differ in the twelve
low bits of the SFCI's id or in the four low bits of the VNF type, and different
wildcard values when they differ in one of these or in the direction. The
exact-match values of hops of different SFCIs, or in different directions, or of
different VNFs of a chain are different. -/
theorem identifiers_differ_iff :
    (hop.identifier ≠ hop'.identifier ↔ DifferInAddress hop hop') ∧
      (hop.wildcardValue ≠ hop'.wildcardValue ↔
        DifferInAddress hop hop' ∨
          hop.directionID % 2 ≠ hop'.directionID % 2) ∧
      (hop.Allocated → hop'.Allocated →
        (hop.sfci.sfciID ≠ hop'.sfci.sfciID ∨
          hop.directionID ≠ hop'.directionID ∨
          (hop.sfci = hop'.sfci ∧ hop.vnfiIdx ≠ hop'.vnfiIdx)) →
        hop.exactValue ≠ hop'.exactValue) := by
  refine ⟨?_, ?_, ?_⟩
  · rw [ne_eq, identifier_eq_iff, not_not]
  · rw [ne_eq, wildcardValue_eq_iff]
    tauto
  · intro h h' hdiffer heq
    obtain ⟨hsfci, hdirection, hleft⟩ := exactValue_eq h h' heq
    obtain hdiffer | hdiffer | ⟨hsame, hdiffer⟩ := hdiffer
    · exact hdiffer hsfci
    · exact hdiffer hdirection
    · have hposition := h.position
      have hposition' := h'.position
      rw [hsame] at hleft hposition
      omega

/-- A firewall in front of the SFCI `sfciID`. -/
def firewallOf (sfciID : Nat) : ServiceHop where
  sfci := ⟨sfciID, [[⟨2, ⟨0, sfciID⟩, "", .server ⟨10001, []⟩, 1⟩]]⟩
  vnfiIdx := 0
  vnfID := 2
  directionID := 0

theorem identifiers_differ_iff_firewallOf :
    ((firewallOf 1).identifier ≠ (firewallOf 2).identifier ↔
        DifferInAddress (firewallOf 1) (firewallOf 2)) ∧
      (firewallOf 1).exactValue ≠ (firewallOf 2).exactValue := by
  obtain ⟨hidentifier, -, hexact⟩ :=
    identifiers_differ_iff (firewallOf 1) (firewallOf 2)
  exact ⟨hidentifier, hexact ⟨by decide, by decide, by decide, by decide⟩
    ⟨by decide, by decide, by decide, by decide⟩ (.inl (by decide))⟩

/-- The SFCIs `0` and `4096` are both handed out, and their firewalls have the
same identifier and the same wildcard value. -/
theorem identifier_shared :
    (∃ unallocatedList,
      SFCIDAllocator.allocateSpecificSFCID 0 [SFCIDAllocator.allocatedRange] =
        some unallocatedList ∧
      (SFCIDAllocator.allocateSpecificSFCID 4096 unallocatedList).isSome) ∧
      (firewallOf 0).identifier = (firewallOf 4096).identifier ∧
      (firewallOf 0).wildcardValue = (firewallOf 4096).wildcardValue :=
  ⟨⟨[(1, 10000)], by decide, by decide⟩, by rfl, by decide⟩

end ServiceHop

end SelfAdaptiveMano

import SelfAdaptiveMano.Base.SocketConverter
import SelfAdaptiveMano.Sff.Identifier

/-!
# Reading identifiers back

The decoder has its own mask for the SFCI of an IPv4 identifier, with eight bits
where the encoder keeps twelve. For the other morphics both compute a mask from the
width of the identifier. The mask is a text, so that neither gets beyond it.
-/

namespace SelfAdaptiveMano

open Library Library.BitFields

namespace RoutingMorphic

/-- `getFullMaskInHex(identifierBits/8 - 2)`: in Python 3 the division gives a
float, of which there is no `range`. -/
def sfciIDMask (py3 : Bool) (identifierBits : Nat) : Except PyError String :=
  if py3 then throw .typeError
  else return SocketConverter.getFullMaskInHex (identifierBits / 8 - 2)

/-- `&` has no text operand. -/
def landText (_ : Nat) (_ : String) : Except PyError Nat := throw .typeError

/-- `encodeIdentifierForSFC` with the mask that it computes. -/
def encodeIdentifier (py3 : Bool) (morphic : RoutingMorphic) (sfciID vnfID : Nat) :
    Except PyError Nat :=
  if morphic.identifierBits < 32 ∨ morphic.identifierBits % 8 ≠ 0 then
    throw (.valueError "Invalid identifier bits")
  else if morphic.morphicName = "IPv4" then
    return (10 <<< 24) + ((vnfID &&& 0xF) <<< 20)
      + ((sfciID &&& 0xFFF) <<< 8) + (0 &&& 0xFF)
  else do
    let sfciIDMask ← sfciIDMask py3 morphic.identifierBits
    return (10 <<< (morphic.identifierBits - 8))
      + ((vnfID &&& 0xFF) <<< (morphic.identifierBits - 16))
      + (← landText sfciID sfciIDMask)

/-- `decodeIdentifierDictForSFC` for every morphic. -/
def decodeIdentifier (py3 : Bool) (morphic : RoutingMorphic)
    (identifierValue : Nat) : Except PyError (Nat × Nat) :=
  if morphic.morphicName = "IPv4" then
    return decodeIdentifierDictForSFC identifierValue
  else if morphic.morphicName = "IPv6" then
    throw (.valueError "Please implement this")
  else do
    let vnfID := (identifierValue >>> (morphic.identifierBits - 16)) &&& 0xFF
    let sfciIDMask ← sfciIDMask py3 morphic.identifierBits
    let sfciID ← landText identifierValue sfciIDMask
    return (sfciID, vnfID)

def RoundTrip (py3 : Bool) (morphic : RoutingMorphic) (sfciID vnfID : Nat) : Prop :=
  (morphic.encodeIdentifier py3 sfciID vnfID >>= morphic.decodeIdentifier py3) =
    .ok (sfciID, vnfID)

def InFields (morphic : RoutingMorphic) (sfciID vnfID : Nat) : Prop :=
  if morphic.morphicName = "IPv4" then sfciID < 2 ^ 12 ∧ vnfID < 2 ^ 4
  else morphic.morphicName ≠ "IPv6" ∧ 32 ≤ morphic.identifierBits ∧
    morphic.identifierBits % 8 = 0 ∧
    sfciID < 2 ^ (morphic.identifierBits - 16) ∧ vnfID < 2 ^ 8

section RoundTrip

variable {py3 : Bool} {morphic : RoutingMorphic} {sfciID vnfID : Nat}

theorem encodeIdentifier_ne_ok (h : morphic.morphicName ≠ "IPv4") (value : Nat) :
    morphic.encodeIdentifier py3 sfciID vnfID ≠ .ok value := by
  rw [encodeIdentifier, if_neg h]
  split
  · exact nofun
  · cases py3
    · exact nofun
    · exact nofun

theorem encodeIdentifier_eq (py3 : Bool) (morphic : RoutingMorphic)
    (sfciID vnfID : Nat) : morphic.encodeIdentifier py3 sfciID vnfID =
      morphic.encodeIdentifierForSFC sfciID vnfID := by
  rw [encodeIdentifier, encodeIdentifierForSFC]
  split
  · rfl
  · split
    · rfl
    · cases py3 <;> rfl

/-- An identifier is read back exactly for the IPv4 morphic and an SFCI of eight
bits. -/
theorem roundTrip_iff (py3 : Bool) (h : InFields morphic sfciID vnfID) :
    RoundTrip py3 morphic sfciID vnfID ↔
      morphic.morphicName = "IPv4" ∧ 32 ≤ morphic.identifierBits ∧
        morphic.identifierBits % 8 = 0 ∧ sfciID < 2 ^ 8 := by
  by_cases hname : morphic.morphicName = "IPv4"
  · rw [InFields, if_pos hname] at h
    by_cases hbits : morphic.identifierBits < 32 ∨ morphic.identifierBits % 8 ≠ 0
    · have hraise : morphic.encodeIdentifier py3 sfciID vnfID =
          .error (.valueError "Invalid identifier bits") := if_pos hbits
      rw [RoundTrip, hraise]
      refine iff_of_false nofun ?_
      rintro ⟨-, hwide, hbytes, -⟩
      rcases hbits with hless | hrest
      · exact Nat.not_lt.mpr hwide hless
      · exact hrest hbytes
    · have hencode : morphic.encodeIdentifier py3 sfciID vnfID =
          ipv4.encodeIdentifierForSFC sfciID vnfID := by
        rw [encodeIdentifier_eq, encodeIdentifierForSFC, if_neg hbits, if_pos hname]
        rfl
      have hdecode : morphic.decodeIdentifier py3 =
          fun value => .ok (decodeIdentifierDictForSFC value) := by
        funext value
        exact if_pos hname
      have hback : RoundTrip py3 morphic sfciID vnfID ↔
          (sfciID % 2 ^ 8, vnfID % 2 ^ 4) = (sfciID, vnfID) := by
        rw [RoundTrip, hencode, encodeIdentifierForSFC_ipv4, hdecode,
          ← decodeIdentifierDictForSFC_pack]
        exact ⟨Except.ok.inj, congrArg Except.ok⟩
      rw [hback, Prod.mk.injEq, Nat.mod_eq_of_lt h.2, and_iff_left rfl]
      rw [not_or, not_lt, not_not] at hbits
      constructor
      · intro heq
        refine ⟨hname, hbits.1, hbits.2, ?_⟩
        rw [← heq]
        exact Nat.mod_lt _ (by decide)
      · rintro ⟨-, -, -, hlt⟩
        exact Nat.mod_eq_of_lt hlt
  · refine iff_of_false ?_ fun hall => hname hall.1
    intro hback
    rw [RoundTrip] at hback
    cases hencode : morphic.encodeIdentifier py3 sfciID vnfID with
    | ok value => exact encodeIdentifier_ne_ok hname value hencode
    | error e =>
        rw [hencode] at hback
        cases hback

theorem roundTrip_iff_first : RoundTrip true ipv4 1 1 :=
  (roundTrip_iff true (by simp [InFields, ipv4])).mpr (by decide)

/-- The ninth bit of the SFCI is lost. -/
theorem not_roundTrip_ninthBit : InFields ipv4 256 1 ∧
    ¬ RoundTrip true ipv4 256 1 := by
  refine ⟨by simp [InFields, ipv4], fun hback => ?_⟩
  have hvalue : (ipv4.encodeIdentifier true 256 1 >>= ipv4.decodeIdentifier true) =
      .ok (0, 1) := rfl
  rw [RoundTrip, hvalue] at hback
  cases hback

end RoundTrip

end RoutingMorphic

end SelfAdaptiveMano

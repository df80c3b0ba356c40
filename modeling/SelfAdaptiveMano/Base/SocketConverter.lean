import SelfAdaptiveMano.Library.BitFields
import Mathlib.Data.Nat.Bitwise
import Std.Data.String.ToNat

/-!
# Addresses, masks and bytes

The conversions of `SocketConverter` and the functions of the modules `socket` and
`struct` that they call. An address is a text; its number has the first byte as the
most significant one. Functions that raise return `none`.
-/

namespace SelfAdaptiveMano

open Library Library.Bytes

/-! ## The library functions -/

def digitValue (c : Char) : Option Nat :=
  if c.isDigit then some (c.toNat - '0'.toNat)
  else if 'a' ≤ c ∧ c ≤ 'f' then some (c.toNat - 'a'.toNat + 10)
  else if 'A' ≤ c ∧ c ≤ 'F' then some (c.toNat - 'A'.toNat + 10)
  else none

def addDigit (base number : Nat) (c : Char) : Option Nat := do
  let digit ← digitValue c
  if digit < base then some (base * number + digit) else none

def readDigits (base : Nat) (digits : List Char) : Option Nat :=
  if digits = [] then none else digits.foldlM (addDigit base) 0

/-- A part of an address: hexadecimal after `0x`, octal after `0`, or decimal. -/
def readPart : List Char → Option Nat
  | '0' :: 'x' :: digits | '0' :: 'X' :: digits => readDigits 16 digits
  | '0' :: digits => readDigits 8 ('0' :: digits)
  | digits => readDigits 10 digits

/-- `socket.inet_aton`: up to four parts, of which the last one fills the bytes
that are left. It also takes an address with white space and more text after it,
which is refused here. -/
def inetAton (addr : String) : Option (List UInt8) := do
  let parts ← (addr.toList.splitOn '.').mapM readPart
  let first := parts.dropLast
  let last ← parts.getLast?
  if first.length < 4 ∧ (∀ part ∈ first, part < 256) ∧
      last < 256 ^ (4 - first.length) then
    some (first.map UInt8.ofNat ++ toBytes last (4 - first.length))
  else none

def inetNtoa (packed : List UInt8) : Option String :=
  if packed.length = 4 then
    some (".".intercalate (packed.map fun b => b.toNat.repr))
  else none

/-- `struct.pack` with the format `!I`. -/
def packWord (value : Nat) : Option (List UInt8) :=
  if value < 256 ^ 4 then some (toBytes value 4) else none

/-- `struct.unpack` with the format `!I`. -/
def unpackWord (packed : List UInt8) : Option Nat :=
  if packed.length = 4 then some (ofBytes packed) else none

/-! ## The converter -/

namespace SocketConverter

def ip2int (addr : String) : Option Nat := (inetAton addr).bind unpackWord

def int2ip (addr : Nat) : Option String := (packWord addr).bind inetNtoa

def ipPrefix2Mask (ipPrefix : Nat) : Option String :=
  let num := (0xFFFFFFFF00000000 >>> ipPrefix) &&& 0xFFFFFFFF
  int2ip num

/-- `bytes2Int`: Python 3 has `int.from_bytes`, Python 2 goes over the bytes. -/
def bytes2Int (py3 : Bool) (bYtes : List UInt8) : Nat :=
  if py3 then ofBytes bYtes
  else bYtes.foldl (fun result b => result * 256 + b.toNat) 0

def int2Bytes (value bytesLength : Nat) : List UInt8 :=
  let result := (List.range bytesLength).map fun i =>
    UInt8.ofNat ((value >>> (i * 8)) &&& 0xff)
  result.reverse

def getFullMaskInHex (identifierBits : Nat) : String :=
  let fullMask := (List.range identifierBits).foldl
    (fun fullMask i => fullMask + (0x1 <<< i)) 0x0
  "0x" ++ String.ofList (Nat.toDigits 16 fullMask)

def agreeUnderMask (num num' : Nat) (ipPrefix : Nat) : Option Bool := do
  let netIPMask ← ipPrefix2Mask ipPrefix
  let netIPMaskNum ← ip2int netIPMask
  return (num &&& netIPMaskNum) == (num' &&& netIPMaskNum)

/-- `isLANIP`: the number behind the slash is read as a natural one, since the
shift raises for a negative one. `int` also takes a sign and white space around the
number, which are refused here. -/
def isLANIP (dstIP net : String) : Option Bool := do
  let dstIPNum ← ip2int dstIP
  let parts := net.toList.splitOn '/'
  let netIP ← parts[0]?
  let netIPNum ← ip2int (String.ofList netIP)
  let text ← parts[1]?
  let netIPPrefixNum ← (String.ofList text).toNat?
  agreeUnderMask dstIPNum netIPNum netIPPrefixNum

end SocketConverter

/-- The text is an address: four bytes in decimal, with dots between them. -/
def IsAddress (addr : String) : Prop :=
  ∃ packed : List UInt8, packed.length = 4 ∧
    addr = ".".intercalate (packed.map fun b => b.toNat.repr)

section Digits

/-! ## Reading addresses -/

theorem digitValue_of_isDigit {c : Char} (h : c.isDigit = true) :
    digitValue c = some (c.toNat - '0'.toNat) := if_pos h

theorem sub_lt_of_isDigit {c : Char} (h : c.isDigit = true) :
    c.toNat - '0'.toNat < 10 := by
  have hle := (Char.isDigit_iff_toNat.mp h).2
  have hzero : '0'.toNat = 48 := rfl
  have hnine : '9'.toNat = 57 := rfl
  omega

/-- Decimal digits are read as `ofDigitChars` reads them. -/
theorem foldlM_addDigit {digits : List Char} (h : ∀ c ∈ digits, c.isDigit = true)
    (number : Nat) : digits.foldlM (addDigit 10) number =
      some (Nat.ofDigitChars 10 digits number) := by
  induction digits generalizing number with
  | nil => rfl
  | cons c digits ih =>
      have hc := h c List.mem_cons_self
      have hstep : addDigit 10 number c =
          some (10 * number + (c.toNat - '0'.toNat)) := by
        rw [addDigit, digitValue_of_isDigit hc]
        exact if_pos (sub_lt_of_isDigit hc)
      rw [List.foldlM_cons, hstep, Nat.ofDigitChars_cons]
      exact ih (fun c hc => h c (List.mem_cons_of_mem _ hc)) _

theorem isDigit_of_mem_toDigits {n : Nat} {c : Char} (h : c ∈ Nat.toDigits 10 n) :
    c.isDigit = true :=
  Nat.isDigit_of_mem_toDigits (by decide) (by decide) h

theorem readDigits_toDigits (n : Nat) :
    readDigits 10 (Nat.toDigits 10 n) = some n := by
  rw [readDigits, if_neg Nat.toDigits_ne_nil,
    foldlM_addDigit fun _ => isDigit_of_mem_toDigits, Nat.ofDigitChars_ten_toDigits]

/-- The decimal digits of a positive number do not start with `0`. -/
theorem head_toDigits_ne {n : Nat} (h : 0 < n) :
    (Nat.toDigits 10 n).head? ≠ some '0' := by
  induction n using Nat.strongRecOn with
  | ind n ih =>
      by_cases hlt : n < 10
      · rw [Nat.toDigits_of_lt_base hlt, List.head?_singleton]
        intro heq
        have hdigit := Nat.toNat_digitChar_sub_48_of_lt_ten hlt
        rw [Option.some.inj heq] at hdigit
        exact Nat.ne_of_gt h hdigit.symm
      · have hfirst := ih (n / 10) (Nat.div_lt_self h (by decide))
          (Nat.div_pos (Nat.le_of_not_lt hlt) (by decide))
        rw [Nat.toDigits_of_base_le (by decide) (Nat.le_of_not_lt hlt),
          List.head?_append]
        rintro heq
        rcases Option.or_eq_some_iff.mp heq with heq | ⟨hnone, -⟩
        · exact hfirst heq
        · exact Nat.toDigits_ne_nil (List.head?_eq_none_iff.mp hnone)

theorem readPart_toDigits (n : Nat) : readPart (Nat.toDigits 10 n) = some n := by
  rcases Nat.eq_zero_or_pos n with rfl | hpos
  · rfl
  · have hhead := head_toDigits_ne hpos
    rw [← readDigits_toDigits n]
    generalize Nat.toDigits 10 n = digits at hhead ⊢
    unfold readPart
    split
    · exact absurd rfl hhead
    · exact absurd rfl hhead
    · exact absurd rfl hhead
    · rfl

theorem splitOn_address {packed : List UInt8} (hne : packed ≠ []) :
    (".".intercalate (packed.map fun b => b.toNat.repr)).toList.splitOn '.' =
      packed.map fun b => Nat.toDigits 10 b.toNat := by
  rw [String.toList_intercalate, List.map_map]
  have hparts : packed.map (String.toList ∘ fun b => b.toNat.repr) =
      packed.map fun b => Nat.toDigits 10 b.toNat :=
    List.map_congr_left fun b _ => Nat.toList_repr
  rw [hparts]
  apply List.splitOn_intercalate '.'
  · intro part hpart hdot
    obtain ⟨b, -, rfl⟩ := List.mem_map.mp hpart
    exact absurd (isDigit_of_mem_toDigits hdot) (by decide)
  · rw [ne_eq, List.map_eq_nil_iff]
    exact hne

theorem inetAton_address {packed : List UInt8} (h : packed.length = 4) :
    inetAton (".".intercalate (packed.map fun b => b.toNat.repr)) = some packed := by
  have hne : packed ≠ [] := by
    rintro rfl
    cases h
  have hread : (packed.map fun b => Nat.toDigits 10 b.toNat).mapM readPart =
      some (packed.map UInt8.toNat) := by
    have hpart : (readPart ∘ fun b : UInt8 => Nat.toDigits 10 b.toNat) =
        fun b => pure b.toNat := by
      funext b
      exact readPart_toDigits b.toNat
    rw [List.mapM_map, hpart, List.mapM_pure]
    rfl
  rw [inetAton, splitOn_address hne, hread]
  match packed, h with
  | [a, b, c, d], _ =>
      have hfirst : ∀ part ∈ [a, b, c].map UInt8.toNat, part < 256 := by
        intro part hpart
        obtain ⟨byte, -, rfl⟩ := List.mem_map.mp hpart
        exact byte.toNat_lt
      have hfits : [a.toNat, b.toNat, c.toNat].length < 4 ∧
          (∀ part ∈ [a.toNat, b.toNat, c.toNat], part < 256) ∧ d.toNat < 256 ^ 1 :=
        ⟨Nat.lt_succ_self 3, hfirst, d.toNat_lt⟩
      have hbytes : [a.toNat, b.toNat, c.toNat].map UInt8.ofNat ++
          toBytes d.toNat 1 = [a, b, c, d] := by
        simp [toBytes_succ]
      exact (if_pos hfits).trans (congrArg some hbytes)

/-! ## Bytes -/

namespace SocketConverter

theorem bytes2Int_eq (py3 : Bool) (bYtes : List UInt8) :
    bytes2Int py3 bYtes = ofBytes bYtes := by
  cases py3 with
  | true => rfl
  | false =>
      change bYtes.foldl (fun result b => result * 256 + b.toNat) 0 = ofBytes bYtes
      induction bYtes using List.reverseRecOn with
      | nil => rfl
      | append_singleton bYtes b ih =>
          rw [List.foldl_append, ih, ofBytes_append]
          rfl

theorem int2Bytes_eq (value bytesLength : Nat) :
    int2Bytes value bytesLength = toBytes value bytesLength := by
  induction bytesLength generalizing value with
  | zero => rfl
  | succ n ih =>
      have hbyte : UInt8.ofNat ((value >>> (0 * 8)) &&& 0xff) = UInt8.ofNat value := by
        apply UInt8.toNat.inj
        rw [Nat.zero_mul, Nat.shiftRight_zero, UInt8.toNat_ofNat', UInt8.toNat_ofNat',
          show 0xff = 2 ^ 8 - 1 from rfl, Nat.and_two_pow_sub_one_eq_mod, Nat.mod_mod]
      have hrest : (fun i => UInt8.ofNat ((value >>> (i * 8)) &&& 0xff)) ∘ Nat.succ =
          fun i => UInt8.ofNat (((value / 256) >>> (i * 8)) &&& 0xff) := by
        funext i
        have hshift : value >>> ((i + 1) * 8) = (value / 256) >>> (i * 8) := by
          rw [Nat.shiftRight_eq_div_pow, Nat.shiftRight_eq_div_pow, Nat.div_div_eq_div_mul,
            Nat.add_mul, Nat.pow_add, Nat.mul_comm]
        exact congrArg (fun n => UInt8.ofNat (n &&& 0xff)) hshift
      rw [toBytes_succ, ← ih, int2Bytes, List.range_succ_eq_map, List.map_cons, hbyte,
        List.map_map, hrest, List.reverse_cons]
      rfl

/-! ## Addresses -/

theorem ip2int_address {packed : List UInt8} (h : packed.length = 4) :
    ip2int (".".intercalate (packed.map fun b => b.toNat.repr)) =
      some (ofBytes packed) := by
  rw [ip2int, inetAton_address h]
  exact if_pos h

theorem int2ip_ofBytes {packed : List UInt8} (h : packed.length = 4) :
    int2ip (ofBytes packed) =
      some (".".intercalate (packed.map fun b => b.toNat.repr)) := by
  have hlt := ofBytes_lt packed
  have hback := toBytes_ofBytes packed
  rw [h] at hlt hback
  rw [int2ip, packWord, if_pos hlt, hback]
  exact if_pos h

theorem int2ip_of_isAddress {addr : String} (h : IsAddress addr) :
    ∃ num < 256 ^ 4, ip2int addr = some num ∧ int2ip num = some addr := by
  obtain ⟨packed, hlength, rfl⟩ := h
  exact ⟨ofBytes packed, hlength ▸ ofBytes_lt packed, ip2int_address hlength,
    int2ip_ofBytes hlength⟩

theorem ip2int_of_lt {num : Nat} (h : num < 256 ^ 4) :
    ∃ addr, IsAddress addr ∧ int2ip num = some addr ∧ ip2int addr = some num := by
  obtain ⟨packed, hlength, rfl⟩ : ∃ packed : List UInt8, packed.length = 4 ∧
      ofBytes packed = num :=
    ⟨toBytes num 4, length_toBytes num 4, by
      rw [ofBytes_toBytes, Nat.mod_eq_of_lt h]⟩
  exact ⟨_, ⟨packed, hlength, rfl⟩, int2ip_ofBytes hlength, ip2int_address hlength⟩

/-! ## Prefixes -/

theorem testBit_mask {ipPrefix i : Nat} (hi : i < 32) :
    ((0xFFFFFFFF00000000 >>> ipPrefix) &&& 0xFFFFFFFF).testBit i =
      decide (32 ≤ ipPrefix + i ∧ ipPrefix + i < 64) := by
  have hmask : 0xFFFFFFFF00000000 = (2 ^ 32 - 1) <<< 32 := rfl
  have hword : 0xFFFFFFFF = 2 ^ 32 - 1 := rfl
  rw [hmask, hword, Nat.testBit_and, Nat.testBit_shiftRight, Nat.testBit_shiftLeft,
    Nat.testBit_two_pow_sub_one, Nat.testBit_two_pow_sub_one]
  rw [decide_eq_true hi, Bool.and_true, ← Bool.decide_and, decide_eq_decide]
  omega

theorem land_mask_eq_iff {num num' mask ipPrefix : Nat} (hnum : num < 2 ^ 32)
    (hnum' : num' < 2 ^ 32) (hle : ipPrefix ≤ 32)
    (hmask : ∀ i < 32, mask.testBit i =
      decide (32 ≤ ipPrefix + i ∧ ipPrefix + i < 64)) :
    num &&& mask = num' &&& mask ↔
      ∀ i < ipPrefix, num.testBit (31 - i) = num'.testBit (31 - i) := by
  constructor
  · intro heq i hi
    have hbit := congrArg (Nat.testBit · (31 - i)) heq
    have hone : mask.testBit (31 - i) = true := by
      rw [hmask _ (by omega), decide_eq_true_eq]
      omega
    simpa only [Nat.testBit_and, hone, Bool.and_true] using hbit
  · intro hbits
    apply Nat.eq_of_testBit_eq
    intro j
    rw [Nat.testBit_and, Nat.testBit_and]
    by_cases hj : j < 32
    · by_cases hin : 32 ≤ ipPrefix + j
      · have hbit := hbits (31 - j) (by omega)
        rw [show 31 - (31 - j) = j by omega] at hbit
        rw [hbit]
      · rw [hmask j hj, decide_eq_false (fun h => hin h.1), Bool.and_false,
          Bool.and_false]
    · have hpow : 2 ^ 32 ≤ 2 ^ j :=
        Nat.pow_le_pow_right (by decide) (Nat.le_of_not_lt hj)
      rw [Nat.testBit_lt_two_pow (Nat.lt_of_lt_of_le hnum hpow),
        Nat.testBit_lt_two_pow (Nat.lt_of_lt_of_le hnum' hpow)]

theorem agreeUnderMask_eq (num num' ipPrefix : Nat) :
    agreeUnderMask num num' ipPrefix =
      some (num &&& ((0xFFFFFFFF00000000 >>> ipPrefix) &&& 0xFFFFFFFF) ==
        num' &&& ((0xFFFFFFFF00000000 >>> ipPrefix) &&& 0xFFFFFFFF)) := by
  have hlt : (0xFFFFFFFF00000000 >>> ipPrefix) &&& 0xFFFFFFFF < 256 ^ 4 :=
    Nat.lt_of_le_of_lt Nat.and_le_right (by decide)
  obtain ⟨addr, -, hint2ip, hip2int⟩ := ip2int_of_lt hlt
  rw [agreeUnderMask, ipPrefix2Mask, hint2ip, Option.bind_eq_bind, Option.bind_some,
    hip2int]
  rfl

theorem isDigit_or_eq_of_mem {packed : List UInt8} {c : Char}
    (h : c ∈ (".".intercalate (packed.map fun b => b.toNat.repr)).toList) :
    c.isDigit = true ∨ c = '.' := by
  rw [String.toList_intercalate] at h
  induction packed with
  | nil => cases h
  | cons b packed ih =>
      have hdigit : c ∈ b.toNat.repr.toList → c.isDigit = true := by
        rw [Nat.toList_repr]
        exact isDigit_of_mem_toDigits
      cases packed with
      | nil => exact Or.inl (hdigit (by simpa using h))
      | cons b' packed =>
          simp only [List.map_cons, List.intercalate_cons_cons] at h
          rcases List.mem_append.mp h with h | h
          · rcases List.mem_append.mp h with h | h
            · exact Or.inl (hdigit h)
            · exact Or.inr (List.mem_singleton.mp h)
          · exact ih h

theorem splitOn_net {netIP : String} (h : IsAddress netIP) (ipPrefix : Nat) :
    (netIP ++ "/" ++ ipPrefix.repr).toList.splitOn '/' =
      [netIP.toList, Nat.toDigits 10 ipPrefix] := by
  have htext : (netIP ++ "/" ++ ipPrefix.repr).toList =
      ['/'].intercalate [netIP.toList, Nat.toDigits 10 ipPrefix] := by
    rw [String.toList_append, String.toList_append, Nat.toList_repr,
      List.append_assoc]
    simp
  rw [htext]
  apply List.splitOn_intercalate '/' _ (by simp)
  intro part hpart hslash
  rcases List.mem_cons.mp hpart with rfl | hpart
  · obtain ⟨packed, -, rfl⟩ := h
    rcases isDigit_or_eq_of_mem hslash with hdigit | hdot
    · exact absurd hdigit (by decide)
    · exact absurd hdot (by decide)
  · rw [List.mem_singleton.mp hpart] at hslash
    exact absurd (isDigit_of_mem_toDigits hslash) (by decide)

/-- The conversions are inverse to each other, and an address is in a net when it
agrees with the address of the net on the bits of the prefix. -/
theorem inverse_and_isLANIP_iff :
    (∀ py3 value bytesLength, value < 256 ^ bytesLength →
      bytes2Int py3 (int2Bytes value bytesLength) = value) ∧
    (∀ py3 bYtes, int2Bytes (bytes2Int py3 bYtes) bYtes.length = bYtes) ∧
    (∀ num < 2 ^ 32, ∃ addr, IsAddress addr ∧ int2ip num = some addr ∧
      ip2int addr = some num) ∧
    (∀ addr, IsAddress addr → ∃ num < 2 ^ 32, ip2int addr = some num ∧
      int2ip num = some addr) ∧
    ∀ dstIP netIP, IsAddress dstIP → IsAddress netIP → ∀ ipPrefix ≤ 32,
      ∃ dstIPNum netIPNum agree, ip2int dstIP = some dstIPNum ∧
        ip2int netIP = some netIPNum ∧
        isLANIP dstIP (netIP ++ "/" ++ ipPrefix.repr) = some agree ∧
        (agree = true ↔ ∀ i < ipPrefix,
          dstIPNum.testBit (31 - i) = netIPNum.testBit (31 - i)) := by
  refine ⟨fun py3 value bytesLength hvalue => ?_, fun py3 bYtes => ?_,
    fun num hnum => ip2int_of_lt hnum, fun addr haddr => int2ip_of_isAddress haddr,
    fun dstIP netIP hdstIP hnetIP ipPrefix hle => ?_⟩
  · rw [bytes2Int_eq, int2Bytes_eq, ofBytes_toBytes, Nat.mod_eq_of_lt hvalue]
  · rw [bytes2Int_eq, int2Bytes_eq, toBytes_ofBytes]
  · obtain ⟨dstIPNum, hdst, hdstNum, -⟩ := int2ip_of_isAddress hdstIP
    obtain ⟨netIPNum, hnet, hnetNum, -⟩ := int2ip_of_isAddress hnetIP
    refine ⟨dstIPNum, netIPNum, _, hdstNum, hnetNum, ?_,
      beq_iff_eq.trans (land_mask_eq_iff hdst hnet hle fun _ => testBit_mask)⟩
    have htext : String.ofList (Nat.toDigits 10 ipPrefix) = ipPrefix.repr :=
      Nat.repr_eq_ofList_toDigits.symm
    have hparts : isLANIP dstIP (netIP ++ "/" ++ ipPrefix.repr) =
        ((String.ofList (Nat.toDigits 10 ipPrefix)).toNat?).bind
          (agreeUnderMask dstIPNum netIPNum) := by
      simp only [isLANIP, hdstNum, splitOn_net hnetIP, Option.bind_eq_bind,
        Option.bind_some, List.getElem?_cons_zero, List.getElem?_cons_succ,
        String.ofList_toList, hnetNum]
    rw [hparts, htext, Nat.toNat?_repr, Option.bind_some, agreeUnderMask_eq]

end SocketConverter

end Digits

end SelfAdaptiveMano

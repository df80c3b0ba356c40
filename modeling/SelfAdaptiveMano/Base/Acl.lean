import SelfAdaptiveMano.Library.Python
import SelfAdaptiveMano.Library.Words
import SelfAdaptiveMano.Base.SocketConverter

/-!
# Lines for the firewall

A rule of a firewall says which packets it is about and whether they are let
through. `genFWLine` writes the rule as a line of the firewall's own language: a
primitive for each field that the rule constrains, and `&&` between them. A port
bound that every port meets is left out.

The firewall itself is not part of this repository. `IsIPFilter` says what is
relied on, and `ipFilter` is a reader of the lines that meets it.
-/

namespace SelfAdaptiveMano.Acl

open Library Library.Bytes Library.Words

/-! ## Rules -/

inductive Action where
  | allow
  | deny
  deriving DecidableEq, Repr

structure Address where
  packed : List UInt8
  length_packed : packed.length = 4
  deriving DecidableEq, Repr

structure NetAddress where
  address : Address
  ipPrefix : Option (Fin 33)
  deriving DecidableEq, Repr

abbrev Port := Fin 65536

/-- A closed interval, either of whose ends may be missing. -/
abbrev PortRange := Option Port × Option Port

structure ACLTuple where
  action : Action
  proto : Option (Fin 256)
  srcAddr : Option NetAddress
  dstAddr : Option NetAddress
  srcPort : Option PortRange
  dstPort : Option PortRange
  deriving DecidableEq, Repr

/-! ## The line of a rule -/

def Action.text : Action → String
  | .allow => "allow"
  | .deny => "deny"

def Address.text (address : Address) : String :=
  ".".intercalate (address.packed.map fun b => b.toNat.repr)

def NetAddress.text (net : NetAddress) : String :=
  match net.ipPrefix with
  | none => net.address.text
  | some ipPrefix => net.address.text ++ "/" ++ ipPrefix.val.repr

def lowerBound (range : Option PortRange) : Option Port :=
  (range.bind Prod.fst).filter (· ≠ 0)

def upperBound (range : Option PortRange) : Option Port :=
  (range.bind Prod.snd).filter (· ≠ 65535)

namespace ACLTuple

def isWildcard (acl : ACLTuple) : Bool :=
  acl.proto.isNone && acl.srcAddr.isNone && acl.dstAddr.isNone &&
    acl.srcPort.isNone && acl.dstPort.isNone

def entries (acl : ACLTuple) : List String :=
  (acl.proto.map fun proto => "ip proto " ++ proto.val.repr).toList ++
  (acl.srcAddr.map fun net => "src " ++ net.text).toList ++
  (acl.dstAddr.map fun net => "dst " ++ net.text).toList ++
  (lowerBound acl.srcPort |>.map fun port => "src port >= " ++ port.val.repr).toList ++
  (upperBound acl.srcPort |>.map fun port => "src port <= " ++ port.val.repr).toList ++
  (lowerBound acl.dstPort |>.map fun port => "dst port >= " ++ port.val.repr).toList ++
  (upperBound acl.dstPort |>.map fun port => "dst port <= " ++ port.val.repr).toList

def genFWLine (acl : ACLTuple) : Except PyError String :=
  let line := acl.action.text
  if acl.isWildcard then .ok (line ++ " all")
  else
    -- the first entry is read whether or not there is one
    match acl.entries with
    | [] => .error .indexError
    | entry :: entries =>
        .ok (entries.foldl (fun line entry => line ++ " && " ++ entry)
          (line ++ " " ++ entry))

end ACLTuple

/-! ## Packets -/

/-- The header fields that a rule is about. Only some protocols have ports. -/
structure Packet where
  proto : Fin 256
  srcAddr : Address
  dstAddr : Address
  srcPort : Option Port
  dstPort : Option Port
  deriving DecidableEq, Repr

def NetAddress.Contains (net : NetAddress) (address : Address) : Prop :=
  ∀ i < (net.ipPrefix.map Fin.val).getD 32,
    (ofBytes address.packed).testBit (31 - i) =
      (ofBytes net.address.packed).testBit (31 - i)

instance (net : NetAddress) (address : Address) : Decidable (net.Contains address) :=
  inferInstanceAs (Decidable (∀ i < _, _))

namespace PortRange

def Contains (range : PortRange) (port : Port) : Prop :=
  (∀ minPort ∈ range.1, minPort ≤ port) ∧ ∀ maxPort ∈ range.2, port ≤ maxPort

def Full (range : PortRange) : Prop :=
  (∀ minPort ∈ range.1, minPort = 0) ∧ ∀ maxPort ∈ range.2, maxPort = 65535

instance (range : PortRange) (port : Port) : Decidable (Contains range port) :=
  inferInstanceAs (Decidable (_ ∧ _))

instance (range : PortRange) : Decidable (Full range) :=
  inferInstanceAs (Decidable (_ ∧ _))

/-- A packet with this port, or without one, is in the range. -/
def Admits (range : PortRange) (port : Option Port) : Prop :=
  Full range ∨ ∃ p ∈ port, Contains range p

instance (range : PortRange) (port : Option Port) : Decidable (Admits range port) :=
  inferInstanceAs (Decidable (_ ∨ _))

end PortRange

/-- The rule is about the packet. -/
def ACLTuple.Matches (acl : ACLTuple) (packet : Packet) : Prop :=
  (∀ proto ∈ acl.proto, packet.proto = proto) ∧
  (∀ net ∈ acl.srcAddr, net.Contains packet.srcAddr) ∧
  (∀ net ∈ acl.dstAddr, net.Contains packet.dstAddr) ∧
  (∀ range ∈ acl.srcPort, PortRange.Admits range packet.srcPort) ∧
  ∀ range ∈ acl.dstPort, PortRange.Admits range packet.dstPort

instance (acl : ACLTuple) (packet : Packet) : Decidable (acl.Matches packet) :=
  inferInstanceAs (Decidable (_ ∧ _))

/-! ## The language of the firewall -/

inductive Side where
  | src
  | dst
  deriving DecidableEq, Repr

def Side.text : Side → String
  | .src => "src"
  | .dst => "dst"

def Packet.addr (packet : Packet) : Side → Address
  | .src => packet.srcAddr
  | .dst => packet.dstAddr

def Packet.port (packet : Packet) : Side → Option Port
  | .src => packet.srcPort
  | .dst => packet.dstPort

inductive Primitive where
  | ipProto (proto : Fin 256)
  | addr (side : Side) (net : NetAddress)
  | portGe (side : Side) (port : Port)
  | portLe (side : Side) (port : Port)
  deriving DecidableEq, Repr

namespace Primitive

def write : Primitive → List String
  | ipProto proto => ["ip", "proto", proto.val.repr]
  | addr side net => [side.text, net.text]
  | portGe side port => [side.text, "port", ">=", port.val.repr]
  | portLe side port => [side.text, "port", "<=", port.val.repr]

def Holds (packet : Packet) : Primitive → Prop
  | ipProto proto => packet.proto = proto
  | addr side net => net.Contains (packet.addr side)
  | portGe side port => ∃ p ∈ packet.port side, port ≤ p
  | portLe side port => ∃ p ∈ packet.port side, p ≤ port

instance (packet : Packet) : DecidablePred (Holds packet)
  | ipProto _ => inferInstanceAs (Decidable (_ = _))
  | addr _ _ => inferInstanceAs (Decidable (NetAddress.Contains _ _))
  | portGe _ _ => inferInstanceAs (Decidable (∃ p ∈ _, _))
  | portLe _ _ => inferInstanceAs (Decidable (∃ p ∈ _, _))

end Primitive

/-- What is relied on of the firewall: `all` is about every packet, and primitives
with `&&` between them are about the packets that meet them all. -/
structure IsIPFilter (filter : String → Packet → Option Action) : Prop where
  all (action : Action) (packet : Packet) :
    filter (action.text ++ " all") packet = some action
  conjunction (action : Action) {primitives : List Primitive} (hne : primitives ≠ [])
    (packet : Packet) :
    filter (action.text ++ " " ++
        " && ".intercalate (primitives.map fun p => unwords p.write)) packet =
      if ∀ p ∈ primitives, p.Holds packet then some action else none

/-! ## A reader of the lines -/

def Action.ofText (text : String) : Option Action :=
  if text = "allow" then some .allow else if text = "deny" then some .deny else none

def Side.ofText (text : String) : Option Side :=
  if text = "src" then some .src else if text = "dst" then some .dst else none

def readAddress (text : String) : Option Address := do
  let packed ← inetAton text
  if h : packed.length = 4 then some ⟨packed, h⟩ else none

def readFin (n : Nat) (text : String) : Option (Fin n) := do
  let number ← text.toNat?
  if h : number < n then some ⟨number, h⟩ else none

def readNet (text : String) : Option NetAddress :=
  match text.toList.splitOn '/' with
  | [address] => do
      let address ← readAddress (String.ofList address)
      return ⟨address, none⟩
  | [address, ipPrefix] => do
      let address ← readAddress (String.ofList address)
      let ipPrefix ← readFin 33 (String.ofList ipPrefix)
      return ⟨address, some ipPrefix⟩
  | _ => none

def Primitive.read : List String → Option Primitive
  | [side, net] => do return .addr (← Side.ofText side) (← readNet net)
  | ["ip", "proto", proto] => do return .ipProto (← readFin 256 proto)
  | [side, "port", ">=", port] => do
      return .portGe (← Side.ofText side) (← readFin 65536 port)
  | [side, "port", "<=", port] => do
      return .portLe (← Side.ofText side) (← readFin 65536 port)
  | _ => none

theorem Action.ofText_text (action : Action) : Action.ofText action.text = some action := by
  cases action <;> rfl

theorem Side.ofText_text (side : Side) : Side.ofText side.text = some side := by
  cases side <;> rfl

theorem readFin_repr {n : Nat} (number : Fin n) :
    readFin n number.val.repr = some number := by
  rw [readFin, Nat.toNat?_repr, Option.bind_eq_bind, Option.bind_some]
  exact dif_pos number.isLt

theorem readAddress_text (address : Address) : readAddress address.text = some address := by
  rw [readAddress, Address.text, inetAton_address address.length_packed,
    Option.bind_eq_bind, Option.bind_some]
  exact dif_pos address.length_packed

theorem Address.isAddress_text (address : Address) : IsAddress address.text :=
  ⟨address.packed, address.length_packed, rfl⟩

theorem Address.isDigit_or_eq {address : Address} {c : Char}
    (h : c ∈ address.text.toList) : c.isDigit = true ∨ c = '.' :=
  SocketConverter.isDigit_or_eq_of_mem h

theorem readNet_text (net : NetAddress) : readNet net.text = some net := by
  rcases net with ⟨address, _ | ipPrefix⟩
  · have hnone : ∀ l ∈ [address.text.toList], '/' ∉ l := by
      intro l hl hmem
      rw [List.mem_singleton.mp hl] at hmem
      rcases Address.isDigit_or_eq hmem with h | h
      · exact absurd h (by decide)
      · exact absurd h (by decide)
    have hslash : address.text.toList.splitOn '/' = [address.text.toList] := by
      have hsplit := List.splitOn_intercalate '/' hnone (List.cons_ne_nil _ _)
      rwa [List.intercalate_singleton] at hsplit
    have hread : readNet address.text =
        (readAddress (String.ofList address.text.toList)).bind
          fun address => some ⟨address, none⟩ := by
      rw [readNet, hslash]
      rfl
    rw [NetAddress.text, hread, String.ofList_toList, readAddress_text,
      Option.bind_some]
  · have hread : readNet (address.text ++ "/" ++ ipPrefix.val.repr) =
        (readAddress (String.ofList address.text.toList)).bind fun address =>
          (readFin 33 (String.ofList (Nat.toDigits 10 ipPrefix.val))).bind
            fun ipPrefix => some ⟨address, some ipPrefix⟩ := by
      rw [readNet, SocketConverter.splitOn_net address.isAddress_text]
      rfl
    rw [NetAddress.text, hread, String.ofList_toList, readAddress_text,
      Option.bind_some, ← Nat.repr_eq_ofList_toDigits, readFin_repr, Option.bind_some]

theorem Primitive.read_write (primitive : Primitive) :
    Primitive.read primitive.write = some primitive := by
  cases primitive with
  | ipProto proto =>
      rw [Primitive.write, Primitive.read, readFin_repr]
      rfl
  | addr side net =>
      rw [Primitive.write, Primitive.read, Side.ofText_text, readNet_text]
      rfl
  | portGe side port =>
      rw [Primitive.write, Primitive.read, Side.ofText_text, readFin_repr]
      rfl
  | portLe side port =>
      rw [Primitive.write, Primitive.read, Side.ofText_text, readFin_repr]
      rfl

/-! ## The words of a primitive -/

/-- The text has no blank, and is not the word between two primitives. -/
def IsTerm (text : String) : Prop := IsWord text ∧ text ≠ "&&"

theorem isTerm_of_forall_mem {text : String}
    (h : ∀ c ∈ text.toList, c ≠ ' ' ∧ c ≠ '&') : IsTerm text := by
  constructor
  · intro hmem
    exact (h ' ' hmem).1 rfl
  · rintro rfl
    exact (h '&' (by decide)).2 rfl

theorem ne_of_isDigit {c : Char} (h : c.isDigit = true) : c ≠ ' ' ∧ c ≠ '&' := by
  constructor <;> rintro rfl <;> exact absurd h (by decide)

theorem isTerm_repr (n : Nat) : IsTerm n.repr := by
  apply isTerm_of_forall_mem
  intro c hc
  rw [Nat.toList_repr] at hc
  exact ne_of_isDigit (isDigit_of_mem_toDigits hc)

theorem Address.ne_of_mem {address : Address} {c : Char} (h : c ∈ address.text.toList) :
    c ≠ ' ' ∧ c ≠ '&' := by
  rcases Address.isDigit_or_eq h with h | rfl
  · exact ne_of_isDigit h
  · decide

theorem isTerm_net (net : NetAddress) : IsTerm net.text := by
  apply isTerm_of_forall_mem
  intro c hc
  rcases net with ⟨address, _ | ipPrefix⟩
  · exact Address.ne_of_mem hc
  · have htext : (NetAddress.text ⟨address, some ipPrefix⟩).toList =
        address.text.toList ++ '/' :: Nat.toDigits 10 ipPrefix.val := by
      simp [NetAddress.text]
    rw [htext] at hc
    rcases List.mem_append.mp hc with hc | hc
    · exact Address.ne_of_mem hc
    · rcases List.mem_cons.mp hc with rfl | hc
      · decide
      · exact ne_of_isDigit (isDigit_of_mem_toDigits hc)

theorem isTerm_side (side : Side) : IsTerm side.text := by
  cases side with
  | src => exact ⟨by decide, by decide⟩
  | dst => exact ⟨by decide, by decide⟩

theorem Primitive.isTerm {primitive : Primitive} {w : String} (h : w ∈ primitive.write) :
    IsTerm w := by
  have hip : IsTerm "ip" := ⟨by decide, by decide⟩
  have hproto : IsTerm "proto" := ⟨by decide, by decide⟩
  have hport : IsTerm "port" := ⟨by decide, by decide⟩
  have hge : IsTerm ">=" := ⟨by decide, by decide⟩
  have hle : IsTerm "<=" := ⟨by decide, by decide⟩
  cases primitive with
  | ipProto proto =>
      simp only [Primitive.write, List.mem_cons, List.not_mem_nil, or_false] at h
      rcases h with rfl | rfl | rfl
      · exact hip
      · exact hproto
      · exact isTerm_repr proto
  | addr side net =>
      simp only [Primitive.write, List.mem_cons, List.not_mem_nil, or_false] at h
      rcases h with rfl | rfl
      · exact isTerm_side side
      · exact isTerm_net net
  | portGe side port =>
      simp only [Primitive.write, List.mem_cons, List.not_mem_nil, or_false] at h
      rcases h with rfl | rfl | rfl | rfl
      · exact isTerm_side side
      · exact hport
      · exact hge
      · exact isTerm_repr port
  | portLe side port =>
      simp only [Primitive.write, List.mem_cons, List.not_mem_nil, or_false] at h
      rcases h with rfl | rfl | rfl | rfl
      · exact isTerm_side side
      · exact hport
      · exact hle
      · exact isTerm_repr port

def format : Format Primitive "&&" where
  write := Primitive.write
  read := Primitive.read
  read_write := Primitive.read_write
  write_ne_nil primitive := by cases primitive <;> exact List.cons_ne_nil _ _
  isWord _ _ h := (Primitive.isTerm h).1
  sep_not_mem _ h := (Primitive.isTerm h).2 rfl

def ipFilter (line : String) (packet : Packet) : Option Action := do
  let action ← Action.ofText (← (words line).head?)
  match format.readAll (words line).tail with
  | some primitives => if ∀ p ∈ primitives, p.Holds packet then some action else none
  | none => if (words line).tail = ["all"] then some action else none

theorem Action.isWord_text (action : Action) : IsWord action.text := by
  cases action <;> decide

theorem isIPFilter_ipFilter : IsIPFilter ipFilter where
  all action packet := by
    have hwords : words (action.text ++ " all") = [action.text, "all"] := by
      cases action <;> decide
    have hread : format.readAll ["all"] = none := by decide
    simp [ipFilter, hwords, Action.ofText_text, hread]
  conjunction action primitives hne packet := by
    have hsep : " && " = " " ++ "&&" ++ " " := by decide
    have hwords := format.words_line action.isWord_text (by decide) hne
    have hline : words (action.text ++ " " ++
        " && ".intercalate (primitives.map fun p => unwords p.write)) =
          action.text :: joined "&&" (primitives.map format.write) := hsep ▸ hwords
    simp [ipFilter, hline, Action.ofText_text, format.readAll_joined hne]

/-! ## The line is about the packets of the rule -/

def portPrimitives (side : Side) (range : Option PortRange) : List Primitive :=
  ((lowerBound range).map (Primitive.portGe side)).toList ++
    ((upperBound range).map (Primitive.portLe side)).toList

theorem lowerBound_some (range : PortRange) :
    lowerBound (some range) = range.1.filter (· ≠ 0) := rfl

theorem upperBound_some (range : PortRange) :
    upperBound (some range) = range.2.filter (· ≠ 65535) := rfl

theorem forall_lowerBound_iff (range : PortRange) (port : Port) :
    (∀ minPort ∈ lowerBound (some range), minPort ≤ port) ↔
      ∀ minPort ∈ range.1, minPort ≤ port := by
  rw [lowerBound_some]
  constructor
  · intro h minPort hmin
    by_cases hzero : minPort = 0
    · rw [hzero]
      exact Fin.zero_le port
    · exact h minPort (Option.mem_filter_iff.mpr ⟨hmin, decide_eq_true hzero⟩)
  · intro h minPort hmin
    exact h minPort (Option.mem_filter_iff.mp hmin).1

theorem forall_upperBound_iff (range : PortRange) (port : Port) :
    (∀ maxPort ∈ upperBound (some range), port ≤ maxPort) ↔
      ∀ maxPort ∈ range.2, port ≤ maxPort := by
  rw [upperBound_some]
  constructor
  · intro h maxPort hmax
    by_cases hlast : maxPort = 65535
    · rw [hlast]
      exact Fin.le_last port
    · exact h maxPort (Option.mem_filter_iff.mpr ⟨hmax, decide_eq_true hlast⟩)
  · intro h maxPort hmax
    exact h maxPort (Option.mem_filter_iff.mp hmax).1

theorem forall_mem_toList_map {α β : Type*} {f : α → β} {o : Option α} {P : β → Prop} :
    (∀ b ∈ (o.map f).toList, P b) ↔ ∀ a ∈ o, P (f a) := by
  cases o <;> simp

theorem full_iff_portPrimitives (side : Side) (range : PortRange) :
    PortRange.Full range ↔ portPrimitives side (some range) = [] := by
  rw [portPrimitives, List.append_eq_nil_iff, Option.toList_eq_nil_iff,
    Option.toList_eq_nil_iff, Option.map_eq_none_iff, Option.map_eq_none_iff,
    lowerBound_some, upperBound_some, Option.filter_eq_none_iff,
    Option.filter_eq_none_iff]
  simp [PortRange.Full, Option.mem_def]

theorem holds_portPrimitives_iff {side : Side} {packet : Packet} {port : Port}
    (hport : packet.port side = some port) (range : PortRange) :
    (∀ p ∈ portPrimitives side (some range), p.Holds packet) ↔
      PortRange.Contains range port := by
  have hge : ∀ minPort, Primitive.Holds packet (.portGe side minPort) ↔
      minPort ≤ port := by
    intro minPort
    simp [Primitive.Holds, hport]
  have hle : ∀ maxPort, Primitive.Holds packet (.portLe side maxPort) ↔
      port ≤ maxPort := by
    intro maxPort
    simp [Primitive.Holds, hport]
  rw [portPrimitives, List.forall_mem_append, forall_mem_toList_map, forall_mem_toList_map]
  simp only [hge, hle]
  exact and_congr (forall_lowerBound_iff range port) (forall_upperBound_iff range port)

/-- A packet without a port meets none of the primitives. -/
theorem not_holds_portPrimitives {side : Side} {packet : Packet}
    (hport : packet.port side = none) {range : Option PortRange} :
    ∀ p ∈ portPrimitives side range, ¬ p.Holds packet := by
  rw [portPrimitives, List.forall_mem_append, forall_mem_toList_map, forall_mem_toList_map]
  constructor
  · intro minPort _ h
    obtain ⟨p, hp, -⟩ := h
    rw [hport] at hp
    cases hp
  · intro maxPort _ h
    obtain ⟨p, hp, -⟩ := h
    rw [hport] at hp
    cases hp

theorem admits_iff (side : Side) (range : Option PortRange) (packet : Packet) :
    (∀ r ∈ range, PortRange.Admits r (packet.port side)) ↔
      ∀ p ∈ portPrimitives side range, p.Holds packet := by
  cases range with
  | none => simp [portPrimitives, lowerBound, upperBound]
  | some range =>
      have hone : (∀ r ∈ some range, PortRange.Admits r (packet.port side)) ↔
          PortRange.Admits range (packet.port side) := by simp
      rw [hone]
      by_cases hfull : PortRange.Full range
      · have hnil := (full_iff_portPrimitives side range).mp hfull
        rw [hnil]
        exact iff_of_true (Or.inl hfull) (List.forall_mem_nil _)
      · rw [PortRange.Admits, or_iff_right hfull]
        cases hport : packet.port side with
        | none =>
            apply iff_of_false
            · rintro ⟨p, hp, -⟩
              cases hp
            · intro h
              obtain ⟨p, hp⟩ := List.exists_mem_of_ne_nil _
                (mt (full_iff_portPrimitives side range).mpr hfull)
              exact not_holds_portPrimitives hport p hp (h p hp)
        | some port =>
            rw [holds_portPrimitives_iff hport]
            simp

def ACLTuple.primitives (acl : ACLTuple) : List Primitive :=
  (acl.proto.map Primitive.ipProto).toList ++
  (acl.srcAddr.map (Primitive.addr .src)).toList ++
  (acl.dstAddr.map (Primitive.addr .dst)).toList ++
  portPrimitives .src acl.srcPort ++ portPrimitives .dst acl.dstPort

theorem ACLTuple.matches_iff (acl : ACLTuple) (packet : Packet) :
    acl.Matches packet ↔ ∀ p ∈ acl.primitives, p.Holds packet := by
  have hsrc := admits_iff .src acl.srcPort packet
  have hdst := admits_iff .dst acl.dstPort packet
  rw [ACLTuple.primitives]
  simp only [List.forall_mem_append, forall_mem_toList_map, and_assoc]
  exact and_congr_right fun _ => and_congr_right fun _ => and_congr_right fun _ =>
    and_congr hsrc hdst

section Texts

theorem unwords_ipProto (proto : Fin 256) :
    unwords (Primitive.ipProto proto).write = "ip proto " ++ proto.val.repr := by
  rw [Primitive.write, unwords_cons (List.cons_ne_nil _ _),
    unwords_cons (List.cons_ne_nil _ _), unwords, String.intercalate_singleton]
  simp only [← String.append_assoc]
  rfl

theorem unwords_addr (side : Side) (net : NetAddress) :
    unwords (Primitive.addr side net).write = side.text ++ " " ++ net.text := by
  rw [Primitive.write, unwords_cons (List.cons_ne_nil _ _), unwords,
    String.intercalate_singleton]

theorem unwords_four (first second third last : String) :
    unwords [first, second, third, last] =
      first ++ " " ++ second ++ " " ++ third ++ " " ++ last := by
  rw [unwords_cons (List.cons_ne_nil _ _), unwords_cons (List.cons_ne_nil _ _),
    unwords_cons (List.cons_ne_nil _ _), unwords, String.intercalate_singleton]
  simp only [← String.append_assoc]

theorem unwords_portGe (side : Side) (port : Port) :
    unwords (Primitive.portGe side port).write =
      side.text ++ " port >= " ++ port.val.repr := by
  rw [Primitive.write, unwords_four]
  cases side <;> rfl

theorem unwords_portLe (side : Side) (port : Port) :
    unwords (Primitive.portLe side port).write =
      side.text ++ " port <= " ++ port.val.repr := by
  rw [Primitive.write, unwords_four]
  cases side <;> rfl

end Texts

theorem toList_map_map {α β γ : Type*} (f : α → β) (g : β → γ) (o : Option α) :
    (o.map f).toList.map g = (o.map fun a => g (f a)).toList := by
  cases o <;> rfl

theorem ACLTuple.entries_eq (acl : ACLTuple) :
    acl.entries = acl.primitives.map fun p => unwords p.write := by
  rw [entries, primitives, portPrimitives, portPrimitives]
  simp only [List.map_append, toList_map_map, unwords_ipProto, unwords_addr,
    unwords_portGe, unwords_portLe, ← List.append_assoc]
  rfl

theorem foldl_and (entries : List String) (line entry : String) :
    entries.foldl (fun line entry => line ++ " && " ++ entry) (line ++ " " ++ entry) =
      line ++ " " ++ " && ".intercalate (entry :: entries) := by
  induction entries generalizing entry with
  | nil => rw [List.foldl_nil, String.intercalate_singleton]
  | cons next entries ih =>
      have hnext : line ++ " " ++ entry ++ " && " ++ next =
          line ++ " " ++ (entry ++ " && " ++ next) := by
        simp only [String.append_assoc]
      rw [List.foldl_cons, hnext, ih, String.intercalate_cons_append,
        String.intercalate_cons_cons]

theorem ACLTuple.genFWLine_eq {acl : ACLTuple} (h : acl.isWildcard = false) :
    acl.genFWLine = if acl.primitives = [] then .error .indexError else
      .ok (acl.action.text ++ " " ++
        " && ".intercalate (acl.primitives.map fun p => unwords p.write)) := by
  rw [genFWLine, if_neg (Bool.eq_false_iff.mp h), acl.entries_eq]
  cases acl.primitives with
  | nil => rfl
  | cons p primitives =>
      rw [List.map_cons, if_neg (List.cons_ne_nil _ _)]
      exact congrArg Except.ok (foldl_and _ _ _)

def ACLTuple.Exact (filter : String → Packet → Option Action) (acl : ACLTuple) : Prop :=
  ∃ line, acl.genFWLine = .ok line ∧ ∀ packet,
    filter line packet = if acl.Matches packet then some acl.action else none

def ACLTuple.Constrains (acl : ACLTuple) : Prop :=
  acl.proto ≠ none ∨ acl.srcAddr ≠ none ∨ acl.dstAddr ≠ none ∨
    (∃ range ∈ acl.srcPort, ¬ PortRange.Full range) ∨
    ∃ range ∈ acl.dstPort, ¬ PortRange.Full range

theorem portPrimitives_ne_nil_iff (side : Side) (range : Option PortRange) :
    portPrimitives side range ≠ [] ↔ ∃ r ∈ range, ¬ PortRange.Full r := by
  cases range with
  | none => simp [portPrimitives, lowerBound, upperBound]
  | some range =>
      have hfull := not_congr (full_iff_portPrimitives side range)
      rw [ne_eq, ← hfull]
      simp

theorem ACLTuple.primitives_ne_nil_iff (acl : ACLTuple) :
    acl.primitives ≠ [] ↔ acl.Constrains := by
  have hsrc := portPrimitives_ne_nil_iff .src acl.srcPort
  have hdst := portPrimitives_ne_nil_iff .dst acl.dstPort
  rw [Constrains, ← hsrc, ← hdst, primitives]
  simp only [ne_eq, List.append_eq_nil_iff, Option.toList_eq_nil_iff,
    Option.map_eq_none_iff, not_and_or, or_assoc]

theorem ACLTuple.matches_of_isWildcard {acl : ACLTuple} (h : acl.isWildcard = true)
    (packet : Packet) : acl.Matches packet := by
  simp only [isWildcard, Bool.and_eq_true, Option.isNone_iff_eq_none] at h
  obtain ⟨⟨⟨⟨hproto, hsrcAddr⟩, hdstAddr⟩, hsrcPort⟩, hdstPort⟩ := h
  simp [Matches, hproto, hsrcAddr, hdstAddr, hsrcPort, hdstPort]

section Filter

variable {filter : String → Packet → Option Action} {acl : ACLTuple}

theorem ACLTuple.exact_of_isWildcard (hfilter : IsIPFilter filter)
    (h : acl.isWildcard = true) : acl.Exact filter := by
  refine ⟨acl.action.text ++ " all", ?_, fun packet => ?_⟩
  · rw [genFWLine, if_pos h]
  · rw [hfilter.all, if_pos (acl.matches_of_isWildcard h packet)]

theorem ACLTuple.exact_of_constrains (hfilter : IsIPFilter filter)
    (h : acl.isWildcard = false) (hne : acl.primitives ≠ []) : acl.Exact filter := by
  refine ⟨_, (acl.genFWLine_eq h).trans (if_neg hne), fun packet => ?_⟩
  rw [hfilter.conjunction acl.action hne packet]
  exact if_congr (acl.matches_iff packet).symm rfl rfl

theorem ACLTuple.not_exact (h : acl.isWildcard = false) (hnil : acl.primitives = []) :
    ¬ acl.Exact filter := by
  rintro ⟨line, hline, -⟩
  rw [acl.genFWLine_eq h, if_pos hnil] at hline
  cases hline

/-- The line of a rule is about the packets of the rule, except where port ranges are
all that the rule gives and none of them is a constraint. -/
theorem ACLTuple.exact_iff_constrains (hfilter : IsIPFilter filter) (acl : ACLTuple) :
    acl.Exact filter ↔ acl.isWildcard = true ∨ acl.Constrains := by
  rw [← acl.primitives_ne_nil_iff]
  cases h : acl.isWildcard with
  | true => exact iff_of_true (acl.exact_of_isWildcard hfilter h) (Or.inl rfl)
  | false =>
      by_cases hnil : acl.primitives = []
      · apply iff_of_false (acl.not_exact h hnil)
        rintro (hwild | hne)
        · cases hwild
        · exact hne hnil
      · exact iff_of_true (acl.exact_of_constrains hfilter h hnil) (Or.inr hnil)

end Filter

/-! ## Two rules -/

def address (a b c d : UInt8) : Address := ⟨[a, b, c, d], rfl⟩

def icmpRule : ACLTuple where
  action := .allow
  proto := some 1
  srcAddr := some ⟨address 192 168 0 2, none⟩
  dstAddr := some ⟨address 2 0 0 8, some 24⟩
  srcPort := some (some 0, some 1024)
  dstPort := some (some 5982, some 5982)

example : icmpRule.genFWLine = .ok ("allow ip proto 1 && src 192.168.0.2" ++
    " && dst 2.0.0.8/24 && src port <= 1024 && dst port >= 5982 && dst port <= 5982") := by
  decide

theorem exact_icmpRule : icmpRule.Exact ipFilter :=
  (ACLTuple.exact_iff_constrains isIPFilter_ipFilter icmpRule).mpr (Or.inr (Or.inl nofun))

/-- A rule with nothing but the range of all ports. -/
def allPorts : ACLTuple where
  action := .deny
  proto := none
  srcAddr := none
  dstAddr := none
  srcPort := some (some 0, some 65535)
  dstPort := none

theorem not_exact_allPorts : ¬ ∀ filter, IsIPFilter filter →
    ∀ acl : ACLTuple, acl.isWildcard = false → acl.Exact filter := by
  intro h
  obtain ⟨line, hline, -⟩ := h ipFilter isIPFilter_ipFilter allPorts rfl
  have hraises : allPorts.genFWLine = .error .indexError := rfl
  rw [hraises] at hline
  cases hline

end SelfAdaptiveMano.Acl

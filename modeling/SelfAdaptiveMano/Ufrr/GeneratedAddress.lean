import SelfAdaptiveMano.Library.BitFields
import SelfAdaptiveMano.Ufrr.Ortc

/-!
# The UFRR tables and the addresses generated for their entries

The table of a switch is a dictionary of dictionaries of dictionaries, whose
keys are the VNF, the SFCI and the path of an entry in the order of the encoding
format. For each entry that outputs to a node an address is generated with its
keys in fields of fixed widths, and the trie of the switch is built from these
addresses.

A field keeps the low bits of its key only, and of two rules with the same
address the first one counts. `generated_lookup_iff` says for which tables no
entry loses its node by that.
-/

namespace SelfAdaptiveMano

open Library Library.BitFields

/-- The actions of an entry, as `ufrr.py` writes them. -/
inductive Actions where
  | gotoGroup (groupID : Nat)
  | outputNodeID (nodeID : Nat)
  deriving DecidableEq, Repr

structure SubEntry where
  actions : Actions
  priority : Nat
  deriving DecidableEq, Repr

abbrev SwitchTable (κ : Type) := Dict κ (Dict κ (Dict κ SubEntry))

namespace SwitchTable

variable {κ : Type} [DecidableEq κ]

def get3? (table : SwitchTable κ) (firstKey secondKey thirdKey : κ) :
    Option SubEntry :=
  ((table.get? firstKey).bind (·.get? secondKey)).bind (·.get? thirdKey)

theorem get3?_eq_some {table : SwitchTable κ} {firstKey secondKey thirdKey : κ}
    {subEntry : SubEntry} :
    table.get3? firstKey secondKey thirdKey = some subEntry ↔
      ∃ firstTable, table.get? firstKey = some firstTable ∧
        ∃ secondTable, firstTable.get? secondKey = some secondTable ∧
          secondTable.get? thirdKey = some subEntry := by
  simp only [get3?, Option.bind_eq_some_iff]
  constructor
  · rintro ⟨secondTable, ⟨firstTable, hfirst, hsecond⟩, hthird⟩
    exact ⟨firstTable, hfirst, secondTable, hsecond, hthird⟩
  · rintro ⟨firstTable, hfirst, secondTable, hsecond, hthird⟩
    exact ⟨secondTable, ⟨firstTable, hfirst, hsecond⟩, hthird⟩

end SwitchTable

inductive EncodingFormat where
  | vnfidSfcidPathid
  | sfcidVnfidPathid
  | pathidVnfidSfcid
  deriving DecidableEq, Repr

/-- A call of `addSFCIUFRRFlowTableEntry`. -/
structure FlowTableEntry where
  dpid : Nat
  sfciID : Nat
  vnfID : Nat
  pathID : Nat
  actions : Actions
  priority : Nat
  deriving DecidableEq, Repr

namespace UFRRIBMaintainer

def entryKeys : EncodingFormat → FlowTableEntry → Nat × Nat × Nat
  | .vnfidSfcidPathid, entry => (entry.vnfID, entry.sfciID, entry.pathID)
  | .sfcidVnfidPathid, entry => (entry.sfciID, entry.vnfID, entry.pathID)
  | .pathidVnfidSfcid, entry => (entry.pathID, entry.vnfID, entry.sfciID)

/-- `addSFCIUFRRFlowTableEntry`, on `switchesUFRRTable`. -/
def addSFCIUFRRFlowTableEntry (encodingFormat : EncodingFormat)
    (switchesUFRRTable : Dict Nat (SwitchTable Nat)) (entry : FlowTableEntry) :
    Dict Nat (SwitchTable Nat) :=
  let (firstKey, secondKey, thirdKey) := entryKeys encodingFormat entry
  let table := (switchesUFRRTable.get? entry.dpid).getD .empty
  let firstTable := (table.get? firstKey).getD .empty
  let secondTable := (firstTable.get? secondKey).getD .empty
  switchesUFRRTable.set entry.dpid
    (table.set firstKey
      (firstTable.set secondKey
        (secondTable.set thirdKey ⟨entry.actions, entry.priority⟩)))

def switchesUFRRTable (encodingFormat : EncodingFormat)
    (entries : List FlowTableEntry) : Dict Nat (SwitchTable Nat) :=
  entries.foldl (addSFCIUFRRFlowTableEntry encodingFormat) .empty

def switchTable (encodingFormat : EncodingFormat)
    (entries : List FlowTableEntry) (dpid : Nat) : SwitchTable Nat :=
  ((switchesUFRRTable encodingFormat entries).get? dpid).getD .empty

/-- The address of the keys of an entry, as `__constructARule` computes it. -/
def ipNum (v6 : Bool) (firstKey secondKey thirdKey : Nat) : Nat :=
  if v6 then
    (10 <<< 120) + ((firstKey &&& 0xFFFFFFFFFF) <<< 80)
      + ((secondKey &&& 0xFFFFFFFFFF) <<< 40) + (thirdKey &&& 0xFFFFFFFFFF)
  else
    (10 <<< 24) + ((firstKey &&& 0xFF) <<< 16)
      + ((secondKey &&& 0xFFF) <<< 4) + (thirdKey &&& 0xF)

def addressWidth (v6 : Bool) : Nat := if v6 then 128 else 32

def constructARule (v6 : Bool) (firstKey secondKey thirdKey nexthop : Nat) :
    Rule Nat :=
  ⟨ipNum v6 firstKey secondKey thirdKey, addressWidth v6, nexthop⟩

/-- `_generateRules`: a rule for each entry that outputs to a node. -/
def generateRules (dicts : DictOrder) (v6 : Bool) (table : SwitchTable Nat) :
    List (Rule Nat) :=
  (dicts.items table).flatMap fun (firstKey, firstTable) =>
    (dicts.items firstTable).flatMap fun (secondKey, secondTable) =>
      (dicts.items secondTable).filterMap fun (thirdKey, subEntry) =>
        match subEntry.actions with
        | .outputNodeID nodeID =>
            some (constructARule v6 firstKey secondKey thirdKey nodeID)
        | .gotoGroup _ => none

variable (order : SetOrder (WithBot Nat)) (dicts : DictOrder)

/-- The trie that `initialBinaryTrieForAllSwitches` makes of a table. -/
def tableTrie (v6 : Bool) (table : SwitchTable Nat) : BinaryTrieNode Nat :=
  BinaryTrie.root order dicts (generateRules dicts v6 table)

def lookupKeys (v6 : Bool) (trie : BinaryTrieNode Nat)
    (firstKey secondKey thirdKey : Nat) : WithBot Nat :=
  trie.lookup order ⊥
    (BinaryTrie.bits (ipNum v6 firstKey secondKey thirdKey) (addressWidth v6))

/-! ## Addresses and keys -/

def fieldWidths (v6 : Bool) : Nat × Nat × Nat :=
  if v6 then (40, 40, 40) else (8, 12, 4)

/-- The keys of two entries agree in the bits that an address has for them. -/
def SameFields (v6 : Bool) (keys keys' : Nat × Nat × Nat) : Prop :=
  keys.1 % 2 ^ (fieldWidths v6).1 = keys'.1 % 2 ^ (fieldWidths v6).1 ∧
    keys.2.1 % 2 ^ (fieldWidths v6).2.1 = keys'.2.1 % 2 ^ (fieldWidths v6).2.1 ∧
    keys.2.2 % 2 ^ (fieldWidths v6).2.2 = keys'.2.2 % 2 ^ (fieldWidths v6).2.2

theorem ipNum_eq_pack (v6 : Bool) (firstKey secondKey thirdKey : Nat) :
    ipNum v6 firstKey secondKey thirdKey =
      pack [(8, 10), ((fieldWidths v6).1, firstKey),
        ((fieldWidths v6).2.1, secondKey), ((fieldWidths v6).2.2, thirdKey)] := by
  cases v6 with
  | false =>
      have hfirst : firstKey &&& 0xFF = firstKey % 2 ^ 8 := land_mask _ 8
      have hsecond : secondKey &&& 0xFFF = secondKey % 2 ^ 12 := land_mask _ 12
      have hthird : thirdKey &&& 0xF = thirdKey % 2 ^ 4 := land_mask _ 4
      simp only [ipNum, fieldWidths, Bool.false_eq_true, if_false, hfirst,
        hsecond, hthird, Nat.shiftLeft_eq, pack_cons, pack_nil, width_cons,
        width_nil]
      omega
  | true =>
      have hmask (key : Nat) : key &&& 0xFFFFFFFFFF = key % 2 ^ 40 :=
        land_mask key 40
      simp only [ipNum, fieldWidths, if_true, hmask, Nat.shiftLeft_eq, pack_cons,
        pack_nil, width_cons, width_nil]
      omega

theorem ipNum_lt (v6 : Bool) (firstKey secondKey thirdKey : Nat) :
    ipNum v6 firstKey secondKey thirdKey < 2 ^ addressWidth v6 := by
  rw [ipNum_eq_pack]
  refine lt_of_lt_of_eq (pack_lt _) ?_
  cases v6 <;> rfl

theorem ipNum_eq_iff (v6 : Bool) (keys keys' : Nat × Nat × Nat) :
    ipNum v6 keys.1 keys.2.1 keys.2.2 = ipNum v6 keys'.1 keys'.2.1 keys'.2.2 ↔
      SameFields v6 keys keys' := by
  rw [ipNum_eq_pack, ipNum_eq_pack, pack_cons_inj, pack_cons_inj, pack_cons_inj,
    pack_cons_inj, SameFields]
  · tauto
  all_goals rfl

end UFRRIBMaintainer

namespace BinaryTrie

theorem getBinaryFromBin_ne_zero (rulePrefix idx : Nat) :
    (getBinaryFromBin rulePrefix idx != 0) = rulePrefix.testBit idx := by
  have hbit : getBinaryFromBin rulePrefix idx =
      (rulePrefix.testBit idx).toNat := by
    apply Nat.eq_of_testBit_eq
    intro i
    rw [getBinaryFromBin, Nat.testBit_shiftRight, Nat.testBit_and,
      Nat.testBit_shiftLeft]
    cases i with
    | zero => cases rulePrefix.testBit idx <;> simp
    | succ i => cases rulePrefix.testBit idx <;> simp [Nat.testBit_succ]
  rw [hbit]
  cases rulePrefix.testBit idx <;> rfl

theorem bits_inj {a b length : Nat} (ha : a < 2 ^ length) (hb : b < 2 ^ length) :
    bits a length = bits b length ↔ a = b := by
  constructor
  · intro h
    apply Nat.eq_of_testBit_eq
    intro i
    by_cases hi : i < length
    · have hget := congrArg (·[length - 1 - i]?) h
      simp only [bits, List.getElem?_map, getBinaryFromBin_ne_zero,
        List.getElem?_range' (show length - 1 - i < length by omega),
        Option.map_some, Option.some.injEq] at hget
      have hidx : length - (1 + 1 * (length - 1 - i)) = i := by omega
      rwa [hidx] at hget
    · have hpow : 2 ^ length ≤ 2 ^ i := Nat.pow_le_pow_right (by decide) (by omega)
      rw [Nat.testBit_lt_two_pow (ha.trans_le hpow),
        Nat.testBit_lt_two_pow (hb.trans_le hpow)]
  · rintro rfl
    rfl

end BinaryTrie

namespace UFRRIBMaintainer

variable (order : SetOrder (WithBot Nat)) (dicts : DictOrder)

def OutputsTo (table : SwitchTable Nat) (keys : Nat × Nat × Nat)
    (nodeID : Nat) : Prop :=
  ∃ priority, table.get3? keys.1 keys.2.1 keys.2.2 =
    some ⟨.outputNodeID nodeID, priority⟩

theorem mem_generateRules {v6 : Bool} {table : SwitchTable Nat}
    {rule : Rule Nat} :
    rule ∈ generateRules dicts v6 table ↔ ∃ keys nodeID, OutputsTo table keys nodeID ∧
      rule = constructARule v6 keys.1 keys.2.1 keys.2.2 nodeID := by
  simp only [generateRules, OutputsTo, SwitchTable.get3?_eq_some]
  constructor
  · intro h
    obtain ⟨⟨firstKey, firstTable⟩, hfirst, h⟩ := List.mem_flatMap.mp h
    obtain ⟨⟨secondKey, secondTable⟩, hsecond, h⟩ := List.mem_flatMap.mp h
    obtain ⟨⟨thirdKey, ⟨actions, priority⟩⟩, hthird, h⟩ :=
      List.mem_filterMap.mp h
    cases actions with
    | gotoGroup groupID => cases h
    | outputNodeID nodeID =>
        cases h
        exact ⟨(firstKey, secondKey, thirdKey), nodeID,
          ⟨priority, firstTable, dicts.mem_items.mp hfirst, secondTable,
            dicts.mem_items.mp hsecond, dicts.mem_items.mp hthird⟩, rfl⟩
  · rintro ⟨keys, nodeID, ⟨priority, firstTable, hfirst, secondTable, hsecond,
      hthird⟩, rfl⟩
    refine List.mem_flatMap.mpr ⟨_, dicts.mem_items.mpr hfirst, ?_⟩
    refine List.mem_flatMap.mpr ⟨_, dicts.mem_items.mpr hsecond, ?_⟩
    exact List.mem_filterMap.mpr ⟨_, dicts.mem_items.mpr hthird, rfl⟩

theorem addressWidth_pos (v6 : Bool) : addressWidth v6 ≠ 0 := by
  cases v6 <;> decide

theorem length_of_mem_generateRules {v6 : Bool} {table : SwitchTable Nat}
    {rule : Rule Nat} (h : rule ∈ generateRules dicts v6 table) :
    rule.length = addressWidth v6 := by
  obtain ⟨keys, nodeID, -, rfl⟩ := (mem_generateRules dicts).mp h
  rfl

/-- The rules of a table all have whole addresses, so that each makes an
entry. -/
theorem table_generateRules (v6 : Bool) (table : SwitchTable Nat) :
    Rule.table (generateRules dicts v6 table) =
      (generateRules dicts v6 table).map Rule.entry := by
  rw [Rule.table, List.filter_eq_self.mpr]
  intro rule hrule
  rw [length_of_mem_generateRules dicts hrule]
  simpa using addressWidth_pos v6

/-- The address of an entry takes the node of the first entry with the same
address. -/
theorem lookupKeys_tableTrie (v6 : Bool) {table : SwitchTable Nat}
    {keys : Nat × Nat × Nat} {nodeID : Nat} (h : OutputsTo table keys nodeID) :
    ∃ keys' nodeID', OutputsTo table keys' nodeID' ∧ SameFields v6 keys keys' ∧
      lookupKeys order v6 (tableTrie order dicts v6 table) keys.1 keys.2.1 keys.2.2 =
        (nodeID' : Nat) := by
  let address := BinaryTrie.bits (ipNum v6 keys.1 keys.2.1 keys.2.2)
    (addressWidth v6)
  have hrule : constructARule v6 keys.1 keys.2.1 keys.2.2 nodeID ∈
      generateRules dicts v6 table := (mem_generateRules dicts).mpr ⟨keys, nodeID, h, rfl⟩
  have hfind : ((generateRules dicts v6 table).find? fun rule =>
      rule.entry.1 = address).isSome = true :=
    List.find?_isSome.mpr ⟨_, hrule, by simp [address, Rule.entry, constructARule]⟩
  obtain ⟨rule, hrule'⟩ := Option.isSome_iff_exists.mp hfind
  obtain ⟨haddress, before, after, hsplit, hbefore⟩ :=
    List.find?_eq_some_iff_append.mp hrule'
  obtain ⟨keys', nodeID', houtputs, rfl⟩ :=
    (mem_generateRules dicts).mp (List.mem_of_find?_eq_some hrule')
  refine ⟨keys', nodeID', houtputs, ?_, ?_⟩
  · have hbits : BinaryTrie.bits (ipNum v6 keys'.1 keys'.2.1 keys'.2.2)
        (addressWidth v6) = address := of_decide_eq_true haddress
    have heq := (BinaryTrie.bits_inj (ipNum_lt ..) (ipNum_lt ..)).mp hbits
    exact (ipNum_eq_iff v6 keys keys').mp heq.symm
  · have hne : generateRules dicts v6 table ≠ [] := List.ne_nil_of_mem hrule
    obtain ⟨default, -, -, hrepresents⟩ :=
      ORTC.represents_root_cons order dicts hne
    have hentry : (constructARule v6 keys'.1 keys'.2.1 keys'.2.2 nodeID').entry =
        (address, nodeID') := Prod.ext (of_decide_eq_true haddress) rfl
    have htable : ([], default) :: Rule.table (generateRules dicts v6 table) =
        (([], default) :: before.map Rule.entry) ++
          (address, nodeID') :: after.map Rule.entry := by
      rw [table_generateRules, hsplit, List.map_append, List.map_cons, hentry]
      rfl
    have hlookup := BinaryTrieNode.lookup_eq order hrepresents none address
    rw [htable, PrefixTable.lookup_eq_of_whole] at hlookup
    · exact hlookup
    · intro entry hentry'
      obtain rfl | hentry' := List.mem_cons.mp hentry'
      · intro hnil
        have hlength := congrArg List.length hnil
        simp only [address, BinaryTrie.length_bits, List.length_nil] at hlength
        exact addressWidth_pos v6 hlength.symm
      · obtain ⟨rule, hmem, rfl⟩ := List.mem_map.mp hentry'
        simpa using hbefore rule hmem

theorem lookupKeys_compress (v6 : Bool) (table : SwitchTable Nat)
    (keys : Nat × Nat × Nat) :
    lookupKeys order v6 (ORTC.compressByORTC order (tableTrie order dicts v6 table))
        keys.1 keys.2.1 keys.2.2 =
      lookupKeys order v6 (tableTrie order dicts v6 table) keys.1 keys.2.1 keys.2.2 :=
  ORTC.lookup_compressByORTC_root order dicts (generateRules dicts v6 table)
    (fun _ hrule => (length_of_mem_generateRules dicts hrule).le)
    (BinaryTrie.length_bits ..)

/-- In every table, whatever the encoding format, each entry that outputs to a
node finds its node at the address generated for its keys, before and after the
compression, exactly when entries whose keys agree in the bits that an address
has for them output to the same node. -/
theorem generated_lookup_iff (encodingFormat : EncodingFormat)
    (entries : List FlowTableEntry) (dpid : Nat) (v6 : Bool) :
    (∀ keys nodeID,
      OutputsTo (switchTable encodingFormat entries dpid) keys nodeID →
      lookupKeys order v6
          (tableTrie order dicts v6 (switchTable encodingFormat entries dpid))
          keys.1 keys.2.1 keys.2.2 = (nodeID : Nat) ∧
        lookupKeys order v6
          (ORTC.compressByORTC order
            (tableTrie order dicts v6 (switchTable encodingFormat entries dpid)))
          keys.1 keys.2.1 keys.2.2 = (nodeID : Nat)) ↔
      ∀ keys keys' nodeID nodeID',
        OutputsTo (switchTable encodingFormat entries dpid) keys nodeID →
        OutputsTo (switchTable encodingFormat entries dpid) keys' nodeID' →
        SameFields v6 keys keys' → nodeID = nodeID' := by
  generalize switchTable encodingFormat entries dpid = table
  constructor
  · intro hfound keys keys' nodeID nodeID' houtputs houtputs' hsame
    have hleft := (hfound keys nodeID houtputs).1
    have hright := (hfound keys' nodeID' houtputs').1
    rw [lookupKeys, (ipNum_eq_iff v6 keys keys').mpr hsame] at hleft
    exact WithBot.coe_injective (hleft.symm.trans hright)
  · intro hsame keys nodeID houtputs
    obtain ⟨keys', nodeID', houtputs', hfields, hlookup⟩ :=
      lookupKeys_tableTrie order dicts v6 houtputs
    obtain rfl := hsame keys keys' nodeID nodeID' houtputs houtputs' hfields
    exact ⟨hlookup, (lookupKeys_compress order dicts v6 table keys).trans hlookup⟩

def twoBackupPaths : List FlowTableEntry :=
  [⟨1, 1, 2, 2, .outputNodeID 5, 0⟩, ⟨1, 1, 2, 130, .outputNodeID 6, 0⟩]

/-- The entries of the backup paths 2 and 130 have the same address, which gives
one of them the node of the other. -/
theorem twoBackupPaths_shared :
    OutputsTo (switchTable .vnfidSfcidPathid twoBackupPaths 1) (2, 1, 2) 5 ∧
      OutputsTo (switchTable .vnfidSfcidPathid twoBackupPaths 1) (2, 1, 130) 6 ∧
      ipNum false 2 1 2 = ipNum false 2 1 130 ∧
      ¬ (lookupKeys .sorted false (tableTrie .sorted .insertion false
            (switchTable .vnfidSfcidPathid twoBackupPaths 1)) 2 1 2 =
          (5 : Nat) ∧
        lookupKeys .sorted false (tableTrie .sorted .insertion false
            (switchTable .vnfidSfcidPathid twoBackupPaths 1)) 2 1 130 =
          (6 : Nat)) := by
  refine ⟨⟨0, by decide⟩, ⟨0, by decide⟩, by decide, ?_⟩
  rintro ⟨hfirst, hsecond⟩
  rw [lookupKeys, show ipNum false 2 1 2 = ipNum false 2 1 130 by decide]
    at hfirst
  have heq := hfirst.symm.trans hsecond
  exact absurd (WithBot.coe_injective heq) (by decide)

end UFRRIBMaintainer

end SelfAdaptiveMano

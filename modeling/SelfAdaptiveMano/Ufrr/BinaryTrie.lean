import Mathlib.Data.List.MinMax
import Mathlib.Order.WithBot
import SelfAdaptiveMano.Base.SetOrder
import SelfAdaptiveMano.Library.Dict
import SelfAdaptiveMano.Library.PrefixTable

/-!
# The binary trie of the forwarding rules

A trie holds at each node a set of next hops, where `{None}` says that the node
has no rule of its own. `None` is smaller than every next hop, as it is in
Python 2, so next hops with `None` are `WithBot ν`.

The orders of sets and dictionaries are parameters of the model. `represents_root` relates the
trie to the prefix table of its rules: the default at the root, and then the
rules in their order, the first one of a prefix being the one that counts.
-/

namespace SelfAdaptiveMano

open Library

/-- A rule of a switch; only the `length` low bits of the prefix are read. -/
structure Rule (ν : Type) where
  rulePrefix : Nat
  length : Nat
  nexthop : ν
  deriving DecidableEq, Repr

/-- A node of the trie, `absent` standing for a child that is `None`. -/
inductive BinaryTrieNode (ν : Type) where
  | absent
  | node (nexthopSet : Finset (WithBot ν)) (lchild rchild : BinaryTrieNode ν)

namespace BinaryTrieNode

variable {ν : Type}

def levels : BinaryTrieNode ν → Nat
  | absent => 0
  | node _ lchild rchild => max lchild.levels rchild.levels + 1

variable [LinearOrder ν] (order : SetOrder (WithBot ν))

def ownNexthop (nexthopSet : Finset (WithBot ν)) (inherited : WithBot ν) :
    WithBot ν :=
  if order.list nexthopSet = [⊥] then inherited
  else (order.list nexthopSet).headD ⊥

/-- Longest-prefix match: the next hop of the last node on the way of the
address that has one. -/
def lookup : BinaryTrieNode ν → WithBot ν → List Bool → WithBot ν
  | absent, inherited, _ => inherited
  | node nexthopSet _ _, inherited, [] => ownNexthop order nexthopSet inherited
  | node nexthopSet lchild rchild, inherited, b :: address =>
      let own := ownNexthop order nexthopSet inherited
      if b then rchild.lookup own address else lchild.lookup own address

/-- `preOrderTraversalToCountNextHop`. -/
def countRules : BinaryTrieNode ν → Nat
  | absent => 0
  | node nexthopSet lchild rchild =>
      (if order.list nexthopSet = [⊥] then 0 else 1) +
        lchild.countRules + rchild.countRules

/-- What becomes of a child of `currentNode` in one round of the loop over the
bits of a rule. -/
def updateChild (newNodeNexthop : WithBot ν) :
    BinaryTrieNode ν → BinaryTrieNode ν
  | absent => node {newNodeNexthop} absent absent
  | node nexthopSet lchild rchild =>
      if newNodeNexthop ≠ ⊥ ∧ order.list nexthopSet = [⊥] then
        node {newNodeNexthop} lchild rchild
      else node nexthopSet lchild rchild

/-- The loop over the bits of a rule, from `currentNode` on. -/
def insertBits (nexthop : ν) :
    List Bool → BinaryTrieNode ν → BinaryTrieNode ν
  | [], currentNode => currentNode
  | _ :: _, absent => absent
  | b :: bits, node nexthopSet lchild rchild =>
      let newNodeNexthop : WithBot ν := if bits = [] then nexthop else ⊥
      if b then
        node nexthopSet lchild
          (insertBits nexthop bits (updateChild order newNodeNexthop rchild))
      else
        node nexthopSet
          (insertBits nexthop bits (updateChild order newNodeNexthop lchild))
          rchild

end BinaryTrieNode

namespace BinaryTrie

/-- `_getBinaryFromBin`; the lowest bit has the index `0`. -/
def getBinaryFromBin (rulePrefix idx : Nat) : Nat :=
  (rulePrefix &&& (0x1 <<< idx)) >>> idx

def bits (rulePrefix length : Nat) : List Bool :=
  (List.range' 1 length).map fun idx =>
    getBinaryFromBin rulePrefix (length - idx) != 0

variable {ν : Type} [LinearOrder ν]

def countNexthops (rules : List (Rule ν)) : Dict ν Nat :=
  rules.foldl (fun counterDict rule =>
    match counterDict.get? rule.nexthop with
    | some count => counterDict.set rule.nexthop (count + 1)
    | none => counterDict.set rule.nexthop 1) Dict.empty

/-- The next hop of the largest number of rules, `None` without a rule. -/
def findMostNexthop (dicts : DictOrder) (rules : List (Rule ν)) : WithBot ν :=
  match (dicts.items (countNexthops rules)).argmax Prod.snd with
  | some (nexthop, _) => nexthop
  | none => ⊥

variable (order : SetOrder (WithBot ν)) (dicts : DictOrder)

def insertRule (root : BinaryTrieNode ν) (rule : Rule ν) : BinaryTrieNode ν :=
  root.insertBits order rule.nexthop (bits rule.rulePrefix rule.length)

def root (rules : List (Rule ν)) : BinaryTrieNode ν :=
  rules.foldl (insertRule order)
    (.node {findMostNexthop dicts rules} .absent .absent)

end BinaryTrie

/-! ## The trie as a prefix table -/

namespace Rule

variable {ν : Type}

def entry (rule : Rule ν) : List Bool × ν :=
  (BinaryTrie.bits rule.rulePrefix rule.length, rule.nexthop)

def table (rules : List (Rule ν)) : PrefixTable ν :=
  (rules.filter fun rule => rule.length ≠ 0).map entry

end Rule

namespace BinaryTrieNode

variable {ν : Type}

def hopOrNone : Option ν → WithBot ν
  | some nexthop => nexthop
  | none => ⊥

@[simp] theorem hopOrNone_some (nexthop : ν) :
    hopOrNone (some nexthop) = (nexthop : WithBot ν) := rfl

@[simp] theorem hopOrNone_none : hopOrNone (none : Option ν) = ⊥ := rfl

theorem hopOrNone_eq_coe {hop : Option ν} {nexthop : ν} :
    hopOrNone hop = (nexthop : WithBot ν) ↔ hop = some nexthop := by
  cases hop <;> simp

theorem hopOrNone_eq_bot {hop : Option ν} : hopOrNone hop = ⊥ ↔ hop = none := by
  cases hop <;> simp [hopOrNone]

/-- The trie below a node holds the entries of a table. -/
def Represents : BinaryTrieNode ν → PrefixTable ν → Prop
  | absent, table => table = []
  | node nexthopSet lchild rchild, table =>
      nexthopSet = {hopOrNone table.atRoot} ∧
        lchild.Represents (table.below false) ∧
        rchild.Represents (table.below true)

theorem represents_new (hop : Option ν) :
    (node {hopOrNone hop} absent absent).Represents
      (hop.toList.map fun nexthop => ([], nexthop)) := by
  cases hop <;> exact ⟨rfl, rfl, rfl⟩

variable [LinearOrder ν] (order : SetOrder (WithBot ν))

omit [LinearOrder ν] in
theorem list_hopOrNone {hop : Option ν} :
    order.list {hopOrNone hop} = [⊥] ↔ hop = none := by
  rw [order.list_eq_singleton, Finset.singleton_inj, hopOrNone_eq_bot]

theorem ownNexthop_singleton (hop : Option ν) (inherited : WithBot ν) :
    ownNexthop order {hopOrNone hop} inherited =
      match hop with
      | some nexthop => nexthop
      | none => inherited := by
  cases hop <;> simp [ownNexthop, hopOrNone]

theorem lookup_eq {t : BinaryTrieNode ν} {table : PrefixTable ν}
    (h : t.Represents table) (default : Option ν) (address : List Bool) :
    t.lookup order (hopOrNone default) address =
      hopOrNone (table.lookup default address) := by
  induction t generalizing table default address with
  | absent =>
      obtain rfl : table = [] := h
      rw [PrefixTable.lookup_eq_default (by simp)]
      cases address <;> rfl
  | node nexthopSet lchild rchild ihl ihr =>
      obtain ⟨rfl, hl, hr⟩ := h
      have hown : ownNexthop order {hopOrNone table.atRoot}
          (hopOrNone default) = hopOrNone (table.atRoot.or default) := by
        rw [ownNexthop_singleton]
        cases table.atRoot <;> rfl
      cases address with
      | nil => exact hown
      | cons b address =>
          cases b with
          | false => simpa [lookup, hown] using ihl hl _ address
          | true => simpa [lookup, hown] using ihr hr _ address

theorem exists_table {t : BinaryTrieNode ν} {table : PrefixTable ν}
    (h : t.Represents table) :
    ∃ table' : PrefixTable ν, t.Represents table' ∧
      table'.length = t.countRules order := by
  induction t generalizing table with
  | absent => exact ⟨[], rfl, rfl⟩
  | node nexthopSet lchild rchild ihl ihr =>
      obtain ⟨rfl, hl, hr⟩ := h
      obtain ⟨left, hleft, hcountl⟩ := ihl hl
      obtain ⟨right, hright, hcountr⟩ := ihr hr
      refine ⟨(table.atRoot.toList.map fun nexthop => ([], nexthop)) ++
        left.behind false ++ right.behind true, ⟨?_, ?_, ?_⟩, ?_⟩
      · cases table.atRoot <;>
          simp [PrefixTable.atRoot_append, PrefixTable.atRoot]
      · cases table.atRoot <;>
          simpa [PrefixTable.below_append, PrefixTable.below] using hleft
      · cases table.atRoot <;>
          simpa [PrefixTable.below_append, PrefixTable.below] using hright
      · rw [countRules, ← hcountl, ← hcountr]
        cases table.atRoot with
        | none => simp
        | some nexthop =>
            simp
            omega

/-- A round of the loop puts the rule into the child when the child is where the
rule ends, and makes a child without a rule otherwise. -/
theorem represents_updateChild {t : BinaryTrieNode ν} {table : PrefixTable ν}
    (h : t.Represents table) (hop : Option ν) :
    (t.updateChild order (hopOrNone hop)).Represents
      (table ++ hop.toList.map fun nexthop => ([], nexthop)) := by
  cases t with
  | absent =>
      obtain rfl : table = [] := h
      exact represents_new hop
  | node nexthopSet lchild rchild =>
      obtain ⟨rfl, hl, hr⟩ := h
      cases hop with
      | none =>
          rw [updateChild, if_neg (by simp [hopOrNone])]
          simpa using ⟨rfl, hl, hr⟩
      | some nexthop =>
          have hbelow (b : Bool) : (table ++ [([], nexthop)]).below b =
              table.below b := by
            rw [PrefixTable.below_append]
            exact List.append_nil _
          rw [updateChild]
          -- the first rule of a prefix is the one that counts
          by_cases hroot : table.atRoot = none
          · rw [if_pos ⟨by simp [hopOrNone], (list_hopOrNone order).mpr hroot⟩]
            refine ⟨?_, by simpa [hbelow] using hl, by simpa [hbelow] using hr⟩
            simp [PrefixTable.atRoot_append, hroot, PrefixTable.atRoot]
          · rw [if_neg fun hboth => hroot ((list_hopOrNone order).mp hboth.2)]
            refine ⟨?_, by simpa [hbelow] using hl, by simpa [hbelow] using hr⟩
            obtain ⟨nexthop', hnexthop'⟩ := Option.ne_none_iff_exists'.mp hroot
            simp [PrefixTable.atRoot_append, hnexthop']

/-- The loop over the bits of a rule adds the entry of the rule at the end. -/
theorem represents_insertBits {t : BinaryTrieNode ν} {table : PrefixTable ν}
    (ht : t ≠ absent) (h : t.Represents table) {bits : List Bool}
    (hbits : bits ≠ []) (nexthop : ν) :
    (t.insertBits order nexthop bits).Represents
      (table ++ [(bits, nexthop)]) := by
  induction bits generalizing t table with
  | nil => exact (hbits rfl).elim
  | cons b bits ih =>
      obtain _ | ⟨nexthopSet, lchild, rchild⟩ := t
      · exact (ht rfl).elim
      obtain ⟨rfl, hl, hr⟩ := h
      have hroot : (table ++ [(b :: bits, nexthop)]).atRoot = table.atRoot := by
        rw [PrefixTable.atRoot_append]
        exact Option.or_none
      -- what the child on the way of the rule becomes
      have hchild {child : BinaryTrieNode ν} {below : PrefixTable ν}
          (hc : child.Represents below) :
          (insertBits order nexthop bits (updateChild order
            (if bits = [] then (nexthop : WithBot ν) else ⊥) child)).Represents
              (below ++ [(bits, nexthop)]) := by
        by_cases hend : bits = []
        · subst hend
          exact represents_updateChild order hc (some nexthop)
        · rw [if_neg hend]
          have hupdated := represents_updateChild order hc none
          simp only [Option.toList_none, List.map_nil, List.append_nil]
            at hupdated
          refine ih ?_ hupdated hend
          cases child <;> simp [updateChild]
      cases b with
      | false =>
          refine ⟨by rw [hroot], ?_, ?_⟩
          · simpa [PrefixTable.below_append_singleton] using hchild hl
          · simpa [PrefixTable.below_append_singleton] using hr
      | true =>
          refine ⟨by rw [hroot], ?_, ?_⟩
          · simpa [PrefixTable.below_append_singleton] using hl
          · simpa [PrefixTable.below_append_singleton] using hchild hr

theorem insertBits_ne_absent {t : BinaryTrieNode ν} (ht : t ≠ absent)
    (nexthop : ν) (bits : List Bool) :
    t.insertBits order nexthop bits ≠ absent := by
  obtain _ | ⟨nexthopSet, lchild, rchild⟩ := t
  · exact (ht rfl).elim
  · cases bits with
    | nil => exact ht
    | cons b bits => cases b <;> simp [insertBits]

theorem levels_insertBits_le (t : BinaryTrieNode ν) (nexthop : ν)
    (bits : List Bool) :
    (t.insertBits order nexthop bits).levels ≤
      max t.levels (bits.length + 1) := by
  induction bits generalizing t with
  | nil => exact le_max_left ..
  | cons b bits ih =>
      obtain _ | ⟨nexthopSet, lchild, rchild⟩ := t
      · exact Nat.zero_le _
      have hupdate (hop : WithBot ν) (child : BinaryTrieNode ν) :
          (updateChild order hop child).levels ≤ max child.levels 1 := by
        cases child with
        | absent => exact le_max_right ..
        | node nexthopSet lchild rchild =>
            rw [updateChild]
            split <;> exact le_max_left ..
      have hchild (hop : WithBot ν) (child : BinaryTrieNode ν) :
          (insertBits order nexthop bits (updateChild order hop child)).levels ≤
            max child.levels (bits.length + 1) := by
        have hle := ih (updateChild order hop child)
        have hle' := hupdate hop child
        omega
      cases b with
      | false =>
          have hle := hchild (if bits = [] then (nexthop : WithBot ν) else ⊥)
            lchild
          simp only [insertBits, Bool.false_eq_true, if_false, levels,
            List.length_cons]
          omega
      | true =>
          have hle := hchild (if bits = [] then (nexthop : WithBot ν) else ⊥)
            rchild
          simp only [insertBits, if_true, levels, List.length_cons]
          omega

end BinaryTrieNode

namespace BinaryTrie

variable {ν : Type} [LinearOrder ν] (order : SetOrder (WithBot ν))
  (dicts : DictOrder)

@[simp] theorem length_bits (rulePrefix length : Nat) :
    (bits rulePrefix length).length = length := by
  simp [bits]

theorem foldl_insertRule (rules : List (Rule ν)) {t : BinaryTrieNode ν}
    {table : PrefixTable ν} (ht : t ≠ .absent) (h : t.Represents table) :
    rules.foldl (insertRule order) t ≠ .absent ∧
      (rules.foldl (insertRule order) t).Represents
        (table ++ Rule.table rules) := by
  induction rules generalizing t table with
  | nil => simpa [Rule.table] using ⟨ht, h⟩
  | cons rule rules ih =>
      have hne := BinaryTrieNode.insertBits_ne_absent order ht rule.nexthop
        (bits rule.rulePrefix rule.length)
      by_cases hlength : rule.length = 0
      · -- a rule of length zero has no bits to walk along
        have hsame : insertRule order t rule = t := by
          simp [insertRule, bits, hlength, BinaryTrieNode.insertBits]
        rw [List.foldl_cons, hsame]
        simpa [Rule.table, hlength] using ih ht h
      · have hbits : bits rule.rulePrefix rule.length ≠ [] := by
          rw [← List.length_pos_iff, length_bits]
          omega
        have hinsert := BinaryTrieNode.represents_insertBits order ht h hbits
          rule.nexthop
        simpa [Rule.table, hlength, Rule.entry, insertRule] using
          ih hne hinsert

theorem represents_root (rules : List (Rule ν)) :
    ∃ default : Option ν,
      BinaryTrieNode.hopOrNone default = findMostNexthop dicts rules ∧
      root order dicts rules ≠ .absent ∧
      (root order dicts rules).Represents
        ((default.toList.map fun nexthop => ([], nexthop)) ++
          Rule.table rules) := by
  obtain ⟨default, hdefault⟩ : ∃ default : Option ν,
      BinaryTrieNode.hopOrNone default = findMostNexthop dicts rules := by
    cases findMostNexthop dicts rules with
    | bot => exact ⟨none, rfl⟩
    | coe nexthop => exact ⟨some nexthop, rfl⟩
  refine ⟨default, hdefault, ?_⟩
  rw [root, ← hdefault]
  exact foldl_insertRule order rules (by simp)
    (BinaryTrieNode.represents_new default)

theorem levels_root_le {rules : List (Rule ν)} {width : Nat}
    (h : ∀ rule ∈ rules, rule.length ≤ width) :
    (root order dicts rules).levels ≤ width + 1 := by
  have hfold (l : List (Rule ν)) (t : BinaryTrieNode ν)
      (hl : ∀ rule ∈ l, rule.length ≤ width) (ht : t.levels ≤ width + 1) :
      (l.foldl (insertRule order) t).levels ≤ width + 1 := by
    induction l generalizing t with
    | nil => exact ht
    | cons rule l ih =>
        refine ih _ (fun r hr => hl r (List.mem_cons_of_mem _ hr)) ?_
        have hle := BinaryTrieNode.levels_insertBits_le order t rule.nexthop
          (bits rule.rulePrefix rule.length)
        have hrule := hl rule List.mem_cons_self
        rw [length_bits] at hle
        rw [insertRule]
        omega
  refine hfold rules _ h ?_
  simp [BinaryTrieNode.levels]

theorem get?_countNexthops_isSome {rules : List (Rule ν)} {rule : Rule ν}
    (h : rule ∈ rules) :
    ((countNexthops rules).get? rule.nexthop).isSome = true := by
  have hstep (l : List (Rule ν)) (d : Dict ν Nat) {nexthop : ν}
      (hor : (d.get? nexthop).isSome = true ∨
        ∃ rule ∈ l, rule.nexthop = nexthop) :
      ((l.foldl (fun counterDict rule =>
        match counterDict.get? rule.nexthop with
        | some count => counterDict.set rule.nexthop (count + 1)
        | none => counterDict.set rule.nexthop 1) d).get? nexthop).isSome =
          true := by
    induction l generalizing d with
    | nil => simpa using hor
    | cons rule l ih =>
        rw [List.foldl_cons]
        apply ih
        by_cases hsame : rule.nexthop = nexthop
        · left
          split <;> simp [hsame]
        · obtain hd | ⟨rule', hmem, hnexthop⟩ := hor
          · left
            split <;> simpa [Dict.get?_set, Ne.symm hsame] using hd
          · right
            obtain rfl | hmem := List.mem_cons.mp hmem
            · exact (hsame hnexthop).elim
            · exact ⟨rule', hmem, hnexthop⟩
  exact hstep rules Dict.empty (.inr ⟨rule, h, rfl⟩)

theorem findMostNexthop_nil :
    findMostNexthop dicts ([] : List (Rule ν)) = ⊥ := by
  have hnil : dicts.items (countNexthops ([] : List (Rule ν))) = [] :=
    dicts.items_eq_nil_iff.mpr rfl
  rw [findMostNexthop, hnil]
  rfl

theorem findMostNexthop_ne_bot {rules : List (Rule ν)} (h : rules ≠ []) :
    findMostNexthop dicts rules ≠ ⊥ := by
  obtain ⟨rule, rules, rfl⟩ := List.exists_cons_of_ne_nil h
  have hsome := get?_countNexthops_isSome
    (List.mem_cons_self : rule ∈ rule :: rules)
  rw [findMostNexthop]
  split
  · simp
  · next hnone =>
      rw [List.argmax_eq_none, dicts.items_eq_nil_iff] at hnone
      obtain ⟨count, hcount⟩ := Option.isSome_iff_exists.mp hsome
      have hmem := Dict.mem_items_iff.mpr hcount
      rw [hnone] at hmem
      cases hmem

end BinaryTrie

end SelfAdaptiveMano

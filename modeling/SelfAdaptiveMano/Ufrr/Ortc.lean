import SelfAdaptiveMano.Library.RouteTree
import SelfAdaptiveMano.Ufrr.BinaryTrie

/-!
# Compression by ORTC

`compressByORTC` makes three passes over the trie of a switch. The first one
gives every node two children or none and pushes the next hops down to the
leaves, the second one computes the sets of next hops bottom-up, and the third
one chooses a next hop at each node top-down, or none where the inherited one is
in the set.

The passes see the trie as a route tree: the first one keeps the tree
(`pushed_expandTrie`), the second one computes its candidates (`marked_passTwo`),
and the third one routes like the tree with as few rules as its cost allows
(`choosesLike_passThree`).
-/

namespace SelfAdaptiveMano

open Library

namespace BinaryTrieNode

variable {ν : Type}

def isAbsent : BinaryTrieNode ν → Bool
  | absent => true
  | node .. => false

def nexthops : BinaryTrieNode ν → Finset (WithBot ν)
  | absent => ∅
  | node nexthopSet _ _ => nexthopSet

theorem isAbsent_eq_true {t : BinaryTrieNode ν} :
    t.isAbsent = true ↔ t = absent := by
  cases t <;> simp [isAbsent]

theorem levels_pos {t : BinaryTrieNode ν} (h : t.isAbsent = false) :
    0 < t.levels := by
  cases t with
  | absent => cases h
  | node => exact Nat.succ_pos _

end BinaryTrieNode

namespace ORTC

open BinaryTrieNode

variable {ν : Type} [LinearOrder ν] (order : SetOrder (WithBot ν))

def isNextHopNone (nexthopSet : Finset (WithBot ν)) : Bool :=
  order.list nexthopSet ∈ [[⊥], []]

/-- The next hop of the nearest ancestor that has one; the sets of the ancestors
come with the parent's first. -/
def getInherited : List (Finset (WithBot ν)) → WithBot ν
  | [] => ⊥
  | parent :: ancestors =>
      if order.list parent ≠ [⊥] then (order.list parent).headD ⊥
      else getInherited ancestors

/-- `preOrderTraversalToExpandTrie`. A child that is added has no next hop when
the traversal comes to it. -/
def expandTrie (ancestors : List (Finset (WithBot ν))) :
    BinaryTrieNode ν → BinaryTrieNode ν
  | absent => absent
  | node nexthopSet lchild rchild =>
      let own :=
        if isNextHopNone order nexthopSet then {getInherited order ancestors}
        else nexthopSet
      let newNode := node {getInherited order (own :: ancestors)} absent absent
      node own
        (if lchild.isAbsent && !rchild.isAbsent then newNode
          else expandTrie (own :: ancestors) lchild)
        (if !lchild.isAbsent && rchild.isAbsent then newNode
          else expandTrie (own :: ancestors) rchild)

def sharpNodes (n1 n2 : Finset (WithBot ν)) : Finset (WithBot ν) :=
  if n1 ∩ n2 = ∅ then n1 ∪ n2 else n1 ∩ n2

/-- `postOrderTraversalToFindPrevalentNextHop`. -/
def passTwo : BinaryTrieNode ν → BinaryTrieNode ν
  | absent => absent
  | node nexthopSet lchild rchild =>
      let n1 := passTwo lchild
      let n2 := passTwo rchild
      let hasChild := !lchild.isAbsent || !rchild.isAbsent
      node (if hasChild then sharpNodes n1.nexthops n2.nexthops else nexthopSet)
        n1 n2

/-- `_choose`: the first element in the order of the next hops. -/
def choose (nexthopSet : Finset (WithBot ν)) : WithBot ν :=
  (order.list nexthopSet).min?.getD ⊥

/-- `preOrderTraversalToChooseNextHop`; a node without ancestors is the root. -/
def passThree (ancestors : List (Finset (WithBot ν))) :
    BinaryTrieNode ν → BinaryTrieNode ν
  | absent => absent
  | node nexthopSet lchild rchild =>
      let chosen : Finset (WithBot ν) :=
        if ancestors ≠ [] ∧ getInherited order ancestors ∈ nexthopSet then {⊥}
        else {choose order nexthopSet}
      node chosen (passThree (chosen :: ancestors) lchild)
        (passThree (chosen :: ancestors) rchild)

def compressByORTC (root : BinaryTrieNode ν) : BinaryTrieNode ν :=
  passThree order [] (passTwo (expandTrie order [] root))

/-! ## The tree that a trie routes by -/

/-- The set of next hops that a table passes down as `hop`. -/
def hopSet (hops : Finset ν) : Finset (WithBot ν) :=
  hops.map ⟨WithBot.some, WithBot.coe_injective⟩

omit [LinearOrder ν] in
@[simp] theorem mem_hopSet {hops : Finset ν} {hop : ν} :
    (hop : WithBot ν) ∈ hopSet hops ↔ hop ∈ hops := by
  simp [hopSet]

omit [LinearOrder ν] in
@[simp] theorem hopSet_singleton (hop : ν) :
    hopSet {hop} = {(hop : WithBot ν)} := by
  simp [hopSet]

theorem sharpNodes_hopSet (hops hops' : Finset ν) :
    sharpNodes (hopSet hops) (hopSet hops') =
      hopSet (if hops ∩ hops' = ∅ then hops ∪ hops' else hops ∩ hops') := by
  have hinter : hopSet hops ∩ hopSet hops' = hopSet (hops ∩ hops') :=
    (Finset.map_inter ..).symm
  have hunion : hopSet hops ∪ hopSet hops' = hopSet (hops ∪ hops') :=
    (Finset.map_union ..).symm
  have hempty : hopSet (hops ∩ hops') = ∅ ↔ hops ∩ hops' = ∅ :=
    Finset.map_eq_empty
  rw [sharpNodes, hinter, hunion]
  by_cases h : hops ∩ hops' = ∅
  · rw [if_pos (hempty.mpr h), if_pos h]
  · rw [if_neg fun h' => h (hempty.mp h'), if_neg h]

theorem choose_hopSet {hops : Finset ν} (h : hops.Nonempty) :
    ∃ hop ∈ hops, choose order (hopSet hops) = hop := by
  obtain ⟨hop, hmem⟩ := h
  have hne : order.list (hopSet hops) ≠ [] := fun hnil => by
    have := (order.mem_list).mpr (mem_hopSet.mpr hmem)
    rw [hnil] at this
    cases this
  obtain ⟨a, ha⟩ := Option.ne_none_iff_exists'.mp
    (fun hnone => hne (List.min?_eq_none_iff.mp hnone))
  have hlisted : a ∈ hopSet hops :=
    order.mem_list.mp (List.min?_mem ha)
  obtain ⟨hop', hmem', rfl⟩ := Finset.mem_map.mp hlisted
  exact ⟨hop', hmem', by rw [choose, ha]; rfl⟩

/-- The next hop that a node of a trie has for what matches it, below
`inherited`. -/
def ownHop (nexthopSet : Finset (WithBot ν)) (inherited : ν) : ν :=
  (ownNexthop order nexthopSet inherited).unbotD inherited

def routeTree : BinaryTrieNode ν → ν → RouteTree ν
  | absent, inherited => .leaf inherited
  | node nexthopSet lchild rchild, inherited =>
      let own := ownHop order nexthopSet inherited
      if lchild.isAbsent && rchild.isAbsent then .leaf own
      else .fork (routeTree lchild own) (routeTree rchild own)

/-- The set of a node that represents a table gives back the hop of the
table. -/
theorem ownNexthop_eq (hop : Option ν) (inherited : ν) :
    ownNexthop order {hopOrNone hop} inherited = (hop.getD inherited : ν) := by
  rw [ownNexthop_singleton]
  cases hop <;> rfl

theorem ownHop_eq (hop : Option ν) (inherited : ν) :
    ownHop order {hopOrNone hop} inherited = hop.getD inherited := by
  rw [ownHop, ownNexthop_eq]
  rfl

/-- A trie routes the addresses that are long enough like its route tree. -/
theorem lookup_eq_hop {t : BinaryTrieNode ν} {table : PrefixTable ν}
    (h : t.Represents table) (inherited : ν) {address : List Bool}
    (hlength : t.levels ≤ address.length + 1) :
    t.lookup order inherited address =
      (routeTree order t inherited).hop address := by
  induction t generalizing table inherited address with
  | absent => cases address <;> simp [lookup, routeTree]
  | node nexthopSet lchild rchild ihl ihr =>
      obtain ⟨rfl, hl, hr⟩ := h
      rw [routeTree, ownHop_eq]
      cases habsent : lchild.isAbsent && rchild.isAbsent with
      | true =>
          rw [Bool.and_eq_true, isAbsent_eq_true, isAbsent_eq_true] at habsent
          obtain ⟨rfl, rfl⟩ := habsent
          cases address with
          | nil => simp [lookup, ownNexthop_eq]
          | cons b address => cases b <;> simp [lookup, ownNexthop_eq]
      | false =>
          rw [levels] at hlength
          cases address with
          | nil =>
              -- a node with a child has two levels
              rw [Bool.and_eq_false_iff] at habsent
              obtain hpos | hpos := habsent <;>
                have hlevels := levels_pos hpos <;>
                simp only [List.length_nil] at hlength <;> omega
          | cons b address =>
              simp only [List.length_cons] at hlength
              cases b with
              | false =>
                  simpa [lookup, ownNexthop_eq] using
                    ihl hl (table.atRoot.getD inherited) (by omega)
              | true =>
                  simpa [lookup, ownNexthop_eq] using
                    ihr hr (table.atRoot.getD inherited) (by omega)

theorem depth_routeTree_le (t : BinaryTrieNode ν) (inherited : ν) :
    (routeTree order t inherited).depth ≤ t.levels - 1 := by
  induction t generalizing inherited with
  | absent => exact Nat.le_refl 0
  | node nexthopSet lchild rchild ihl ihr =>
      rw [routeTree]
      cases habsent : lchild.isAbsent && rchild.isAbsent with
      | true => exact Nat.zero_le _
      | false =>
          have hl := ihl (ownHop order nexthopSet inherited)
          have hr := ihr (ownHop order nexthopSet inherited)
          have hpos : 0 < max lchild.levels rchild.levels := by
            rw [Bool.and_eq_false_iff] at habsent
            obtain hpos | hpos := habsent
            · exact lt_max_of_lt_left (levels_pos hpos)
            · exact lt_max_of_lt_right (levels_pos hpos)
          simp only [Bool.false_eq_true, if_false, RouteTree.depth, levels]
          omega

/-! ## The three passes -/

/-- After the first pass: two children or none, next hops at the leaves. -/
inductive Pushed : BinaryTrieNode ν → RouteTree ν → Prop
  | leaf (hop : ν) : Pushed (node {(hop : WithBot ν)} absent absent) (.leaf hop)
  | fork {nexthopSet : Finset (WithBot ν)} {lchild rchild : BinaryTrieNode ν}
      {l r : RouteTree ν} (hl : Pushed lchild l) (hr : Pushed rchild r) :
      Pushed (node nexthopSet lchild rchild) (.fork l r)

/-- After the second pass: the set of each node is that of the candidates. -/
inductive Marked : BinaryTrieNode ν → RouteTree ν → Prop
  | leaf (hop : ν) : Marked (node {(hop : WithBot ν)} absent absent) (.leaf hop)
  | fork {lchild rchild : BinaryTrieNode ν} {l r : RouteTree ν}
      (hl : Marked lchild l) (hr : Marked rchild r) :
      Marked (node (hopSet (RouteTree.fork l r).candidates) lchild rchild)
        (.fork l r)

omit [LinearOrder ν] in
theorem Pushed.isAbsent {t : BinaryTrieNode ν} {tree : RouteTree ν}
    (h : Pushed t tree) : t.isAbsent = false := by
  cases h <;> rfl

theorem Marked.nexthops {t : BinaryTrieNode ν} {tree : RouteTree ν}
    (h : Marked t tree) : t.nexthops = hopSet tree.candidates := by
  cases h with
  | leaf hop => exact (hopSet_singleton hop).symm
  | fork hl hr => rfl

theorem isNextHopNone_singleton (hop : Option ν) :
    isNextHopNone order {hopOrNone hop} = true ↔ hop = none := by
  cases hop <;> simp [isNextHopNone, hopOrNone]

theorem getInherited_cons (hop : ν) (ancestors : List (Finset (WithBot ν))) :
    getInherited order ({(hop : WithBot ν)} :: ancestors) = hop := by
  simp [getInherited]

theorem pushed_expandTrie {t : BinaryTrieNode ν} {table : PrefixTable ν}
    (ht : t.isAbsent = false) (h : t.Represents table)
    {ancestors : List (Finset (WithBot ν))} {inherited : ν}
    (hinherited : table.atRoot = none →
      getInherited order ancestors = inherited) :
    Pushed (expandTrie order ancestors t) (routeTree order t inherited) := by
  induction t generalizing table ancestors inherited with
  | absent => cases ht
  | node nexthopSet lchild rchild ihl ihr =>
      obtain ⟨rfl, hl, hr⟩ := h
      have hown : (if isNextHopNone order {hopOrNone table.atRoot} then
          {getInherited order ancestors} else {hopOrNone table.atRoot}) =
            ({((table.atRoot.getD inherited : ν) : WithBot ν)} :
              Finset (WithBot ν)) := by
        cases hroot : table.atRoot with
        | none =>
            rw [if_pos ((isNextHopNone_singleton order none).mpr rfl),
              hinherited hroot]
            rfl
        | some hop =>
            rw [if_neg fun htrue => by
              cases (isNextHopNone_singleton order (some hop)).mp htrue]
            rfl
      have hchild (below : PrefixTable ν) :
          below.atRoot = none →
            getInherited order ({((table.atRoot.getD inherited : ν) :
              WithBot ν)} :: ancestors) = (table.atRoot.getD inherited : ν) :=
        fun _ => getInherited_cons order _ _
      rw [expandTrie, routeTree, ownHop_eq]
      simp only [hown, getInherited_cons]
      cases habsl : lchild.isAbsent with
      | true =>
          obtain rfl := isAbsent_eq_true.mp habsl
          cases habsr : rchild.isAbsent with
          | true =>
              obtain rfl := isAbsent_eq_true.mp habsr
              exact .leaf _
          | false => exact .fork (.leaf _) (ihr habsr hr (hchild _))
      | false =>
          cases habsr : rchild.isAbsent with
          | true =>
              obtain rfl := isAbsent_eq_true.mp habsr
              exact .fork (ihl habsl hl (hchild _)) (.leaf _)
          | false =>
              exact .fork (ihl habsl hl (hchild _)) (ihr habsr hr (hchild _))

theorem marked_passTwo {t : BinaryTrieNode ν} {tree : RouteTree ν}
    (h : Pushed t tree) : Marked (passTwo t) tree := by
  induction h with
  | leaf hop => exact .leaf hop
  | @fork nexthopSet lchild rchild l r hl hr ihl ihr =>
      have hset : sharpNodes (passTwo lchild).nexthops
          (passTwo rchild).nexthops =
            hopSet (RouteTree.fork l r).candidates := by
        rw [ihl.nexthops, ihr.nexthops, sharpNodes_hopSet]
        rfl
      rw [passTwo]
      simp only [hl.isAbsent, Bool.not_false, Bool.true_or, if_true, hset]
      exact .fork ihl ihr

def PassDown (ancestors : List (Finset (WithBot ν))) : Option ν → Prop
  | none => ancestors = []
  | some hop => ancestors ≠ [] ∧ getInherited order ancestors = hop

theorem chosen_spec (tree : RouteTree ν)
    {ancestors : List (Finset (WithBot ν))} {inherited : Option ν}
    (hdown : PassDown order ancestors inherited)
    {chosen : Finset (WithBot ν)}
    (hchosen : chosen = if ancestors ≠ [] ∧
        getInherited order ancestors ∈ hopSet tree.candidates then {⊥}
      else {choose order (hopSet tree.candidates)}) :
    ∃ own ∈ tree.candidates,
      ownNexthop order chosen (hopOrNone inherited) = own ∧
      PassDown order (chosen :: ancestors) (some own) ∧
      (if order.list chosen = [⊥] then 0 else 1) = tree.missing inherited := by
  obtain ⟨hop, hmem, hchoose⟩ :=
    choose_hopSet order tree.candidates_nonempty
  rw [hchoose] at hchosen
  cases inherited with
  | none =>
      obtain rfl : ancestors = [] := hdown
      rw [if_neg fun h => h.1 rfl] at hchosen
      subst hchosen
      exact ⟨hop, hmem, ownNexthop_singleton order (some hop) _,
        ⟨by simp, getInherited_cons order hop []⟩,
        by simp [RouteTree.missing_none]⟩
  | some a =>
      obtain ⟨hne, hinherited⟩ := hdown
      simp only [hinherited, mem_hopSet] at hchosen
      by_cases ha : a ∈ tree.candidates
      · rw [if_pos ⟨hne, ha⟩] at hchosen
        subst hchosen
        refine ⟨a, ha, ownNexthop_singleton order none _, ⟨by simp, ?_⟩, ?_⟩
        · simpa [getInherited] using hinherited
        · simp [RouteTree.missing_some, ha]
      · rw [if_neg fun h => ha h.2] at hchosen
        subst hchosen
        exact ⟨hop, hmem, ownNexthop_singleton order (some hop) _,
          ⟨by simp, getInherited_cons order hop _⟩,
          by simp [RouteTree.missing_some, ha]⟩

/-- The third pass routes like the tree, with one rule for each unit of its
cost. -/
theorem choosesLike_passThree {t : BinaryTrieNode ν} {tree : RouteTree ν}
    (h : Marked t tree) {ancestors : List (Finset (WithBot ν))}
    {inherited : Option ν} (hdown : PassDown order ancestors inherited) :
    (∀ address : List Bool, tree.depth ≤ address.length →
      (passThree order ancestors t).lookup order (hopOrNone inherited) address =
        tree.hop address) ∧
      (passThree order ancestors t).countRules order =
        tree.cost + tree.missing inherited := by
  induction h generalizing ancestors inherited with
  | leaf hop =>
      obtain ⟨own, hmem, hown, -, hcount⟩ := chosen_spec order
        (.leaf hop) hdown rfl
      obtain rfl : own = hop := Finset.mem_singleton.mp hmem
      simp only [RouteTree.candidates, hopSet_singleton] at hown hcount
      constructor
      · intro address _
        cases address with
        | nil => simpa [passThree, lookup] using hown
        | cons b address => cases b <;> simpa [passThree, lookup] using hown
      · simpa [passThree, countRules, RouteTree.cost] using hcount
  | @fork lchild rchild l r hl hr ihl ihr =>
      obtain ⟨own, hmem, hown, hbelow, hcount⟩ := chosen_spec order
        (.fork l r) hdown rfl
      obtain ⟨hlookl, hcountl⟩ := ihl hbelow
      obtain ⟨hlookr, hcountr⟩ := ihr hbelow
      constructor
      · intro address hlength
        rw [RouteTree.depth] at hlength
        cases address with
        | nil => simp at hlength
        | cons b address =>
            simp only [List.length_cons] at hlength
            rw [passThree, lookup]
            simp only [hown]
            cases b with
            | false =>
                simpa using hlookl address (by omega)
            | true =>
                simpa using hlookr address (by omega)
      · have hmissing := RouteTree.missing_fork_of_mem hmem
        rw [passThree, countRules, hcount, hcountl, hcountr, RouteTree.cost]
        omega

/-! ## The compressed trie -/

theorem lookup_bot {t : BinaryTrieNode ν} {table : PrefixTable ν}
    (h : t.Represents table) {default : ν}
    (hdefault : table.atRoot = some default) (address : List Bool) :
    t.lookup order ⊥ address = t.lookup order default address := by
  have hbot := lookup_eq order h none address
  have hown := lookup_eq order h (some default) address
  rw [hopOrNone_none] at hbot
  rw [hopOrNone_some] at hown
  rw [hbot, hown]
  cases address <;> simp [hdefault]

/-- A trie with a default at the root, compressed: it routes like before, and
its rules are one more than the cost of its tree. -/
theorem compressByORTC_spec {t : BinaryTrieNode ν} {table : PrefixTable ν}
    (ht : t.isAbsent = false) (h : t.Represents table) {default : ν}
    (hdefault : table.atRoot = some default) :
    (∀ address : List Bool, t.levels ≤ address.length + 1 →
      (compressByORTC order t).lookup order ⊥ address =
        t.lookup order ⊥ address) ∧
      (compressByORTC order t).countRules order =
        (routeTree order t default).cost + 1 := by
  have hpushed : Pushed (expandTrie order [] t) (routeTree order t default) :=
    pushed_expandTrie order ht h fun hnone => by
      rw [hdefault] at hnone
      cases hnone
  have hdown : PassDown order [] none := rfl
  obtain ⟨hlookup, hcount⟩ := choosesLike_passThree order
    (marked_passTwo hpushed) hdown
  constructor
  · intro address hlength
    rw [lookup_bot order h hdefault, lookup_eq_hop order h default hlength]
    refine hlookup address ?_
    have hdepth := depth_routeTree_le order t default
    omega
  · rw [RouteTree.missing_none] at hcount
    exact hcount

variable (dicts : DictOrder)

theorem represents_root_cons {rules : List (Rule ν)} (h : rules ≠ []) :
    ∃ default : ν, (default : WithBot ν) = BinaryTrie.findMostNexthop dicts rules ∧
      (BinaryTrie.root order dicts rules).isAbsent = false ∧
      (BinaryTrie.root order dicts rules).Represents
        (([], default) :: Rule.table rules) := by
  obtain ⟨default, hdefault, hne, hrepresents⟩ :=
    BinaryTrie.represents_root order dicts rules
  cases default with
  | none => exact (BinaryTrie.findMostNexthop_ne_bot dicts h hdefault.symm).elim
  | some default =>
      refine ⟨default, hdefault, ?_, hrepresents⟩
      cases habsent : (BinaryTrie.root order dicts rules).isAbsent with
      | false => rfl
      | true => exact (hne (isAbsent_eq_true.mp habsent)).elim

/-- Without rules the trie is the root alone, which has no next hop before and
after the passes. -/
theorem compressByORTC_nil :
    compressByORTC order (BinaryTrie.root order dicts ([] : List (Rule ν))) =
      BinaryTrie.root order dicts [] := by
  have hnone : isNextHopNone order ({⊥} : Finset (WithBot ν)) = true :=
    (isNextHopNone_singleton order none).mpr rfl
  have hchoose : choose order ({⊥} : Finset (WithBot ν)) = ⊥ := by
    simp [choose]
  have hroot : BinaryTrie.root order dicts ([] : List (Rule ν)) =
      node {⊥} absent absent := by
    rw [BinaryTrie.root, BinaryTrie.findMostNexthop_nil]
    rfl
  simp [hroot, compressByORTC, expandTrie, passTwo, passThree, getInherited,
    isAbsent, hnone, hchoose]

theorem lookup_compressByORTC_root (rules : List (Rule ν)) {width : Nat}
    (hrules : ∀ rule ∈ rules, rule.length ≤ width) {address : List Bool}
    (haddress : address.length = width) :
    (compressByORTC order (BinaryTrie.root order dicts rules)).lookup order ⊥
      address = (BinaryTrie.root order dicts rules).lookup order ⊥ address := by
  by_cases hempty : rules = []
  · rw [hempty, compressByORTC_nil]
  · obtain ⟨default, -, hroot, hrepresents⟩ :=
      represents_root_cons order dicts hempty
    refine (compressByORTC_spec order hroot hrepresents rfl).1 address ?_
    rw [haddress]
    exact BinaryTrie.levels_root_le order dicts hrules

/-- After the three passes each address takes the same next hop as before, and
an address without a rule takes the default at the root. -/
theorem compressByORTC_lookup (rules : List (Rule ν)) {width : Nat}
    (hrules : ∀ rule ∈ rules, rule.length ≤ width) {address : List Bool}
    (haddress : address.length = width) :
    (compressByORTC order (BinaryTrie.root order dicts rules)).lookup order ⊥
        address = (BinaryTrie.root order dicts rules).lookup order ⊥ address ∧
      ((∀ rule ∈ rules, rule.length ≠ 0 →
          ¬ BinaryTrie.bits rule.rulePrefix rule.length <+: address) →
        (BinaryTrie.root order dicts rules).lookup order ⊥ address =
          BinaryTrie.findMostNexthop dicts rules) := by
  constructor
  · exact lookup_compressByORTC_root order dicts rules hrules haddress
  · intro hnorule
    obtain ⟨default, hdefault, -, hrepresents⟩ :=
      BinaryTrie.represents_root order dicts rules
    have hnoentry : ∀ entry ∈ Rule.table rules, ¬ entry.1 <+: address := by
      intro entry hentry
      obtain ⟨rule, hrule, rfl⟩ := List.mem_map.mp hentry
      obtain ⟨hmem, hlength⟩ := List.mem_filter.mp hrule
      exact hnorule rule hmem (by simpa using hlength)
    rw [← hopOrNone_none, lookup_eq order hrepresents, ← hdefault]
    cases default with
    | none =>
        rw [Option.toList_none, List.map_nil, List.nil_append,
          PrefixTable.lookup_eq_default hnoentry]
    | some default =>
        refine congrArg hopOrNone (PrefixTable.lookup_eq_of_longest
          (List.nil_prefix ..) ?_ (by simp) none : PrefixTable.lookup
            ([] ++ ([], default) :: Rule.table rules) none address = _)
        intro entry hentry hpre
        exact (hnoentry entry (by simpa using hentry) hpre).elim

def twoRules : List (Rule Nat) := [⟨0b10, 2, 1⟩, ⟨0b1, 1, 2⟩]

theorem compressByORTC_lookup_twoRules :
    (compressByORTC .sorted (BinaryTrie.root .sorted .insertion twoRules)).lookup .sorted ⊥
        [true, true] =
      (BinaryTrie.root .sorted .insertion twoRules).lookup .sorted ⊥ [true, true] :=
  (compressByORTC_lookup .sorted .insertion twoRules
    (by decide : ∀ rule ∈ twoRules, rule.length ≤ 2) rfl).1

/-- No prefix table that gives every address the next hop of the uncompressed
trie has fewer entries than the compressed trie has rules, and the compressed
trie has no more rules than the uncompressed one. -/
theorem countRules_minimal {rules : List (Rule ν)} (hne : rules ≠ [])
    {width : Nat} (hrules : ∀ rule ∈ rules, rule.length ≤ width) :
    (∀ table : PrefixTable ν,
      (∀ address : List Bool, address.length = width →
        hopOrNone (table.lookup none address) =
          (BinaryTrie.root order dicts rules).lookup order ⊥ address) →
      (compressByORTC order (BinaryTrie.root order dicts rules)).countRules order ≤
        table.length) ∧
      (compressByORTC order (BinaryTrie.root order dicts rules)).countRules order ≤
        (BinaryTrie.root order dicts rules).countRules order := by
  obtain ⟨default, -, hroot, hrepresents⟩ := represents_root_cons order dicts hne
  obtain ⟨-, hcount⟩ := compressByORTC_spec order hroot hrepresents rfl
  have hlevels := BinaryTrie.levels_root_le order dicts hrules
  have hdepth := depth_routeTree_le order (BinaryTrie.root order dicts rules) default
  have hminimal : ∀ table : PrefixTable ν,
      (∀ address : List Bool, address.length = width →
        hopOrNone (table.lookup none address) =
          (BinaryTrie.root order dicts rules).lookup order ⊥ address) →
      (compressByORTC order (BinaryTrie.root order dicts rules)).countRules order ≤
        table.length := by
    intro table hroutes
    rw [hcount]
    have hwidth : (routeTree order (BinaryTrie.root order dicts rules) default).depth
        ≤ width := by omega
    refine RouteTree.cost_lt_length _ hwidth ?_
    intro address haddress
    have hsame := hroutes address haddress
    rw [lookup_bot order hrepresents rfl,
      lookup_eq_hop order hrepresents default (by omega)] at hsame
    exact hopOrNone_eq_coe.mp hsame
  refine ⟨hminimal, ?_⟩
  obtain ⟨table, htable, hlength⟩ := exists_table order hrepresents
  rw [← hlength]
  refine hminimal table fun address _ => ?_
  exact (lookup_eq order htable none address).symm

theorem countRules_minimal_twoRules :
    (compressByORTC .sorted (BinaryTrie.root .sorted .insertion twoRules)).countRules
        .sorted ≤
      (BinaryTrie.root .sorted .insertion twoRules).countRules .sorted :=
  (countRules_minimal .sorted .insertion (by decide : twoRules ≠ [])
    (by decide : ∀ rule ∈ twoRules, rule.length ≤ 2)).2

end ORTC

end SelfAdaptiveMano

import Mathlib.Data.List.Count
import SelfAdaptiveMano.Library.Python
import SelfAdaptiveMano.Ufrr.GeneratedAddress

/-!
# Compression by wildcards

`compressAllSwitchesUFRRTable` replaces entries of a table by wildcards in two
stages. The first stage finds the most frequent output of all the entries under
a first key and replaces the entries with this output by one under `"*", "*"`.
The second stage does the same for the entries that are left under a second key,
except that it takes the number of the most frequent output's occurrences, less
one, for the output itself.

An entry that the first stage took away is then found under the wildcard of its
second key, where there is one. `compression_faithful_iff` says when that
wildcard has the right output. `verifyCompression` compares each entry with
itself, so that it never notices.
-/

namespace SelfAdaptiveMano

open Library

/-- A key of a compressed table: an id, or `"*"`. -/
inductive Key where
  | id (key : Nat)
  | star
  deriving DecidableEq, Repr

theorem Key.id_injective : Function.Injective Key.id := fun _ _ h => by
  cases h
  rfl

abbrev CompFirstTable := Dict Key (Dict Key SubEntry)

abbrev CompSwitchTable := Dict Nat CompFirstTable

namespace Actions

/-- `actions["output nodeID"]`, when the key is there. -/
def output? : Actions → Option Nat
  | outputNodeID nodeID => some nodeID
  | gotoGroup _ => none

theorem output?_eq_some {actions : Actions} {nodeID : Nat} :
    actions.output? = some nodeID ↔ actions = outputNodeID nodeID := by
  cases actions <;> simp [output?]

end Actions

namespace UFRRIBMaintainer

def outputs (subEntries : List SubEntry) : List Nat :=
  subEntries.filterMap fun subEntry => subEntry.actions.output?

def addCounterDict (counterDict : Dict Nat Nat) (outputNodeID : Nat) :
    Dict Nat Nat :=
  match counterDict.get? outputNodeID with
  | none => counterDict.set outputNodeID 0
  | some count => counterDict.set outputNodeID (count + 1)

def countOutputs (subEntries : List SubEntry) : Dict Nat Nat :=
  (outputs subEntries).foldl addCounterDict .empty

def firstTableEntries (order : DictOrder) {κ : Type}
    (firstTable : Dict κ (Dict κ SubEntry)) : List SubEntry :=
  (order.items firstTable).flatMap fun (_, secondTable) =>
    (order.items secondTable).map Prod.snd

/-- `_findFirstKeyTableTheMostFrequentOutput`: the first key of the counter with
the largest count. -/
def findFirstKeyTableTheMostFrequentOutput (order : DictOrder) {κ : Type}
    (firstTable : Dict κ (Dict κ SubEntry)) : Option Nat :=
  let counterDict := countOutputs (firstTableEntries order firstTable)
  ((order.items counterDict).argmax Prod.snd).map Prod.fst

def copyEntries (order : DictOrder) (secondTable : Dict Nat SubEntry) :
    Dict Key SubEntry :=
  (order.copy secondTable).mapKeys .id Key.id_injective

def deepcopy (order : DictOrder) (firstTable : Dict Nat (Dict Nat SubEntry)) :
    CompFirstTable :=
  (order.copy (firstTable.map (copyEntries order))).mapKeys .id Key.id_injective

/-- The entries of a table without those that output to a node. -/
def popOutput (outputNodeID : Nat) (secondTable : Dict Key SubEntry) :
    Dict Key SubEntry :=
  secondTable.filter fun _ subEntry =>
    decide (subEntry.actions ≠ .outputNodeID outputNodeID)

def mergeEntry4FirstStage (firstTable : CompFirstTable) :
    Option Nat → CompFirstTable
  | none => firstTable
  | some outputNodeID =>
      ((firstTable.map (popOutput outputNodeID)).filter
        fun _ secondTable => !secondTable.items.isEmpty).set .star
          (Dict.empty.set .star ⟨.outputNodeID outputNodeID, 16⟩)

def compressFirstStage (order : DictOrder) (switchTable : SwitchTable Nat) :
    CompSwitchTable :=
  (order.copy switchTable).map fun firstTable =>
    mergeEntry4FirstStage (deepcopy order firstTable)
      (findFirstKeyTableTheMostFrequentOutput order (deepcopy order firstTable))

/-- `_findSecondKeyTableTheMostFrequentOutput`, which returns the largest count
and not the output that has it. -/
def findSecondKeyTableTheMostFrequentOutput
    (secondTable : Dict Key SubEntry) : Option Nat :=
  (countOutputs
    (secondTable.filter fun thirdKey _ => decide (thirdKey ≠ .star)).values
  ).values.max?

def mergeEntry4SecondStage (secondTable : Dict Key SubEntry) :
    Option Nat → Dict Key SubEntry
  -- no entry outputs to the node `None`
  | none => secondTable
  | some outputNodeID =>
      (popOutput outputNodeID secondTable).set .star
        ⟨.outputNodeID outputNodeID, 24⟩

def compressSecondStage (firstTable : CompFirstTable) : CompFirstTable :=
  firstTable.map fun secondTable =>
    mergeEntry4SecondStage secondTable
      (findSecondKeyTableTheMostFrequentOutput secondTable)

def compressAllSwitchesUFRRTable (order : DictOrder)
    (switchesUFRRTable : Dict Nat (SwitchTable Nat)) :
    Dict Nat CompSwitchTable :=
  switchesUFRRTable.map fun switchTable =>
    (compressFirstStage order switchTable).map compressSecondStage

def getUnder? (firstTable : CompFirstTable) (secondKey thirdKey : Key) :
    Option SubEntry :=
  (firstTable.get? secondKey).bind (·.get? thirdKey)

/-- `_getComSubEntry`, `none` when the last lookup raises. -/
def getComSubEntry (compSwitchesUFRRTable : Dict Nat CompSwitchTable)
    (dpid firstKey secondKey thirdKey : Nat) : Option SubEntry :=
  ((compSwitchesUFRRTable.get? dpid).bind (·.get? firstKey)).bind
    fun firstTable =>
      getUnder? firstTable (.id secondKey) (.id thirdKey) <|>
        getUnder? firstTable (.id secondKey) .star <|>
        getUnder? firstTable .star .star

/-- `_compareSubEntry`: the actions of an entry are compared with themselves. -/
def compareSubEntry (subEntry _comSubEntry : SubEntry) : Except PyError Unit :=
  if subEntry.actions ≠ subEntry.actions then
    throw (.valueError "Wrong compression.")
  else
    pure ()

def verifyEntry (compSwitchesUFRRTable : Dict Nat CompSwitchTable)
    (dpid firstKey secondKey thirdKey : Nat) (subEntry : SubEntry) :
    Except PyError Unit :=
  match getComSubEntry compSwitchesUFRRTable dpid firstKey secondKey
      thirdKey with
  | some comSubEntry => compareSubEntry subEntry comSubEntry
  | none => throw .keyError

def verifyCompression (switchesUFRRTable : Dict Nat (SwitchTable Nat))
    (compSwitchesUFRRTable : Dict Nat CompSwitchTable) : Except PyError Unit :=
  switchesUFRRTable.items.forM fun (dpid, switchTable) =>
    switchTable.items.forM fun (firstKey, firstTable) =>
      firstTable.items.forM fun (secondKey, secondTable) =>
        secondTable.items.forM fun (thirdKey, subEntry) =>
          verifyEntry compSwitchesUFRRTable dpid firstKey secondKey thirdKey
            subEntry

/-! ## Counting outputs -/

theorem get?_addCounterDict (counterDict : Dict Nat Nat) (nodeID x : Nat) :
    (addCounterDict counterDict nodeID).get? x =
      if x = nodeID then some ((counterDict.get? x).elim 0 (· + 1))
      else counterDict.get? x := by
  rw [addCounterDict]
  by_cases hx : x = nodeID
  · subst hx
    cases counterDict.get? x <;> simp
  · cases counterDict.get? nodeID <;> simp [Dict.get?_set, hx]

theorem get?_foldl_addCounterDict (l : List Nat) (counterDict : Dict Nat Nat)
    (x : Nat) :
    (l.foldl addCounterDict counterDict).get? x =
      match counterDict.get? x with
      | some count => some (count + l.count x)
      | none => if x ∈ l then some (l.count x - 1) else none := by
  induction l generalizing counterDict with
  | nil => cases h : counterDict.get? x <;> simp [h]
  | cons y l ih =>
      rw [List.foldl_cons, ih, get?_addCounterDict]
      by_cases hxy : x = y
      · subst hxy
        cases h : counterDict.get? x with
        | none => simp
        | some count =>
            simp only [if_true, Option.elim_some, List.count_cons_self]
            congr 1
            omega
      · have hyx : ¬ y = x := fun h => hxy h.symm
        cases counterDict.get? x with
        | none => simp [hxy, hyx]
        | some count => simp [hxy, hyx]

theorem get?_countOutputs (subEntries : List SubEntry) (x : Nat) :
    (countOutputs subEntries).get? x =
      if x ∈ outputs subEntries then some ((outputs subEntries).count x - 1)
      else none := by
  rw [countOutputs, get?_foldl_addCounterDict]
  rfl

theorem max?_countOutputs {subEntries : List SubEntry} {n : Nat} :
    (countOutputs subEntries).values.max? = some n ↔
      ∃ x ∈ outputs subEntries, (outputs subEntries).count x = n + 1 ∧
        ∀ y ∈ outputs subEntries,
          (outputs subEntries).count y ≤ (outputs subEntries).count x := by
  have hvalue (m : Nat) : m ∈ (countOutputs subEntries).values ↔
      ∃ x ∈ outputs subEntries, (outputs subEntries).count x = m + 1 := by
    rw [Dict.mem_values_iff]
    refine exists_congr fun x => ?_
    rw [get?_countOutputs]
    by_cases hx : x ∈ outputs subEntries
    · have hpos := List.count_pos_iff.mpr hx
      simp only [hx, if_true, Option.some.injEq, true_and]
      omega
    · simp [hx]
  rw [List.max?_eq_some_iff, hvalue]
  constructor
  · rintro ⟨⟨x, hx, hcount⟩, hmax⟩
    refine ⟨x, hx, hcount, fun y hy => ?_⟩
    have hpos := List.count_pos_iff.mpr hy
    have hle := hmax ((outputs subEntries).count y - 1)
      ((hvalue _).mpr ⟨y, hy, by omega⟩)
    omega
  · rintro ⟨x, hx, hcount, hmax⟩
    refine ⟨⟨x, hx, hcount⟩, fun m hm => ?_⟩
    obtain ⟨y, hy, hcount'⟩ := (hvalue m).mp hm
    have hle := hmax y hy
    omega

/-! ## The second stage -/

theorem get?_popOutput {nodeID : Nat} {secondTable : Dict Key SubEntry}
    {key : Key} {subEntry : SubEntry} :
    (popOutput nodeID secondTable).get? key = some subEntry ↔
      secondTable.get? key = some subEntry ∧
        subEntry.actions ≠ .outputNodeID nodeID := by
  rw [popOutput, Dict.get?_filter_eq_some, decide_eq_true_eq]

def secondStage (secondTable : Dict Key SubEntry) : Dict Key SubEntry :=
  mergeEntry4SecondStage secondTable
    (findSecondKeyTableTheMostFrequentOutput secondTable)

def entryOrStar (secondTable : Dict Key SubEntry) (thirdKey : Nat) :
    Option SubEntry :=
  secondTable.get? (.id thirdKey) <|> secondTable.get? .star

theorem secondStage_of_present {secondTable : Dict Key SubEntry}
    {thirdKey : Nat} {subEntry : SubEntry}
    (h : secondTable.get? (.id thirdKey) = some subEntry) :
    (∃ comSubEntry,
      entryOrStar (secondStage secondTable) thirdKey = some comSubEntry ∧
        comSubEntry.actions = subEntry.actions) ∧
      (∀ groupID, subEntry.actions = .gotoGroup groupID →
        (secondStage secondTable).get? (.id thirdKey) = some subEntry) := by
  rw [secondStage, entryOrStar]
  cases findSecondKeyTableTheMostFrequentOutput secondTable with
  | none => exact ⟨⟨subEntry, by simp [mergeEntry4SecondStage, h], rfl⟩,
      fun _ _ => h⟩
  | some nodeID =>
      have hid : (mergeEntry4SecondStage secondTable (some nodeID)).get?
          (.id thirdKey) = (popOutput nodeID secondTable).get? (.id thirdKey) :=
        Dict.get?_set_of_ne _ _ (by simp)
      by_cases hactions : subEntry.actions = .outputNodeID nodeID
      · have hgone : (popOutput nodeID secondTable).get? (.id thirdKey) = none :=
          Option.eq_none_iff_forall_ne_some.mpr fun e he => by
            obtain ⟨hget, hne⟩ := get?_popOutput.mp he
            rw [h] at hget
            cases hget
            exact hne hactions
        refine ⟨⟨⟨.outputNodeID nodeID, 24⟩, ?_, hactions.symm⟩, ?_⟩
        · rw [hid, hgone]
          exact Dict.get?_set_self ..
        · intro groupID hgroup
          rw [hactions] at hgroup
          cases hgroup
      · have hkept := get?_popOutput.mpr ⟨h, hactions⟩
        refine ⟨⟨subEntry, ?_, rfl⟩, fun _ _ => hid.trans hkept⟩
        rw [hid, hkept]
        rfl

/-- Where an entry was taken away before, the second stage puts the wildcard of
the second key in its place, if there is one. -/
theorem secondStage_of_absent {secondTable : Dict Key SubEntry} {thirdKey : Nat}
    (hid : secondTable.get? (.id thirdKey) = none)
    (hstar : secondTable.get? .star = none) :
    entryOrStar (secondStage secondTable) thirdKey =
      (findSecondKeyTableTheMostFrequentOutput secondTable).map
        fun nodeID => ⟨.outputNodeID nodeID, 24⟩ := by
  rw [secondStage, entryOrStar]
  cases findSecondKeyTableTheMostFrequentOutput secondTable with
  | none => simp [mergeEntry4SecondStage, hid, hstar]
  | some nodeID =>
      have hpop : (popOutput nodeID secondTable).get? (.id thirdKey) = none :=
        Option.eq_none_iff_forall_ne_some.mpr fun e he => by
          rw [(get?_popOutput.mp he).1] at hid
          cases hid
      have hgone : (mergeEntry4SecondStage secondTable (some nodeID)).get?
          (.id thirdKey) = none :=
        (Dict.get?_set_of_ne _ _ (by simp)).trans hpop
      rw [hgone]
      exact Dict.get?_set_self ..

theorem secondStage_firstWildcard (nodeID : Nat) :
    secondStage (Dict.empty.set .star ⟨.outputNodeID nodeID, 16⟩) =
      Dict.empty.set .star ⟨.outputNodeID nodeID, 16⟩ := rfl

/-! ## Both stages -/

variable {order : DictOrder}

variable (order) in
theorem get?_copyEntries_star (secondTable : Dict Nat SubEntry) :
    (copyEntries order secondTable).get? .star = none :=
  Option.eq_none_iff_forall_ne_some.mpr fun e he => by
    obtain ⟨key, hkey, -⟩ := Dict.get?_mapKeys_eq_some.mp he
    cases hkey

theorem get?_deepcopy (firstTable : Dict Nat (Dict Nat SubEntry))
    (secondKey : Nat) :
    (deepcopy order firstTable).get? (.id secondKey) =
      (firstTable.get? secondKey).map (copyEntries order) := by
  rw [deepcopy, Dict.get?_mapKeys, DictOrder.get?_copy, Dict.get?_map]

variable (order) in
theorem values_popOutput (nodeID : Nat) (secondTable : Dict Nat SubEntry) :
    ((popOutput nodeID (copyEntries order secondTable)).filter
        fun thirdKey _ => decide (thirdKey ≠ .star)).values.Perm
      (secondTable.values.filter fun subEntry =>
        decide (subEntry.actions ≠ .outputNodeID nodeID)) := by
  have hvalues : ((popOutput nodeID (copyEntries order secondTable)).filter
        fun thirdKey _ => decide (thirdKey ≠ .star)).values =
      (order.copy secondTable).values.filter fun subEntry =>
        decide (subEntry.actions ≠ .outputNodeID nodeID) := by
    simp only [popOutput, copyEntries, Dict.values, Dict.filter, Dict.mapKeys,
      List.filter_filter, List.filter_map, List.map_map]
    rfl
  rw [hvalues]
  exact ((order.items_perm secondTable).map Prod.snd).filter _

theorem outputs_filter (nodeID : Nat) (subEntries : List SubEntry) :
    outputs (subEntries.filter fun subEntry =>
        decide (subEntry.actions ≠ .outputNodeID nodeID)) =
      (outputs subEntries).filter (decide <| · ≠ nodeID) := by
  induction subEntries with
  | nil => rfl
  | cons subEntry subEntries ih =>
      obtain ⟨actions, priority⟩ := subEntry
      cases actions with
      | gotoGroup groupID => simpa [outputs, Actions.output?] using ih
      | outputNodeID nodeID' =>
          by_cases hnode : nodeID' = nodeID
          · simpa [outputs, Actions.output?, hnode] using ih
          · simpa [outputs, Actions.output?, hnode] using ih

/-- The output `x` occurs most often among the outputs of a list of entries that
are not `nodeID`. -/
def MostFrequentBut (nodeID : Nat) (subEntries : List SubEntry) (x : Nat) :
    Prop :=
  x ∈ outputs subEntries ∧ x ≠ nodeID ∧
    ∀ y ∈ outputs subEntries, y ≠ nodeID →
      (outputs subEntries).count y ≤ (outputs subEntries).count x

variable (order) in
theorem findSecondKey_popOutput {nodeID : Nat}
    {secondTable : Dict Nat SubEntry} {n : Nat} :
    findSecondKeyTableTheMostFrequentOutput
        (popOutput nodeID (copyEntries order secondTable)) = some n ↔
      ∃ x, MostFrequentBut nodeID secondTable.values x ∧
        (outputs secondTable.values).count x = n + 1 := by
  have hcount {y : Nat} (hy : y ≠ nodeID) :
      ((outputs secondTable.values).filter (decide <| · ≠ nodeID)).count y =
        (outputs secondTable.values).count y :=
    List.count_filter (by simpa using hy)
  have hperm := (values_popOutput order nodeID secondTable).filterMap
    fun subEntry => subEntry.actions.output?
  rw [findSecondKeyTableTheMostFrequentOutput, max?_countOutputs]
  change outputs _ |>.Perm (outputs _) at hperm
  simp only [hperm.mem_iff, hperm.count_eq, outputs_filter, List.mem_filter,
    decide_eq_true_eq, MostFrequentBut]
  constructor
  · rintro ⟨x, ⟨hx, hne⟩, hn, hmax⟩
    rw [hcount hne] at hn hmax
    refine ⟨x, ⟨hx, hne, fun y hy hyne => ?_⟩, hn⟩
    rw [← hcount hyne]
    exact hmax y ⟨hy, hyne⟩
  · rintro ⟨x, ⟨hx, hne, hmax⟩, hn⟩
    refine ⟨x, ⟨hx, hne⟩, (hcount hne).trans hn, ?_⟩
    rintro y ⟨hy, hyne⟩
    rw [hcount hne, hcount hyne]
    exact hmax y hy hyne

variable (order) in
def firstOutput (firstTable : Dict Nat (Dict Nat SubEntry)) : Option Nat :=
  findFirstKeyTableTheMostFrequentOutput order (deepcopy order firstTable)

theorem perm_firstTableEntries {κ : Type}
    (firstTable : Dict κ (Dict κ SubEntry)) :
    (firstTableEntries order firstTable).Perm
      (firstTable.values.flatMap Dict.values) := by
  rw [firstTableEntries, Dict.values, List.flatMap_map]
  refine ((order.items_perm firstTable).flatMap_right _).trans ?_
  refine List.Perm.flatMap_left _ fun e _ => ?_
  exact (order.items_perm e.2).map Prod.snd

theorem perm_entries_deepcopy (firstTable : Dict Nat (Dict Nat SubEntry)) :
    (firstTableEntries order (deepcopy order firstTable)).Perm
      (firstTable.values.flatMap Dict.values) := by
  refine (perm_firstTableEntries _).trans ?_
  have hvalues : (deepcopy order firstTable).values =
      (order.copy (firstTable.map (copyEntries order))).values := by
    simp [deepcopy, Dict.values, Dict.mapKeys, Function.comp_def]
  have hperm : (order.copy (firstTable.map (copyEntries order))).values.Perm
      (firstTable.values.map (copyEntries order)) := by
    refine ((order.items_perm _).map Prod.snd).trans (.of_eq ?_)
    simp [Dict.values, Function.comp_def]
  rw [hvalues]
  refine (hperm.flatMap_right _).trans ?_
  rw [List.flatMap_map]
  refine List.Perm.flatMap_left _ fun secondTable _ => ?_
  have hcopy : (copyEntries order secondTable).values =
      (order.copy secondTable).values := by
    simp [copyEntries, Dict.values, Dict.mapKeys, Function.comp_def]
  rw [hcopy]
  exact (order.items_perm secondTable).map Prod.snd

/-- The output that is taken away is one that occurs most often. -/
theorem of_firstOutput {firstTable : Dict Nat (Dict Nat SubEntry)} {nodeID : Nat}
    (h : firstOutput order firstTable = some nodeID) :
    nodeID ∈ outputs (firstTable.values.flatMap Dict.values) ∧
      ∀ y, (outputs (firstTable.values.flatMap Dict.values)).count y ≤
        (outputs (firstTable.values.flatMap Dict.values)).count nodeID := by
  have hperm : (outputs (firstTableEntries order (deepcopy order firstTable))).Perm
      (outputs (firstTable.values.flatMap Dict.values)) :=
    (perm_entries_deepcopy firstTable).filterMap _
  obtain ⟨⟨x, count⟩, hmost, rfl⟩ := Option.map_eq_some_iff.mp h
  have hmem := order.mem_items.mp (List.argmax_mem hmost)
  rw [get?_countOutputs] at hmem
  split at hmem
  case isFalse => cases hmem
  case isTrue hx =>
    obtain rfl := Option.some.inj hmem
    refine ⟨hperm.mem_iff.mp hx, fun y => ?_⟩
    rw [← hperm.count_eq, ← hperm.count_eq]
    by_cases hy : y ∈ outputs (firstTableEntries order (deepcopy order firstTable))
    · have hle := List.le_of_mem_argmax (order.mem_items.mpr
        ((get?_countOutputs _ y).trans (if_pos hy))) hmost
      have hpos := List.count_pos_iff.mpr hx
      dsimp only at hle ⊢
      omega
    · rw [List.count_eq_zero_of_not_mem hy]
      exact Nat.zero_le _

theorem exists_firstOutput {firstTable : Dict Nat (Dict Nat SubEntry)} {x : Nat}
    (hx : x ∈ outputs (firstTable.values.flatMap Dict.values)) :
    ∃ nodeID, firstOutput order firstTable = some nodeID := by
  have hperm : (outputs (firstTableEntries order (deepcopy order firstTable))).Perm
      (outputs (firstTable.values.flatMap Dict.values)) :=
    (perm_entries_deepcopy firstTable).filterMap _
  have hmem := order.mem_items.mpr
    ((get?_countOutputs _ x).trans (if_pos (hperm.mem_iff.mpr hx)))
  rw [firstOutput, findFirstKeyTableTheMostFrequentOutput]
  cases hmost : (order.items (countOutputs (firstTableEntries order
      (deepcopy order firstTable)))).argmax Prod.snd with
  | none =>
      rw [List.argmax_eq_none] at hmost
      rw [hmost] at hmem
      cases hmem
  | some e => exact ⟨e.1, by simp⟩

variable (order) in
def firstStage (firstTable : Dict Nat (Dict Nat SubEntry)) : CompFirstTable :=
  mergeEntry4FirstStage (deepcopy order firstTable) (firstOutput order firstTable)

theorem get?_compressAll {switchesUFRRTable : Dict Nat (SwitchTable Nat)}
    {dpid : Nat} {switchTable : SwitchTable Nat}
    (hswitch : switchesUFRRTable.get? dpid = some switchTable)
    {firstKey : Nat} {firstTable : Dict Nat (Dict Nat SubEntry)}
    (hfirst : switchTable.get? firstKey = some firstTable) :
    ((compressAllSwitchesUFRRTable order switchesUFRRTable).get? dpid).bind
        (·.get? firstKey) = some ((firstStage order firstTable).map secondStage) := by
  simp only [compressAllSwitchesUFRRTable, compressFirstStage, Dict.get?_map,
    DictOrder.get?_copy, hswitch, hfirst, Option.map_some, Option.bind_some]
  rfl

theorem getComSubEntry_eq {switchesUFRRTable : Dict Nat (SwitchTable Nat)}
    {dpid : Nat} {switchTable : SwitchTable Nat}
    (hswitch : switchesUFRRTable.get? dpid = some switchTable)
    {firstKey : Nat} {firstTable : Dict Nat (Dict Nat SubEntry)}
    (hfirst : switchTable.get? firstKey = some firstTable)
    (secondKey thirdKey : Nat) :
    getComSubEntry (compressAllSwitchesUFRRTable order switchesUFRRTable) dpid
        firstKey secondKey thirdKey =
      ((((firstStage order firstTable).get? (.id secondKey)).bind fun secondTable =>
          entryOrStar (secondStage secondTable) thirdKey) <|>
        (((firstStage order firstTable).get? .star).bind fun secondTable =>
          (secondStage secondTable).get? .star)) := by
  rw [getComSubEntry, get?_compressAll hswitch hfirst, Option.bind_some]
  simp only [getUnder?, Dict.get?_map, entryOrStar]
  cases (firstStage order firstTable).get? (.id secondKey) <;>
    cases (firstStage order firstTable).get? .star <;>
    simp [Option.orElse_eq_orElse, Option.or_assoc]

theorem get?_firstStage {firstTable : Dict Nat (Dict Nat SubEntry)}
    {nodeID : Nat}
    (hfind : firstOutput order firstTable = some nodeID)
    {secondKey : Nat} {secondTable : Dict Nat SubEntry}
    (hsecond : firstTable.get? secondKey = some secondTable) :
    (firstStage order firstTable).get? (.id secondKey) =
        (if (popOutput nodeID (copyEntries order secondTable)).items.isEmpty then none
          else some (popOutput nodeID (copyEntries order secondTable))) ∧
      (firstStage order firstTable).get? .star =
        some (Dict.empty.set .star ⟨.outputNodeID nodeID, 16⟩) := by
  rw [firstStage, hfind, mergeEntry4FirstStage]
  refine ⟨?_, Dict.get?_set_self ..⟩
  rw [Dict.get?_set_of_ne _ _ (by simp)]
  apply Option.ext
  intro e
  rw [Dict.get?_filter_eq_some, Dict.get?_map, get?_deepcopy, hsecond]
  simp only [Option.map_some, Option.some.injEq]
  constructor
  · rintro ⟨rfl, hempty⟩
    rw [if_neg (by simpa using hempty)]
  · split
    · exact fun h => by cases h
    · next hempty =>
        intro h
        obtain rfl := Option.some.inj h
        exact ⟨rfl, by simpa using hempty⟩

variable (order) in
/-- The entries with the most frequent output under a first key are not captured
by a wildcard of their second key: where other outputs are left under the second
key, the most frequent of them occurs one more time than the number of the node
that was taken away. -/
def NotCaptured (firstTable : Dict Nat (Dict Nat SubEntry))
    (secondTable : Dict Nat SubEntry) : Prop :=
  ∀ nodeID,
    firstOutput order firstTable = some nodeID →
    nodeID ∈ outputs secondTable.values →
    ∀ x, MostFrequentBut nodeID secondTable.values x →
      (outputs secondTable.values).count x = nodeID + 1

/-- An entry is under the second key `secondKey` of a table. -/
structure EntryOf (firstTable : Dict Nat (Dict Nat SubEntry))
    (secondKey thirdKey : Nat) (secondTable : Dict Nat SubEntry)
    (subEntry : SubEntry) : Prop where
  second : firstTable.get? secondKey = some secondTable
  third : secondTable.get? thirdKey = some subEntry

theorem EntryOf.copied {firstTable : Dict Nat (Dict Nat SubEntry)}
    {secondKey thirdKey : Nat} {secondTable : Dict Nat SubEntry}
    {subEntry : SubEntry}
    (h : EntryOf firstTable secondKey thirdKey secondTable subEntry) :
    (copyEntries order secondTable).get? (.id thirdKey) = some subEntry :=
  (Dict.get?_mapKeys ..).trans ((order.get?_copy ..).trans h.third)

theorem EntryOf.mem_values {firstTable : Dict Nat (Dict Nat SubEntry)}
    {secondKey thirdKey : Nat} {secondTable : Dict Nat SubEntry}
    {subEntry : SubEntry}
    (h : EntryOf firstTable secondKey thirdKey secondTable subEntry) :
    subEntry ∈ secondTable.values :=
  Dict.mem_values_iff.mpr ⟨thirdKey, h.third⟩

theorem mem_outputs {subEntries : List SubEntry} {nodeID : Nat} :
    nodeID ∈ outputs subEntries ↔
      ∃ subEntry ∈ subEntries, subEntry.actions = .outputNodeID nodeID := by
  simp only [outputs, List.mem_filterMap, Actions.output?_eq_some]

theorem lookup_of_left {firstTable : Dict Nat (Dict Nat SubEntry)}
    {secondKey thirdKey : Nat} {secondTable : Dict Nat SubEntry}
    {subEntry : SubEntry}
    (h : EntryOf firstTable secondKey thirdKey secondTable subEntry)
    (hleft : ∀ nodeID,
      firstOutput order firstTable = some nodeID →
      subEntry.actions ≠ .outputNodeID nodeID) :
    ∃ left, (firstStage order firstTable).get? (.id secondKey) = some left ∧
      left.get? (.id thirdKey) = some subEntry := by
  cases hfind : firstOutput order firstTable with
  | none =>
      refine ⟨copyEntries order secondTable, ?_, h.copied⟩
      rw [firstStage, hfind, mergeEntry4FirstStage, get?_deepcopy, h.second]
      rfl
  | some nodeID =>
      have hkept : (popOutput nodeID (copyEntries order secondTable)).get?
          (.id thirdKey) = some subEntry :=
        get?_popOutput.mpr ⟨h.copied, hleft nodeID hfind⟩
      refine ⟨_, ?_, hkept⟩
      rw [(get?_firstStage hfind h.second).1, if_neg]
      intro hempty
      rw [← Dict.mem_items_iff, List.isEmpty_iff.mp hempty] at hkept
      cases hkept

theorem lookup_of_taken {firstTable : Dict Nat (Dict Nat SubEntry)}
    {secondKey thirdKey : Nat} {secondTable : Dict Nat SubEntry}
    {subEntry : SubEntry}
    (h : EntryOf firstTable secondKey thirdKey secondTable subEntry)
    {nodeID : Nat}
    (hfind : firstOutput order firstTable = some nodeID)
    (hactions : subEntry.actions = .outputNodeID nodeID) :
    (((firstStage order firstTable).get? (.id secondKey)).bind fun secondTable =>
        entryOrStar (secondStage secondTable) thirdKey) =
      (findSecondKeyTableTheMostFrequentOutput
        (popOutput nodeID (copyEntries order secondTable))).map
          fun nodeID => ⟨.outputNodeID nodeID, 24⟩ := by
  have hid : (popOutput nodeID (copyEntries order secondTable)).get? (.id thirdKey) =
      none := Option.eq_none_iff_forall_ne_some.mpr fun e he => by
    obtain ⟨hget, hne⟩ := get?_popOutput.mp he
    rw [h.copied] at hget
    cases hget
    exact hne hactions
  have hstar : (popOutput nodeID (copyEntries order secondTable)).get? .star = none :=
    Option.eq_none_iff_forall_ne_some.mpr fun e he => by
      have hget := (get?_popOutput.mp he).1
      rw [get?_copyEntries_star] at hget
      cases hget
  rw [(get?_firstStage hfind h.second).1, ← secondStage_of_absent hid hstar]
  split
  · next hempty =>
      -- no entry at all is left, so there is no wildcard either
      have hnil : popOutput nodeID (copyEntries order secondTable) = .empty :=
        Dict.ext_items (List.isEmpty_iff.mp hempty)
      rw [hnil]
      rfl
  · rfl

variable (order) in
theorem getComSubEntry_spec {switchesUFRRTable : Dict Nat (SwitchTable Nat)}
    {dpid : Nat} {switchTable : SwitchTable Nat}
    (hswitch : switchesUFRRTable.get? dpid = some switchTable)
    {firstKey : Nat} {firstTable : Dict Nat (Dict Nat SubEntry)}
    (hfirst : switchTable.get? firstKey = some firstTable)
    {secondKey thirdKey : Nat} {secondTable : Dict Nat SubEntry}
    {subEntry : SubEntry}
    (h : EntryOf firstTable secondKey thirdKey secondTable subEntry) :
    ∃ comSubEntry,
      getComSubEntry (compressAllSwitchesUFRRTable order switchesUFRRTable) dpid
        firstKey secondKey thirdKey = some comSubEntry ∧
      (comSubEntry.actions = subEntry.actions ↔ ∀ nodeID,
        firstOutput order firstTable = some nodeID →
        subEntry.actions = .outputNodeID nodeID →
        ∀ x, MostFrequentBut nodeID secondTable.values x →
          (outputs secondTable.values).count x = nodeID + 1) := by
  rw [getComSubEntry_eq hswitch hfirst]
  by_cases htaken : ∃ nodeID,
      firstOutput order firstTable = some nodeID ∧
        subEntry.actions = .outputNodeID nodeID
  · obtain ⟨nodeID, hfind, hactions⟩ := htaken
    rw [lookup_of_taken h hfind hactions, (get?_firstStage hfind h.second).2,
      Option.bind_some, secondStage_firstWildcard]
    have hunique {x y : Nat} (hx : MostFrequentBut nodeID secondTable.values x)
        (hy : MostFrequentBut nodeID secondTable.values y) :
        (outputs secondTable.values).count x =
          (outputs secondTable.values).count y :=
      Nat.le_antisymm (hy.2.2 x hx.1 hx.2.1) (hx.2.2 y hy.1 hy.2.1)
    cases hcapture : findSecondKeyTableTheMostFrequentOutput
        (popOutput nodeID (copyEntries order secondTable)) with
    | none =>
        refine ⟨⟨.outputNodeID nodeID, 16⟩, Dict.get?_set_self .., ?_⟩
        refine iff_of_true hactions.symm fun nodeID' hfind' hactions' x hx => ?_
        rw [hfind] at hfind'
        cases hfind'
        have hpos := List.count_pos_iff.mpr hx.1
        have hsome := (findSecondKey_popOutput order).mpr
          ⟨x, hx, (Nat.succ_pred_eq_of_pos hpos).symm⟩
        rw [hcapture] at hsome
        cases hsome
    | some n =>
        obtain ⟨x, hx, hcount⟩ := (findSecondKey_popOutput order).mp hcapture
        refine ⟨⟨.outputNodeID n, 24⟩, rfl, ?_⟩
        rw [hactions]
        constructor
        · rintro hsame nodeID' hfind' - y hy
          rw [hfind] at hfind'
          cases hfind'
          cases hsame
          rw [hunique hy hx, hcount]
        · intro hall
          have hx' := hall nodeID hfind rfl x hx
          have hn : n = nodeID := by omega
          rw [hn]
  · have hleft : ∀ nodeID,
        firstOutput order firstTable = some nodeID →
        subEntry.actions ≠ .outputNodeID nodeID := fun nodeID hfind hactions =>
      htaken ⟨nodeID, hfind, hactions⟩
    obtain ⟨left, hget, hentry⟩ := lookup_of_left h hleft
    obtain ⟨⟨comSubEntry, hfound, hactions⟩, -⟩ := secondStage_of_present hentry
    refine ⟨comSubEntry, ?_, iff_of_true hactions ?_⟩
    · rw [hget, Option.bind_some, hfound]
      rfl
    · exact fun nodeID hfind heq => (hleft nodeID hfind heq).elim

structure Entry (switchesUFRRTable : Dict Nat (SwitchTable Nat))
    (dpid firstKey secondKey thirdKey : Nat) where
  switchTable : SwitchTable Nat
  firstTable : Dict Nat (Dict Nat SubEntry)
  secondTable : Dict Nat SubEntry
  subEntry : SubEntry
  hswitch : switchesUFRRTable.get? dpid = some switchTable
  hfirst : switchTable.get? firstKey = some firstTable
  hentry : EntryOf firstTable secondKey thirdKey secondTable subEntry

variable (order) in
def FoundWithActions (switchesUFRRTable : Dict Nat (SwitchTable Nat))
    (dpid firstKey secondKey thirdKey : Nat) (actions : Actions) : Prop :=
  ∃ comSubEntry,
    getComSubEntry (compressAllSwitchesUFRRTable order switchesUFRRTable) dpid
      firstKey secondKey thirdKey = some comSubEntry ∧
    comSubEntry.actions = actions

variable (order) in
/-- The compressed tables agree with the uncompressed ones: each entry is found
with its actions, the entries with a group are kept, and the verification raises
just when an entry is not found with its actions. -/
structure Faithful (switchesUFRRTable : Dict Nat (SwitchTable Nat)) :
    Prop where
  found : ∀ {dpid firstKey secondKey thirdKey : Nat}
    (e : Entry switchesUFRRTable dpid firstKey secondKey thirdKey),
    FoundWithActions order switchesUFRRTable dpid firstKey secondKey thirdKey
      e.subEntry.actions
  groupsKept : ∀ {dpid firstKey secondKey thirdKey : Nat}
    (e : Entry switchesUFRRTable dpid firstKey secondKey thirdKey) (groupID),
    e.subEntry.actions = .gotoGroup groupID →
    (((compressAllSwitchesUFRRTable order switchesUFRRTable).get? dpid).bind
      (·.get? firstKey)).bind (getUnder? · (.id secondKey) (.id thirdKey)) =
        some e.subEntry
  verified : (∃ error, verifyCompression switchesUFRRTable
      (compressAllSwitchesUFRRTable order switchesUFRRTable) = .error error) ↔
    ∃ dpid firstKey secondKey thirdKey,
      ∃ e : Entry switchesUFRRTable dpid firstKey secondKey thirdKey,
        ¬ FoundWithActions order switchesUFRRTable dpid firstKey secondKey thirdKey
          e.subEntry.actions

theorem groupsKept {switchesUFRRTable : Dict Nat (SwitchTable Nat)}
    {dpid firstKey secondKey thirdKey : Nat}
    (e : Entry switchesUFRRTable dpid firstKey secondKey thirdKey)
    {groupID : Nat} (hgroup : e.subEntry.actions = .gotoGroup groupID) :
    (((compressAllSwitchesUFRRTable order switchesUFRRTable).get? dpid).bind
      (·.get? firstKey)).bind (getUnder? · (.id secondKey) (.id thirdKey)) =
        some e.subEntry := by
  have hleft : ∀ nodeID,
      firstOutput order e.firstTable = some nodeID →
      e.subEntry.actions ≠ .outputNodeID nodeID := fun nodeID _ hactions => by
    rw [hgroup] at hactions
    cases hactions
  obtain ⟨left, hget, hthird⟩ := lookup_of_left e.hentry hleft
  rw [get?_compressAll e.hswitch e.hfirst, Option.bind_some, getUnder?,
    Dict.get?_map, hget]
  exact (secondStage_of_present hthird).2 groupID hgroup

theorem forM_eq_ok {α : Type} {l : List α} {f : α → Except PyError Unit}
    (h : ∀ a ∈ l, f a = .ok ()) : l.forM f = .ok () := by
  induction l with
  | nil => rfl
  | cons a l ih =>
      have hrest := ih fun a' ha' => h a' (List.mem_cons_of_mem a ha')
      change (f a >>= fun _ => l.forM f) = _
      rw [h a List.mem_cons_self, hrest]
      rfl

variable (order) in
/-- The verification never raises. -/
theorem verifyCompression_eq_ok
    (switchesUFRRTable : Dict Nat (SwitchTable Nat)) :
    verifyCompression switchesUFRRTable
      (compressAllSwitchesUFRRTable order switchesUFRRTable) = .ok () := by
  refine forM_eq_ok fun ⟨dpid, switchTable⟩ hswitch => ?_
  refine forM_eq_ok fun ⟨firstKey, firstTable⟩ hfirst => ?_
  refine forM_eq_ok fun ⟨secondKey, secondTable⟩ hsecond => ?_
  refine forM_eq_ok fun ⟨thirdKey, subEntry⟩ hthird => ?_
  obtain ⟨comSubEntry, hfound, -⟩ := getComSubEntry_spec order
    (Dict.mem_items_iff.mp hswitch) (Dict.mem_items_iff.mp hfirst)
    ⟨Dict.mem_items_iff.mp hsecond, Dict.mem_items_iff.mp hthird⟩
  simp only [verifyEntry, hfound, compareSubEntry, ne_eq, not_true_eq_false,
    if_false]
  rfl

/-- The compression of the tables that a number of calls made is faithful
exactly when in no table an entry that the first stage takes away is captured by
the wildcard that the second stage makes. -/
theorem compression_faithful_iff (encodingFormat : EncodingFormat)
    (entries : List FlowTableEntry) :
    Faithful order (switchesUFRRTable encodingFormat entries) ↔
      ∀ dpid switchTable firstKey firstTable secondKey secondTable,
        (switchesUFRRTable encodingFormat entries).get? dpid =
          some switchTable →
        switchTable.get? firstKey = some firstTable →
        firstTable.get? secondKey = some secondTable →
        NotCaptured order firstTable secondTable := by
  generalize switchesUFRRTable encodingFormat entries = tables
  constructor
  · intro hfaithful dpid switchTable firstKey firstTable secondKey secondTable
      hswitch hfirst hsecond nodeID hfind hmem
    obtain ⟨subEntry, hvalue, hactions⟩ := mem_outputs.mp hmem
    obtain ⟨thirdKey, hthird⟩ := Dict.mem_values_iff.mp hvalue
    let e : Entry tables dpid firstKey secondKey thirdKey :=
      ⟨switchTable, firstTable, secondTable, subEntry, hswitch, hfirst,
        ⟨hsecond, hthird⟩⟩
    obtain ⟨comSubEntry, hfound, hsame⟩ := hfaithful.found e
    obtain ⟨comSubEntry', hfound', hiff⟩ :=
      getComSubEntry_spec order hswitch hfirst e.hentry
    obtain rfl := Option.some.inj (hfound.symm.trans hfound')
    exact hiff.mp hsame nodeID hfind hactions
  · intro hnot
    have hfound {dpid firstKey secondKey thirdKey : Nat}
        (e : Entry tables dpid firstKey secondKey thirdKey) :
        FoundWithActions order tables dpid firstKey secondKey thirdKey
          e.subEntry.actions := by
      obtain ⟨comSubEntry, hget, hiff⟩ :=
        getComSubEntry_spec order e.hswitch e.hfirst e.hentry
      refine ⟨comSubEntry, hget, hiff.mpr fun nodeID hfind hactions => ?_⟩
      refine hnot dpid e.switchTable firstKey e.firstTable secondKey
        e.secondTable e.hswitch e.hfirst e.hentry.second nodeID hfind ?_
      exact mem_outputs.mpr ⟨e.subEntry, e.hentry.mem_values, hactions⟩
    refine ⟨hfound, fun e groupID hgroup => groupsKept e hgroup, ?_⟩
    constructor
    · rintro ⟨error, herror⟩
      rw [verifyCompression_eq_ok] at herror
      cases herror
    · rintro ⟨dpid, firstKey, secondKey, thirdKey, e, he⟩
      exact (he (hfound e)).elim

/-- Two entries that output to the node 7, one of them beside an entry under the
same second key that outputs to the node 5. -/
def capturedEntries : List FlowTableEntry :=
  [⟨1, 1, 1, 1, .outputNodeID 7, 0⟩, ⟨1, 2, 1, 1, .outputNodeID 7, 0⟩,
    ⟨1, 1, 1, 2, .outputNodeID 5, 0⟩]

/-- In whatever order the interpreter goes through the dictionaries, the entry of
the SFCI 1 on the path 1 is not found with its node, and the verification does not
notice. -/
theorem entry_captured :
    (switchTable .vnfidSfcidPathid capturedEntries 1).get3? 1 1 1 =
        some ⟨.outputNodeID 7, 0⟩ ∧
      ∀ order, ¬ FoundWithActions order
          (switchesUFRRTable .vnfidSfcidPathid capturedEntries) 1 1 1 1
            (.outputNodeID 7) ∧
        verifyCompression (switchesUFRRTable .vnfidSfcidPathid capturedEntries)
          (compressAllSwitchesUFRRTable order
            (switchesUFRRTable .vnfidSfcidPathid capturedEntries)) = .ok () := by
  refine ⟨by decide, fun order => ⟨?_, verifyCompression_eq_ok order _⟩⟩
  let firstTable : Dict Nat (Dict Nat SubEntry) :=
    (Dict.empty.set 1 ((Dict.empty.set 1 ⟨.outputNodeID 7, 0⟩).set 2
      ⟨.outputNodeID 5, 0⟩)).set 2 (Dict.empty.set 1 ⟨.outputNodeID 7, 0⟩)
  have houtputs : outputs (firstTable.values.flatMap Dict.values) = [7, 5, 7] := rfl
  obtain ⟨nodeID, hfind⟩ : ∃ nodeID, firstOutput order firstTable = some nodeID := by
    refine exists_firstOutput (x := 7) ?_
    rw [houtputs]
    decide
  obtain ⟨hmem, hmost⟩ := of_firstOutput hfind
  rw [houtputs] at hmem hmost
  obtain rfl : nodeID = 7 := by
    have hseven := hmost 7
    simp only [List.mem_cons, List.not_mem_nil, or_false] at hmem
    obtain rfl | rfl | rfl := hmem
    · rfl
    · exact absurd hseven (by decide)
    · rfl
  rintro ⟨comSubEntry, hfound, hactions⟩
  have hswitch : (switchesUFRRTable .vnfidSfcidPathid capturedEntries).get? 1 =
      some (Dict.empty.set 1 firstTable) := by decide
  have hfirst : (Dict.empty.set 1 firstTable).get? 1 = some firstTable := rfl
  have hentry : EntryOf firstTable 1 1 _ ⟨.outputNodeID 7, 0⟩ := ⟨rfl, rfl⟩
  obtain ⟨comSubEntry', hfound', hiff⟩ :=
    getComSubEntry_spec order hswitch hfirst hentry
  obtain rfl := Option.some.inj (hfound.symm.trans hfound')
  have hfive : MostFrequentBut 7 [⟨.outputNodeID 7, 0⟩, ⟨.outputNodeID 5, 0⟩] 5 :=
    ⟨by decide, by decide, by decide⟩
  exact absurd (hiff.mp hactions 7 hfind rfl 5 hfive) (by decide)

end UFRRIBMaintainer

end SelfAdaptiveMano

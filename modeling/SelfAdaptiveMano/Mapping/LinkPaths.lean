import SelfAdaptiveMano.Library.Dict
import SelfAdaptiveMano.Library.Pairs
import SelfAdaptiveMano.Library.Python
import SelfAdaptiveMano.Mapping.FrrPathIDAllocator
import Mathlib.Data.List.Sort

/-!
# A path from the links of a solution

A solver returns the links that a path uses in each layer, in the order of its
variables. `MappingAlgorithmBase` strings them together: from the source of the
first link it goes on along the links that fit, forwards and backwards, and a layer
without a link is the one node that the solver placed there.
-/

namespace SelfAdaptiveMano.Mapping

open Library

namespace MappingAlgorithmBase

/-- The loop that both directions share: a link at the node reached is taken out of
the list and the node at its other end is added to the path. -/
def extendPath (near far : Nat × Nat → Nat) (put : List Nat → Nat → List Nat)
    (loopText : String) (inputLength : Nat) (linkList : List (Nat × Nat))
    (currentSwitchID : Nat) (path : List Nat) : Except PyError (List Nat) :=
  match _h : linkList.find? fun link => near link = currentSwitchID with
  | some link =>
      if (put path (far link)).length > inputLength + 1 then
        throw (.valueError loopText)
      else
        extendPath near far put loopText inputLength (linkList.erase link) (far link)
          (put path (far link))
  | none => return path
termination_by linkList.length
decreasing_by
  rw [List.length_erase_of_mem (List.mem_of_find?_eq_some _h)]
  exact Nat.sub_lt (List.length_pos_of_mem (List.mem_of_find?_eq_some _h)) Nat.one_pos

def findForwardPath (inputLinkList : List (Nat × Nat)) : Except PyError (List Nat) := do
  let currentSwitchID := (← itemAt inputLinkList 0).1
  extendPath Prod.fst Prod.snd (fun path node => path ++ [node])
    "_findForwardPath has loop?" inputLinkList.length inputLinkList currentSwitchID
    [currentSwitchID]

def findPrevForwardPath (inputLinkList : List (Nat × Nat)) :
    Except PyError (List Nat) := do
  let currentSwitchID := (← itemAt inputLinkList 0).1
  extendPath Prod.snd Prod.fst (fun path node => node :: path)
    "_findPrevForwardPath has loop?" inputLinkList.length inputLinkList currentSwitchID
    [currentSwitchID]

def transPath2ForwardingPath (vnfIndex : Nat) (path : List Nat) : List LayerNode :=
  path.map fun switchID => (vnfIndex, switchID)

def sortedKeys {ν : Type} (d : Dict Nat ν) : List Nat := d.keys.insertionSort (· ≤ ·)

/-- `d[k]`. -/
def valueAt {ν : Type} (d : Dict Nat ν) (k : Nat) : Except PyError ν :=
  match d.get? k with
  | some v => .ok v
  | none => .error .keyError

def genPath4LinkDict (linkDict : Dict Nat (List (Nat × Nat))) :
    Except PyError ForwardingPath :=
  (sortedKeys linkDict).mapM fun vnfIndex => do
    let linkList ← valueAt linkDict vnfIndex
    let firstSeg := (← findPrevForwardPath linkList).dropLast
    let secondSeg ← findForwardPath linkList
    return transPath2ForwardingPath vnfIndex (firstSeg ++ secondSeg)

def hasThisLayerInPath (vnfIndex : Nat) : ForwardingPath → Except PyError Bool
  | [] => return false
  | segPath :: path => do
      let (layerNum, _) ← itemAt segPath 0
      if vnfIndex = layerNum then
        return true
      else
        hasThisLayerInPath vnfIndex path

def getThisLayerInPath (vnfIndex : Nat) :
    ForwardingPath → Except PyError (List LayerNode)
  | [] => throw (.valueError "Can't find this layer in path.")
  | segPath :: path => do
      let (layerNum, _) ← itemAt segPath 0
      if vnfIndex = layerNum then
        return segPath
      else
        getThisLayerInPath vnfIndex path

def insertMissingLayer (path : ForwardingPath) (nPopDict : Dict Nat Nat) :
    Except PyError (List LayerNode) :=
  (sortedKeys nPopDict).foldlM (fun newPath vnfIndex => do
    if ← hasThisLayerInPath vnfIndex path then
      return newPath ++ (← getThisLayerInPath vnfIndex path)
    else
      return newPath ++ [(vnfIndex, ← valueAt nPopDict vnfIndex)]) []

/-- The path that `_getPaths` makes of a solution. -/
def pathOfSolution (linkDict : Dict Nat (List (Nat × Nat))) (nPopDict : Dict Nat Nat) :
    Except PyError (List LayerNode) := do
  insertMissingLayer (← genPath4LinkDict linkDict) nPopDict

/-- The links and nodes of a solution that places the layers `0` to `c` along
`segment`: the links of a layer come in any order, and a layer whose nodes are one has
none. -/
structure Solves (c : Nat) (segment : Nat → List Nat)
    (linkDict : Dict Nat (List (Nat × Nat))) (nPopDict : Dict Nat Nat) : Prop where
  nonempty : ∀ i ≤ c, segment i ≠ []
  simple : ∀ i ≤ c, (segment i).Nodup
  links : ∀ i ≤ c, pairs (segment i) ≠ [] →
    ∃ linkList, linkDict.get? i = some linkList ∧ linkList.Perm (pairs (segment i))
  noLinks : ∀ i, (i ≤ c → pairs (segment i) = []) → linkDict.get? i = none
  nPop : ∀ i ≤ c, ∃ node ∈ segment i, nPopDict.get? i = some node
  noNPop : ∀ i, c < i → nPopDict.get? i = none

/-! ## One layer -/

section Layer

variable {near far : Nat × Nat → Nat} {put : List Nat → Nat → List Nat}
  {loopText : String} {inputLength : Nat} {segPath : List Nat}

/-- The nodes are added one after the other. The links that are left over do not
touch the nodes still to come, and each of these has one link in front of it. -/
theorem extendPath_eq_ok (turn : Nat × Nat → Nat × Nat)
    (hnear : ∀ link, near (turn link) = link.1)
    (hfar : ∀ link, far (turn link) = link.2)
    (hput : ∀ path node, (put path node).length = path.length + 1)
    {post : List Nat} {a : Nat} {linkList rest : List (Nat × Nat)} {path : List Nat}
    (hperm : linkList.Perm (rest ++ (pairs (a :: post)).map turn))
    (hrest : ∀ link ∈ rest, near link ∉ a :: post) (hnodup : (a :: post).Nodup)
    (hlength : path.length + post.length ≤ inputLength + 1) :
    extendPath near far put loopText inputLength linkList a path =
      .ok (post.foldl put path) := by
  induction post generalizing a linkList path with
  | nil =>
      have hnone : (linkList.find? fun link => near link = a) = none := by
        rw [List.find?_eq_none]
        intro link hlink hsame
        apply hrest link (by simpa using hperm.subset hlink)
        rw [of_decide_eq_true hsame]
        exact List.mem_cons_self
      rw [extendPath]
      split
      · next h => rw [hnone] at h; cases h
      · rfl
  | cons b post ih =>
      have hhead : linkList.Perm
          (turn (a, b) :: (rest ++ (pairs (b :: post)).map turn)) :=
        hperm.trans List.perm_middle
      rcases List.nodup_cons.mp hnodup with ⟨hnew, hnodup'⟩
      have honly : ∀ link ∈ linkList, near link = a → link = turn (a, b) := by
        intro link hlink hsame
        rcases List.mem_cons.mp (hhead.subset hlink) with rfl | hlink
        · rfl
        · rcases List.mem_append.mp hlink with hlink | hlink
          · exact absurd (hsame ▸ List.mem_cons_self) (hrest link hlink)
          · rcases List.mem_map.mp hlink with ⟨next, hnext, rfl⟩
            rw [hnear] at hsame
            exact absurd (hsame ▸ List.mem_of_mem_dropLast (mem_of_mem_pairs hnext).1) hnew
      have hmem : turn (a, b) ∈ linkList := hhead.symm.subset List.mem_cons_self
      rw [extendPath]
      split
      · next link hfind =>
          have hlink := honly link (List.mem_of_find?_eq_some hfind)
            (by simpa using List.find?_some hfind)
          rw [hlink, hfar, if_neg (by rw [hput]; simp at hlength; omega), ih]
          · rfl
          · have herase := hhead.erase (turn (a, b))
            rwa [List.erase_cons_head] at herase
          · intro link hlink hnode
            exact hrest link hlink (List.mem_cons_of_mem a hnode)
          · exact hnodup'
          · rw [hput]
            simp only [List.length_cons] at hlength
            omega
      · next hfind =>
          have hnot := List.find?_eq_none.mp hfind _ hmem
          simp [hnear] at hnot

theorem foldl_concat (post path : List Nat) :
    post.foldl (fun path node => path ++ [node]) path = path ++ post := by
  induction post generalizing path with
  | nil => exact (List.append_nil path).symm
  | cons b post ih => rw [List.foldl_cons, ih, List.append_assoc, List.singleton_append]

theorem foldl_push (pre path : List Nat) :
    pre.foldl (fun path node => node :: path) path = pre.reverse ++ path := by
  induction pre generalizing path with
  | nil => rfl
  | cons b pre ih => rw [List.foldl_cons, ih, List.reverse_cons, List.append_assoc]; rfl

variable {front back : List Nat} {a b : Nat} {linkList : List (Nat × Nat)}

theorem length_linkList (hperm : linkList.Perm (pairs (front ++ a :: back))) :
    linkList.length = front.length + back.length := by
  rw [hperm.length_eq, length_pairs, List.length_append, List.length_cons]
  rfl

theorem findForwardPath_eq_ok (hperm : linkList.Perm (pairs (front ++ a :: back)))
    (hnodup : (front ++ a :: back).Nodup) (hhead : linkList.head? = some (a, b)) :
    findForwardPath linkList = .ok (a :: back) := by
  rcases List.nodup_append.mp hnodup with ⟨-, hback, hdisjoint⟩
  rw [findForwardPath, itemAt_zero_eq_ok_iff.mpr hhead, ← List.singleton_append,
    ← foldl_concat]
  refine extendPath_eq_ok id (fun _ => rfl) (fun _ => rfl) (fun _ _ => List.length_append)
    (?_ : linkList.Perm (pairs (front ++ [a]) ++ _)) ?_ hback ?_
  · rwa [List.map_id, ← pairs_append]
  · intro link hlink hnode
    have hsource := (mem_of_mem_pairs hlink).1
    rw [List.dropLast_concat] at hsource
    exact hdisjoint _ hsource _ hnode rfl
  · rw [length_linkList hperm, List.length_singleton]
    omega

theorem findPrevForwardPath_eq_ok (hperm : linkList.Perm (pairs (front ++ a :: back)))
    (hnodup : (front ++ a :: back).Nodup) (hhead : linkList.head? = some (a, b)) :
    findPrevForwardPath linkList = .ok (front ++ [a]) := by
  have hreverse : a :: front.reverse = (front ++ [a]).reverse := by
    rw [List.reverse_append, List.reverse_singleton, List.singleton_append]
  have hfront : (front ++ [a]).Nodup := by
    apply List.Nodup.sublist (List.Sublist.append_left _ front) hnodup
    exact List.singleton_sublist.mpr List.mem_cons_self
  rw [findPrevForwardPath, itemAt_zero_eq_ok_iff.mpr hhead,
    ← List.reverse_reverse front, ← foldl_push]
  refine extendPath_eq_ok Prod.swap (fun _ => rfl) (fun _ => rfl) (fun _ _ => rfl)
    (?_ : linkList.Perm (pairs (a :: back) ++ _)) ?_ ?_ ?_
  · have hswap := (pairs_reverse (front ++ [a])).map Prod.swap
    rw [List.map_map, Prod.swap_swap_eq, List.map_id, ← hreverse] at hswap
    rw [pairs_append] at hperm
    exact hperm.trans (List.perm_append_comm.trans (hswap.symm.append_left _))
  · intro link hlink hnode
    have htarget := (mem_of_mem_pairs hlink).2
    rw [hreverse, List.mem_reverse] at hnode
    exact List.disjoint_of_nodup_append (List.append_cons front a back ▸ hnodup)
      hnode htarget
  · rw [hreverse]
    exact List.nodup_reverse.mpr hfront
  · rw [length_linkList hperm, List.length_reverse, List.length_singleton]
    omega

end Layer

/-! ## All layers -/

section Layers

variable {c : Nat} {segment : Nat → List Nat} {linkDict : Dict Nat (List (Nat × Nat))}
  {nPopDict : Dict Nat Nat}

theorem sortedKeys_eq {ν : Type} {d : Dict Nat ν} {l : List Nat}
    (hl : l.Pairwise (· < ·)) (hkeys : ∀ k, k ∈ d.keys ↔ k ∈ l) : sortedKeys d = l := by
  have hperm : (sortedKeys d).Perm l := by
    apply (List.perm_insertionSort _ _).trans
    apply (List.perm_ext_iff_of_nodup d.nodup_keys' (hl.imp fun h => Nat.ne_of_lt h)).mpr
    exact hkeys
  apply hperm.eq_of_pairwise' (List.pairwise_insertionSort _ _)
  exact hl.imp fun h => Nat.le_of_lt h

theorem valueAt_eq_ok {ν : Type} {d : Dict Nat ν} {k : Nat} {v : ν}
    (h : d.get? k = some v) : valueAt d k = .ok v := by
  rw [valueAt, h]

def linkedLayers (c : Nat) (segment : Nat → List Nat) : List Nat :=
  (List.range (c + 1)).filter fun i => pairs (segment i) ≠ []

theorem mem_linkedLayers {i : Nat} :
    i ∈ linkedLayers c segment ↔ i ≤ c ∧ pairs (segment i) ≠ [] := by
  rw [linkedLayers, List.mem_filter, List.mem_range, Nat.lt_succ_iff, decide_eq_true_iff]

theorem Solves.sortedKeys_linkDict (h : Solves c segment linkDict nPopDict) :
    sortedKeys linkDict = linkedLayers c segment := by
  apply sortedKeys_eq
  · exact List.pairwise_lt_range.filter _
  · intro i
    rw [Dict.mem_keys_iff, mem_linkedLayers]
    constructor
    · rintro ⟨linkList, hget⟩
      by_contra hnot
      rw [not_and_not_right] at hnot
      rw [h.noLinks i hnot] at hget
      cases hget
    · rintro ⟨hi, hlinks⟩
      rcases h.links i hi hlinks with ⟨linkList, hget, -⟩
      exact ⟨linkList, hget⟩

theorem Solves.sortedKeys_nPopDict (h : Solves c segment linkDict nPopDict) :
    sortedKeys nPopDict = List.range (c + 1) := by
  apply sortedKeys_eq List.pairwise_lt_range
  intro i
  rw [Dict.mem_keys_iff, List.mem_range, Nat.lt_succ_iff]
  constructor
  · rintro ⟨node, hget⟩
    by_contra hnot
    rw [h.noNPop i (Nat.lt_of_not_le hnot)] at hget
    cases hget
  · intro hi
    rcases h.nPop i hi with ⟨node, -, hget⟩
    exact ⟨node, hget⟩

theorem genPath4LinkDict_eq_ok (h : Solves c segment linkDict nPopDict) :
    genPath4LinkDict linkDict =
      .ok ((linkedLayers c segment).map fun i => transPath2ForwardingPath i (segment i)) := by
  rw [genPath4LinkDict, h.sortedKeys_linkDict]
  apply except_mapM_eq_map
  intro i hi
  rcases mem_linkedLayers.mp hi with ⟨hi, hlinks⟩
  rcases h.links i hi hlinks with ⟨linkList, hget, hperm⟩
  rw [valueAt_eq_ok hget]
  cases hlist : linkList with
  | nil => exact absurd (List.perm_nil.mp (hlist ▸ hperm).symm) hlinks
  | cons link linkList' =>
      rcases link with ⟨a, b⟩
      have hmem : a ∈ segment i := by
        have hsource := hperm.subset (hlist ▸ List.mem_cons_self)
        exact List.mem_of_mem_dropLast (mem_of_mem_pairs hsource).1
      have hsimple := h.simple i hi
      rcases List.append_of_mem hmem with ⟨front, back, hsegment⟩
      rw [hsegment] at hperm hsimple ⊢
      have hhead : linkList.head? = some (a, b) := by rw [hlist]; rfl
      rw [← hlist]
      show (do
        let firstSeg := (← findPrevForwardPath linkList).dropLast
        let secondSeg ← findForwardPath linkList
        return transPath2ForwardingPath i (firstSeg ++ secondSeg)) = _
      rw [findPrevForwardPath_eq_ok hperm hsimple hhead,
        findForwardPath_eq_ok hperm hsimple hhead]
      show Except.ok (transPath2ForwardingPath i ((front ++ [a]).dropLast ++ a :: back)) = _
      rw [List.dropLast_concat]

theorem itemAt_transPath2ForwardingPath {i : Nat} {path : List Nat} (h : path ≠ []) :
    ∃ node, itemAt (transPath2ForwardingPath i path) 0 = .ok (i, node) := by
  cases path with
  | nil => exact absurd rfl h
  | cons node path => exact ⟨node, rfl⟩

variable {layers : List Nat} (hlayers : ∀ i ∈ layers, segment i ≠ [])

include hlayers

theorem hasThisLayerInPath_eq_ok (i : Nat) :
    hasThisLayerInPath i (layers.map fun j => transPath2ForwardingPath j (segment j)) =
      .ok (decide (i ∈ layers)) := by
  induction layers with
  | nil => rfl
  | cons j layers ih =>
      rw [List.forall_mem_cons] at hlayers
      rcases itemAt_transPath2ForwardingPath (i := j) hlayers.1 with ⟨node, hitem⟩
      rw [List.map_cons, hasThisLayerInPath, hitem]
      by_cases hsame : i = j
      · subst hsame
        rw [decide_eq_true List.mem_cons_self]
        exact if_pos rfl
      · simp only [List.mem_cons, hsame, false_or]
        exact (if_neg hsame).trans (ih hlayers.2)

theorem getThisLayerInPath_eq_ok {i : Nat} (hi : i ∈ layers) :
    getThisLayerInPath i (layers.map fun j => transPath2ForwardingPath j (segment j)) =
      .ok (transPath2ForwardingPath i (segment i)) := by
  induction layers with
  | nil => cases hi
  | cons j layers ih =>
      rw [List.forall_mem_cons] at hlayers
      rcases itemAt_transPath2ForwardingPath (i := j) hlayers.1 with ⟨node, hitem⟩
      rw [List.map_cons, getThisLayerInPath, hitem]
      by_cases hsame : i = j
      · subst hsame
        exact if_pos rfl
      · have htail := List.mem_of_ne_of_mem hsame hi
        exact (if_neg hsame).trans (ih hlayers.2 htail)

omit hlayers

theorem insertMissingLayer_eq_ok (h : Solves c segment linkDict nPopDict) :
    insertMissingLayer
        ((linkedLayers c segment).map fun i => transPath2ForwardingPath i (segment i))
        nPopDict =
      .ok ((List.range (c + 1)).flatMap fun i =>
        transPath2ForwardingPath i (segment i)) := by
  have hnonempty : ∀ i ∈ linkedLayers c segment, segment i ≠ [] := by
    intro i hi
    exact h.nonempty i (mem_linkedLayers.mp hi).1
  rw [insertMissingLayer, h.sortedKeys_nPopDict]
  apply except_foldlM_append
  intro i hi newPath
  have hi := Nat.lt_succ_iff.mp (List.mem_range.mp hi)
  rw [hasThisLayerInPath_eq_ok hnonempty]
  by_cases hlinked : i ∈ linkedLayers c segment
  · rw [decide_eq_true hlinked, getThisLayerInPath_eq_ok hnonempty hlinked]
    rfl
  · -- without a link the segment is the node that is placed there
    rw [decide_eq_false hlinked]
    rcases h.nPop i hi with ⟨node, hnode, hget⟩
    rw [valueAt_eq_ok hget]
    have hlinks : pairs (segment i) = [] := by
      by_contra hlinks
      exact hlinked (mem_linkedLayers.mpr ⟨hi, hlinks⟩)
    have hsegment : segment i = [node] := by
      have hlength := length_pairs (segment i)
      rw [hlinks, List.length_nil] at hlength
      have hpos := List.length_pos_of_mem hnode
      rcases List.length_eq_one_iff.mp (by omega : (segment i).length = 1) with ⟨a, ha⟩
      rw [ha] at hnode ⊢
      rw [List.mem_singleton.mp hnode]
    rw [hsegment]
    rfl

/-- The path of the solution is the path it was made of: the segments of the layers
`0` to `c`, one after the other. -/
theorem pathOfSolution_eq_ok (h : Solves c segment linkDict nPopDict) :
    pathOfSolution linkDict nPopDict =
      .ok ((List.range (c + 1)).flatMap fun i =>
        (segment i).map fun node => (i, node)) := by
  rw [pathOfSolution, genPath4LinkDict_eq_ok h]
  exact insertMissingLayer_eq_ok h

def threeLayers : Nat → List Nat
  | 0 => [1, 2, 3]
  | 1 => [3]
  | _ => [3, 4]

theorem pathOfSolution_eq_ok_threeLayers :
    pathOfSolution ((Dict.empty.set 2 [(3, 4)]).set 0 [(2, 3), (1, 2)])
        (((Dict.empty.set 0 3).set 1 3).set 2 4) =
      .ok [(0, 1), (0, 2), (0, 3), (1, 3), (2, 3), (2, 4)] := by
  refine pathOfSolution_eq_ok (?_ : Solves 2 threeLayers _ _)
  constructor
  · decide
  · decide
  · intro i hi hlinks
    match i with
    | 0 => exact ⟨_, rfl, by decide⟩
    | 1 => exact absurd rfl hlinks
    | 2 => exact ⟨_, rfl, by decide⟩
  · intro i hlinks
    match i with
    | 0 => exact absurd (hlinks (by decide)) (by decide)
    | 1 => rfl
    | 2 => exact absurd (hlinks (by decide)) (by decide)
    | i + 3 => rfl
  · decide
  · intro i hi
    match i with
    | i + 3 => rfl

end Layers

end MappingAlgorithmBase

end SelfAdaptiveMano.Mapping

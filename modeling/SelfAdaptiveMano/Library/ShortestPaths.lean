import Mathlib.Data.List.Chain
import Mathlib.Data.List.Nodup
import Mathlib.Data.Nat.Find
import Mathlib.Order.Basic

/-!
# Following shortest paths to a target

A path is the list of its nodes. The rest of a shortest path is a shortest path, so
that every step of one goes from a distance to the next smaller one (`Downhill`).
Steps that are taken from different shortest paths can therefore be mixed: where each
node has one next hop, and all next hops go downhill, following them from a node at the
distance `d` arrives at the target after `d` hops, and never comes back to a node.
-/

namespace Library

namespace ShortestPaths

variable {α : Type*}

section Definitions

variable (E : α → α → Prop) (t : α)

/-- The nodes of a path from `a` to the target `t`. -/
structure IsPath (a : α) (path : List α) : Prop where
  chain : path.IsChain E
  head : path.head? = some a
  last : path.getLast? = some t

structure IsShortest (a : α) (path : List α) : Prop extends IsPath E t a path where
  le : ∀ path', IsPath E t a path' → path.length ≤ path'.length

/-- The node `a` is at the distance `d` from the target. -/
def Dist (a : α) (d : Nat) : Prop :=
  ∃ path, IsShortest E t a path ∧ path.length = d + 1

/-- The edge from `a` to `b` goes to the next smaller distance. -/
def Downhill (a b : α) : Prop :=
  E a b ∧ ∃ d, Dist E t a (d + 1) ∧ Dist E t b d

/-- The next hops go downhill, and there is one wherever there is a path, except at
the target. -/
structure Tree (next : α → Option α) : Prop where
  downhill : ∀ a b, next a = some b → Downhill E t a b
  total : ∀ a d, Dist E t a (d + 1) → next a ≠ none

end Definitions

def after (next : α → Option α) : Nat → α → Option α
  | 0, a => some a
  | n + 1, a => (next a).bind (after next n)

variable {E : α → α → Prop} {t a b : α} {path : List α} {d d' n : Nat}
  {next : α → Option α}

/-! ## Distances -/

theorem IsShortest.length_pos (h : IsShortest E t a path) : 0 < path.length := by
  apply List.length_pos_of_ne_nil
  rintro rfl
  cases h.head

theorem IsShortest.dist (h : IsShortest E t a path) :
    Dist E t a (path.length - 1) :=
  ⟨path, h, (Nat.sub_add_cancel h.length_pos).symm⟩

theorem Dist.unique (h : Dist E t a d) (h' : Dist E t a d') : d = d' := by
  obtain ⟨path, hpath, hlength⟩ := h
  obtain ⟨path', hpath', hlength'⟩ := h'
  have hle := hpath.le path' hpath'.toIsPath
  have hge := hpath'.le path hpath.toIsPath
  omega

theorem dist_target : Dist E t t 0 := by
  have hpath : IsPath E t t [t] := ⟨List.isChain_singleton t, rfl, rfl⟩
  refine ⟨[t], ⟨hpath, fun path' h => ?_⟩, rfl⟩
  apply List.length_pos_of_ne_nil
  rintro rfl
  cases h.head

theorem Dist.eq_target (h : Dist E t a 0) : a = t := by
  obtain ⟨path, hpath, hlength⟩ := h
  obtain ⟨b, rfl⟩ := List.length_eq_one_iff.mp hlength
  have hhead := Option.some.inj hpath.head
  have hlast := Option.some.inj hpath.last
  exact hhead.symm.trans hlast

theorem IsShortest.tail (h : IsShortest E t a (a :: b :: path)) :
    IsShortest E t b (b :: path) := by
  obtain ⟨hedge, hchain⟩ := List.isChain_cons_cons.mp h.chain
  have hlast := h.last
  rw [List.getLast?_cons_cons] at hlast
  refine ⟨⟨hchain, rfl, hlast⟩, fun path' h' => ?_⟩
  obtain ⟨rest, rfl⟩ := List.head?_eq_some_iff.mp h'.head
  have hlonger : IsPath E t a (a :: b :: rest) :=
    ⟨List.isChain_cons_cons.mpr ⟨hedge, h'.chain⟩, rfl, by
      rw [List.getLast?_cons_cons]
      exact h'.last⟩
  exact Nat.le_of_succ_le_succ (h.le _ hlonger)

theorem IsShortest.isChain_downhill (h : IsShortest E t a path) :
    path.IsChain (Downhill E t) := by
  induction path generalizing a with
  | nil => exact List.isChain_nil
  | cons a' path ih =>
      obtain rfl := Option.some.inj h.head
      cases path with
      | nil => exact List.isChain_singleton a'
      | cons b path =>
          have hedge := (List.isChain_cons_cons.mp h.chain).1
          exact List.isChain_cons_cons.mpr
            ⟨⟨hedge, path.length, h.dist, h.tail.dist⟩, ih h.tail⟩

theorem exists_isShortest (h : Relation.ReflTransGen E a t) :
    ∃ path, IsShortest E t a path := by
  have hpath : ∃ n path, IsPath E t a path ∧ path.length = n := by
    obtain ⟨l, hchain, hlast⟩ := List.exists_isChain_cons_of_relationReflTransGen h
    refine ⟨_, a :: l, ⟨hchain, rfl, ?_⟩, rfl⟩
    rw [List.getLast?_eq_some_getLast (List.cons_ne_nil a l), hlast]
  classical
  obtain ⟨path, hpath', hlength⟩ := Nat.find_spec hpath
  refine ⟨path, hpath', fun path' h' => ?_⟩
  rw [hlength]
  exact Nat.find_min' hpath ⟨path', h', rfl⟩

/-- A shortest path does not come back to a node. -/
theorem IsShortest.nodup (h : IsShortest E t a path) : path.Nodup := by
  induction path generalizing a with
  | nil => exact List.nodup_nil
  | cons a' path ih =>
      obtain rfl := Option.some.inj h.head
      cases path with
      | nil => exact List.nodup_singleton a'
      | cons b path =>
          refine List.nodup_cons.mpr ⟨fun hmem => ?_, ih h.tail⟩
          obtain ⟨front, back, hsplit⟩ := List.append_of_mem hmem
          have hchain := h.tail.chain
          have hlast := h.tail.last
          rw [hsplit] at hchain hlast
          have hshort : IsPath E t a' (a' :: back) :=
            ⟨hchain.right_of_append, rfl, by simpa using hlast⟩
          have hle := h.le _ hshort
          rw [hsplit] at hle
          simp only [List.length_cons, List.length_append] at hle
          omega

/-! ## Following the next hops -/

theorem after_add (m n : Nat) (a : α) :
    after next (m + n) a = (after next m a).bind (after next n) := by
  induction m generalizing a with
  | zero => rw [Nat.zero_add, after, Option.bind_some]
  | succ m ih =>
      rw [Nat.succ_add, after, after, Option.bind_assoc]
      exact congrArg _ (funext ih)

theorem Tree.next_target (h : Tree E t next) : next t = none := by
  rw [Option.eq_none_iff_forall_ne_some]
  intro b hb
  obtain ⟨-, d, hd, -⟩ := h.downhill t b hb
  exact absurd (dist_target.unique hd) (Nat.succ_ne_zero d).symm

theorem Tree.after_of_dist (h : Tree E t next) (ha : Dist E t a (n + d)) :
    ∃ b, after next n a = some b ∧ Dist E t b d := by
  induction n generalizing a with
  | zero => exact ⟨a, rfl, by rwa [Nat.zero_add] at ha⟩
  | succ n ih =>
      rw [Nat.succ_add] at ha
      obtain ⟨c, hc⟩ := Option.ne_none_iff_exists'.mp (h.total a _ ha)
      obtain ⟨-, d', ha', hc'⟩ := h.downhill a c hc
      have heq := Nat.succ.inj (ha'.unique ha)
      rw [heq] at hc'
      obtain ⟨b, hb, hdist⟩ := ih hc'
      exact ⟨b, by rw [after, hc, Option.bind_some, hb], hdist⟩

/-- Following the next hops arrives at the target when it has made as many hops as
there are on a shortest path, and not before. -/
theorem Tree.arrives (h : Tree E t next) (ha : Dist E t a d) :
    after next d a = some t ∧ ∀ n < d, after next n a ≠ some t := by
  constructor
  · obtain ⟨b, hb, hdist⟩ := h.after_of_dist (d := 0) ha
    rw [hb, hdist.eq_target]
  · intro n hn hb
    obtain ⟨k, rfl⟩ := Nat.exists_eq_add_of_lt hn
    obtain ⟨b, hb', hdist⟩ := h.after_of_dist (d := k + 1) ha
    obtain rfl := Option.some.inj (hb.symm.trans hb')
    exact absurd (dist_target.unique hdist) (Nat.succ_ne_zero k).symm

/-- There is no loop. -/
theorem Tree.after_ne_self (h : Tree E t next) (a : α) (hn : 0 < n) :
    after next n a ≠ some a := by
  intro hloop
  obtain ⟨n, rfl⟩ : ∃ m, n = m + 1 := ⟨n - 1, by omega⟩
  obtain ⟨b, hb, -⟩ := Option.bind_eq_some_iff.mp hloop
  obtain ⟨-, d, ha, -⟩ := h.downhill a b hb
  obtain hle | hlt := le_or_gt (n + 1) (d + 1)
  · obtain ⟨k, hk⟩ := Nat.exists_eq_add_of_le hle
    rw [hk] at ha
    obtain ⟨c, hc, hdist⟩ := h.after_of_dist ha
    obtain rfl := Option.some.inj (hloop.symm.trans hc)
    have heq := hdist.unique ha
    omega
  · -- the target comes before the end, and there is no hop behind it
    obtain ⟨k, hk⟩ := Nat.exists_eq_add_of_lt hlt
    have hrest : n + 1 = (d + 1) + (k + 1) := by omega
    rw [hrest, after_add, (h.arrives ha).1, Option.bind_some, after,
      h.next_target] at hloop
    cases hloop

end ShortestPaths

end Library

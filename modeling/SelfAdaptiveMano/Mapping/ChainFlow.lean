import SelfAdaptiveMano.Library.Flows
import SelfAdaptiveMano.Library.LinearPrograms
import Mathlib.Algebra.Ring.Nat
import Mathlib.Data.List.GetD

/-!
# The constraints that place one chain

The solvers place a chain with two families of variables: `phi` says how much of the
chain runs over a link in front of each VNF, and behind the last one, and `a` at which
switch each VNF is placed; the stage behind the last VNF is placed at the egress. The
constraints of the ILP and of the pricing problem have the same form, only that the
variables of the ILP have the number of their request in front of their tuples.

The constraints say exactly that each stage is a flow of the amount one from the place
of the stage before to the place of this stage (`holds_chainConstrs_iff`,
`Flows.placed`, `Flows.carries`).
-/

namespace SelfAdaptiveMano.Mapping

open Library LinearPrograms Library.Flows

/-- The variables: a link or a place of a stage. -/
inductive FlowVar where
  | phi (key : List Nat)
  | a (key : List Nat)
  deriving DecidableEq, Repr

structure Chain where
  switches : List Nat
  physicalLink : List (Nat × Nat)
  supportVNF : Nat → List Nat
  ingSwitchID : Nat
  egSwitchID : Nat
  vnfSeq : List Nat

namespace Chain

section Definitions

variable (c : Chain) (front : List Nat) (phiKeys aKeys : List (List Nat))

/-- `_genPathLinkVar`: the variables of the links, for one chain. -/
def pathLinkVar : List (List Nat) :=
  (List.range (c.vnfSeq.length + 1)).flatMap fun vnfIndex =>
    c.physicalLink.map fun link => front ++ [vnfIndex, link.1, link.2]

/-- `_genVNFNodeVar`: the variables of the places, for one chain. -/
def vnfDeployVar : List (List Nat) :=
  (List.range (c.vnfSeq.length + 1)).flatMap fun vnfIndex =>
    c.switches.map fun switchID => front ++ [vnfIndex, switchID]

def phiSum (pattern : List Pattern) : LinExpr FlowVar :=
  LinExpr.sum ((select (front.map .one ++ pattern) phiKeys).map .phi)

def aSum (pattern : List Pattern) : LinExpr FlowVar :=
  LinExpr.sum ((select (front.map .one ++ pattern) aKeys).map .a)

/-- What leaves a switch in a stage less what enters it, and what is placed there. -/
def balance (vnfIndex switchID : Nat) : LinExpr FlowVar :=
  phiSum front phiKeys [.one vnfIndex, .one switchID, .any] ++
    (phiSum front phiKeys [.one vnfIndex, .any, .one switchID]).neg ++
    aSum front aKeys [.one vnfIndex, .one switchID]

def stageCoeff (coeff : List ℚ) (key : List Nat) : ℚ :=
  coeff.getD (key.getD front.length 0) 0

def srcNode : List (Constr FlowVar) :=
  ((c.switches.filter fun switchID => switchID == c.ingSwitchID).map fun switchID =>
      ⟨balance front phiKeys aKeys 0 switchID, .eq, 1⟩) ++
    (c.switches.filter fun switchID => switchID != c.ingSwitchID).map fun switchID =>
      ⟨balance front phiKeys aKeys 0 switchID, .eq, 0⟩

def middleNode : List (Constr FlowVar) :=
  c.switches.flatMap fun switchID =>
    (List.range' 1 c.vnfSeq.length).map fun vnfIndex =>
      ⟨balance front phiKeys aKeys vnfIndex switchID ++
        (aSum front aKeys [.one (vnfIndex - 1), .one switchID]).neg, .eq, 0⟩

def dstNode : List (Constr FlowVar) :=
  (c.switches.filter fun switchID => switchID == c.egSwitchID).map fun switchID =>
    ⟨aSum front aKeys [.one c.vnfSeq.length, .one switchID], .eq, 1⟩

def vnfUnSplittable : List (Constr FlowVar) :=
  (List.range c.vnfSeq.length).map fun vnfIndex =>
    ⟨aSum front aKeys [.one vnfIndex, .any], .eq, 1⟩

def providers (vnfIndex : Nat) : List Nat :=
  c.switches.filter fun switchID =>
    (c.supportVNF switchID).contains (c.vnfSeq.getD vnfIndex 0)

def vnfDeployable : List (Constr FlowVar) :=
  (List.range c.vnfSeq.length).map fun vnfIndex =>
    ⟨aSum front aKeys [.one vnfIndex, .oneOf (c.providers vnfIndex)], .eq, 1⟩

def chainConstrs : List (Constr FlowVar) :=
  c.srcNode front phiKeys aKeys ++ c.middleNode front phiKeys aKeys ++
    c.dstNode front aKeys ++ c.vnfUnSplittable front aKeys ++
    c.vnfDeployable front aKeys

/-! ## What the constraints mean -/

def phiOf (x : FlowVar → ℚ) (vnfIndex : Nat) (link : Nat × Nat) : ℚ :=
  x (.phi (front ++ [vnfIndex, link.1, link.2]))

def aOf (x : FlowVar → ℚ) (vnfIndex switchID : Nat) : ℚ :=
  x (.a (front ++ [vnfIndex, switchID]))

end Definitions

/-- The switches and links are listed once, the links are between the switches, and
the chain begins and ends at switches. -/
structure WellFormed (c : Chain) : Prop where
  switches : c.switches.Nodup
  links : c.physicalLink.Nodup
  within : ∀ link ∈ c.physicalLink, link.1 ∈ c.switches ∧ link.2 ∈ c.switches
  ingress : c.ingSwitchID ∈ c.switches
  egress : c.egSwitchID ∈ c.switches

structure Flows (c : Chain) (phi : Nat → Nat × Nat → ℚ) (a : Nat → Nat → ℚ) :
    Prop where
  source : ∀ v ∈ c.switches, net c.physicalLink.toFinset (phi 0) v + a 0 v =
    if v = c.ingSwitchID then 1 else 0
  middle : ∀ v ∈ c.switches, ∀ i < c.vnfSeq.length,
    net c.physicalLink.toFinset (phi (i + 1)) v + a (i + 1) v = a i v
  target : c.egSwitchID ∈ c.switches → a c.vnfSeq.length c.egSwitchID = 1
  once : ∀ i < c.vnfSeq.length, ∑ v ∈ c.switches.toFinset, a i v = 1
  deployable : ∀ i < c.vnfSeq.length, ∑ v ∈ (c.providers i).toFinset, a i v = 1

/-- Where the stages are placed: the last one at the egress, the VNFs where they are
provided. -/
structure Placed (c : Chain) (host : Nat → Nat) : Prop where
  mem : ∀ i ≤ c.vnfSeq.length, host i ∈ c.switches
  provided : ∀ i < c.vnfSeq.length, host i ∈ c.providers i
  egress : host c.vnfSeq.length = c.egSwitchID

def origin (c : Chain) (host : Nat → Nat) : Nat → Nat
  | 0 => c.ingSwitchID
  | i + 1 => host i

variable {c : Chain} {front : List Nat} {phiKeys aKeys : List (List Nat)}
  {x : FlowVar → ℚ}

/-! ## Sums of variables -/

theorem filter_eq_singleton {α : Type} [DecidableEq α] {l : List α} (hl : l.Nodup) {a : α}
    (ha : a ∈ l) {p : α → Bool} (hp : ∀ b, p b = true ↔ b = a) : l.filter p = [a] := by
  have hlist : l.filter p = l.filter fun b => b = a :=
    List.filter_congr fun b _ => Bool.eq_iff_iff.mpr ((hp b).trans decide_eq_true_iff.symm)
  rw [hlist, List.filter_eq, List.count_eq_one_of_mem hl ha]
  rfl

/-- Where only one of the parts has tuples that match, only that part is selected. -/
theorem select_flatMap {α : Type} [DecidableEq α] {l : List α} (hl : l.Nodup) {a : α}
    (ha : a ∈ l) {g : α → List (List Nat)} {pattern : List Pattern}
    (hother : ∀ b, b ≠ a → select pattern (g b) = []) :
    select pattern (l.flatMap g) = select pattern (g a) := by
  have hparts : ∀ l : List α, select pattern (l.flatMap g) =
      (l.filter fun b => b = a).flatMap fun b => select pattern (g b) := by
    intro l
    rw [select, List.filter_flatMap]
    induction l with
    | nil => rfl
    | cons b l ih =>
        rw [List.flatMap_cons, ih, List.filter_cons]
        by_cases hb : b = a
        · rw [if_pos (decide_eq_true hb), List.flatMap_cons]
          rfl
        · rw [if_neg (by simpa using hb)]
          exact congrArg (· ++ _) (hother b hb)
  rw [hparts, filter_eq_singleton hl ha fun _ => decide_eq_true_iff,
    List.flatMap_singleton]

theorem select_map {α : Type} (l : List α) (key : α → List Nat) (back : List Pattern) :
    select (front.map .one ++ back) (l.map fun b => front ++ key b) =
      (l.filter fun b => accepts back (key b)).map fun b => front ++ key b := by
  rw [select, List.filter_map]
  congr 1
  refine List.filter_congr fun b _ => ?_
  simp [accepts_append back (key b) (rfl : front.length = front.length)]

theorem select_stage {α : Type} (l : List α) (key : α → List Nat) {i n : Nat}
    (hi : i < n) (back : List Pattern) :
    select (front.map .one ++ .one i :: back)
        ((List.range n).flatMap fun j => l.map fun b => front ++ j :: key b) =
      (l.filter fun b => accepts back (key b)).map fun b => front ++ i :: key b := by
  have hstage : ∀ j, select (front.map .one ++ .one i :: back)
      (l.map fun b => front ++ j :: key b) =
        (l.filter fun b => i == j && accepts back (key b)).map
          fun b => front ++ j :: key b := fun j =>
    select_map l (fun b => j :: key b) (.one i :: back)
  rw [select_flatMap List.nodup_range (List.mem_range.mpr hi), hstage]
  · simp
  · intro j hj
    rw [hstage]
    simp [beq_eq_false_iff_ne.mpr (Ne.symm hj)]

theorem select_stages {α : Type} (l : List α) (key : α → List Nat) (n : Nat)
    (back : List Pattern) :
    select (front.map .one ++ .any :: back)
        ((List.range n).flatMap fun j => l.map fun b => front ++ j :: key b) =
      (List.range n).flatMap fun j =>
        (l.filter fun b => accepts back (key b)).map fun b => front ++ j :: key b := by
  rw [select, List.filter_flatMap]
  refine List.flatMap_congr fun j _ => ?_
  exact select_map l (fun b => j :: key b) (.any :: back)

/-- The families of variables contain those of the chain, and no others with the same
tuple in front. -/
structure Has (c : Chain) (front : List Nat) (phiKeys aKeys : List (List Nat)) :
    Prop where
  phi : ∀ back, select (front.map .one ++ back) phiKeys =
    select (front.map .one ++ back) (c.pathLinkVar front)
  a : ∀ back, select (front.map .one ++ back) aKeys =
    select (front.map .one ++ back) (c.vnfDeployVar front)

theorem select_family {α : Type} [DecidableEq α] {l : List α} (hl : l.Nodup) {b : α}
    (hb : b ∈ l) (key : α → List Nat) (n : Nat) {back : List Pattern}
    (hback : ∀ b', accepts back (key b') = true ↔ b' = b) :
    select (front.map .one ++ .any :: back)
        ((List.range n).flatMap fun j => l.map fun b => front ++ j :: key b) =
      (List.range n).map fun j => front ++ j :: key b := by
  rw [select_stages, filter_eq_singleton hl hb hback, List.map_eq_flatMap]
  rfl

theorem Has.select_switch (hhas : c.Has front phiKeys aKeys) (hwf : c.WellFormed)
    {v : Nat} (hv : v ∈ c.switches) :
    select (front.map .one ++ [.any, .one v]) aKeys =
      (List.range (c.vnfSeq.length + 1)).map fun i => front ++ [i, v] := by
  refine (hhas.a [.any, .one v]).trans ?_
  exact select_family hwf.switches hv (fun v => [v]) _ fun v' => by
    simp [accepts, Pattern.accepts, eq_comm (a := v)]

theorem Has.select_link (hhas : c.Has front phiKeys aKeys) (hwf : c.WellFormed)
    {link : Nat × Nat} (hlink : link ∈ c.physicalLink) :
    select (front.map .one ++ [.any, .one link.1, .one link.2]) phiKeys =
      (List.range (c.vnfSeq.length + 1)).map fun i => front ++ [i, link.1, link.2] := by
  refine (hhas.phi [.any, .one link.1, .one link.2]).trans ?_
  exact select_family hwf.links hlink (fun link => [link.1, link.2]) _ fun link' => by
    rw [Prod.ext_iff, eq_comm (a := link'.1), eq_comm (a := link'.2)]
    simp [accepts, Pattern.accepts]

theorem sum_filter_map {α : Type} [DecidableEq α] {l : List α} (hl : l.Nodup)
    (p : α → Bool) (f : α → ℚ) :
    ((l.filter p).map f).sum = ∑ b ∈ l.toFinset with p b = true, f b := by
  rw [← List.sum_toFinset f (hl.filter p), List.toFinset_filter]

theorem eval_phiSum (hhas : c.Has front phiKeys aKeys) (hwf : c.WellFormed) {i : Nat}
    (hi : i ≤ c.vnfSeq.length) (back : List Pattern) :
    (phiSum front phiKeys (.one i :: back)).eval x =
      ∑ link ∈ c.physicalLink.toFinset with accepts back [link.1, link.2] = true,
        phiOf front x i link := by
  rw [phiSum, LinExpr.eval_sum, List.map_map, hhas.phi, pathLinkVar,
    select_stage c.physicalLink (fun link => [link.1, link.2]) (Nat.lt_succ_of_le hi),
    List.map_map, ← sum_filter_map hwf.links]
  rfl

theorem eval_aSum (hhas : c.Has front phiKeys aKeys) (hwf : c.WellFormed) {i : Nat}
    (hi : i ≤ c.vnfSeq.length) (back : List Pattern) :
    (aSum front aKeys (.one i :: back)).eval x =
      ∑ switchID ∈ c.switches.toFinset with accepts back [switchID] = true,
        aOf front x i switchID := by
  rw [aSum, LinExpr.eval_sum, List.map_map, hhas.a, vnfDeployVar,
    select_stage c.switches (fun switchID => [switchID]) (Nat.lt_succ_of_le hi),
    List.map_map, ← sum_filter_map hwf.switches]
  rfl

theorem eval_aSum_one (hhas : c.Has front phiKeys aKeys) (hwf : c.WellFormed) {i : Nat}
    (hi : i ≤ c.vnfSeq.length) {v : Nat} (hv : v ∈ c.switches) :
    (aSum front aKeys [.one i, .one v]).eval x = aOf front x i v := by
  have hone : (c.switches.toFinset.filter fun switchID =>
      accepts [.one v] [switchID] = true) = {v} := by
    ext w
    simp only [accepts, Pattern.accepts, Bool.and_true, beq_iff_eq,
      Finset.mem_filter, List.mem_toFinset, Finset.mem_singleton]
    constructor
    · rintro ⟨-, rfl⟩
      rfl
    · rintro rfl
      exact ⟨hv, rfl⟩
  rw [eval_aSum hhas hwf hi, hone, Finset.sum_singleton]

theorem eval_balance (hhas : c.Has front phiKeys aKeys) (hwf : c.WellFormed) {i : Nat}
    (hi : i ≤ c.vnfSeq.length) {v : Nat} (hv : v ∈ c.switches) :
    (balance front phiKeys aKeys i v).eval x =
      net c.physicalLink.toFinset (phiOf front x i) v + aOf front x i v := by
  rw [balance, LinExpr.eval_append, LinExpr.eval_append, LinExpr.eval_neg,
    eval_phiSum hhas hwf hi, eval_phiSum hhas hwf hi, eval_aSum_one hhas hwf hi hv,
    net]
  simp only [accepts, Pattern.accepts, Bool.and_true, Bool.true_and, beq_iff_eq,
    eq_comm (a := v)]
  rw [sub_eq_add_neg]

theorem eval_prod_switch (hhas : c.Has front phiKeys aKeys) (hwf : c.WellFormed)
    {coeff : List ℚ} (hcoeff : coeff.length = c.vnfSeq.length) {v : Nat}
    (hv : v ∈ c.switches) :
    (LinExpr.prod (stageCoeff front coeff) .a
        (select (front.map .one ++ [.any, .one v]) aKeys)).eval x =
      ∑ i ∈ Finset.range c.vnfSeq.length, coeff.getD i 0 * aOf front x i v := by
  have hstage : ∀ i, stageCoeff front coeff (front ++ [i, v]) = coeff.getD i 0 := by
    intro i
    simp [stageCoeff]
  have hnone : coeff.getD c.vnfSeq.length 0 = 0 := List.getD_eq_default _ _ hcoeff.le
  rw [hhas.select_switch hwf hv, LinExpr.eval_prod, List.map_map]
  change ∑ i ∈ Finset.range (c.vnfSeq.length + 1),
    stageCoeff front coeff (front ++ [i, v]) * aOf front x i v = _
  simp only [hstage]
  rw [Finset.sum_range_succ, hnone, zero_mul, add_zero]

theorem eval_sum_link (hhas : c.Has front phiKeys aKeys) (hwf : c.WellFormed)
    {link : Nat × Nat} (hlink : link ∈ c.physicalLink) :
    (LinExpr.sum ((select (front.map .one ++ [.any, .one link.1, .one link.2])
        phiKeys).map .phi)).eval x =
      ∑ i ∈ Finset.range (c.vnfSeq.length + 1), phiOf front x i link := by
  rw [LinExpr.eval_sum, hhas.select_link hwf hlink, List.map_map, List.map_map]
  rfl

/-! ## What the constraints say -/

theorem holds_srcNode_iff (hhas : c.Has front phiKeys aKeys) (hwf : c.WellFormed) :
    (∀ constr ∈ c.srcNode front phiKeys aKeys, constr.Holds x) ↔
      ∀ v ∈ c.switches, net c.physicalLink.toFinset (phiOf front x 0) v +
        aOf front x 0 v = if v = c.ingSwitchID then 1 else 0 := by
  have heval := fun {v} hv => eval_balance (x := x) hhas hwf (Nat.zero_le _) (v := v) hv
  constructor
  · intro h v hv
    by_cases hing : v = c.ingSwitchID
    · have hmem : ⟨balance front phiKeys aKeys 0 v, .eq, 1⟩ ∈
          c.srcNode front phiKeys aKeys := by
        simp only [srcNode, List.mem_append, List.mem_map, List.mem_filter]
        exact .inl ⟨v, ⟨hv, beq_iff_eq.mpr hing⟩, rfl⟩
      rw [if_pos hing, ← heval hv]
      exact h _ hmem
    · have hmem : ⟨balance front phiKeys aKeys 0 v, .eq, 0⟩ ∈
          c.srcNode front phiKeys aKeys := by
        simp only [srcNode, List.mem_append, List.mem_map, List.mem_filter]
        exact .inr ⟨v, ⟨hv, bne_iff_ne.mpr hing⟩, rfl⟩
      rw [if_neg hing, ← heval hv]
      exact h _ hmem
  · intro h constr hconstr
    simp only [srcNode, List.mem_append, List.mem_map, List.mem_filter] at hconstr
    obtain ⟨v, ⟨hv, hing⟩, rfl⟩ | ⟨v, ⟨hv, hing⟩, rfl⟩ := hconstr
    · have := h v hv
      rw [if_pos (beq_iff_eq.mp hing), ← heval hv] at this
      exact this
    · have := h v hv
      rw [if_neg (bne_iff_ne.mp hing), ← heval hv] at this
      exact this

theorem holds_middleNode_iff (hhas : c.Has front phiKeys aKeys) (hwf : c.WellFormed) :
    (∀ constr ∈ c.middleNode front phiKeys aKeys, constr.Holds x) ↔
      ∀ v ∈ c.switches, ∀ i < c.vnfSeq.length,
        net c.physicalLink.toFinset (phiOf front x (i + 1)) v +
          aOf front x (i + 1) v = aOf front x i v := by
  have hholds : ∀ v ∈ c.switches, ∀ i < c.vnfSeq.length,
      (Constr.Holds x ⟨balance front phiKeys aKeys (i + 1) v ++
        (aSum front aKeys [.one (i + 1 - 1), .one v]).neg, .eq, 0⟩ ↔
          net c.physicalLink.toFinset (phiOf front x (i + 1)) v +
            aOf front x (i + 1) v = aOf front x i v) := by
    intro v hv i hi
    rw [Constr.Holds]
    simp only [LinExpr.eval_append, LinExpr.eval_neg, Nat.add_sub_cancel,
      eval_balance hhas hwf (Nat.succ_le_of_lt hi) hv, eval_aSum_one hhas hwf hi.le hv]
    rw [← sub_eq_add_neg, sub_eq_zero]
  simp only [middleNode, List.mem_flatMap, List.mem_map, List.mem_range'_1]
  constructor
  · intro h v hv i hi
    exact (hholds v hv i hi).mp (h _ ⟨v, hv, i + 1, by omega, rfl⟩)
  · rintro h constr ⟨v, hv, i, hi, rfl⟩
    obtain ⟨j, rfl⟩ : ∃ j, i = j + 1 := ⟨i - 1, by omega⟩
    exact (hholds v hv j (by omega)).mpr (h v hv j (by omega))

theorem holds_dstNode_iff (hhas : c.Has front phiKeys aKeys) (hwf : c.WellFormed) :
    (∀ constr ∈ c.dstNode front aKeys, constr.Holds x) ↔
      (c.egSwitchID ∈ c.switches → aOf front x c.vnfSeq.length c.egSwitchID = 1) := by
  have heval := fun {v} hv =>
    eval_aSum_one (x := x) hhas hwf (Nat.le_refl c.vnfSeq.length) (v := v) hv
  simp only [dstNode, List.mem_map, List.mem_filter, beq_iff_eq]
  constructor
  · intro h hmem
    rw [← heval hmem]
    exact h _ ⟨_, ⟨hmem, rfl⟩, rfl⟩
  · rintro h constr ⟨v, ⟨hv, rfl⟩, rfl⟩
    rw [Constr.Holds]
    exact (heval hv).trans (h hv)

theorem holds_vnfUnSplittable_iff (hhas : c.Has front phiKeys aKeys)
    (hwf : c.WellFormed) :
    (∀ constr ∈ c.vnfUnSplittable front aKeys, constr.Holds x) ↔
      ∀ i < c.vnfSeq.length, ∑ v ∈ c.switches.toFinset, aOf front x i v = 1 := by
  have heval : ∀ i < c.vnfSeq.length, (aSum front aKeys [.one i, .any]).eval x =
      ∑ v ∈ c.switches.toFinset, aOf front x i v := by
    intro i hi
    rw [eval_aSum hhas hwf hi.le]
    simp [accepts, Pattern.accepts]
  simp only [vnfUnSplittable, List.mem_map, List.mem_range]
  constructor
  · intro h i hi
    rw [← heval i hi]
    exact h _ ⟨i, hi, rfl⟩
  · rintro h constr ⟨i, hi, rfl⟩
    exact (heval i hi).trans (h i hi)

theorem holds_vnfDeployable_iff (hhas : c.Has front phiKeys aKeys)
    (hwf : c.WellFormed) :
    (∀ constr ∈ c.vnfDeployable front aKeys, constr.Holds x) ↔
      ∀ i < c.vnfSeq.length, ∑ v ∈ (c.providers i).toFinset, aOf front x i v = 1 := by
  have heval : ∀ i < c.vnfSeq.length,
      (aSum front aKeys [.one i, .oneOf (c.providers i)]).eval x =
        ∑ v ∈ (c.providers i).toFinset, aOf front x i v := by
    intro i hi
    rw [eval_aSum hhas hwf hi.le]
    refine Finset.sum_congr ?_ fun _ _ => rfl
    ext v
    simp only [accepts, Pattern.accepts, Bool.and_true, List.contains_iff_mem,
      Finset.mem_filter, List.mem_toFinset, and_iff_right_iff_imp]
    exact fun hv => (List.mem_filter.mp hv).1
  simp only [vnfDeployable, List.mem_map, List.mem_range]
  constructor
  · intro h i hi
    rw [← heval i hi]
    exact h _ ⟨i, hi, rfl⟩
  · rintro h constr ⟨i, hi, rfl⟩
    exact (heval i hi).trans (h i hi)

theorem holds_chainConstrs_iff (hhas : c.Has front phiKeys aKeys)
    (hwf : c.WellFormed) :
    (∀ constr ∈ c.chainConstrs front phiKeys aKeys, constr.Holds x) ↔
      c.Flows (phiOf front x) (aOf front x) := by
  simp only [chainConstrs, List.forall_mem_append, holds_srcNode_iff hhas hwf,
    holds_middleNode_iff hhas hwf, holds_dstNode_iff hhas hwf,
    holds_vnfUnSplittable_iff hhas hwf, holds_vnfDeployable_iff hhas hwf]
  constructor
  · rintro ⟨⟨⟨⟨hsource, hmiddle⟩, htarget⟩, honce⟩, hdeployable⟩
    exact ⟨hsource, hmiddle, htarget, honce, hdeployable⟩
  · rintro ⟨hsource, hmiddle, htarget, honce, hdeployable⟩
    exact ⟨⟨⟨⟨hsource, hmiddle⟩, htarget⟩, honce⟩, hdeployable⟩

/-! ## Places and flows -/

theorem WellFormed.within_toFinset (h : c.WellFormed) :
    ∀ link ∈ c.physicalLink.toFinset,
      link.1 ∈ c.switches.toFinset ∧ link.2 ∈ c.switches.toFinset := by
  intro link hlink
  simpa using h.within link (List.mem_toFinset.mp hlink)

theorem WellFormed.sum_net (h : c.WellFormed) (f : Nat × Nat → ℚ) :
    ∑ v ∈ c.switches.toFinset, net c.physicalLink.toFinset f v = 0 := by
  have hfiber : ∀ side : Nat × Nat → Nat,
      (∀ link ∈ c.physicalLink.toFinset, side link ∈ c.switches.toFinset) →
      ∑ v ∈ c.switches.toFinset, ∑ link ∈ c.physicalLink.toFinset with side link = v,
        f link = ∑ link ∈ c.physicalLink.toFinset, f link := fun side hside =>
    Finset.sum_fiberwise_of_maps_to hside f
  simp only [net, Finset.sum_sub_distrib]
  rw [hfiber _ fun link hlink => (h.within_toFinset link hlink).1,
    hfiber _ fun link hlink => (h.within_toFinset link hlink).2, sub_self]

/-- All stages are placed once, the last one too. -/
theorem Flows.sum_a {phi : Nat → Nat × Nat → ℚ} {a : Nat → Nat → ℚ}
    (h : c.Flows phi a) (hwf : c.WellFormed) {i : Nat} (hi : i ≤ c.vnfSeq.length) :
    ∑ v ∈ c.switches.toFinset, a i v = 1 := by
  obtain hlt | rfl := Nat.lt_or_eq_of_le hi
  · exact h.once i hlt
  · cases hn : c.vnfSeq.length with
    | zero =>
        have hsum : ∑ v ∈ c.switches.toFinset,
            (net c.physicalLink.toFinset (phi 0) v + a 0 v) = 1 := by
          rw [Finset.sum_congr rfl fun v hv => h.source v (List.mem_toFinset.mp hv),
            Finset.sum_ite_eq', if_pos (List.mem_toFinset.mpr hwf.ingress)]
        rw [Finset.sum_add_distrib, hwf.sum_net, zero_add] at hsum
        exact hsum
    | succ n =>
        have hlt : n < c.vnfSeq.length := by omega
        rw [← h.once n hlt, ← Finset.sum_congr rfl fun v hv =>
          h.middle v (List.mem_toFinset.mp hv) n hlt, Finset.sum_add_distrib,
          hwf.sum_net, zero_add]

/-- Numbers that are nothing or one and whose sum is one are nothing but once. -/
theorem exists_indicator {N : Finset Nat} {f : Nat → ℚ}
    (hbinary : ∀ v ∈ N, f v = 0 ∨ f v = 1) (hsum : ∑ v ∈ N, f v = 1) :
    ∃ u ∈ N, f u = 1 ∧ ∀ v ∈ N, f v = if v = u then 1 else 0 := by
  obtain ⟨u, hu, hne⟩ : ∃ u ∈ N, f u ≠ 0 := by
    by_contra hnone
    push Not at hnone
    rw [Finset.sum_eq_zero hnone] at hsum
    exact zero_ne_one hsum
  have hone := (hbinary u hu).resolve_left hne
  refine ⟨u, hu, hone, fun v hv => ?_⟩
  by_cases huv : v = u
  · rw [huv, if_pos rfl, hone]
  · rw [if_neg huv]
    refine (hbinary v hv).resolve_right fun hv1 => ?_
    have hpair : ∑ w ∈ ({v, u} : Finset Nat), f w ≤ ∑ w ∈ N, f w := by
      refine Finset.sum_le_sum_of_subset_of_nonneg ?_ ?_
      · intro w hw
        obtain rfl | hw := Finset.mem_insert.mp hw
        · exact hv
        · rw [Finset.mem_singleton.mp hw]
          exact hu
      · intro w hw _
        obtain h0 | h1 := hbinary w hw
        · exact h0.ge
        · rw [h1]
          exact zero_le_one
    rw [Finset.sum_pair huv, hv1, hone, hsum] at hpair
    norm_num at hpair

theorem Flows.placed {phi : Nat → Nat × Nat → ℚ} {a : Nat → Nat → ℚ}
    (h : c.Flows phi a) (hwf : c.WellFormed)
    (hbinary : ∀ i ≤ c.vnfSeq.length, ∀ v ∈ c.switches, a i v = 0 ∨ a i v = 1) :
    ∃ host, c.Placed host ∧ ∀ i ≤ c.vnfSeq.length, ∀ v ∈ c.switches,
      a i v = if v = host i then 1 else 0 := by
  have hplace : ∀ i, ∃ u, i ≤ c.vnfSeq.length → u ∈ c.switches ∧
      a i u = 1 ∧ ∀ v ∈ c.switches, a i v = if v = u then 1 else 0 := by
    intro i
    by_cases hi : i ≤ c.vnfSeq.length
    · obtain ⟨u, hu, hone, hall⟩ := exists_indicator (N := c.switches.toFinset)
        (fun v hv => hbinary i hi v (List.mem_toFinset.mp hv)) (h.sum_a hwf hi)
      exact ⟨u, fun _ => ⟨List.mem_toFinset.mp hu, hone, fun v hv =>
        hall v (List.mem_toFinset.mpr hv)⟩⟩
    · exact ⟨0, fun hle => absurd hle hi⟩
  choose host hhost using hplace
  refine ⟨host, ⟨fun i hi => (hhost i hi).1, fun i hi => ?_, ?_⟩,
    fun i hi => (hhost i hi).2.2⟩
  · by_contra hnot
    have hzero : ∑ v ∈ (c.providers i).toFinset, a i v = 0 := by
      refine Finset.sum_eq_zero fun v hv => ?_
      rw [List.mem_toFinset] at hv
      rw [(hhost i hi.le).2.2 v (List.mem_filter.mp hv).1, if_neg]
      rintro rfl
      exact hnot hv
    rw [h.deployable i hi] at hzero
    exact one_ne_zero hzero
  · by_contra hne
    have hone := h.target hwf.egress
    rw [(hhost _ le_rfl).2.2 _ hwf.egress, if_neg (Ne.symm hne)] at hone
    exact zero_ne_one hone

theorem Flows.carries {phi : Nat → Nat × Nat → ℚ} {a : Nat → Nat → ℚ}
    (h : c.Flows phi a) (hwf : c.WellFormed) {host : Nat → Nat} (hplaced : c.Placed host)
    (ha : ∀ i ≤ c.vnfSeq.length, ∀ v ∈ c.switches, a i v = if v = host i then 1 else 0)
    {i : Nat} (hi : i ≤ c.vnfSeq.length) (hphi : ∀ link ∈ c.physicalLink, 0 ≤ phi i link) :
    Carries c.switches.toFinset c.physicalLink.toFinset (phi i) 1 (c.origin host i)
      (host i) where
  within := hwf.within_toFinset
  source := by
    rw [List.mem_toFinset]
    cases i with
    | zero => exact hwf.ingress
    | succ i => exact hplaced.mem i (Nat.le_of_succ_le hi)
  nonneg link hlink := hphi link (List.mem_toFinset.mp hlink)
  balance v hv := by
    rw [List.mem_toFinset] at hv
    rw [due, ← ha i hi v hv, eq_sub_iff_add_eq]
    cases i with
    | zero => exact h.source v hv
    | succ i =>
        rw [h.middle v hv i (Nat.lt_of_succ_le hi),
          ha i (Nat.le_of_succ_le hi) v hv]
        rfl

theorem flows_of_carries {host : Nat → Nat}
    (hplaced : c.Placed host) {phi : Nat → Nat × Nat → ℚ}
    (hcarries : ∀ i ≤ c.vnfSeq.length, Carries c.switches.toFinset
      c.physicalLink.toFinset (phi i) 1 (c.origin host i) (host i)) :
    c.Flows phi fun i v => if v = host i then 1 else 0 where
  source v hv := by
    rw [(hcarries 0 (Nat.zero_le _)).balance v (List.mem_toFinset.mpr hv), due,
      sub_add_cancel]
    rfl
  middle v hv i hi := by
    rw [(hcarries (i + 1) hi).balance v (List.mem_toFinset.mpr hv), due,
      sub_add_cancel]
    rfl
  target _ := if_pos hplaced.egress.symm
  once i hi := by
    rw [Finset.sum_ite_eq', if_pos (List.mem_toFinset.mpr (hplaced.mem i hi.le))]
  deployable i hi := by
    rw [Finset.sum_ite_eq', if_pos (List.mem_toFinset.mpr (hplaced.provided i hi))]

end Chain

end SelfAdaptiveMano.Mapping

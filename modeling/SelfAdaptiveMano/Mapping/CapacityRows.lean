import SelfAdaptiveMano.Mapping.NfvCGDP
import Mathlib.Algebra.Order.BigOperators.Group.Finset
import Mathlib.Algebra.Order.BigOperators.Group.List
import Mathlib.Tactic.Linarith
import Mathlib.Tactic.Ring
import Mathlib.Tactic.NormNum

/-!
# What the capacity rows bound

The coefficient of a path at a link counts the path once, whichever direction it
uses the link in and however often. So the rows bound the traffic on the links as
long as what is crossed again does not outweigh what is only crossed backwards.

The coefficient at a switch takes each VNF whose type is placed there. So it is
what the path uses exactly when VNFs of one type are placed at one switch, or take
no cores.
-/

namespace SelfAdaptiveMano.Mapping

open Library LayeredWalk

/-- Two sums whose terms are in order are equal exactly when the terms are. -/
theorem sum_map_eq_iff_of_le {α : Type} {l : List α} {f f' : α → ℚ}
    (hle : ∀ a ∈ l, f a ≤ f' a) :
    (l.map f).sum = (l.map f').sum ↔ ∀ a ∈ l, f a = f' a := by
  induction l with
  | nil => simp
  | cons a l ih =>
      obtain ⟨ha, hl⟩ := List.forall_mem_cons.mp hle
      have hsum : (l.map f).sum ≤ (l.map f').sum := List.sum_le_sum hl
      rw [List.forall_mem_cons, ← ih hl, List.map_cons, List.map_cons,
        List.sum_cons, List.sum_cons]
      constructor
      · intro heq
        exact ⟨by linarith, by linarith⟩
      · rintro ⟨heq, heq'⟩
        rw [heq, heq']

namespace NFVCGDedicatedProtection

variable {g : NFVCGDedicatedProtection}

/-! ## What the chosen paths use -/

abbrev Selection (g : NFVCGDedicatedProtection) :=
  (rIndex : Fin g.requestList.length) → PathRole →
    Fin (g.pathList rIndex).length

namespace Selection

variable (sel : g.Selection)

def y (rIndex : Fin g.requestList.length) (pathIndex : Nat) (pb : PathRole) : ℚ :=
  if (sel rIndex pb).val = pathIndex then 1 else 0

def path (rIndex : Fin g.requestList.length) (pb : PathRole) : List LayerNode :=
  (g.pathList rIndex)[sel rIndex pb]

/-- The traffic on the link: the demand of a path for each time that it crosses
it. -/
def linkTraffic (linkID : Nat × Nat) : ℚ :=
  ∑ rIndex, ∑ pb, g.requestList[rIndex].trafficDemand *
    ((getLinkIDList4ForwardingPath (sel.path rIndex pb)).count linkID : ℚ)

end Selection

def coresOfVNF (request : CGRequest) (vnfType : Nat) : ℚ :=
  match requestVNFServerRes request vnfType with
  | .ok cores => cores
  | .error _ => 0

def typeOf (request : CGRequest) (u : LayerNode) : Nat :=
  request.vnfSeqList.getD u.1 0

def coresAt (request : CGRequest) (path : List LayerNode) (switchID : Nat) : ℚ :=
  ((changes path).map fun u =>
    if u.2 = switchID then coresOfVNF request (typeOf request u) else 0).sum

namespace Selection

def coresUsed (sel : g.Selection) (switchID : Nat) : ℚ :=
  ∑ rIndex, ∑ pb, coresAt g.requestList[rIndex] (sel.path rIndex pb) switchID

end Selection

theorem row_y (sel : g.Selection)
    (coeff : Fin g.requestList.length → List LayerNode → ℚ) :
    g.row coeff sel.y = ∑ rIndex, ∑ pb, coeff rIndex (sel.path rIndex pb) := by
  apply Finset.sum_congr rfl
  intro rIndex _
  rw [Finset.sum_comm]
  apply Finset.sum_congr rfl
  intro pb _
  simp only [Selection.y, mul_ite, mul_one, mul_zero, Fin.val_inj]
  rw [Finset.sum_ite_eq]
  simp [Selection.path]

/-! ## The coefficients of links -/

theorem get?_foldl_zero {linkID : Nat × Nat} {ids : List (Nat × Nat)}
    (h : linkID ∈ ids) :
    (ids.foldl (fun d id => d.set id 0) (.empty : Dict (Nat × Nat) Nat)).get?
      linkID = some 0 := by
  induction ids using List.reverseRecOn with
  | nil => cases h
  | append_singleton ids id ih =>
      rw [List.foldl_append, List.foldl_cons, List.foldl_nil, Dict.get?_set]
      split
      · rfl
      next hne =>
        obtain h | h := List.mem_append.mp h
        · exact ih h
        · exact absurd (List.mem_singleton.mp h) hne

theorem get?_foldl_mark (ids : List (Nat × Nat)) (d : Dict (Nat × Nat) Nat)
    (linkID : Nat × Nat) :
    (ids.foldl (fun d id => (d.set id 1).set id.swap 1) d).get? linkID =
      if linkID ∈ ids ∨ linkID.swap ∈ ids then some 1 else d.get? linkID := by
  induction ids using List.reverseRecOn with
  | nil => simp
  | append_singleton ids id ih =>
      have hswap : linkID = id.swap ↔ linkID.swap = id := by
        rw [← Prod.swap_inj, Prod.swap_swap]
      rw [List.foldl_append, List.foldl_cons, List.foldl_nil, Dict.get?_set,
        Dict.get?_set, ih]
      simp only [hswap, List.mem_append, List.mem_singleton]
      by_cases hback : linkID.swap = id
      · simp [hback]
      · by_cases hlink : linkID = id
        · simp [hlink]
        · simp [hback, hlink]

def onlyBackwards (path : List LayerNode) (linkID : Nat × Nat) : Bool :=
  decide (linkID ∉ getLinkIDList4ForwardingPath path ∧
    linkID.swap ∈ getLinkIDList4ForwardingPath path)

def crossedAgain (path : List LayerNode) (linkID : Nat × Nat) : Nat :=
  (getLinkIDList4ForwardingPath path).count linkID - 1

/-- The coefficient counts a path once, and also where it is only used
backwards. -/
theorem linkCapacityCoeff_add {request : CGRequest} {path : List LayerNode}
    {linkID : Nat × Nat} (h : linkID ∈ g.physicalLink) :
    g.linkCapacityCoeff request path linkID +
        request.trafficDemand * crossedAgain path linkID =
      request.trafficDemand *
          (getLinkIDList4ForwardingPath path).count linkID +
        request.trafficDemand *
          if onlyBackwards path linkID then 1 else 0 := by
  have hget := get?_foldl_mark (getLinkIDList4ForwardingPath path)
    g.initPathLinkVar linkID
  rw [initPathLinkVar, get?_foldl_zero (List.mem_filter.mp h).1] at hget
  rw [linkCapacityCoeff, pathLinkVar, initPathLinkVar, hget, onlyBackwards,
    crossedAgain]
  by_cases hlink : linkID ∈ getLinkIDList4ForwardingPath path
  · have hpos := List.count_pos_iff.mpr hlink
    simp only [hlink, true_or, if_true, not_true_eq_false, false_and]
    push_cast [Nat.cast_sub hpos]
    simp
    ring
  · have hzero := List.count_eq_zero.mpr hlink
    by_cases hback : linkID.swap ∈ getLinkIDList4ForwardingPath path
    · simp [hlink, hback, hzero]
    · simp [hlink, hback, hzero]

/-! ## The coefficients of switches -/

def Places (vnfSeqList : List Nat) (path : List LayerNode)
    (vnfType switchID : Nat) : Prop :=
  ∃ u ∈ changes path, vnfSeqList[u.1]? = some vnfType ∧ u.2 = switchID

instance (vnfSeqList : List Nat) (path : List LayerNode)
    (vnfType switchID : Nat) :
    Decidable (Places vnfSeqList path vnfType switchID) :=
  inferInstanceAs (Decidable (∃ u ∈ changes path, _))

theorem get?_foldlM_markVNF {vnfSeqList : List Nat} {path : List LayerNode}
    {d d' : Dict (Nat × Nat) Nat}
    (h : (steps path).foldlM (markVNF vnfSeqList) d = .ok d')
    (vnfType switchID : Nat) :
    d'.get? (vnfType, switchID) =
      if Places vnfSeqList path vnfType switchID then some 1
      else d.get? (vnfType, switchID) := by
  induction path generalizing d with
  | nil =>
      obtain rfl := Except.ok.inj h
      simp [Places, changes]
  | cons u path ih =>
      cases path with
      | nil =>
          obtain rfl := Except.ok.inj h
          simp [Places, changes]
      | cons v path =>
          change ((u, v) :: steps (v :: path)).foldlM (markVNF vnfSeqList) d =
            .ok d' at h
          rw [List.foldlM_cons] at h
          obtain ⟨d₁, hturn, h⟩ := except_bind_eq_ok_iff.mp h
          rw [ih h]
          by_cases hlayer : u.1 ≠ v.1
          · rw [markVNF, if_pos hlayer] at hturn
            obtain ⟨t, ht, hset⟩ := except_bind_eq_ok_iff.mp hturn
            obtain rfl := Except.ok.inj hset
            have ht := itemAt_eq_ok_iff.mp ht
            have hplaces : Places vnfSeqList (u :: v :: path) vnfType switchID ↔
                (vnfType, switchID) = (t, u.2) ∨
                  Places vnfSeqList (v :: path) vnfType switchID := by
              simp only [Places, changes, if_pos hlayer, List.exists_mem_cons_iff,
                ht, Option.some.injEq, Prod.mk.injEq]
              rw [eq_comm, eq_comm (a := u.2)]
            simp only [hplaces, Dict.get?_set]
            by_cases hkey : (vnfType, switchID) = (t, u.2)
            · simp [hkey]
            · simp [hkey]
          · rw [markVNF, if_neg hlayer] at hturn
            obtain rfl := Except.ok.inj hturn
            have hplaces : Places vnfSeqList (u :: v :: path) vnfType switchID ↔
                Places vnfSeqList (v :: path) vnfType switchID := by
              simp only [Places, changes, if_neg hlayer]
            simp only [hplaces]

/-- No entry is marked at first. -/
theorem get?_initAVar_ne (vnfType switchID : Nat) :
    g.initAVar.get? (vnfType, switchID) ≠ some 1 := by
  have hset : ∀ (d : Dict (Nat × Nat) Nat) key,
      d.get? (vnfType, switchID) ≠ some 1 →
        (d.set key 0).get? (vnfType, switchID) ≠ some 1 := by
    intro d key hd
    rw [Dict.get?_set]
    split
    · simp
    · exact hd
  refine List.foldlRecOn (motive := fun d : Dict (Nat × Nat) Nat =>
    d.get? (vnfType, switchID) ≠ some 1)
    g.linkIDs _ (by simp) fun d hd linkID _ => ?_
  exact List.foldlRecOn (motive := fun d : Dict (Nat × Nat) Nat =>
    d.get? (vnfType, switchID) ≠ some 1)
    _ _ hd fun d hd t _ => hset d (t, linkID.2) hd

theorem get?_aVar_eq_iff {vnfSeqList : List Nat} {path : List LayerNode}
    {d : Dict (Nat × Nat) Nat} (h : g.aVar vnfSeqList path = .ok d)
    (vnfType switchID : Nat) :
    d.get? (vnfType, switchID) = some 1 ↔
      Places vnfSeqList path vnfType switchID := by
  rw [get?_foldlM_markVNF h]
  split
  next hplaces => simp [hplaces]
  next hplaces => simp [hplaces, get?_initAVar_ne]

theorem of_addResConsume {request : CGRequest} {d : Dict (Nat × Nat) Nat}
    {switchID vnfType : Nat} {sum sum' : ℚ}
    (h : addResConsume request d switchID sum vnfType = .ok sum') :
    sum' = sum + if d.get? (vnfType, switchID) = some 1
      then coresOfVNF request vnfType else 0 := by
  rw [addResConsume] at h
  split at h
  · cases h
  next mark hmark =>
    rw [hmark]
    by_cases hone : mark = 1
    · rw [if_pos hone] at h
      obtain ⟨cores, hcores, h⟩ := except_bind_eq_ok_iff.mp h
      obtain rfl := Except.ok.inj h
      rw [if_pos (congrArg some hone), coresOfVNF, hcores]
    · rw [if_neg hone] at h
      obtain rfl := Except.ok.inj h
      rw [if_neg (by simpa using hone), add_zero]

theorem of_foldlM_addResConsume {request : CGRequest} {d : Dict (Nat × Nat) Nat}
    {switchID : Nat} {vnfTypes : List Nat} {sum sum' : ℚ}
    (h : vnfTypes.foldlM (addResConsume request d switchID) sum = .ok sum') :
    sum' = sum + (vnfTypes.map fun t => if d.get? (t, switchID) = some 1
      then coresOfVNF request t else 0).sum := by
  induction vnfTypes generalizing sum with
  | nil =>
      obtain rfl := Except.ok.inj h
      simp
  | cons t vnfTypes ih =>
      rw [List.foldlM_cons] at h
      obtain ⟨sum₁, hturn, h⟩ := except_bind_eq_ok_iff.mp h
      rw [ih h, of_addResConsume hturn, List.map_cons, List.sum_cons, add_assoc]

theorem nodeCapacityCoeff_eq {request : CGRequest} {path : List LayerNode}
    {switchID : Nat} {coeff : ℚ}
    (h : g.nodeCapacityCoeff request path switchID = .ok coeff) :
    coeff = (request.vnfSeqList.map fun t =>
      if Places request.vnfSeqList path t switchID
        then coresOfVNF request t else 0).sum := by
  obtain ⟨d, hd, h⟩ := except_bind_eq_ok_iff.mp h
  rw [of_foldlM_addResConsume h, zero_add]
  simp only [get?_aVar_eq_iff hd]

theorem map_typeOf_changes {request : CGRequest} {path : List LayerNode}
    {first last : Nat}
    (h : Through path 0 first request.vnfSeqList.length last) :
    (changes path).map (typeOf request) = request.vnfSeqList := by
  obtain ⟨rest, rfl⟩ := List.head?_eq_some_iff.mp h.head
  have hlayers := map_fst_changes layered_stepsOn h.steps h.last
  have hmap : (changes ((0, first) :: rest)).map (typeOf request) =
      ((changes ((0, first) :: rest)).map Prod.fst).map
        fun i => request.vnfSeqList.getD i 0 := by
    rw [List.map_map]
    rfl
  rw [hmap, hlayers, Nat.zero_add, Nat.sub_zero, ← List.range_eq_range']
  apply List.ext_getElem
  · simp
  · intro i hi hi'
    simp [hi']

theorem coresPer1GTraffic_nonneg {vnfType : Nat} {cores : ℚ}
    (h : PerformanceModel.coresPer1GTraffic[vnfType]? = some cores) :
    0 ≤ cores := by
  have hall : ∀ cores ∈ PerformanceModel.coresPer1GTraffic, 0 ≤ cores := by
    simp only [PerformanceModel.coresPer1GTraffic, List.forall_mem_cons]
    norm_num
  exact hall cores (List.mem_of_getElem? h)

theorem coresOfVNF_sign (request : CGRequest) :
    (∀ vnfType, 0 ≤ coresOfVNF request vnfType) ∨
      ∀ vnfType, coresOfVNF request vnfType ≤ 0 := by
  have hcores : ∀ vnfType, coresOfVNF request vnfType = 0 ∨ ∃ cores : ℚ,
      0 ≤ cores ∧ coresOfVNF request vnfType = ⌈cores * request.trafficDemand⌉ := by
    intro vnfType
    rw [coresOfVNF, requestVNFServerRes, PerformanceModel.getExpectedServerResource,
      PerformanceModel.getResourceConsumeRatioOfVNF]
    cases h : PerformanceModel.coresPer1GTraffic[vnfType]? with
    | none => exact Or.inl rfl
    | some cores => exact Or.inr ⟨cores, coresPer1GTraffic_nonneg h, rfl⟩
  obtain hdemand | hdemand := le_total 0 request.trafficDemand
  · left
    intro vnfType
    obtain hzero | ⟨cores, hnonneg, hceil⟩ := hcores vnfType
    · exact hzero.ge
    · rw [hceil]
      exact_mod_cast Int.ceil_nonneg (mul_nonneg hnonneg hdemand)
  · right
    intro vnfType
    obtain hzero | ⟨cores, hnonneg, hceil⟩ := hcores vnfType
    · exact hzero.le
    · rw [hceil]
      exact_mod_cast Int.ceil_le.mpr
        (by simpa using mul_nonpos_of_nonneg_of_nonpos hnonneg hdemand)

theorem getElem?_of_mem_changes {request : CGRequest} {path : List LayerNode}
    {first last : Nat}
    (h : Through path 0 first request.vnfSeqList.length last) {u : LayerNode}
    (hu : u ∈ changes path) :
    request.vnfSeqList[u.1]? = some (typeOf request u) := by
  obtain ⟨rest, rfl⟩ := List.head?_eq_some_iff.mp h.head
  have hlayers := map_fst_changes layered_stepsOn h.steps h.last
  have hmem := List.mem_map_of_mem (f := Prod.fst) hu
  rw [hlayers, List.mem_range'_1] at hmem
  have hlt : u.1 < request.vnfSeqList.length := by omega
  simp [typeOf, List.getD, hlt]

/-- VNFs of the type of one that is at the switch are there too, or take no
cores. -/
def PlacedTogether (request : CGRequest) (path : List LayerNode)
    (switchID : Nat) : Prop :=
  ∀ u ∈ changes path, ∀ w ∈ changes path, typeOf request u = typeOf request w →
    w.2 = switchID → u.2 = switchID ∨ coresOfVNF request (typeOf request u) = 0

theorem places_typeOf_iff {request : CGRequest} {path : List LayerNode}
    {first last switchID : Nat}
    (h : Through path 0 first request.vnfSeqList.length last) {u : LayerNode} :
    Places request.vnfSeqList path (typeOf request u) switchID ↔
      ∃ w ∈ changes path, typeOf request u = typeOf request w ∧
        w.2 = switchID := by
  constructor
  · rintro ⟨w, hw, htype, hswitch⟩
    rw [getElem?_of_mem_changes h hw] at htype
    exact ⟨w, hw, (Option.some.inj htype).symm, hswitch⟩
  · rintro ⟨w, hw, htype, hswitch⟩
    exact ⟨w, hw, htype ▸ getElem?_of_mem_changes h hw, hswitch⟩

theorem placedTogether_iff {request : CGRequest} {path : List LayerNode}
    {first last switchID : Nat}
    (h : Through path 0 first request.vnfSeqList.length last) :
    PlacedTogether request path switchID ↔ ∀ u ∈ changes path,
      Places request.vnfSeqList path (typeOf request u) switchID →
        u.2 = switchID ∨ coresOfVNF request (typeOf request u) = 0 := by
  simp only [places_typeOf_iff h, PlacedTogether]
  constructor
  · rintro htogether u hu ⟨w, hw, htype, hswitch⟩
    exact htogether u hu w hw htype hswitch
  · intro htogether u hu w hw htype hswitch
    exact htogether u hu ⟨w, hw, htype, hswitch⟩

theorem nodeCapacityCoeff_eq_coresAt_iff {request : CGRequest}
    {path : List LayerNode} {first last switchID : Nat} {coeff : ℚ}
    (h : Through path 0 first request.vnfSeqList.length last)
    (hcoeff : g.nodeCapacityCoeff request path switchID = .ok coeff) :
    coeff = coresAt request path switchID ↔
      PlacedTogether request path switchID := by
  have hsum : coeff = ((changes path).map fun u =>
      if Places request.vnfSeqList path (typeOf request u) switchID
        then coresOfVNF request (typeOf request u) else 0).sum := by
    rw [nodeCapacityCoeff_eq hcoeff]
    have hmap := congrArg (List.map fun t =>
      if Places request.vnfSeqList path t switchID then coresOfVNF request t
        else 0) (map_typeOf_changes h)
    rw [← hmap, List.map_map]
    rfl
  have himp : ∀ u ∈ changes path, u.2 = switchID →
      Places request.vnfSeqList path (typeOf request u) switchID :=
    fun u hu hswitch => (places_typeOf_iff h).mpr ⟨u, hu, rfl, hswitch⟩
  rw [hsum, coresAt, placedTogether_iff h]
  have hterm : ∀ u ∈ changes path,
      ((if u.2 = switchID then coresOfVNF request (typeOf request u) else 0) =
        (if Places request.vnfSeqList path (typeOf request u) switchID
          then coresOfVNF request (typeOf request u) else 0) ↔
      (Places request.vnfSeqList path (typeOf request u) switchID →
        u.2 = switchID ∨ coresOfVNF request (typeOf request u) = 0)) := by
    intro u hu
    by_cases hswitch : u.2 = switchID
    · simp [hswitch, himp u hu hswitch]
    · by_cases hplaces : Places request.vnfSeqList path (typeOf request u) switchID
      · simp [hswitch, hplaces, eq_comm]
      · simp [hswitch, hplaces]
  obtain hsign | hsign := coresOfVNF_sign request
  · rw [eq_comm, sum_map_eq_iff_of_le]
    · exact forall₂_congr hterm
    · intro u hu
      by_cases hswitch : u.2 = switchID
      · simp [hswitch, himp u hu hswitch]
      · rw [if_neg hswitch]
        split
        · exact hsign _
        · exact le_rfl
  · rw [sum_map_eq_iff_of_le]
    · exact forall₂_congr fun u hu => eq_comm.trans (hterm u hu)
    · intro u hu
      by_cases hswitch : u.2 = switchID
      · simp [hswitch, himp u hu hswitch]
      · rw [if_neg hswitch]
        split
        · exact hsign _
        · exact le_rfl

/-! ## The rows -/

structure RowsHold (nodeCoeff : Fin g.requestList.length → List LayerNode → Nat → ℚ)
    (linkCapacity : Nat × Nat → ℚ) (switchCapacity : Nat → ℚ)
    (sel : g.Selection) : Prop where
  links : ∀ linkID ∈ g.physicalLink,
    g.row (fun rIndex path =>
      g.linkCapacityCoeff g.requestList[rIndex] path linkID) sel.y ≤
        linkCapacity linkID
  switches : ∀ switchID ∈ g.switchIDs,
    g.row (fun rIndex path => nodeCoeff rIndex path switchID) sel.y ≤
      switchCapacity switchID

/-- Whatever the capacities are, a selection for which the rows hold stays within
them, and the coefficients of a path at the switches are the cores it uses. -/
structure RowsBound
    (nodeCoeff : Fin g.requestList.length → List LayerNode → Nat → ℚ) :
    Prop where
  links : ∀ linkCapacity switchCapacity (sel : g.Selection),
    RowsHold nodeCoeff linkCapacity switchCapacity sel →
      ∀ linkID ∈ g.physicalLink, sel.linkTraffic linkID ≤ linkCapacity linkID
  switches : ∀ linkCapacity switchCapacity (sel : g.Selection),
    RowsHold nodeCoeff linkCapacity switchCapacity sel →
      ∀ switchID ∈ g.switchIDs, sel.coresUsed switchID ≤ switchCapacity switchID
  exact : ∀ rIndex, ∀ path ∈ g.pathList rIndex, ∀ switchID ∈ g.switchIDs,
    nodeCoeff rIndex path switchID = coresAt g.requestList[rIndex] path switchID

namespace Selection

variable (sel : g.Selection)

def demandAgain (linkID : Nat × Nat) : ℚ :=
  ∑ rIndex, ∑ pb, g.requestList[rIndex].trafficDemand *
    crossedAgain (sel.path rIndex pb) linkID

def demandBackwards (linkID : Nat × Nat) : ℚ :=
  ∑ rIndex, ∑ pb, g.requestList[rIndex].trafficDemand *
    if onlyBackwards (sel.path rIndex pb) linkID then 1 else 0

/-- The row of a link differs from the traffic by what is crossed again or only
backwards. -/
theorem row_add_demandAgain {linkID : Nat × Nat} (h : linkID ∈ g.physicalLink) :
    g.row (fun rIndex path =>
      g.linkCapacityCoeff g.requestList[rIndex] path linkID) sel.y +
        sel.demandAgain linkID =
      sel.linkTraffic linkID + sel.demandBackwards linkID := by
  rw [row_y, demandAgain, linkTraffic, demandBackwards]
  simp only [← Finset.sum_add_distrib]
  exact Finset.sum_congr rfl fun rIndex _ =>
    Finset.sum_congr rfl fun pb _ => linkCapacityCoeff_add h

theorem path_mem (rIndex : Fin g.requestList.length) (pb : PathRole) :
    sel.path rIndex pb ∈ g.pathList rIndex :=
  List.getElem_mem _

end Selection

/-- The rows bound what the chosen paths use exactly when on no link more demand
crosses again than there is demand that only goes backwards, and when VNFs of one
type are placed together. -/
theorem rowsBound_iff
    {nodeCoeff : Fin g.requestList.length → List LayerNode → Nat → ℚ}
    (hpaths : ∀ rIndex, ∀ path ∈ g.pathList rIndex, ∃ first last,
      Through path 0 first g.requestList[rIndex].vnfSeqList.length last)
    (hcoeff : ∀ rIndex, ∀ path ∈ g.pathList rIndex, ∀ switchID ∈ g.switchIDs,
      g.nodeCapacityCoeff g.requestList[rIndex] path switchID =
        .ok (nodeCoeff rIndex path switchID)) :
    RowsBound nodeCoeff ↔
      (∀ sel : g.Selection, ∀ linkID ∈ g.physicalLink,
        sel.demandAgain linkID ≤ sel.demandBackwards linkID) ∧
      ∀ rIndex, ∀ path ∈ g.pathList rIndex, ∀ switchID ∈ g.switchIDs,
        PlacedTogether g.requestList[rIndex] path switchID := by
  have hexact : ∀ rIndex, ∀ path ∈ g.pathList rIndex, ∀ switchID ∈ g.switchIDs,
      (nodeCoeff rIndex path switchID =
        coresAt g.requestList[rIndex] path switchID ↔
          PlacedTogether g.requestList[rIndex] path switchID) := by
    intro rIndex path hpath switchID hswitch
    obtain ⟨first, last, hthrough⟩ := hpaths rIndex path hpath
    exact nodeCapacityCoeff_eq_coresAt_iff hthrough
      (hcoeff rIndex path hpath switchID hswitch)
  constructor
  · intro hbound
    constructor
    · intro sel linkID hlink
      have htraffic := hbound.links
        (fun linkID => g.row (fun rIndex path =>
          g.linkCapacityCoeff g.requestList[rIndex] path linkID) sel.y)
        (fun switchID => g.row (fun rIndex path =>
          nodeCoeff rIndex path switchID) sel.y) sel
        ⟨fun _ _ => le_rfl, fun _ _ => le_rfl⟩ linkID hlink
      have hrow := sel.row_add_demandAgain hlink
      linarith
    · intro rIndex path hpath switchID hswitch
      exact (hexact rIndex path hpath switchID hswitch).mp
        (hbound.exact rIndex path hpath switchID hswitch)
  · rintro ⟨hlinks, hswitches⟩
    refine ⟨?_, ?_, ?_⟩
    · intro linkCapacity switchCapacity sel hrows linkID hlink
      have hrow := sel.row_add_demandAgain hlink
      have hle := hlinks sel linkID hlink
      have hcapacity := hrows.links linkID hlink
      linarith
    · intro linkCapacity switchCapacity sel hrows switchID hswitch
      have hcapacity := hrows.switches switchID hswitch
      have hused : g.row (fun rIndex path => nodeCoeff rIndex path switchID)
          sel.y = sel.coresUsed switchID := by
        rw [row_y, Selection.coresUsed]
        refine Finset.sum_congr rfl fun rIndex _ =>
          Finset.sum_congr rfl fun pb _ => ?_
        have hmem := sel.path_mem rIndex pb
        exact (hexact rIndex _ hmem switchID hswitch).mpr
          (hswitches rIndex _ hmem switchID hswitch)
      exact hused ▸ hcapacity
    · intro rIndex path hpath switchID hswitch
      exact (hexact rIndex path hpath switchID hswitch).mpr
        (hswitches rIndex path hpath switchID hswitch)

def oneRequest : NFVCGDedicatedProtection where
  dib := MultiLayerGraph.twoSwitches
  zoneName := .simulator
  requestList := [⟨(1, 2, [3]), 1⟩]
  configurations := Dict.empty.set (1, 2, [3]) [[(0, 1), (0, 2), (1, 2)]]

def nodeCoeffOf (g : NFVCGDedicatedProtection)
    (rIndex : Fin g.requestList.length) (path : List LayerNode)
    (switchID : Nat) : ℚ :=
  match g.nodeCapacityCoeff g.requestList[rIndex] path switchID with
  | .ok coeff => coeff
  | .error _ => 0

theorem rowsBound_iff_oneRequest : RowsBound (nodeCoeffOf oneRequest) := by
  have hmem : ∀ rIndex, ∀ path ∈ oneRequest.pathList rIndex,
      path = [(0, 1), (0, 2), (1, 2)] := by
    decide
  have hlength : ∀ rIndex : Fin oneRequest.requestList.length,
      oneRequest.requestList[rIndex].vnfSeqList.length = 1 := by
    decide
  refine (rowsBound_iff ?_ (by decide +kernel)).mpr ⟨?_, ?_⟩
  · intro rIndex path hpath
    rw [hmem rIndex path hpath, hlength]
    exact ⟨1, 2, by simp [StepsOn], rfl, rfl⟩
  · intro sel linkID hlink
    apply Finset.sum_le_sum
    intro rIndex _
    apply Finset.sum_le_sum
    intro pb _
    rw [hmem rIndex _ (sel.path_mem rIndex pb)]
    revert rIndex linkID
    decide +kernel
  · intro rIndex path hpath switchID _
    rw [hmem rIndex path hpath]
    intro u hu w hw _ hswitch
    obtain rfl := List.mem_singleton.mp hu
    obtain rfl := List.mem_singleton.mp hw
    exact Or.inl hswitch

def thereAndBack : NFVCGDedicatedProtection where
  dib := MultiLayerGraph.twoSwitches
  zoneName := .simulator
  requestList := [⟨(1, 2, [3, 3]), 1⟩]
  configurations := Dict.empty.set (1, 2, [3, 3])
    [[(0, 1), (0, 2), (1, 2), (1, 1), (2, 1), (2, 2)]]

def thereAndBackTwice : thereAndBack.Selection :=
  fun rIndex _ => ⟨0, by revert rIndex; decide⟩

theorem not_rowsBound_thereAndBack :
    (¬ ∃ nodeCoeff : Fin thereAndBack.requestList.length → List LayerNode →
      Nat → ℚ, RowsBound nodeCoeff) ∧
    thereAndBack.nodeCapacityCoeff ⟨(1, 2, [3, 3]), 1⟩
      [(0, 1), (0, 2), (1, 2), (1, 1), (2, 1), (2, 2)] 1 = .ok 8 ∧
    coresAt ⟨(1, 2, [3, 3]), 1⟩
      [(0, 1), (0, 2), (1, 2), (1, 1), (2, 1), (2, 2)] 1 = 4 := by
  refine ⟨?_, by decide +kernel, by decide +kernel⟩
  rintro ⟨nodeCoeff, hbound⟩
  have htraffic := hbound.links (fun _ => 2)
    (fun switchID => thereAndBack.row (fun rIndex path =>
      nodeCoeff rIndex path switchID) thereAndBackTwice.y) thereAndBackTwice
    ⟨by decide +kernel, fun _ _ => le_rfl⟩ (1, 2) (by decide +kernel)
  exact absurd htraffic (by decide +kernel)

end NFVCGDedicatedProtection

end SelfAdaptiveMano.Mapping

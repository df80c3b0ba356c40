import SelfAdaptiveMano.Simulator.CommandHandler

/-!
# What the checks of an addition guarantee

The checks look at the first hop, the last hop and the inner hops of each path
separately, at the first and the last hop from the VNFI or the gate at that end.
Together they cover every hop: where they pass, each direction has its path, and
each hop has a link or stays on its node, so that the addition cannot stop at a
link.
-/

namespace SelfAdaptiveMano.Simulator

open Library

def Linked (sib : Sib) (src dst : Nat) : Prop :=
  sib.serverLinks.contains (src, dst) = true ∨
    sib.links.contains (src, dst) = true ∨ src = dst

/-- The SFC has the directions 0 and maybe 1, each stage has one VNFI, and each
direction has a path with one part for each stage and one more. -/
structure Routed (sfc : SFC) (sfci : SFCI) : Prop where
  length : sfc.directions.length = 1 ∨ sfc.directions.length = 2
  ids : sfc.directions.map Direction.ID = List.range sfc.directions.length
  stage : ∀ stage ∈ sfci.vnfiSequence, ∃ vnfi, stage = [vnfi]
  path : ∀ direction ∈ sfc.directions, ∃ pathlist,
    pathlistOf sfci direction.ID = .ok pathlist ∧
      pathlist.length = sfci.vnfiSequence.length + 1 ∧
      ∀ path ∈ pathlist, 2 ≤ path.length

/-- A hop of a path is the first, the last, or between inner nodes. -/
theorem mem_zip_tail_cases {α : Type} {l : List α} {a b : α}
    (h : (a, b) ∈ l.zip l.tail) :
    (l[0]? = some a ∧ l[1]? = some b) ∨
      (l[l.length - 2]? = some a ∧ l[l.length - 1]? = some b) ∨
      (a, b) ∈ l.tail.dropLast.zip l.tail.dropLast.tail := by
  obtain ⟨i, hi⟩ := List.mem_iff_getElem?.mp h
  rw [List.getElem?_zip_eq_some, List.getElem?_tail] at hi
  obtain ⟨ha, hb⟩ := hi
  have hlt : i + 1 < l.length := (List.getElem?_eq_some_iff.mp hb).1
  by_cases hfirst : i = 0
  · subst hfirst
    exact Or.inl ⟨ha, hb⟩
  by_cases hlast : i + 2 = l.length
  · refine Or.inr (Or.inl ⟨?_, ?_⟩)
    · rw [show l.length - 2 = i by omega, ha]
    · rw [show l.length - 1 = i + 1 by omega, hb]
  · refine Or.inr (Or.inr (List.mem_iff_getElem?.mpr ⟨i - 1, ?_⟩))
    rw [List.getElem?_zip_eq_some, List.getElem?_tail, List.getElem?_dropLast,
      List.getElem?_dropLast, List.length_tail, if_pos (by omega),
      if_pos (by omega), List.getElem?_tail, List.getElem?_tail,
      show i - 1 + 1 = i by omega]
    exact ⟨ha, hb⟩

section Links

variable {sib : Sib}

theorem linked_of_linksAt {node : Node}
    {links : Dict (Nat × Nat) LinkInfo} {nodeID src dst : Nat}
    (h : linksAt sib node = some (links, nodeID))
    (hlink : links.contains (src, dst) = true) : Linked sib src dst := by
  cases node with
  | server id =>
      cases h
      exact Or.inl hlink
  | switch id programmable switchType =>
      cases h
      exact Or.inr (Or.inl hlink)
  | other => cases h

theorem first_of_checkIngress {ingress : Node} (hnode : ingress ≠ .other)
    {nodes : List (List Nat)} (h : checkIngress sib ingress nodes = .ok ())
    {path : List Nat} (hpath : nodes[0]? = some path) (a b : Nat)
    (ha : path[0]? = some a) (hb : path[1]? = some b) : Linked sib a b := by
  rw [checkIngress] at h
  split at h
  · next hnone => cases ingress <;> simp_all [linksAt]
  · next links id hlinks =>
      obtain ⟨path', hpath', h⟩ := except_bind_eq_ok_iff.mp h
      obtain ⟨first, hfirst, h⟩ := except_bind_eq_ok_iff.mp h
      obtain ⟨⟨⟩, -, h⟩ := except_bind_eq_ok_iff.mp h
      obtain ⟨second, hsecond, h⟩ := except_bind_eq_ok_iff.mp h
      rw [itemAt_eq_ok_iff] at hpath' hfirst hsecond
      obtain rfl := Option.some.inj (hpath.symm.trans hpath')
      obtain rfl := Option.some.inj (ha.symm.trans hfirst)
      obtain rfl := Option.some.inj (hb.symm.trans hsecond)
      exact linked_of_linksAt hlinks (pyAssert_eq_ok_iff.mp h)

theorem last_of_checkEgress {egress : Node} (hnode : egress ≠ .other)
    {nodes : List (List Nat)} (h : checkEgress sib egress nodes = .ok ())
    {path : List Nat} (hpath : nodes[nodes.length - 1]? = some path) :
    2 ≤ path.length ∧ ∀ a b, path[path.length - 2]? = some a →
      path[path.length - 1]? = some b → Linked sib a b := by
  rw [checkEgress] at h
  split at h
  · next hnone => cases egress <;> simp_all [linksAt]
  · next links id hlinks =>
      obtain ⟨path', hpath', h⟩ := except_bind_eq_ok_iff.mp h
      obtain ⟨last, hlast, h⟩ := except_bind_eq_ok_iff.mp h
      obtain ⟨⟨⟩, -, h⟩ := except_bind_eq_ok_iff.mp h
      obtain ⟨before, hbefore, h⟩ := except_bind_eq_ok_iff.mp h
      rw [itemFromEnd_eq_ok_iff] at hpath' hlast hbefore
      obtain rfl := Option.some.inj (hpath.symm.trans hpath'.2)
      refine ⟨hbefore.1, fun a b ha hb => ?_⟩
      obtain rfl := Option.some.inj (ha.symm.trans hbefore.2)
      obtain rfl := Option.some.inj (hb.symm.trans hlast.2)
      exact linked_of_linksAt hlinks (pyAssert_eq_ok_iff.mp h)

theorem linked_of_eq_or {node : Node} {links : Dict (Nat × Nat) LinkInfo}
    {nodeID src dst : Nat} (hlinks : linksAt sib node = some (links, nodeID))
    (h : src = dst ∨ links.contains (src, dst) = true) : Linked sib src dst := by
  obtain heq | hlink := h
  · exact Or.inr (Or.inr heq)
  · exact linked_of_linksAt hlinks hlink

theorem linked_of_checkVNFI {nodes : List (List Nat)} {i : Nat}
    {vnfiSeqStage : List VNFI}
    (h : checkVNFI sib nodes i vnfiSeqStage = .ok ()) {path nextPath : List Nat}
    (hpath : nodes[i]? = some path) (hnext : nodes[i + 1]? = some nextPath) :
    (2 ≤ path.length ∧ ∀ a b, path[path.length - 2]? = some a →
        path[path.length - 1]? = some b → Linked sib a b) ∧
      ∀ a b, nextPath[0]? = some a → nextPath[1]? = some b →
        Linked sib a b := by
  rw [checkVNFI] at h
  obtain ⟨vnfi, -, h⟩ := except_bind_eq_ok_iff.mp h
  split at h
  · cases h
  · next links id hlinks =>
      obtain ⟨path', hpath', h⟩ := except_bind_eq_ok_iff.mp h
      obtain ⟨last, hlast, h⟩ := except_bind_eq_ok_iff.mp h
      obtain ⟨⟨⟩, -, h⟩ := except_bind_eq_ok_iff.mp h
      obtain ⟨nextPath', hnext', h⟩ := except_bind_eq_ok_iff.mp h
      obtain ⟨first, hfirst, h⟩ := except_bind_eq_ok_iff.mp h
      obtain ⟨⟨⟩, -, h⟩ := except_bind_eq_ok_iff.mp h
      obtain ⟨before, hbefore, h⟩ := except_bind_eq_ok_iff.mp h
      obtain ⟨⟨⟩, hend, h⟩ := except_bind_eq_ok_iff.mp h
      obtain ⟨second, hsecond, h⟩ := except_bind_eq_ok_iff.mp h
      rw [itemAt_eq_ok_iff] at hpath' hnext' hfirst hsecond
      rw [itemFromEnd_eq_ok_iff] at hlast hbefore
      rw [pyAssert_eq_ok_iff, Bool.or_eq_true, beq_iff_eq] at hend h
      obtain rfl := Option.some.inj (hpath.symm.trans hpath')
      obtain rfl := Option.some.inj (hnext.symm.trans hnext')
      refine ⟨⟨hbefore.1, fun a b ha hb => ?_⟩, fun a b ha hb => ?_⟩
      · obtain rfl := Option.some.inj (ha.symm.trans hbefore.2)
        obtain rfl := Option.some.inj (hb.symm.trans hlast.2)
        exact linked_of_eq_or hlinks hend
      · obtain rfl := Option.some.inj (ha.symm.trans hfirst)
        obtain rfl := Option.some.inj (hb.symm.trans hsecond)
        exact linked_of_eq_or hlinks h

theorem linked_of_checkInner {path : List Nat}
    (h : checkInner sib path = .ok ()) {a b : Nat}
    (hmem : (a, b) ∈ path.tail.dropLast.zip path.tail.dropLast.tail) :
    Linked sib a b := by
  obtain ⟨⟨⟩, -, h⟩ := except_bind_eq_ok_iff.mp h
  rw [pyAssert_eq_ok_iff] at h
  exact Or.inr (Or.inl (List.all_eq_true.mp h (a, b) hmem))

theorem linked_of_checkDirection {sfci : SFCI} {direction : Direction}
    (hingress : direction.ingress ≠ .other) (hegress : direction.egress ≠ .other)
    (h : checkDirection sib sfci direction = .ok ()) :
    ∃ pathlist, pathlistOf sfci direction.ID = .ok pathlist ∧
      pathlist.length = sfci.vnfiSequence.length + 1 ∧
      ∀ path ∈ pathlist, 2 ≤ path.length ∧
        ∀ a b, (a, b) ∈ (pathNodes path).zip (pathNodes path).tail →
          Linked sib a b := by
  obtain ⟨pathlist, hpathlist, h⟩ := except_bind_eq_ok_iff.mp h
  obtain ⟨⟨⟩, hlength, h⟩ := except_bind_eq_ok_iff.mp h
  obtain ⟨⟨⟩, hin, h⟩ := except_bind_eq_ok_iff.mp h
  obtain ⟨⟨⟩, heg, h⟩ := except_bind_eq_ok_iff.mp h
  obtain ⟨⟨⟩, hstages, hinner⟩ := except_bind_eq_ok_iff.mp h
  rw [pyAssert_eq_ok_iff, beq_iff_eq] at hlength
  rw [except_forM_eq_ok_iff] at hstages hinner
  refine ⟨pathlist, hpathlist, hlength, fun path hpath => ?_⟩
  generalize hseq : (if direction.ID = 0 then sfci.vnfiSequence
    else sfci.vnfiSequence.reverse) = stages at hstages
  have hseqLength : stages.length = sfci.vnfiSequence.length := by
    subst hseq
    split
    · rfl
    · exact List.length_reverse
  generalize hnodes : pathlist.map pathNodes = nodes at hin heg hstages hinner
  have hnodesLength : nodes.length = sfci.vnfiSequence.length + 1 := by
    rw [← hnodes, List.length_map, hlength]
  have hstage : ∀ i path nextPath, nodes[i]? = some path →
      nodes[i + 1]? = some nextPath → ∃ vnfiSeqStage,
        checkVNFI sib nodes i vnfiSeqStage = .ok () := by
    intro i path nextPath _ hnext
    have hlt : i < stages.length := by
      have := (List.getElem?_eq_some_iff.mp hnext).1
      omega
    refine ⟨stages[i], hstages (stages[i], i) ?_⟩
    rw [List.mem_zipIdx_iff_getElem?]
    exact List.getElem?_eq_getElem hlt
  obtain ⟨i, hi⟩ := List.mem_iff_getElem?.mp hpath
  have hnode : nodes[i]? = some (pathNodes path) := by
    rw [← hnodes, List.getElem?_map, hi]
    rfl
  have hilt : i < nodes.length := (List.getElem?_eq_some_iff.mp hnode).1
  have hlast : 2 ≤ (pathNodes path).length ∧ ∀ a b,
      (pathNodes path)[(pathNodes path).length - 2]? = some a →
      (pathNodes path)[(pathNodes path).length - 1]? = some b →
        Linked sib a b := by
    by_cases hend : i + 1 = nodes.length
    · refine last_of_checkEgress hegress heg ?_
      rw [← hnode]
      congr 1
      omega
    · have hnext : nodes[i + 1]? = some nodes[i + 1] :=
        List.getElem?_eq_getElem (by omega)
      obtain ⟨stage, hcheck⟩ := hstage i _ _ hnode hnext
      exact (linked_of_checkVNFI hcheck hnode hnext).1
  have hfirst : ∀ a b, (pathNodes path)[0]? = some a →
      (pathNodes path)[1]? = some b → Linked sib a b := by
    cases i with
    | zero => exact first_of_checkIngress hingress hin hnode
    | succ i =>
        have hbefore : nodes[i]? = some nodes[i] :=
          List.getElem?_eq_getElem (by omega)
        obtain ⟨stage, hcheck⟩ := hstage i _ _ hbefore hnode
        exact (linked_of_checkVNFI hcheck hbefore hnode).2
  refine ⟨by simpa [pathNodes] using hlast.1, fun a b hmem => ?_⟩
  obtain ⟨ha, hb⟩ | ⟨ha, hb⟩ | hmem := mem_zip_tail_cases hmem
  · exact hfirst a b ha hb
  · exact hlast.2 a b ha hb
  · refine linked_of_checkInner (hinner _ ?_) hmem
    exact List.mem_of_getElem? hnode

theorem ne_other_of_checkGate {py3 : Bool} {node : Node}
    (h : checkGate py3 sib node = .ok ()) : node ≠ .other := by
  rintro rfl
  cases h

theorem exists_vnfi_of_checkStage {vnfiSeqStage : List VNFI}
    (h : checkStage sib vnfiSeqStage = .ok ()) :
    ∃ vnfi, vnfiSeqStage = [vnfi] := by
  obtain ⟨⟨⟩, hlength, -⟩ := except_bind_eq_ok_iff.mp h
  rw [pyAssert_eq_ok_iff, beq_iff_eq] at hlength
  exact List.length_eq_one_iff.mp hlength

theorem ends_of_mem_hopsOf {sfciID dirID : Nat}
    {pathlist : List (List (Nat × Nat))} {h : Hop}
    (hmem : h ∈ hopsOf sfciID dirID pathlist) : ∃ path ∈ pathlist,
      (h.src, h.dst) ∈ (pathNodes path).zip (pathNodes path).tail := by
  obtain ⟨⟨path, stage⟩, hpath, hmem⟩ := List.mem_flatMap.mp hmem
  obtain ⟨⟨ends, hop⟩, hends, rfl⟩ := List.mem_map.mp hmem
  exact ⟨path, List.fst_mem_of_mem_zipIdx hpath,
    List.fst_mem_of_mem_zipIdx hends⟩

theorem routed_of_checkAddSFCI {py3 : Bool} {sfc : SFC} {sfci : SFCI}
    (h : checkAddSFCI py3 sib sfc sfci = .ok ()) :
    Routed sfc sfci ∧ ∀ direction ∈ sfc.directions, ∀ pathlist,
      pathlistOf sfci direction.ID = .ok pathlist →
        ∀ hop ∈ hopsOf sfci.sfciID direction.ID pathlist,
          Linked sib hop.src hop.dst := by
  obtain ⟨⟨⟩, hsfc, h⟩ := except_bind_eq_ok_iff.mp h
  obtain ⟨⟨⟩, hstages, h⟩ := except_bind_eq_ok_iff.mp h
  obtain ⟨⟨⟩, -, hdirections⟩ := except_bind_eq_ok_iff.mp h
  obtain ⟨⟨⟩, hlength, hsfc⟩ := except_bind_eq_ok_iff.mp hsfc
  obtain ⟨⟨⟩, hids, hgates⟩ := except_bind_eq_ok_iff.mp hsfc
  rw [pyAssert_eq_ok_iff] at hlength hids
  rw [except_forM_eq_ok_iff] at hstages hdirections hgates
  have hall : ∀ direction ∈ sfc.directions, ∃ pathlist,
      pathlistOf sfci direction.ID = .ok pathlist ∧
        pathlist.length = sfci.vnfiSequence.length + 1 ∧
        ∀ path ∈ pathlist, 2 ≤ path.length ∧
          ∀ a b, (a, b) ∈ (pathNodes path).zip (pathNodes path).tail →
            Linked sib a b := by
    intro direction hdirection
    obtain ⟨⟨⟩, hingress, hegress⟩ :=
      except_bind_eq_ok_iff.mp (hgates direction hdirection)
    exact linked_of_checkDirection (ne_other_of_checkGate hingress)
      (ne_other_of_checkGate hegress) (hdirections direction hdirection)
  constructor
  · refine ⟨by simpa using hlength, by simpa using hids, ?_, ?_⟩
    · exact fun stage hstage => exists_vnfi_of_checkStage (hstages stage hstage)
    · intro direction hdirection
      obtain ⟨pathlist, hpathlist, hlen, hpaths⟩ := hall direction hdirection
      exact ⟨pathlist, hpathlist, hlen, fun path hpath => (hpaths path hpath).1⟩
  · intro direction hdirection pathlist hpathlist hop hhop
    obtain ⟨pathlist', hpathlist', -, hpaths⟩ := hall direction hdirection
    rw [hpathlist] at hpathlist'
    obtain rfl := Except.ok.inj hpathlist'
    obtain ⟨path, hpath, hends⟩ := ends_of_mem_hopsOf hhop
    exact (hpaths path hpath).2 _ _ hends

end Links

end SelfAdaptiveMano.Simulator

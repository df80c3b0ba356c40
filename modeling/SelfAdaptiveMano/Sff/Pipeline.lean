import SelfAdaptiveMano.Sff.SffController

/-!
# What the uses of the VNFIs require in the pipeline

A use is a VNFI in one stage of an SFCI. The VNFIs that are used require their
ports, and in each direction that some use has their modules, their gate and
their links; each use requires a rule for each of its directions. `Required` are
these objects, beside those that every server has.
-/

namespace SelfAdaptiveMano.Sff

open Library

/-- A VNFI on a server in one stage of an SFCI, with the directions of the SFC. -/
structure Use where
  sfci : SFCI
  directions : List Nat
  vnfiIdx : Nat
  vnfi : VNFI
  server : Server
  deriving DecidableEq

def Use.rule (chainType : ChainType) (u : Use) (directionID : Nat) : Match :=
  ruleMatch chainType u.sfci u.vnfi u.vnfiIdx directionID

def Present (us : List Use) (vnfiID : UUID) : Prop :=
  ∃ u ∈ us, u.vnfi.vnfiID = vnfiID

def Used (us : List Use) (vnfiID : UUID) (directionID : Nat) : Prop :=
  ∃ u ∈ us, u.vnfi.vnfiID = vnfiID ∧ directionID ∈ u.directions

def portObject (vnfiID : UUID) (directionID : Nat) : Object :=
  (.port (.vnfi .pmdPort vnfiID directionID), .port)

def portObjects (vnfiID : UUID) : List Object :=
  [portObject vnfiID 0, portObject vnfiID 1]

def checksumObjects (chainType : ChainType) (vnfiID : UUID)
    (directionID : Nat) : List Object :=
  match chainType with
  | .ufrr => [(.module (.vnfi .ipChecksum vnfiID directionID),
      .module .ipChecksum none)]
  | .nshOverEth => []

def moduleObjects (chainType : ChainType) (vnfiID : UUID) (directionID : Nat) :
    List Object :=
  [(.module (.vnfi .queueInc vnfiID directionID),
      .module .queueInc (some (.vnfi .pmdPort vnfiID (1 - directionID)))),
    (.module (.vnfi .queueOut vnfiID directionID),
      .module .queueOut (some (.vnfi .pmdPort vnfiID directionID))),
    (.module (.vnfi .update vnfiID directionID), .module .update none)] ++
  checksumObjects chainType vnfiID directionID

def linkObject (ends : Name × Name) : Object :=
  (.gate ends.1 0, .link ends.2 0)

def innerObjects (chainType : ChainType) (vnfiID : UUID) (directionID : Nat) :
    List Object :=
  (innerLinks chainType vnfiID directionID).map linkObject

def gateObject (chainType : ChainType) (vnfiID : UUID)
    (directionID oGate : Nat) : Object :=
  (.gate (.base chainType.table) oGate,
    .link (.vnfi .queueOut vnfiID directionID) 0)

def ruleObject (chainType : ChainType) (u : Use) (directionID oGate : Nat) :
    Object :=
  (.rule (.base chainType.table) (u.rule chainType directionID), .rule oGate)

/-- The objects that the uses `us` require, with the gates `ogates`, beside the
objects `B`. -/
inductive Required (chainType : ChainType) (B : Set Object) (us : List Use)
    (ogates : Dict GateKey Nat) : Object → Prop where
  | base {e} : e ∈ B → Required chainType B us ogates e
  | port {v e} : Present us v → e ∈ portObjects v →
      Required chainType B us ogates e
  | module {v d e} : Used us v d → e ∈ moduleObjects chainType v d →
      Required chainType B us ogates e
  | inner {v d e} : Used us v d → e ∈ innerObjects chainType v d →
      Required chainType B us ogates e
  | gate {v d g} : Used us v d → ogates.get? (.vnfi v d) = some g →
      Required chainType B us ogates (gateObject chainType v d g)
  | rule {u d g} : u ∈ us → d ∈ u.directions →
      ogates.get? (.vnfi u.vnfi.vnfiID d) = some g →
      Required chainType B us ogates (ruleObject chainType u d g)

def required (chainType : ChainType) (B : Set Object) (us : List Use)
    (ogates : Dict GateKey Nat) : Set Object :=
  {e | Required chainType B us ogates e}

/-- The objects that every server has: none is for a VNFI, the match table is
there, and of its gates only the default one is linked. -/
structure IsBase (chainType : ChainType) (B : Set Object) : Prop where
  table : ∃ c, (.module (.base chainType.table), c) ∈ B
  port : ∀ {n c}, (.port n, c) ∈ B → ∃ b, n = .base b
  module : ∀ {n c}, (.module n, c) ∈ B → (∃ b, n = .base b) ∧
    ∀ mclass p, c = .module mclass (some p) → ∃ b, p = .base b
  gate : ∀ {n g c}, (.gate n g, c) ∈ B → (∃ b, n = .base b) ∧
    (n = .base chainType.table → g = 0) ∧
    ∀ m2 igate, c = .link m2 igate → ∃ b, m2 = .base b
  rule : ∀ {t m c}, (.rule t m, c) ∈ B →
    (∃ b, t = .base b) ∧ t ≠ .base chainType.table

/-- The gates of the table: the default one, and one for each VNFI in each
direction in which it is used. -/
structure Gates (us : List Use) (ogates : Dict GateKey Nat) : Prop where
  default : ogates.get? .default = some 0
  used : ∀ v d, (∃ g, ogates.get? (.vnfi v d) = some g) ↔ Used us v d
  inj : ∀ k k' g, ogates.get? k = some g → ogates.get? k' = some g → k = k'

def useCount (us : List Use) (vnfiID : UUID) : Nat :=
  us.countP fun u => u.vnfi.vnfiID == vnfiID

structure Counts (us : List Use) (vnfiDict : Dict UUID (List VNFI)) : Prop where
  length : ∀ v, ((vnfiDict.get? v).getD []).length = useCount us v
  ne_nil : ∀ v, vnfiDict.get? v ≠ some []

/-- The directions of a use are `0` or `1`, each once, and the rules of all uses
differ. -/
structure UsesOk (chainType : ChainType) (us : List Use) : Prop where
  direction : ∀ u ∈ us, ∀ d ∈ u.directions, d = 0 ∨ d = 1
  nodup : ∀ u ∈ us, u.directions.Nodup
  rules : (us.flatMap fun u => u.directions.map (u.rule chainType)).Nodup

section Kinds

variable {chainType : ChainType} {B : Set Object} {us : List Use}
  {ogates : Dict GateKey Nat} {v : UUID} {d : Nat} {n : Name} {c : Content}

theorem mem_portObjects {e : Object} : e ∈ portObjects v ↔
    ∃ d, (d = 0 ∨ d = 1) ∧ e = portObject v d := by
  simp [portObjects, or_and_right, exists_or]

/-- What a module of a VNFI looks like. -/
theorem exists_of_mem_moduleObjects {e : Object}
    (h : e ∈ moduleObjects chainType v d) : ∃ nameClass mclass port,
      e = (.module (.vnfi nameClass v d), .module mclass port) ∧
        nameClass ≠ .pmdPort ∧
        ∀ p, port = some p →
          (nameClass = .queueInc ∧ mclass = .queueInc ∧
            p = .vnfi .pmdPort v (1 - d)) ∨
          (nameClass = .queueOut ∧ mclass = .queueOut ∧
            p = .vnfi .pmdPort v d) := by
  rw [moduleObjects, List.mem_append] at h
  obtain h | h := h
  · simp only [List.mem_cons, List.not_mem_nil, or_false] at h
    obtain rfl | rfl | rfl := h
    · exact ⟨_, _, _, rfl, by simp, fun p hp => Or.inl (by simp_all)⟩
    · exact ⟨_, _, _, rfl, by simp, fun p hp => Or.inr (by simp_all)⟩
    · exact ⟨_, _, _, rfl, by simp, fun p hp => nomatch hp⟩
  · cases chainType with
    | ufrr =>
        obtain rfl := List.mem_singleton.mp h
        exact ⟨_, _, _, rfl, by simp, fun p hp => nomatch hp⟩
    | nshOverEth => cases h

/-- What a link behind a VNFI looks like. -/
theorem exists_of_mem_innerObjects {e : Object}
    (h : e ∈ innerObjects chainType v d) : ∃ nameClass m2,
      e = (.gate (.vnfi nameClass v d) 0, .link m2 0) ∧
        (m2 = .base chainType.table ∨ ∃ nameClass', m2 = .vnfi nameClass' v d) ∧
        ∃ c c', (.module (.vnfi nameClass v d), c) ∈
            moduleObjects chainType v d ∧
          (m2 = .base chainType.table ∨
            (.module m2, c') ∈ moduleObjects chainType v d) := by
  obtain ⟨⟨m1, m2⟩, hmem, rfl⟩ := List.mem_map.mp h
  cases chainType with
  | ufrr =>
      simp only [innerLinks, List.mem_cons, List.not_mem_nil, or_false,
        Prod.mk.injEq] at hmem
      obtain ⟨rfl, rfl⟩ | ⟨rfl, rfl⟩ | ⟨rfl, rfl⟩ := hmem
      · exact ⟨_, _, rfl, Or.inr ⟨_, rfl⟩, _, _, List.mem_cons_self,
          Or.inr (List.mem_cons_of_mem _ (List.mem_cons_of_mem _
            List.mem_cons_self))⟩
      · exact ⟨_, _, rfl, Or.inr ⟨_, rfl⟩, _, .module .ipChecksum none,
          List.mem_cons_of_mem _ (List.mem_cons_of_mem _ List.mem_cons_self),
          Or.inr (by simp [moduleObjects, checksumObjects])⟩
      · exact ⟨_, _, rfl, Or.inl rfl, .module .ipChecksum none, .port,
          by simp [moduleObjects, checksumObjects], Or.inl rfl⟩
  | nshOverEth =>
      simp only [innerLinks, List.mem_cons, List.not_mem_nil, or_false,
        Prod.mk.injEq] at hmem
      obtain ⟨rfl, rfl⟩ | ⟨rfl, rfl⟩ := hmem
      · exact ⟨_, _, rfl, Or.inr ⟨_, rfl⟩, _, _, List.mem_cons_self,
          Or.inr (List.mem_cons_of_mem _ (List.mem_cons_of_mem _
            List.mem_cons_self))⟩
      · exact ⟨_, _, rfl, Or.inl rfl, _, .port,
          List.mem_cons_of_mem _ (List.mem_cons_of_mem _ List.mem_cons_self),
          Or.inl rfl⟩

theorem required_port (h : (.port n, c) ∈ required chainType B us ogates) :
    (.port n, c) ∈ B ∨ ∃ v, Present us v ∧ (.port n, c) ∈ portObjects v := by
  generalize he : ((.port n, c) : Object) = e at h
  cases h with
  | base hB => exact Or.inl hB
  | port hv hmem => exact Or.inr ⟨_, hv, hmem⟩
  | module hd hmem =>
      obtain ⟨_, _, _, rfl, -⟩ := exists_of_mem_moduleObjects hmem
      cases he
  | inner hd hmem =>
      obtain ⟨_, _, rfl, -⟩ := exists_of_mem_innerObjects hmem
      cases he
  | gate hd hg => cases he
  | rule hu hd hg => cases he

theorem required_module (h : (.module n, c) ∈ required chainType B us ogates) :
    (.module n, c) ∈ B ∨ ∃ v d, Used us v d ∧
      (.module n, c) ∈ moduleObjects chainType v d := by
  generalize he : ((.module n, c) : Object) = e at h
  cases h with
  | base hB => exact Or.inl hB
  | port hv hmem =>
      obtain ⟨_, _, rfl⟩ := mem_portObjects.mp hmem
      cases he
  | module hd hmem => exact Or.inr ⟨_, _, hd, hmem⟩
  | inner hd hmem =>
      obtain ⟨_, _, rfl, -⟩ := exists_of_mem_innerObjects hmem
      cases he
  | gate hd hg => cases he
  | rule hu hd hg => cases he

theorem required_gate {g : Nat}
    (h : (.gate n g, c) ∈ required chainType B us ogates) :
    (.gate n g, c) ∈ B ∨
      (∃ v d, Used us v d ∧ (.gate n g, c) ∈ innerObjects chainType v d) ∨
      ∃ v d, Used us v d ∧ ogates.get? (.vnfi v d) = some g ∧
        (.gate n g, c) = gateObject chainType v d g := by
  generalize he : ((.gate n g, c) : Object) = e at h
  cases h with
  | base hB => exact Or.inl hB
  | port hv hmem =>
      obtain ⟨_, _, rfl⟩ := mem_portObjects.mp hmem
      cases he
  | module hd hmem =>
      obtain ⟨_, _, _, rfl, -⟩ := exists_of_mem_moduleObjects hmem
      cases he
  | inner hd hmem => exact Or.inr (Or.inl ⟨_, _, hd, hmem⟩)
  | gate hd hg =>
      cases he
      exact Or.inr (Or.inr ⟨_, _, hd, hg, rfl⟩)
  | rule hu hd hg => cases he

theorem required_rule {t : Name} {m : Match}
    (h : (.rule t m, c) ∈ required chainType B us ogates) :
    (.rule t m, c) ∈ B ∨ ∃ u d g, u ∈ us ∧ d ∈ u.directions ∧
      ogates.get? (.vnfi u.vnfi.vnfiID d) = some g ∧
        (.rule t m, c) = ruleObject chainType u d g := by
  generalize he : ((.rule t m, c) : Object) = e at h
  cases h with
  | base hB => exact Or.inl hB
  | port hv hmem =>
      obtain ⟨_, _, rfl⟩ := mem_portObjects.mp hmem
      cases he
  | module hd hmem =>
      obtain ⟨_, _, _, rfl, -⟩ := exists_of_mem_moduleObjects hmem
      cases he
  | inner hd hmem =>
      obtain ⟨_, _, rfl, -⟩ := exists_of_mem_innerObjects hmem
      cases he
  | gate hd hg => cases he
  | rule hu hd hg => exact Or.inr ⟨_, _, _, hu, hd, hg, rfl⟩

end Kinds

end SelfAdaptiveMano.Sff

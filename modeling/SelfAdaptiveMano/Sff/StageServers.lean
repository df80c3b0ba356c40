import SelfAdaptiveMano.Sff.SffController
import Mathlib.Data.List.Pairwise

/-!
# The servers of a stage

A VNFI and its backups are to be on different servers, and the SFF controller checks
this before it handles a command. The check compares the VNFIs of a stage in pairs,
but both of its indices stop before the last VNFI, which is compared with none.
-/

namespace SelfAdaptiveMano.Sff

open Library

def SameServer (vnfi1 vnfi2 : VNFI) : Prop :=
  ∃ server1 server2, vnfi1.node = .server server1 ∧
    vnfi2.node = .server server2 ∧ server1.serverID = server2.serverID

def Clashes (vnf : List VNFI) : Prop :=
  ∃ (i j : Nat) (vnfi1 vnfi2 : VNFI), i < j ∧ vnf[i]? = some vnfi1 ∧
    vnf[j]? = some vnfi2 ∧ SameServer vnfi1 vnfi2

def LastClashes (vnf : List VNFI) : Prop :=
  ∃ vnfi1 ∈ vnf.dropLast, ∃ vnfi2, vnf.getLast? = some vnfi2 ∧
    SameServer vnfi1 vnfi2

def OnServers (vnf : List VNFI) : Prop :=
  ∀ vnfi ∈ vnf, ∃ server, vnfi.node = .server server

/-! ## Clashes -/

variable {vnf : List VNFI} {vnfi vnfi1 vnfi2 : VNFI}

theorem not_clashes_iff :
    ¬ Clashes vnf ↔ vnf.Pairwise fun vnfi1 vnfi2 => ¬ SameServer vnfi1 vnfi2 := by
  rw [List.pairwise_iff_getElem]
  constructor
  · intro hnone i j hi hj hij hsame
    exact hnone ⟨i, j, vnf[i], vnf[j], hij, List.getElem?_eq_getElem hi,
      List.getElem?_eq_getElem hj, hsame⟩
  · rintro hall ⟨i, j, vnfi1, vnfi2, hij, h1, h2, hsame⟩
    obtain ⟨hi, rfl⟩ := List.getElem?_eq_some_iff.mp h1
    obtain ⟨hj, rfl⟩ := List.getElem?_eq_some_iff.mp h2
    exact hall i j hi hj hij hsame

theorem not_clashes_concat_iff :
    ¬ Clashes (vnf ++ [vnfi]) ↔
      ¬ Clashes vnf ∧ ∀ vnfi1 ∈ vnf, ¬ SameServer vnfi1 vnfi := by
  rw [not_clashes_iff, not_clashes_iff, List.pairwise_append]
  constructor
  · rintro ⟨hfront, -, hlast⟩
    exact ⟨hfront, fun vnfi1 h1 => hlast vnfi1 h1 vnfi (List.mem_singleton_self vnfi)⟩
  · rintro ⟨hfront, hlast⟩
    refine ⟨hfront, List.pairwise_singleton _ _, fun vnfi1 h1 vnfi2 h2 => ?_⟩
    obtain rfl := List.mem_singleton.mp h2
    exact hlast vnfi1 h1

theorem clashes_iff : Clashes vnf ↔ Clashes vnf.dropLast ∨ LastClashes vnf := by
  obtain rfl | ⟨front, vnfi, rfl⟩ := List.eq_nil_or_concat' vnf
  · simp [LastClashes]
  · have hlast : LastClashes (front ++ [vnfi]) ↔
        ∃ vnfi1 ∈ front, SameServer vnfi1 vnfi := by
      simp [LastClashes]
    rw [← not_iff_not, not_clashes_concat_iff, hlast, List.dropLast_concat]
    push Not
    rfl

/-! ## The check -/

theorem checkPair_eq_ok_iff (h1 : ∃ server, vnfi1.node = .server server)
    (h2 : ∃ server, vnfi2.node = .server server) :
    checkPair vnfi1 vnfi2 = .ok () ↔ ¬ SameServer vnfi1 vnfi2 := by
  obtain ⟨server1, h1⟩ := h1
  obtain ⟨server2, h2⟩ := h2
  have hsame : SameServer vnfi1 vnfi2 ↔ server1.serverID = server2.serverID := by
    simp [SameServer, h1, h2]
  rw [hsame, checkPair, h1, h2]
  by_cases heq : server1.serverID = server2.serverID
  · simp [heq]
  · simp [heq]

theorem checkPairs_eq_ok_iff :
    checkPairs vnf = .ok () ↔
      vnf.Pairwise fun vnfi1 vnfi2 => checkPair vnfi1 vnfi2 = .ok () := by
  induction vnf with
  | nil => exact iff_of_true rfl List.Pairwise.nil
  | cons vnfi vnf ih =>
      rw [checkPairs, except_bind_eq_ok_iff, List.pairwise_cons, ← ih,
        ← except_forM_eq_ok_iff]
      constructor
      · rintro ⟨⟨⟩, h⟩
        exact h
      · exact fun h => ⟨⟨⟩, h⟩

theorem checkPairs_dropLast_eq_ok_iff (h : OnServers vnf) :
    checkPairs vnf.dropLast = .ok () ↔ ¬ Clashes vnf.dropLast := by
  have hpair : ∀ vnfi1 ∈ vnf.dropLast, ∀ vnfi2 ∈ vnf.dropLast,
      (checkPair vnfi1 vnfi2 = .ok () ↔ ¬ SameServer vnfi1 vnfi2) := by
    intro vnfi1 h1 vnfi2 h2
    apply checkPair_eq_ok_iff
    · exact h vnfi1 (List.dropLast_subset _ h1)
    · exact h vnfi2 (List.dropLast_subset _ h2)
  rw [checkPairs_eq_ok_iff, not_clashes_iff]
  exact List.Pairwise.iff_of_mem fun h1 h2 => hpair _ h1 _ h2

variable {vnfiSequence : List (List VNFI)}

theorem exists_error_iff (h : ∀ vnf ∈ vnfiSequence, OnServers vnf) :
    (∃ e, checkVNFISequence vnfiSequence = .error e) ↔
      ∃ vnf ∈ vnfiSequence, Clashes vnf.dropLast := by
  have hpass : checkVNFISequence vnfiSequence = .ok () ↔
      ∀ vnf ∈ vnfiSequence, ¬ Clashes vnf.dropLast := by
    rw [checkVNFISequence, except_forM_eq_ok_iff]
    exact forall₂_congr fun vnf hvnf => checkPairs_dropLast_eq_ok_iff (h vnf hvnf)
  have hraise : (∃ e, checkVNFISequence vnfiSequence = .error e) ↔
      ¬ checkVNFISequence vnfiSequence = .ok () := by
    cases checkVNFISequence vnfiSequence with
    | error e => simp
    | ok a => simp
  rw [hraise, hpass]
  push Not
  rfl

/-- The check raises exactly when there is a clash, if there is one before the last
VNFI of some stage, or none with the last VNFI of any. -/
theorem exists_error_iff_clashes_iff (h : ∀ vnf ∈ vnfiSequence, OnServers vnf) :
    ((∃ e, checkVNFISequence vnfiSequence = .error e) ↔
        ∃ vnf ∈ vnfiSequence, Clashes vnf) ↔
      (∃ vnf ∈ vnfiSequence, Clashes vnf.dropLast) ∨
        ∀ vnf ∈ vnfiSequence, ¬ LastClashes vnf := by
  have hclashes : (∃ vnf ∈ vnfiSequence, Clashes vnf) ↔
      (∃ vnf ∈ vnfiSequence, Clashes vnf.dropLast) ∨
        ∃ vnf ∈ vnfiSequence, LastClashes vnf := by
    rw [← exists_or]
    apply exists_congr
    intro vnf
    rw [clashes_iff, and_or_left]
  have hlast : (∀ vnf ∈ vnfiSequence, ¬ LastClashes vnf) ↔
      ¬ ∃ vnf ∈ vnfiSequence, LastClashes vnf := by
    push Not
    rfl
  rw [exists_error_iff h, hclashes, hlast]
  by_cases hfront : ∃ vnf ∈ vnfiSequence, Clashes vnf.dropLast
  · simp only [hfront, true_or]
  · simp only [hfront, false_or, false_iff]

def onOneServer (tick : Nat) : VNFI := ⟨4, ⟨0, tick⟩, .server ⟨1, 0, 0⟩⟩

theorem onServers_map_onOneServer (ticks : List Nat) :
    OnServers (ticks.map onOneServer) := by
  intro vnfi hvnfi
  obtain ⟨tick, -, rfl⟩ := List.mem_map.mp hvnfi
  exact ⟨⟨1, 0, 0⟩, rfl⟩

theorem exists_error_iff_clashes_iff_three :
    ((∃ e, checkVNFISequence [[1, 2, 3].map onOneServer] = .error e) ↔
        ∃ vnf ∈ [[1, 2, 3].map onOneServer], Clashes vnf) ↔
      (∃ vnf ∈ [[1, 2, 3].map onOneServer], Clashes vnf.dropLast) ∨
        ∀ vnf ∈ [[1, 2, 3].map onOneServer], ¬ LastClashes vnf :=
  exists_error_iff_clashes_iff fun vnf hvnf => by
    rw [List.mem_singleton.mp hvnf]
    exact onServers_map_onOneServer [1, 2, 3]

/-- A VNFI and its only backup on one server. -/
theorem not_exists_error_two :
    ¬ ((∃ e, checkVNFISequence [[1, 2].map onOneServer] = .error e) ↔
      ∃ vnf ∈ [[1, 2].map onOneServer], Clashes vnf) := by
  intro hiff
  have hclash : Clashes ([1, 2].map onOneServer) :=
    ⟨0, 1, _, _, Nat.zero_lt_one, rfl, rfl, _, _, rfl, rfl, rfl⟩
  obtain ⟨e, he⟩ := hiff.mpr ⟨_, List.mem_singleton_self _, hclash⟩
  cases he

end SelfAdaptiveMano.Sff

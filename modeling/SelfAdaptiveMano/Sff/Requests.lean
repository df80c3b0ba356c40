import SelfAdaptiveMano.Sff.Pipeline

/-!
# What the functions of the controller do to the pipeline

Each function sends requests in a fixed order, and each request creates or
destroys one object. The lemmas follow the statements and list the changes.
-/

namespace SelfAdaptiveMano.Sff

open Library Library.Objects

/-- A server, seen as its pipeline with its information base beside it. -/
def sideView {β : Type} (bess : Bess β) :
    View (Side β) Key Content Sibm where
  entry side := bess.entry side.bess
  rest := Side.sibm

theorem performs_getModuleOGate {β : Type} {bess : Bess β} {table : BaseName}
    {ogates : Dict GateKey Nat} {key : GateKey} {g : Nat}
    (hg : ogates.get? key = some g) :
    (sideView bess).Performs pipeline (fun sibm => sibm.ogates.get? table =
      some ogates) (getModuleOGate table key) g [] := by
  intro side S hP hs _
  refine ⟨side, ?_, hs, rfl⟩
  have hogates : side.sibm.ogates.get? table = some ogates := hP
  rw [getModuleOGate, ogatesOf, PyM.run_bind_ok
    ((PyM.run_bind_get _ _).trans (by rw [hogates]; rfl)), hg]
  rfl

section Requests

variable {β : Type} {bess : Bess β} (hbess : bess.Lawful) {P : Sibm → Prop}

include hbess

theorem performs_create {r : Request} {e : Object} (hr : r.created = some e) :
    (sideView bess).Performs pipeline P (checked bess r) () [.create e] := by
  intro side S _ hs hlegal
  obtain ⟨hok, hshows⟩ := hbess.create hr hs hlegal.1
  refine ⟨{ side with bess := (bess.call r side.bess).2 }, ?_, hshows, rfl⟩
  rw [checked, PyM.run_bind_get, hok]
  rfl

theorem performs_destroy {r : Request} {e : Object}
    (hr : r.destroyed = some e.1) :
    (sideView bess).Performs pipeline P (checked bess r) () [.destroy e] := by
  intro side S _ hs hlegal
  obtain ⟨hok, hshows⟩ := hbess.destroy hr hs hlegal.1
  refine ⟨{ side with bess := (bess.call r side.bess).2 }, ?_, hshows, rfl⟩
  rw [checked, PyM.run_bind_get, hok]
  rfl

theorem performs_pauseAll :
    (sideView bess).Performs pipeline P (request bess .pauseAll) () [] := by
  intro side S _ hs _
  refine ⟨{ side with bess := (bess.call .pauseAll side.bess).2 }, rfl, ?_, rfl⟩
  intro k c
  dsimp only [sideView]
  rw [hbess.pauseAll]
  exact hs k c

theorem performs_resumeAll :
    (sideView bess).Performs pipeline P (request bess .resumeAll) () [] := by
  intro side S _ hs _
  refine ⟨{ side with bess := (bess.call .resumeAll side.bess).2 }, rfl, ?_, rfl⟩
  intro k c
  dsimp only [sideView]
  rw [hbess.resumeAll]
  exact hs k c

variable {chainType : ChainType} {server : Server} {sfci : SFCI}
  {directions : List Nat} {vnfi : VNFI} {vnfiIdx : Nat}

theorem performs_addChecksum (d : Nat) :
    (sideView bess).Performs pipeline P (addChecksum chainType bess vnfi d) ()
      ((checksumObjects chainType vnfi.vnfiID d).map .create) := by
  cases chainType with
  | ufrr => exact performs_create hbess rfl
  | nshOverEth => exact View.Performs.pure _

theorem performs_addDirectionModules {d : Nat} (hd : d = 0 ∨ d = 1)
    (hread : ∃ arg, updateArg chainType server sfci vnfi vnfiIdx d = .ok arg) :
    (sideView bess).Performs pipeline P
      (addDirectionModules chainType bess server sfci vnfi vnfiIdx d) ()
      ((moduleObjects chainType vnfi.vnfiID d).map .create) := by
  obtain ⟨arg, hread⟩ := hread
  have hport : arg.port = none := by
    cases chainType with
    | nshOverEth =>
        cases hread
        rfl
    | ufrr =>
        obtain ⟨_, -, hread⟩ := except_bind_eq_ok_iff.mp hread
        obtain ⟨_, -, hread⟩ := except_bind_eq_ok_iff.mp hread
        cases hread
        rfl
  have hid : checkDirectionID d = .ok () := if_pos hd
  refine View.Performs.bind_ofExcept hid ?_
  refine View.Performs.bind (performs_create hbess rfl) ?_
  refine View.Performs.bind (performs_create hbess rfl) ?_
  refine View.Performs.bind_ofExcept hread ?_
  refine View.Performs.bind (performs_create hbess ?_)
    (performs_addChecksum hbess d)
  rw [Request.created, hport]

theorem performs_addModules (hd : ∀ d ∈ directions, d = 0 ∨ d = 1)
    (hread : ∀ d ∈ directions, ∃ arg,
      updateArg chainType server sfci vnfi vnfiIdx d = .ok arg) :
    (sideView bess).Performs pipeline P
      (addModules chainType bess server sfci directions vnfi vnfiIdx) ()
      ((portObjects vnfi.vnfiID ++ directions.flatMap
        (moduleObjects chainType vnfi.vnfiID)).map .create) := by
  have hlist : ((portObjects vnfi.vnfiID ++ directions.flatMap
      (moduleObjects chainType vnfi.vnfiID)).map .create :
        List (Change Key Content)) =
      [] ++ ([.create (portObject vnfi.vnfiID 0)] ++
        ([.create (portObject vnfi.vnfiID 1)] ++ (directions.flatMap (fun d =>
          (moduleObjects chainType vnfi.vnfiID d).map .create) ++ []))) := by
    rw [List.append_nil, ← List.map_flatMap, List.map_append]
    rfl
  rw [hlist]
  refine View.Performs.bind (performs_pauseAll hbess) ?_
  refine View.Performs.bind (performs_create hbess rfl) ?_
  refine View.Performs.bind (performs_create hbess rfl) ?_
  exact View.Performs.bind (View.Performs.forM fun d hmem =>
      performs_addDirectionModules hbess (hd d hmem) (hread d hmem))
    (performs_resumeAll hbess)

theorem performs_innerLinks (d : Nat) :
    (sideView bess).Performs pipeline P
      ((innerLinks chainType vnfi.vnfiID d).forM fun (m1, m2) =>
        checked bess (.connectModules m1 m2 0 0)) ()
      ((innerObjects chainType vnfi.vnfiID d).map .create) := by
  rw [innerObjects, List.map_map, List.map_eq_flatMap]
  exact View.Performs.forM fun ends _ =>
    performs_create (e := linkObject ends) hbess rfl

def linkObjects (chainType : ChainType) (ogates : Dict GateKey Nat)
    (vnfiID : UUID) (d : Nat) : List Object :=
  gateObject chainType vnfiID d ((ogates.get? (.vnfi vnfiID d)).getD 0) ::
    innerObjects chainType vnfiID d

theorem performs_addLinks {ogates : Dict GateKey Nat}
    (hgates : ∀ d ∈ directions, ∃ g,
      ogates.get? (.vnfi vnfi.vnfiID d) = some g) :
    (sideView bess).Performs pipeline
      (fun sibm => sibm.ogates.get? chainType.table = some ogates)
      (addLinks chainType bess directions vnfi) ()
      ((directions.flatMap (linkObjects chainType ogates vnfi.vnfiID)).map
        .create) := by
  rw [List.map_flatMap]
  refine (performs_pauseAll hbess).bind (View.Performs.forM fun d hmem => ?_)
  obtain ⟨g, hg⟩ := hgates d hmem
  have hlist : ((linkObjects chainType ogates vnfi.vnfiID d).map .create :
      List (Change Key Content)) =
      [] ++ ([.create (gateObject chainType vnfi.vnfiID d g)] ++
        ((innerObjects chainType vnfi.vnfiID d).map .create ++ [])) := by
    rw [linkObjects, hg, List.append_nil]
    rfl
  rw [hlist]
  refine View.Performs.bind (performs_getModuleOGate hg) ?_
  refine View.Performs.bind (performs_create hbess rfl) ?_
  exact View.Performs.bind (performs_innerLinks hbess d)
    (performs_resumeAll hbess)

/-! ## Deletion -/

theorem performs_delChecksum (d : Nat) :
    (sideView bess).Performs pipeline P (delChecksum chainType bess vnfi d) ()
      ((checksumObjects chainType vnfi.vnfiID d).map .destroy) := by
  cases chainType with
  | ufrr => exact performs_destroy hbess rfl
  | nshOverEth => exact View.Performs.pure _

theorem performs_delDirectionModules (d : Nat) :
    (sideView bess).Performs pipeline P
      (delDirectionModules chainType bess vnfi d) ()
      ((moduleObjects chainType vnfi.vnfiID d).map .destroy) := by
  refine View.Performs.bind (performs_destroy hbess rfl) ?_
  refine View.Performs.bind (performs_destroy hbess rfl) ?_
  exact View.Performs.bind (performs_destroy hbess rfl)
    (performs_delChecksum hbess d)

theorem performs_delModules :
    (sideView bess).Performs pipeline P (delModules chainType bess directions vnfi)
      () ((directions.flatMap (moduleObjects chainType vnfi.vnfiID) ++
        portObjects vnfi.vnfiID).map .destroy) := by
  have hlist : ((directions.flatMap (moduleObjects chainType vnfi.vnfiID) ++
      portObjects vnfi.vnfiID).map .destroy : List (Change Key Content)) =
      [] ++ (directions.flatMap (fun d =>
        (moduleObjects chainType vnfi.vnfiID d).map .destroy) ++
          ([.destroy (portObject vnfi.vnfiID 0)] ++
            ([.destroy (portObject vnfi.vnfiID 1)] ++ []))) := by
    rw [List.append_nil, ← List.map_flatMap, List.map_append]
    rfl
  rw [hlist]
  refine View.Performs.bind (performs_pauseAll hbess) ?_
  refine View.Performs.bind (View.Performs.forM fun d _ =>
    performs_delDirectionModules hbess d) ?_
  refine View.Performs.bind (performs_destroy hbess rfl) ?_
  exact View.Performs.bind (performs_destroy hbess rfl)
    (performs_resumeAll hbess)

theorem performs_delInnerLinks (d : Nat) :
    (sideView bess).Performs pipeline P
      ((innerLinks chainType vnfi.vnfiID d).forM fun (m1, _) =>
        checked bess (.disconnectModules m1 0)) ()
      ((innerObjects chainType vnfi.vnfiID d).map .destroy) := by
  rw [innerObjects, List.map_map, List.map_eq_flatMap]
  exact View.Performs.forM fun ends _ =>
    performs_destroy (e := linkObject ends) hbess rfl

theorem performs_delLinks {ogates : Dict GateKey Nat}
    (hgates : ∀ d ∈ directions, ∃ g,
      ogates.get? (.vnfi vnfi.vnfiID d) = some g) :
    (sideView bess).Performs pipeline
      (fun sibm => sibm.ogates.get? chainType.table = some ogates)
      (delLinks chainType bess directions vnfi) ()
      ((directions.flatMap (linkObjects chainType ogates vnfi.vnfiID)).map
        .destroy) := by
  rw [List.map_flatMap]
  refine (performs_pauseAll hbess).bind (View.Performs.forM fun d hmem => ?_)
  obtain ⟨g, hg⟩ := hgates d hmem
  have hlist : ((linkObjects chainType ogates vnfi.vnfiID d).map .destroy :
      List (Change Key Content)) =
      [] ++ ([.destroy (gateObject chainType vnfi.vnfiID d g)] ++
        ((innerObjects chainType vnfi.vnfiID d).map .destroy ++ [])) := by
    rw [linkObjects, hg, List.append_nil]
    rfl
  rw [hlist]
  refine View.Performs.bind (performs_getModuleOGate hg) ?_
  refine View.Performs.bind (performs_destroy hbess rfl) ?_
  exact View.Performs.bind (performs_delInnerLinks hbess d)
    (performs_resumeAll hbess)

end Requests

end SelfAdaptiveMano.Sff

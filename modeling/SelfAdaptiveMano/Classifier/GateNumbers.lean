import SelfAdaptiveMano.Classifier.Calls
import SelfAdaptiveMano.Library.NumberBook
import SelfAdaptiveMano.Sff.Initialisation
import SelfAdaptiveMano.Sff.OutputGates

/-!
# The numbers of the output gates

The SFF keeps the gates of its match tables under the VNFI and the direction, the
classifier those of `wm2` under the SFC and those of a load balancer under the
SFCI. Both give a key the least number that no live key of the module has. The
SFF looks first whether the key is live. The classifier does not, so that a live
key that is assigned again loses the gate that it has.
-/

namespace SelfAdaptiveMano

open Library

theorem leastUnused_genAvailableMiniNum4List {τ κ : Type} [DecidableEq τ]
    [DecidableEq κ] {D : Dict τ (Dict κ Nat)} {t : τ} {d : Dict κ Nat}
    (h : D.get? t = some d) :
    (NumberBook.ofDict D).LeastUnused t (Sff.genAvailableMiniNum4List d.values)
      where
  unused := by
    intro k hk
    rw [NumberBook.ofDict_eq h] at hk
    apply Sff.genAvailableMiniNum4List_notMem d.values
    exact Dict.mem_values_iff.mpr ⟨k, hk⟩
  least := by
    intro m hm
    have hmem := Sff.mem_of_lt_genAvailableMiniNum4List hm
    obtain ⟨k, hk⟩ := Dict.mem_values_iff.mp hmem
    exact ⟨k, (NumberBook.ofDict_eq h).trans hk⟩

/-! ## The SFF -/

namespace Sff

inductive GateCall where
  | assignSFFWM2OGate (vnfiID : UUID) (directionID : Nat)
  | assignSFFEM1OGate (vnfiID : UUID) (directionID : Nat)
  | delModuleOGate (table : BaseName) (key : GateKey)
  | addModule (name : BaseName)
  deriving DecidableEq, Repr

namespace GateCall

/-- What the call does, and the gate that it answers. -/
def run (β : Type) : GateCall → PyM (Side β) (Option Nat)
  | .assignSFFWM2OGate vnfiID directionID => do
      let oGateNum ← Sff.assignSFFWM2OGate vnfiID directionID
      return some oGateNum
  | .assignSFFEM1OGate vnfiID directionID => do
      let oGateNum ← Sff.assignSFFEM1OGate vnfiID directionID
      return some oGateNum
  | .delModuleOGate table key => do
      Sff.delModuleOGate table key
      return none
  | .addModule name => do
      modify fun side => { side with sibm := side.sibm.addModule name }
      return none

def asked : GateCall → Option (BaseName × GateKey)
  | .assignSFFWM2OGate vnfiID directionID => some (.wm2, .vnfi vnfiID directionID)
  | .assignSFFEM1OGate vnfiID directionID => some (.em1, .vnfi vnfiID directionID)
  | .delModuleOGate _ _ => none
  | .addModule _ => none

def released : GateCall → BaseName → GateKey → Prop
  | .assignSFFWM2OGate _ _, _, _ => False
  | .assignSFFEM1OGate _ _, _, _ => False
  | .delModuleOGate table key, table', key' => table' = table ∧ key' = key
  | .addModule name, table, _ => table = name

end GateCall

def gateKeeper (β : Type) : Keeper (Side β) GateCall BaseName GateKey where
  book := fun side => NumberBook.ofDict side.sibm.ogates
  call := GateCall.run β
  released := GateCall.released
  asked := GateCall.asked

section Calls

variable {β : Type} {side : Side β} {table : BaseName} {key : GateKey}

theorem run_ogatesOf_none (h : side.sibm.ogates.get? table = none) :
    (ogatesOf table).run side = .error .keyError side := by
  rw [ogatesOf, PyM.run_bind_get, h]
  rfl

theorem run_newOGate {ogates : Dict GateKey Nat}
    (h : side.sibm.ogates.get? table = some ogates) :
    (newOGate table key ogates).run side =
      .ok (genAvailableMiniNum4List ogates.values) { side with
        sibm := { side.sibm with
          ogates := side.sibm.ogates.set table
            (ogates.set key (genAvailableMiniNum4List ogates.values)) } } := by
  rw [newOGate, addOGate2Module, bind_assoc, PyM.run_bind_ok (run_ogatesOf h)]
  rfl

theorem good_of_assignOGate {call : GateCall} {vnfiID : UUID} {directionID : Nat}
    (hcall : call.run β = some <$> assignOGate table vnfiID directionID)
    (hasked : call.asked = some (table, .vnfi vnfiID directionID))
    (hreleased : ∀ table key, ¬ call.released table key)
    (hside : ((gateKeeper β).book side).Apart) :
    (gateKeeper β).Good side call := by
  have hrun : ((gateKeeper β).call call).run side =
      (some <$> assignOGate table vnfiID directionID).run side := by
    rw [← hcall]
    rfl
  rw [assignOGate] at hrun
  cases htable : side.sibm.ogates.get? table with
  | none =>
      apply Keeper.good_of_error (e := .keyError) hside
      rw [hrun, map_bind, PyM.run_bind_error (run_ogatesOf_none htable)]
  | some ogates =>
      rw [map_bind, PyM.run_bind_ok (run_ogatesOf htable)] at hrun
      cases hkey : ogates.get? (.vnfi vnfiID directionID) with
      | some g =>
          rw [hkey] at hrun
          apply Keeper.good_of_found hside hrun hasked
          exact (NumberBook.ofDict_eq htable).trans hkey
      | none =>
          rw [hkey] at hrun
          dsimp only at hrun
          rw [map_eq_pure_bind, PyM.run_bind_ok (run_newOGate htable)] at hrun
          have hiff := Keeper.good_iff_of_put hside hrun hasked
            (NumberBook.ofDict_set_set htable)
            (leastUnused_genAvailableMiniNum4List htable) (hreleased _ _)
          apply hiff.mpr
          exact (NumberBook.ofDict_eq htable).trans hkey

theorem good_of_delModuleOGate (hside : ((gateKeeper β).book side).Apart) :
    (gateKeeper β).Good side (.delModuleOGate table key) := by
  have hrun : ((gateKeeper β).call (.delModuleOGate table key)).run side =
      (delModuleOGate table key >>= fun _ => pure none).run side := rfl
  rw [delModuleOGate, bind_assoc] at hrun
  cases htable : side.sibm.ogates.get? table with
  | none =>
      apply Keeper.good_of_error (e := .keyError) hside
      rw [hrun, PyM.run_bind_error (run_ogatesOf_none htable)]
  | some ogates =>
      rw [PyM.run_bind_ok (run_ogatesOf htable)] at hrun
      cases hkey : ogates.contains key with
      | false =>
          apply Keeper.good_of_error (e := .keyError) hside
          rw [hrun, hkey]
          rfl
      | true =>
          rw [hkey] at hrun
          apply Keeper.good_of_none hrun
          exact .set_erase hside htable ⟨rfl, rfl⟩

theorem good_of_gateCall (hside : ((gateKeeper β).book side).Apart)
    (call : GateCall) : (gateKeeper β).Good side call := by
  cases call with
  | assignSFFWM2OGate vnfiID directionID =>
      exact good_of_assignOGate rfl rfl (fun _ _ h => h) hside
  | assignSFFEM1OGate vnfiID directionID =>
      exact good_of_assignOGate rfl rfl (fun _ _ h => h) hside
  | delModuleOGate table key => exact good_of_delModuleOGate hside
  | addModule name =>
      apply Keeper.good_of_none rfl
      exact .set_empty hside fun _ => rfl

theorem apart_initialSibm : (NumberBook.ofDict initialSibm.ogates).Apart := by
  have hempty : ∀ key key' g, (Dict.empty : Dict GateKey Nat).get? key = some g →
      (Dict.empty : Dict GateKey Nat).get? key' = some g → key = key' :=
    fun _ _ _ => nofun
  have hdefault := NumberBook.eq_of_get?_set (k := GateKey.default) (n := 0)
    hempty fun _ => nofun
  exact (((NumberBook.apart_ofDict_empty.ofDict_set hempty).ofDict_set
    hempty).ofDict_set hdefault).ofDict_set hdefault

end Calls

end Sff

/-! ## The classifier -/

namespace Classifier

/-- A gate is assigned or released, or a module is begun or removed. -/
inductive GateCall where
  | assignWM2OGate (sfcUUID : UUID)
  | assignHashLBOGatesList (sfc : SFC) (sfciID : Nat) (direction : Direction)
  | delModuleOGate (name : Name) (key : GateKey)
  | addModule (name : Name)
  | delModule (name : Name)
  deriving DecidableEq, Repr

namespace GateCall

/-- What the call does, and the gate that it answers: the new gate is the last in
the list for a load balancer. -/
def run (β : Type) : GateCall → PyM (Side β) (Option Nat)
  | .assignWM2OGate sfcUUID => do
      let oGateNum ← Classifier.assignWM2OGate sfcUUID
      return some oGateNum
  | .assignHashLBOGatesList sfc sfciID direction => do
      let gateNumList ← Classifier.assignHashLBOGatesList sfc sfciID direction
      return gateNumList.getLast?
  | .delModuleOGate name key => do
      Classifier.delModuleOGate name key
      return none
  | .addModule name => do
      modifyCibm (Cibm.addModule name)
      return none
  | .delModule name => do
      modifyCibm (Cibm.delModule name)
      return none

def asked : GateCall → Option (Name × GateKey)
  | .assignWM2OGate sfcUUID => some (.base .wm2, .sfc sfcUUID)
  | .assignHashLBOGatesList sfc sfciID direction =>
      some (.hashLB sfc.sfcUUID direction.ID, .sfci sfciID)
  | .delModuleOGate _ _ => none
  | .addModule _ => none
  | .delModule _ => none

def released : GateCall → Name → GateKey → Prop
  | .assignWM2OGate _, _, _ => False
  | .assignHashLBOGatesList _ _ _, _, _ => False
  | .delModuleOGate name key, name', key' => name' = name ∧ key' = key
  | .addModule name, name', _ => name' = name
  | .delModule name, name', _ => name' = name

end GateCall

def gateKeeper (β : Type) : Keeper (Side β) GateCall Name GateKey where
  book := fun side => NumberBook.ofDict side.cibm.modules
  call := GateCall.run β
  released := GateCall.released
  asked := GateCall.asked

/-- The key whose gate is asked for is not live. -/
def AsksNew {β : Type} (side : Side β) (call : GateCall) : Prop :=
  ∀ name key, call.asked = some (name, key) →
    (gateKeeper β).book side name key = none

section Calls

variable {β : Type} {side : Side β} {name : Name} {key : GateKey}
  {ogates : Dict GateKey Nat}

theorem run_ogatesOf (h : side.cibm.modules.get? name = some ogates) :
    (ogatesOf name).run side = .ok ogates side := by
  rw [ogatesOf, PyM.run_bind_get, h]
  rfl

theorem run_ogatesOf_none (h : side.cibm.modules.get? name = none) :
    (ogatesOf name).run side = .error .keyError side := by
  rw [ogatesOf, PyM.run_bind_get, h]
  rfl

/-- A call that gives the key the least unused number, whether or not the key is
live. -/
theorem good_assign_iff {call : GateCall}
    (hcall : call.run β = (do
      let ogates ← ogatesOf name
      addOGate2Module name key (Sff.genAvailableMiniNum4List ogates.values)
      return some (Sff.genAvailableMiniNum4List ogates.values)))
    (hasked : call.asked = some (name, key))
    (hreleased : ∀ name key, ¬ call.released name key)
    (hside : ((gateKeeper β).book side).Apart) :
    (gateKeeper β).Good side call ↔ AsksNew side call := by
  have hrun : ((gateKeeper β).call call).run side = (call.run β).run side := rfl
  have hnew : AsksNew side call ↔ (gateKeeper β).book side name key = none := by
    constructor
    · exact fun h => h name key hasked
    · intro h name' key' hasked'
      rw [hasked] at hasked'
      cases hasked'
      exact h
  rw [hcall] at hrun
  rw [hnew]
  cases hname : side.cibm.modules.get? name with
  | none =>
      apply iff_of_true
      · apply Keeper.good_of_error (e := .keyError) hside
        rw [hrun, PyM.run_bind_error (run_ogatesOf_none hname)]
      · show NumberBook.ofDict side.cibm.modules name key = none
        rw [NumberBook.ofDict, hname]
        rfl
  | some ogates =>
      rw [PyM.run_bind_ok (run_ogatesOf hname), addOGate2Module, bind_assoc,
        PyM.run_bind_ok (run_ogatesOf hname)] at hrun
      exact Keeper.good_iff_of_put hside hrun hasked
        (NumberBook.ofDict_set_set hname)
        (leastUnused_genAvailableMiniNum4List hname) (hreleased _ _)

theorem good_of_delModuleOGate (hside : ((gateKeeper β).book side).Apart) :
    (gateKeeper β).Good side (.delModuleOGate name key) := by
  have hrun : ((gateKeeper β).call (.delModuleOGate name key)).run side =
      (delModuleOGate name key >>= fun _ => pure none).run side := rfl
  rw [delModuleOGate, bind_assoc] at hrun
  cases hname : side.cibm.modules.get? name with
  | none =>
      apply Keeper.good_of_error (e := .keyError) hside
      rw [hrun, PyM.run_bind_error (run_ogatesOf_none hname)]
  | some ogates =>
      rw [PyM.run_bind_ok (run_ogatesOf hname)] at hrun
      cases hkey : ogates.contains key with
      | false =>
          apply Keeper.good_of_error (e := .keyError) hside
          rw [hrun, hkey]
          rfl
      | true =>
          rw [hkey] at hrun
          apply Keeper.good_of_none hrun
          exact .set_erase hside hname ⟨rfl, rfl⟩

theorem good_gateCall_iff (hside : ((gateKeeper β).book side).Apart)
    (call : GateCall) : (gateKeeper β).Good side call ↔ AsksNew side call := by
  cases call with
  | assignWM2OGate sfcUUID =>
      refine good_assign_iff ?_ rfl (fun _ _ h => h) hside
      rw [GateCall.run, assignWM2OGate]
      simp only [bind_assoc, pure_bind]
  | assignHashLBOGatesList sfc sfciID direction =>
      refine good_assign_iff ?_ rfl (fun _ _ h => h) hside
      rw [GateCall.run, assignHashLBOGatesList]
      simp only [bind_assoc, pure_bind, List.getLast?_concat]
  | delModuleOGate name key =>
      exact iff_of_true (good_of_delModuleOGate hside) nofun
  | addModule name =>
      refine iff_of_true (Keeper.good_of_none rfl ?_) nofun
      exact .set_empty hside fun _ => rfl
  | delModule name =>
      refine iff_of_true (Keeper.good_of_none rfl ?_) nofun
      exact .erase hside fun _ => rfl

theorem apart_baseGates :
    (NumberBook.ofDict (Dict.empty.set (Name.base .wm2) baseGates)).Apart := by
  apply NumberBook.apart_ofDict_empty.ofDict_set
  apply NumberBook.eq_of_get?_set
  · exact NumberBook.eq_of_get?_set (fun _ _ _ => nofun) fun _ => nofun
  · intro key hkey
    rw [Dict.get?_set] at hkey
    split at hkey
    · cases hkey
    · cases hkey

end Calls

/-! ## Runs -/

section Runs

def sffGates (β : Type) : Machine (Sff.Side β) Sff.GateCall :=
  (Sff.gateKeeper β).machine fun side => side.sibm = Sff.initialSibm

def classifierGates (β : Type) : Machine (Side β) GateCall :=
  (gateKeeper β).machine fun side =>
    side.cibm = ⟨Dict.empty.set (.base .wm2) baseGates, Dict.empty⟩

/-- Gates are numbered well in every run at an SFF, and at a classifier exactly in
the runs that assign no gate to a live key. -/
theorem gates_kept_iff {β : Type} :
    (∀ {run side}, (sffGates β).Run run side →
      (Sff.gateKeeper β).Kept run side) ∧
    ∀ {run side}, (classifierGates β).Run run side →
      ((gateKeeper β).Kept run side ↔ ∀ e ∈ run, AsksNew e.1 e.2) := by
  constructor
  · intro run side hrun
    refine ((Sff.gateKeeper β).kept_iff_meet (C := fun _ _ => True) ?_ ?_
      hrun).mpr fun _ _ => trivial
    · intro side hside
      show (NumberBook.ofDict side.sibm.ogates).Apart
      rw [hside]
      exact Sff.apart_initialSibm
    · intro side call hapart
      exact iff_true_intro (Sff.good_of_gateCall hapart call)
  · intro run side hrun
    refine (gateKeeper β).kept_iff_meet ?_ ?_ hrun
    · intro side hside
      show (NumberBook.ofDict side.cibm.modules).Apart
      rw [hside]
      exact apart_baseGates
    · intro side call hapart
      exact good_gateCall_iff hapart call

def newSide : Side Unit :=
  ⟨⟨Dict.empty.set (.base .wm2) baseGates, Dict.empty⟩, ()⟩

def sffCalls : List Sff.GateCall :=
  [.assignSFFWM2OGate ⟨0, 1⟩ 0, .delModuleOGate .wm2 (.vnfi ⟨0, 1⟩ 0)]

def classifierCalls : List GateCall :=
  [.assignWM2OGate ⟨0, 1⟩, .delModuleOGate (.base .wm2) (.sfc ⟨0, 1⟩)]

theorem gates_kept_released :
    (Sff.gateKeeper Unit).Kept
        ((sffGates Unit).trace ⟨Sff.initialSibm, ()⟩ sffCalls)
        (sffCalls.foldl (sffGates Unit).step ⟨Sff.initialSibm, ()⟩) ∧
      (gateKeeper Unit).Kept
        ((classifierGates Unit).trace newSide classifierCalls)
        (classifierCalls.foldl (classifierGates Unit).step newSide) := by
  have hsff : (sffGates Unit).Run [] ⟨Sff.initialSibm, ()⟩ := .start rfl
  have hclassifier : (classifierGates Unit).Run [] newSide := .start rfl
  constructor
  · have harrive : (sffGates Unit).Arrive ⟨Sff.initialSibm, ()⟩ sffCalls :=
      ⟨trivial, trivial, trivial⟩
    exact gates_kept_iff.1 (hsff.arrive harrive)
  · have harrive : (classifierGates Unit).Arrive newSide classifierCalls :=
      ⟨trivial, trivial, trivial⟩
    refine (gates_kept_iff.2 (hclassifier.arrive harrive)).mpr ?_
    intro e he
    rw [List.nil_append] at he
    obtain rfl | he := List.mem_cons.mp he
    · rintro _ _ ⟨⟩
      rfl
    · rw [List.mem_singleton.mp he]
      exact nofun

/-- The second direction of an SFC at a classifier: the SFC has the gate 2 and
gets the gate 3. -/
theorem not_gates_kept : ¬ ∀ run side, (classifierGates Unit).Run run side →
    (gateKeeper Unit).Kept run side := by
  intro h
  have hstart : (classifierGates Unit).Run [] newSide := .start rfl
  have hkept := h _ _ ((hstart.step (i := .assignWM2OGate ⟨0, 1⟩) trivial).step
    (i := .assignWM2OGate ⟨0, 1⟩) trivial)
  obtain ⟨-, hgood⟩ := hkept.good _ (List.mem_append_right _ List.mem_cons_self)
  have hgate := hgood.fair.kept (.base .wm2) (.sfc ⟨0, 1⟩) 2 rfl id
  have hnew : (gateKeeper Unit).book (((gateKeeper Unit).call
      (.assignWM2OGate ⟨0, 1⟩)).finalState ((classifierGates Unit).step newSide
        (.assignWM2OGate ⟨0, 1⟩))) (.base .wm2) (.sfc ⟨0, 1⟩) = some 3 := rfl
  rw [hnew] at hgate
  cases hgate

end Runs

end Classifier

end SelfAdaptiveMano
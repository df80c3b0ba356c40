import SelfAdaptiveMano.Sff.Deletion
import SelfAdaptiveMano.Sff.Initialisation

/-!
# The servers and the uses of the installed SFCIs

The loops of `addSFCIHandler` and `delSFCIHandler` add and delete the uses of an
SFCI one by one, each on its server. Where the VNFIs that other SFCIs use are used
by them in all directions of the SFC, all servers stay in order.
-/

namespace SelfAdaptiveMano.Sff

open Library

structure InstalledSFCI where
  directions : List Nat
  sfci : SFCI
  deriving DecidableEq

namespace InstalledSFCI

def useOf? (i : InstalledSFCI) (vnfiIdx : Nat) (vnfi : VNFI) : Option Use :=
  match vnfi.node with
  | .server server => some ⟨i.sfci, i.directions, vnfiIdx, vnfi, server⟩
  | .switch => none

def uses (i : InstalledSFCI) : List Use :=
  i.sfci.vnfiSequence.zipIdx.flatMap fun (vnf, vnfiIdx) =>
    vnf.filterMap (i.useOf? vnfiIdx)

end InstalledSFCI

def usesOn (serverID : Nat) (us : List Use) : List Use :=
  us.filter fun u => u.server.serverID == serverID

/-- The VNFIs of `new` that the uses `us` have on the same server are used there
in all directions. -/
def Covered (us new : List Use) : Prop :=
  ∀ u ∈ new, Present (usesOn u.server.serverID us) u.vnfi.vnfiID →
    ∀ d ∈ u.directions, Used (usesOn u.server.serverID us) u.vnfi.vnfiID d

section Uses

variable {serverID : Nat} {us us' : List Use} {u : Use} {i : InstalledSFCI}

theorem usesOn_cons_self :
    usesOn u.server.serverID (u :: us) = u :: usesOn u.server.serverID us := by
  rw [usesOn, List.filter_cons_of_pos (by simp)]
  rfl

theorem usesOn_cons_of_ne (h : serverID ≠ u.server.serverID) :
    usesOn serverID (u :: us) = usesOn serverID us := by
  rw [usesOn, List.filter_cons_of_neg (by simpa using Ne.symm h)]
  rfl

theorem usesOn_perm (h : us.Perm us') :
    (usesOn serverID us).Perm (usesOn serverID us') := h.filter _

theorem usesOn_sublist (h : us.Sublist us') :
    (usesOn serverID us).Sublist (usesOn serverID us') := h.filter _

theorem InstalledSFCI.of_mem_uses (h : u ∈ i.uses) :
    u.sfci = i.sfci ∧ u.directions = i.directions ∧
      u.vnfi.node = .server u.server := by
  obtain ⟨⟨vnf, vnfiIdx⟩, -, hu⟩ := List.mem_flatMap.mp h
  obtain ⟨vnfi, -, huse⟩ := List.mem_filterMap.mp hu
  rw [useOf?] at huse
  split at huse
  · next server hnode =>
      obtain rfl := Option.some.inj huse
      exact ⟨rfl, rfl, hnode⟩
  · cases huse

theorem InstalledSFCI.forM_uses {σ : Type} {f : Nat → VNFI → PyM σ PUnit}
    (hswitch : ∀ vnfiIdx vnfi, vnfi.node = .switch →
      f vnfiIdx vnfi = pure ⟨⟩) (i : InstalledSFCI) :
    (i.sfci.vnfiSequence.zipIdx.forM fun (vnf, vnfiIdx) =>
      vnf.forM (f vnfiIdx)) = i.uses.forM fun u => f u.vnfiIdx u.vnfi := by
  rw [uses, ← PyM.forM_flatMap]
  refine PyM.forM_congr ?_
  rintro ⟨vnf, vnfiIdx⟩ -
  change vnf.forM (f vnfiIdx) =
    (vnf.filterMap (i.useOf? vnfiIdx)).forM fun u => f u.vnfiIdx u.vnfi
  induction vnf with
  | nil => rfl
  | cons vnfi vnf ih =>
      change (f vnfiIdx vnfi >>= fun _ => vnf.forM (f vnfiIdx)) = _
      rw [ih, List.filterMap_cons, useOf?]
      cases hnode : vnfi.node with
      | server server => rfl
      | switch =>
          rw [hswitch vnfiIdx vnfi hnode, pure_bind]

theorem Covered.cons {new : List Use} (h : Covered us new)
    (hdirections : ∀ u' ∈ new, u'.directions = u.directions) :
    Covered (u :: us) new := by
  intro u' hu' hpresent d hd
  by_cases hserver : u'.server.serverID = u.server.serverID
  · rw [hserver, usesOn_cons_self] at hpresent ⊢
    rw [used_cons]
    obtain hsame | hpresent := present_cons.mp hpresent
    · exact .inl ⟨hsame, hdirections u' hu' ▸ hd⟩
    · rw [← hserver] at hpresent ⊢
      exact .inr (h u' hu' hpresent d hd)
  · rw [usesOn_cons_of_ne hserver] at hpresent ⊢
    exact h u' hu' hpresent d hd

theorem Covered.append {new added : List Use} (h : Covered us new)
    (hdirections : ∀ u ∈ added, ∀ u' ∈ new, u'.directions = u.directions) :
    Covered (added ++ us) new := by
  induction added with
  | nil => exact h
  | cons u added ih =>
      have hrest := ih fun u hu => hdirections u (List.mem_cons_of_mem _ hu)
      exact hrest.cons (hdirections u List.mem_cons_self)

end Uses

/-! ## The servers -/

section Servers

variable {β : Type} (chainType : ChainType) (bess : Bess β)

/-- A server is in order, or it has not been set up and nothing is used on it. -/
def ServerOk (us : List Use) (sibm : Option Sibm) (b : β) : Prop :=
  match sibm with
  | none => us = []
  | some sibm => ∃ datapathNICIP,
      SideOk chainType bess {e | e ∈ baseObjects datapathNICIP} us ⟨sibm, b⟩

/-- All servers are in order for the uses `us`. -/
def ServersOk (us : List Use) (c : SffController β) : Prop :=
  ∀ serverID, ServerOk chainType bess (usesOn serverID us)
    (c.sibms.get? serverID) (c.bess serverID)

variable {chainType bess} {us us' new : List Use} {u : Use}
  {c : SffController β}

theorem ServersOk.perm (h : ServersOk chainType bess us c) (hperm : us.Perm us') :
    ServersOk chainType bess us' c := by
  intro serverID
  have hserver := h serverID
  cases hsibm : c.sibms.get? serverID with
  | none =>
      rw [hsibm] at hserver
      have hnil : usesOn serverID us = [] := hserver
      have hon : (usesOn serverID us).Perm (usesOn serverID us') :=
        usesOn_perm hperm
      rw [hnil] at hon
      exact hon.symm.eq_nil
  | some sibm =>
      rw [hsibm] at hserver
      obtain ⟨ip, hside⟩ := hserver
      exact ⟨ip, hside.perm (usesOn_perm hperm)⟩

theorem ServersOk.withSide (h : ServersOk chainType bess us c) {serverID : Nat}
    {side : Side β}
    (hside : ∃ datapathNICIP, SideOk chainType bess
      {e | e ∈ baseObjects datapathNICIP} (usesOn serverID us') side)
    (hother : ∀ serverID', serverID' ≠ serverID →
      usesOn serverID' us' = usesOn serverID' us) :
    ServersOk chainType bess us' (c.withSide serverID side) := by
  intro serverID'
  rw [SffController.withSide_sibms, SffController.withSide_bess]
  split
  · next heq =>
      rw [heq]
      exact hside
  · next hne =>
      rw [hother serverID' hne]
      exact h serverID'

variable (hbess : bess.Lawful)

include hbess

theorem run_forgetDead (serverID : Nat) :
    (forgetDead bess serverID).run c = .ok () c := by
  have hsame : (if bess.getVersion (c.bess serverID) then c
      else { c with sibms := c.sibms.erase serverID }) = c :=
    if_pos (hbess.answers _)
  rw [forgetDead]
  exact congrArg (EStateM.Result.ok ()) hsame

theorem run_ensureClassifier (server : Server)
    (h : ServersOk chainType bess us c) : ∃ c' sibm,
      (ensureClassifier bess server).run c = .ok () c' ∧
      c'.sibms.get? server.serverID = some sibm ∧
      ServersOk chainType bess us c' ∧ c'.sfciDict = c.sfciDict := by
  rw [ensureClassifier, PyM.run_bind_get, Dict.contains]
  cases hsibm : c.sibms.get? server.serverID with
  | some sibm => exact ⟨c, sibm, rfl, hsibm, h, rfl⟩
  | none =>
      obtain ⟨side, hrun, hside⟩ := run_initClassifier chainType hbess server c
      have hnil := h server.serverID
      rw [hsibm] at hnil
      refine ⟨c.withSide server.serverID side, side.sibm, hrun, ?_,
        h.withSide ⟨server.datapathNICIP, ?_⟩ fun _ _ => rfl, rfl⟩
      · rw [SffController.withSide_sibms, if_pos rfl]
      · rw [show usesOn server.serverID us = [] from hnil]
        exact hside

theorem run_addVNFI (hnode : u.vnfi.node = .server u.server)
    (hservers : ServersOk chainType bess us c)
    (huses : UsesOk chainType (usesOn u.server.serverID (u :: us)))
    (hcovered : Covered us [u])
    (hread : ¬ Present (usesOn u.server.serverID us) u.vnfi.vnfiID →
      ∀ d ∈ u.directions, ∃ arg,
        updateArg chainType u.server u.sfci u.vnfi u.vnfiIdx d = .ok arg) :
    ∃ c', (addVNFI chainType bess u.sfci u.directions u.vnfiIdx u.vnfi).run c =
        .ok () c' ∧
      ServersOk chainType bess (u :: us) c' ∧ c'.sfciDict = c.sfciDict := by
  obtain ⟨c₁, sibm, hrun₁, hsibm, hservers₁, hdict₁⟩ :=
    run_ensureClassifier hbess u.server hservers
  have hserver := hservers₁ u.server.serverID
  rw [hsibm] at hserver
  obtain ⟨ip, hside⟩ := hserver
  rw [usesOn_cons_self] at huses
  obtain ⟨side', hrun', hside'⟩ := run_addToSide hbess huses
    (hcovered u (List.mem_singleton.mpr rfl)) hread hside
  refine ⟨c₁.withSide u.server.serverID side', ?_,
    hservers₁.withSide ⟨ip, ?_⟩ fun _ => usesOn_cons_of_ne, hdict₁⟩
  · rw [addVNFI, hnode]
    refine (PyM.run_bind_ok (run_forgetDead hbess _) _).trans ?_
    rw [PyM.run_bind_ok hrun₁]
    exact run_onSide hsibm hrun'
  · rw [usesOn_cons_self]
    exact hside'

theorem run_delVNFI (hnode : u.vnfi.node = .server u.server)
    (hservers : ServersOk chainType bess (u :: us) c)
    (huses : UsesOk chainType (usesOn u.server.serverID (u :: us)))
    (hcovered : Covered us [u]) :
    ∃ c', (delVNFI chainType bess u.sfci u.directions u.vnfiIdx u.vnfi).run c =
        .ok () c' ∧
      ServersOk chainType bess us c' ∧ c'.sfciDict = c.sfciDict := by
  have hserver := hservers u.server.serverID
  rw [usesOn_cons_self] at hserver huses
  cases hsibm : c.sibms.get? u.server.serverID with
  | none =>
      rw [hsibm] at hserver
      cases hserver
  | some sibm =>
      rw [hsibm] at hserver
      obtain ⟨ip, hside⟩ := hserver
      obtain ⟨side', hrun', hside'⟩ := run_delFromSide hbess huses
        (hcovered u (List.mem_singleton.mpr rfl)) hside
      refine ⟨c.withSide u.server.serverID side', ?_,
        hservers.withSide ⟨ip, hside'⟩ fun _ hne => (usesOn_cons_of_ne hne).symm,
        rfl⟩
      rw [delVNFI, hnode]
      refine (PyM.run_bind_ok (run_forgetDead hbess _) _).trans ?_
      rw [PyM.run_bind_get, Dict.contains, hsibm]
      exact run_onSide hsibm hrun'

theorem run_addUses {sfci : SFCI} {directions : List Nat}
    (hnew : ∀ u ∈ new, u.sfci = sfci ∧ u.directions = directions ∧
      u.vnfi.node = .server u.server)
    (hservers : ServersOk chainType bess us c)
    (huses : ∀ serverID, UsesOk chainType (usesOn serverID (new ++ us)))
    (hcovered : Covered us new)
    (hread : ∀ u ∈ new, ¬ Present (usesOn u.server.serverID us) u.vnfi.vnfiID →
      ∀ d ∈ u.directions, ∃ arg,
        updateArg chainType u.server u.sfci u.vnfi u.vnfiIdx d = .ok arg) :
    ∃ c', (new.forM fun u => addVNFI chainType bess sfci directions u.vnfiIdx
        u.vnfi).run c = .ok ⟨⟩ c' ∧
      ServersOk chainType bess (new ++ us) c' ∧ c'.sfciDict = c.sfciDict := by
  induction new generalizing us c with
  | nil => exact ⟨c, rfl, hservers, rfl⟩
  | cons u new ih =>
      obtain ⟨rfl, rfl, hnode⟩ := hnew u List.mem_cons_self
      have hfirst : (u :: us).Sublist (u :: (new ++ us)) :=
        (List.sublist_append_right new us).cons_cons u
      obtain ⟨c₁, hrun₁, hservers₁, hdict₁⟩ := run_addVNFI hbess hnode hservers
        ((huses _).of_sublist (usesOn_sublist hfirst))
        (fun u' hu' => hcovered u' (List.mem_singleton.mp hu' ▸ List.mem_cons_self))
        (hread u List.mem_cons_self)
      obtain ⟨c', hrun', hservers', hdict'⟩ := ih
        (fun u' hu' => hnew u' (List.mem_cons_of_mem u hu')) hservers₁
        (fun s => (huses s).perm (usesOn_perm List.perm_middle.symm))
        (Covered.cons (fun u' hu' => hcovered u' (List.mem_cons_of_mem u hu'))
          fun u' hu' => (hnew u' (List.mem_cons_of_mem u hu')).2.1)
        (fun u' hu' hnot => hread u' (List.mem_cons_of_mem u hu') fun hpresent =>
          hnot (hpresent.mono (usesOn_sublist (List.sublist_cons_self u us)).subset))
      refine ⟨c', (PyM.run_bind_ok hrun₁ _).trans hrun',
        hservers'.perm List.perm_middle, hdict'.trans hdict₁⟩

theorem run_delUses {sfci : SFCI} {directions : List Nat}
    (hnew : ∀ u ∈ new, u.sfci = sfci ∧ u.directions = directions ∧
      u.vnfi.node = .server u.server)
    (hservers : ServersOk chainType bess (new ++ us) c)
    (huses : ∀ serverID, UsesOk chainType (usesOn serverID (new ++ us)))
    (hcovered : Covered us new) :
    ∃ c', (new.forM fun u => delVNFI chainType bess sfci directions u.vnfiIdx
        u.vnfi).run c = .ok ⟨⟩ c' ∧
      ServersOk chainType bess us c' ∧ c'.sfciDict = c.sfciDict := by
  induction new generalizing c with
  | nil => exact ⟨c, rfl, hservers, rfl⟩
  | cons u new ih =>
      obtain ⟨rfl, rfl, hnode⟩ := hnew u List.mem_cons_self
      have hself : Covered us [u] := fun u' hu' =>
        hcovered u' (List.mem_singleton.mp hu' ▸ List.mem_cons_self)
      have hrest : Covered (new ++ us) [u] := hself.append fun u' hu' u'' hu'' => by
        rw [List.mem_singleton.mp hu'']
        exact (hnew u' (List.mem_cons_of_mem u hu')).2.1.symm
      obtain ⟨c₁, hrun₁, hservers₁, hdict₁⟩ :=
        run_delVNFI hbess hnode hservers (huses _) hrest
      obtain ⟨c', hrun', hservers', hdict'⟩ := ih
        (fun u' hu' => hnew u' (List.mem_cons_of_mem u hu')) hservers₁
        (fun s => (huses s).of_sublist (usesOn_sublist (List.sublist_cons_self ..)))
        (fun u' hu' => hcovered u' (List.mem_cons_of_mem u hu'))
      exact ⟨c', (PyM.run_bind_ok hrun₁ _).trans hrun', hservers',
        hdict'.trans hdict₁⟩

end Servers

end SelfAdaptiveMano.Sff

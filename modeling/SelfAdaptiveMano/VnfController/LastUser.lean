import SelfAdaptiveMano.VnfController.Sharing

/-!
# The last SFCI that uses a VNFI

The record of a VNFI is kept under the SFCI that came first, and deleting that
SFCI gives everything back without a look at the others. In a run in which an
SFCI is deleted only when no other one uses a VNFI that is recorded under it,
each VNFI that is used holds its resources, and they are free again when its
last SFCI is deleted (`used_held_unused_released`).
-/

namespace SelfAdaptiveMano

open Library

namespace VNFController

variable {docker : Docker} {sfciID : Nat} {c : VNFController}

def UsedBy (c : VNFController) (sfciID : Nat) (vnfiID : UUID) : Prop :=
  ∃ sfci ∈ c.sfciDict.get? sfciID, ∃ v ∈ sfci.serverVNFIs,
    v.vnfi.vnfiID = vnfiID

/-- The container of the VNFI runs, and its CPUs, virtio ids and port are held. -/
def Holds (c : VNFController) (status : VNFIDeployStatus) : Prop :=
  status.deployment.isSome ∧ ∀ r, status.Owns r → ¬ c.Free r

def Released (c : VNFController) (status : VNFIDeployStatus) : Prop :=
  ∀ r, status.Owns r → c.Free r

def Recorded (c : VNFController) (sfciID : Nat) : Prop :=
  ∀ vnfiID, c.UsedBy sfciID vnfiID → c.hasVNFI vnfiID = true

/-! ## Adding an SFCI -/

/-- The VNFIs that are not recorded can be provided for, each in the state in
which its turn comes. -/
def AllProvidable (docker : Docker) (sfciID : Nat) :
    List ServerVNFI → VNFController → Prop
  | [], _ => True
  | v :: vs, c =>
      (c.hasVNFI v.vnfi.vnfiID = true ∨ Providable docker v c) ∧
        AllProvidable docker sfciID vs (addServerVNFI docker sfciID v c).2

theorem hasVNFI_deploy {v : ServerVNFI} {d : Deployment}
    {rest : List (List Nat)} (hsfci : c.hasSFCI sfciID = true) (vnfiID : UUID) :
    (c.deploy sfciID v d rest).hasVNFI vnfiID = true ↔
      c.hasVNFI vnfiID = true ∨ vnfiID = v.vnfi.vnfiID := by
  simp only [hasVNFI_iff, getStatus_deploy hsfci]
  constructor
  · rintro ⟨k, status, hstatus⟩
    split_ifs at hstatus with hk
    · exact .inr hk.2
    · exact .inl ⟨k, status, hstatus⟩
  · rintro (⟨k, status, hstatus⟩ | rfl)
    · by_cases hk : k = sfciID ∧ vnfiID = v.vnfi.vnfiID
      · exact ⟨k, newStatus v d, if_pos hk⟩
      · exact ⟨k, status, (if_neg hk).trans hstatus⟩
    · exact ⟨sfciID, newStatus v d, if_pos ⟨rfl, rfl⟩⟩

theorem sound_addServerVNFI {sfci : SFCI} {v : ServerVNFI}
    {vs : List ServerVNFI} (hc : c.Sound)
    (hsfci : c.sfciDict.get? sfciID = some sfci) (hv : v ∈ sfci.serverVNFIs)
    (hnodup : v.server.coreNUMADistribution.flatten.Nodup)
    (hports : PortsFree docker (v :: vs) c)
    (hprovidable : c.hasVNFI v.vnfi.vnfiID = true ∨ Providable docker v c) :
    let c' := (addServerVNFI docker sfciID v c).2
    c'.Sound ∧ c'.sfciDict = c.sfciDict ∧ PortsFree docker vs c' ∧
      ∀ vnfiID, c'.hasVNFI vnfiID = true ↔
        c.hasVNFI vnfiID = true ∨ vnfiID = v.vnfi.vnfiID := by
  have hrest : PortsFree docker vs c :=
    ⟨fun w hw => hports.running w (List.mem_cons_of_mem v hw),
      fun w hw w' hw' => hports.apart w (List.mem_cons_of_mem v hw) w'
        (List.mem_cons_of_mem v hw')⟩
  have hregistered : c.hasSFCI sfciID = true := by
    rw [hc.registered, hsfci]
    rfl
  have houtcome := addServerVNFI_outcome docker sfciID v c
  generalize addServerVNFI docker sfciID v c = turn at houtcome ⊢
  cases houtcome with
  | shared hrecorded =>
      refine ⟨hc, rfl, hrest, fun vnfiID => ⟨.inl, ?_⟩⟩
      rintro (h | rfl)
      · exact h
      · exact hrecorded
  | deployed hnew hcreatable d rest htaken =>
      have hprovidable' := hprovidable.resolve_left (by simp [hnew])
      have hport := hports.running v List.mem_cons_self hnew _ htaken.port
      have hhas := @hasVNFI_deploy sfciID c v d rest hregistered
      refine ⟨hc.deploy ⟨sfci, hsfci, hv⟩ hnew hnodup hprovidable' htaken hport,
        rfl, ⟨fun w hw hneww port hw' container hmem hserver => ?_, hrest.apart⟩,
        hhas⟩
      have hneww' : c.hasVNFI w.vnfi.vnfiID = false ∧
          v.vnfi.vnfiID ≠ w.vnfi.vnfiID := by
        rw [Bool.eq_false_iff, ne_eq, hhas, not_or] at hneww
        exact ⟨Bool.eq_false_iff.mpr hneww.1, Ne.symm hneww.2⟩
      obtain hmem | hmem := List.mem_append.mp hmem
      · exact hrest.running w hw hneww'.1 port hw' container hmem hserver
      · obtain rfl := List.mem_singleton.mp hmem
        intro heq
        obtain rfl := Option.some.inj heq
        exact hports.apart v List.mem_cons_self w (List.mem_cons_of_mem v hw)
          hneww'.2 hserver _ htaken.port hw'
  | failed hnew hnot e c₁ hrecords =>
      exact absurd (hprovidable.resolve_left (by simp [hnew])).creatable hnot

theorem sound_addServerVNFIs {sfci : SFCI} {vs : List ServerVNFI} (hc : c.Sound)
    (hsfci : c.sfciDict.get? sfciID = some sfci)
    (hvs : ∀ v ∈ vs, v ∈ sfci.serverVNFIs)
    (hnodup : ∀ v ∈ vs, v.server.coreNUMADistribution.flatten.Nodup)
    (hports : PortsFree docker vs c)
    (hprovidable : AllProvidable docker sfciID vs c) :
    let c' := (addServerVNFIs docker sfciID vs c).2
    c'.Sound ∧ c'.sfciDict = c.sfciDict ∧
      (∀ vnfiID, c.hasVNFI vnfiID = true → c'.hasVNFI vnfiID = true) ∧
      ∀ v ∈ vs, c'.hasVNFI v.vnfi.vnfiID = true := by
  induction vs generalizing c with
  | nil => exact ⟨hc, rfl, fun _ => id, by simp⟩
  | cons v vs ih =>
      obtain ⟨hc₁, hdict, hports₁, hhas⟩ := sound_addServerVNFI hc hsfci
        (hvs v List.mem_cons_self) (hnodup v List.mem_cons_self) hports
        hprovidable.1
      obtain ⟨hc', hdict', hkept, hown⟩ := ih hc₁ (by rw [hdict, hsfci])
        (fun w hw => hvs w (List.mem_cons_of_mem v hw))
        (fun w hw => hnodup w (List.mem_cons_of_mem v hw)) hports₁
        hprovidable.2
      refine ⟨hc', hdict'.trans hdict, fun vnfiID h =>
        hkept vnfiID ((hhas vnfiID).mpr (.inl h)), fun w hw => ?_⟩
      obtain rfl | hw := List.mem_cons.mp hw
      · exact hkept _ ((hhas _).mpr (.inr rfl))
      · exact hown w hw

/-! ## Deleting an SFCI -/

/-- What the records hold can be given back, each in the state in which its turn
comes. -/
def AllReturnable (docker : Docker) (sfciID : Nat) :
    List (UUID × VNFIDeployStatus) → VNFController → Prop
  | [], _ => True
  | record :: records, c =>
      Returnable docker record.2 c ∧ AllReturnable docker sfciID records
        (deleteServerVNFI docker sfciID record c).2

theorem sound_deleteServerVNFIs {records : List (UUID × VNFIDeployStatus)}
    (hc : c.Sound)
    (hrecords : ∀ record ∈ records,
      c.getVNFIDeployStatus sfciID record.1 = some record.2)
    (hnodup : (records.map Prod.fst).Nodup)
    (hreturnable : AllReturnable docker sfciID records c) :
    let (success, c') := deleteServerVNFIs docker sfciID records c
    success = true ∧ c'.Sound ∧ c'.sfciDict = c.sfciDict ∧
      (∀ k id, (k ≠ sfciID ∨ id ∉ records.map Prod.fst) →
        c'.getVNFIDeployStatus k id = c.getVNFIDeployStatus k id) ∧
      (∀ r, c.Free r → c'.Free r) ∧
      ∀ record ∈ records, c'.Released record.2 := by
  induction records generalizing c with
  | nil => exact ⟨rfl, hc, rfl, fun _ _ _ => rfl, fun _ => id, by simp⟩
  | cons record records ih =>
      obtain ⟨vnfiID, status⟩ := record
      have hstatus := hrecords _ List.mem_cons_self
      obtain ⟨hnew, hnodup⟩ := List.nodup_cons.mp hnodup
      obtain ⟨hthis, hlater⟩ := hreturnable
      dsimp only at hstatus hthis hnew
      obtain ⟨-, d, hd, -⟩ := hc.deployed sfciID vnfiID status hstatus
      have hturn := @deleteServerVNFI_eq docker sfciID c vnfiID status d hc
        hstatus hd
      have hfree := free_undeploy hc hstatus hd hthis
      rw [hturn] at hlater
      have hget : ∀ k id, ¬ (k = sfciID ∧ id = vnfiID) →
          (c.undeploy docker sfciID vnfiID status.vnfi d).getVNFIDeployStatus k
            id = c.getVNFIDeployStatus k id := by
        intro k id hne
        rw [getStatus_undeploy, if_neg hne]
      have hrest := @ih (c.undeploy docker sfciID vnfiID status.vnfi d)
        (hc.undeploy hstatus hd hthis) (fun record hrecord => ?_) hnodup hlater
      · obtain ⟨hsuccess, hc', hdict, hsame, hmono, hreleased⟩ := hrest
        simp only [deleteServerVNFIs, hturn, hsuccess, Bool.and_self, true_and]
        refine ⟨hc', hdict, fun k id hne => ?_, fun r hr =>
          hmono r ((hfree r).mpr (.inl hr)), fun record hrecord => ?_⟩
        · rw [hsame k id, hget k id]
          · rintro ⟨rfl, rfl⟩
            simp at hne
          · refine hne.imp_right fun hnot hmem => hnot ?_
            exact List.mem_cons_of_mem vnfiID hmem
        · obtain rfl | hrecord := List.mem_cons.mp hrecord
          · exact fun r hr => hmono r ((hfree r).mpr (.inr hr))
          · exact hreleased record hrecord
      · rw [hget]
        · exact hrecords record (List.mem_cons_of_mem _ hrecord)
        · rintro ⟨-, heq⟩
          exact hnew (heq ▸ List.mem_map_of_mem hrecord)

/-! ## Runs -/

/-- A command that is handled as it should be. An SFCI that is added is one that
can be provided for; one that is deleted has no record of a VNFI that another
one uses, and what its records hold can be given back. -/
def Careful (c : VNFController) : Input → Prop
  | .addSFCI docker sfci => c.hasSFCI sfci.sfciID = true ∨
      AllProvidable docker sfci.sfciID sfci.serverVNFIs (c.addSFCI sfci)
  | .delSFCI docker sfciID => ∀ sfciState ∈ c.vnfiSet.get? sfciID,
      (∀ vnfiID, sfciState.contains vnfiID = true →
        ∀ k, k ≠ sfciID → ¬ c.UsedBy k vnfiID) ∧
      AllReturnable docker sfciID sfciState.items c

def carefulMachine : Machine VNFController Input where
  init := machine.init
  admits c i := machine.admits c i ∧ c.Careful i
  step := machine.step

theorem sound_addSFCI {sfci : SFCI} (hc : c.Sound)
    (h : c.hasSFCI sfci.sfciID = false) : (c.addSFCI sfci).Sound := by
  have hsame := @getStatus_addSFCI c sfci h
  refine ⟨fun k => ?_, fun k id status hstatus => ?_, ?_, ?_, ?_, ?_, hc.cores,
    hc.vios, hc.socketPorts, hc.containers⟩
  · have hreg := hc.registered k
    simp only [hasSFCI, addSFCI, Dict.contains, Dict.get?_set] at hreg ⊢
    split_ifs <;> simp_all
  · rw [hsame] at hstatus
    obtain ⟨hid, hused⟩ := hc.used k id status hstatus
    refine ⟨hid, ?_⟩
    have hne : k ≠ sfci.sfciID := by
      rintro rfl
      rw [getVNFIDeployStatus] at hstatus
      have hnone : c.vnfiSet.get? sfci.sfciID = none := by
        simpa [hasSFCI, Dict.contains] using h
      simp [hnone] at hstatus
    simpa [addSFCI, Dict.get?_set, hne] using hused
  · intro k id status hstatus
    rw [hsame] at hstatus
    obtain ⟨herror, d, hd, hwell⟩ := hc.deployed k id status hstatus
    obtain ⟨⟨h₁, h₂, h₃⟩, h₄, h₅, h₆⟩ := hwell
    exact ⟨herror, d, hd, ⟨h₁, h₂, h₃⟩, h₄, h₅, h₆⟩
  · intro k id status hstatus r howns hfree
    rw [hsame] at hstatus
    refine hc.held k id status hstatus r howns ?_
    cases r <;> exact hfree
  · intro k id status k' id' status' hstatus hstatus'
    rw [hsame] at hstatus hstatus'
    exact hc.apart k id status k' id' status' hstatus hstatus'
  · intro k id status k' status' hstatus hstatus'
    rw [hsame] at hstatus hstatus'
    exact hc.unique k id status k' status' hstatus hstatus'

theorem getStatus_deleteSFCI (c : VNFController) (sfciID k : Nat)
    (vnfiID : UUID) :
    (c.deleteSFCI sfciID).getVNFIDeployStatus k vnfiID =
      if k = sfciID then none else c.getVNFIDeployStatus k vnfiID := by
  rw [getVNFIDeployStatus, getVNFIDeployStatus, deleteSFCI, Dict.get?_erase]
  split_ifs <;> rfl

theorem sound_deleteSFCI (hc : c.Sound) (sfciID : Nat) :
    (c.deleteSFCI sfciID).Sound := by
  have hcases : ∀ {k id status},
      (c.deleteSFCI sfciID).getVNFIDeployStatus k id = some status →
        k ≠ sfciID ∧ c.getVNFIDeployStatus k id = some status := by
    intro k id status hstatus
    rw [getStatus_deleteSFCI] at hstatus
    split_ifs at hstatus with hk
    exact ⟨hk, hstatus⟩
  refine ⟨fun k => ?_, fun k id status hstatus => ?_, ?_, ?_, ?_, ?_, hc.cores,
    hc.vios, hc.socketPorts, hc.containers⟩
  · have hreg := hc.registered k
    simp only [hasSFCI, deleteSFCI, Dict.contains, Dict.get?_erase] at hreg ⊢
    split_ifs <;> simp_all
  · obtain ⟨hne, hold⟩ := hcases hstatus
    obtain ⟨hid, hused⟩ := hc.used k id status hold
    refine ⟨hid, ?_⟩
    simpa [deleteSFCI, Dict.get?_erase, hne] using hused
  · intro k id status hstatus
    obtain ⟨herror, d, hd, hwell⟩ := hc.deployed k id status (hcases hstatus).2
    obtain ⟨⟨h₁, h₂, h₃⟩, h₄, h₅, h₆⟩ := hwell
    exact ⟨herror, d, hd, ⟨h₁, h₂, h₃⟩, h₄, h₅, h₆⟩
  · intro k id status hstatus r howns hfree
    refine hc.held k id status (hcases hstatus).2 r howns ?_
    cases r <;> exact hfree
  · intro k id status k' id' status' hstatus hstatus'
    exact hc.apart k id status k' id' status' (hcases hstatus).2
      (hcases hstatus').2
  · intro k id status k' status' hstatus hstatus'
    exact hc.unique k id status k' status' (hcases hstatus).2
      (hcases hstatus').2

theorem mem_items_of_getStatus {sfciState : Dict UUID VNFIDeployStatus}
    (h : c.vnfiSet.get? sfciID = some sfciState) {vnfiID : UUID}
    {status : VNFIDeployStatus} :
    c.getVNFIDeployStatus sfciID vnfiID = some status ↔
      (vnfiID, status) ∈ sfciState.items := by
  simp [getVNFIDeployStatus, h, Dict.mem_items_iff]

theorem careful_delete (hc : c.Sound)
    {sfciState : Dict UUID VNFIDeployStatus}
    (hstate : c.vnfiSet.get? sfciID = some sfciState)
    (hreturnable : AllReturnable docker sfciID sfciState.items c) :
    let c' := (handle c (.delSFCI docker sfciID)).2
    c'.Sound ∧ c'.sfciDict = c.sfciDict.erase sfciID ∧
      (∀ k id, c'.getVNFIDeployStatus k id =
        if k = sfciID then none else c.getVNFIDeployStatus k id) ∧
      ∀ vnfiID status, c.getVNFIDeployStatus sfciID vnfiID = some status →
        c'.Released status := by
  have hrecords : ∀ record ∈ sfciState.items,
      c.getVNFIDeployStatus sfciID record.1 = some record.2 :=
    fun record hrecord => (mem_items_of_getStatus hstate).mpr hrecord
  obtain ⟨hsuccess, hc', hdict, hsame, -, hreleased⟩ :=
    sound_deleteServerVNFIs hc hrecords sfciState.nodup_keys hreturnable
  generalize hloop : deleteServerVNFIs docker sfciID sfciState.items c = result
    at hsuccess hc' hdict hsame hreleased
  obtain ⟨success, c₁⟩ := result
  obtain rfl : success = true := hsuccess
  have hhandle : (handle c (.delSFCI docker sfciID)).2 =
      c₁.deleteSFCI sfciID := by
    simp [handle, sfciDeleteHandler, hstate, hloop]
  rw [hhandle]
  refine ⟨sound_deleteSFCI hc' sfciID, ?_, fun k id => ?_, ?_⟩
  · simp only at hdict
    rw [deleteSFCI, hdict]
  · rw [getStatus_deleteSFCI]
    split_ifs with hk
    · rfl
    · exact hsame k id (.inl hk)
  · intro vnfiID status hstatus r howns
    have hmem := (mem_items_of_getStatus hstate).mp hstatus
    have hfree := hreleased (vnfiID, status) hmem r howns
    cases r <;> exact hfree

theorem sound_handle {i : Input} (hc : c.Sound) (hrecorded : ∀ k, c.Recorded k)
    (hadmits : carefulMachine.admits c i) :
    (handle c i).2.Sound ∧ ∀ k, (handle c i).2.Recorded k := by
  obtain ⟨hpossible, hcareful⟩ := hadmits
  cases i with
  | addSFCI docker sfci =>
      simp only [handle, sfciAddHandler]
      split_ifs with hregistered
      · exact ⟨hc, hrecorded⟩
      · have hnew : c.hasSFCI sfci.sfciID = false :=
          Bool.eq_false_iff.mpr hregistered
        obtain ⟨hports, hnodup⟩ := hpossible
        have hsame := @getStatus_addSFCI c sfci hnew
        have hhas : ∀ vnfiID, (c.addSFCI sfci).hasVNFI vnfiID = true ↔
            c.hasVNFI vnfiID = true := by
          simp [hasVNFI_iff, hsame]
        have hports' : PortsFree docker sfci.serverVNFIs (c.addSFCI sfci) := by
          refine ⟨fun v hv hnewv => hports.running v hv ?_, hports.apart⟩
          rw [Bool.eq_false_iff, ne_eq, hhas] at hnewv
          exact Bool.eq_false_iff.mpr hnewv
        have hsfci : (c.addSFCI sfci).sfciDict.get? sfci.sfciID = some sfci :=
          Dict.get?_set_self ..
        obtain ⟨hc', hdict, hkept, hown⟩ := sound_addServerVNFIs
          (sound_addSFCI hc hnew) hsfci (fun _ => id) hnodup hports'
          (hcareful.resolve_left hregistered)
        refine ⟨hc', fun k vnfiID hused => ?_⟩
        obtain ⟨sfci', hget, v, hv, rfl⟩ := hused
        rw [Option.mem_def, hdict] at hget
        by_cases hk : k = sfci.sfciID
        · subst hk
          obtain rfl := Option.some.inj (hsfci.symm.trans hget)
          exact hown v hv
        · refine hkept _ ((hhas _).mpr (hrecorded k _ ⟨sfci', ?_, v, hv, rfl⟩))
          simpa [addSFCI, Dict.get?_set, hk] using hget
  | delSFCI docker sfciID =>
      cases hstate : c.vnfiSet.get? sfciID with
      | none =>
          simp only [handle, sfciDeleteHandler, hstate]
          exact ⟨hc, hrecorded⟩
      | some sfciState =>
          obtain ⟨hlast, hreturnable⟩ := hcareful sfciState hstate
          obtain ⟨hc', hdict, hsame, -⟩ := careful_delete hc hstate hreturnable
          refine ⟨hc', fun k vnfiID hused => ?_⟩
          obtain ⟨sfci, hget, v, hv, rfl⟩ := hused
          rw [Option.mem_def, hdict, Dict.get?_erase] at hget
          split_ifs at hget with hk
          have hused : c.UsedBy k v.vnfi.vnfiID := ⟨sfci, hget, v, hv, rfl⟩
          obtain ⟨k', status, hstatus⟩ := hasVNFI_iff.mp (hrecorded k _ hused)
          refine hasVNFI_iff.mpr ⟨k', status, ?_⟩
          rw [hsame, if_neg]
          · exact hstatus
          · rintro rfl
            refine hlast v.vnfi.vnfiID ?_ k (fun heq => hk heq) hused
            have hmem := (mem_items_of_getStatus hstate).mp hstatus
            rw [Dict.contains, Dict.mem_items_iff.mp hmem]
            rfl

/-- In every run in which each command is handled as it should be, the container
of a VNFI runs and what it took is held as long as a registered SFCI uses the
VNFI; and it is released when the last such SFCI is deleted. -/
theorem used_held_unused_released (h : carefulMachine.Reachable c) :
    (∀ sfciID vnfiID, c.UsedBy sfciID vnfiID → ∃ k status,
      c.getVNFIDeployStatus k vnfiID = some status ∧ c.Holds status) ∧
    ∀ docker sfciID, c.Careful (.delSFCI docker sfciID) → ∀ vnfiID,
      c.UsedBy sfciID vnfiID → (∀ k, k ≠ sfciID → ¬ c.UsedBy k vnfiID) →
        ∃ status, c.getVNFIDeployStatus sfciID vnfiID = some status ∧
          (handle c (.delSFCI docker sfciID)).2.Released status := by
  have hinv : c.Sound ∧ ∀ k, c.Recorded k := by
    refine Machine.Reachable.invariant (P := fun c : VNFController =>
      c.Sound ∧ ∀ k, c.Recorded k) ?_ ?_ h
    · rintro c rfl
      constructor
      · constructor <;>
          simp [fresh, hasSFCI, Dict.contains, getVNFIDeployStatus]
      · rintro k vnfiID ⟨sfci, hsfci, -⟩
        simp [fresh] at hsfci
    · rintro c i ⟨hc, hrecorded⟩ hadmits
      exact sound_handle hc hrecorded hadmits
  obtain ⟨hc, hrecorded⟩ := hinv
  constructor
  · intro sfciID vnfiID hused
    obtain ⟨k, status, hstatus⟩ := hasVNFI_iff.mp (hrecorded sfciID _ hused)
    obtain ⟨-, d, hd, -⟩ := hc.deployed k vnfiID status hstatus
    exact ⟨k, status, hstatus, by simp [hd], hc.held k vnfiID status hstatus⟩
  · intro docker sfciID hcareful vnfiID hused hlast
    obtain ⟨k, status, hstatus⟩ := hasVNFI_iff.mp (hrecorded sfciID _ hused)
    -- the record is kept under an SFCI that uses the VNFI
    have hk : k = sfciID := by
      by_contra hk
      exact hlast k hk (hc.used k vnfiID status hstatus).2
    subst hk
    refine ⟨status, hstatus, ?_⟩
    cases hstate : c.vnfiSet.get? k with
    | none => simp [getVNFIDeployStatus, hstate] at hstatus
    | some sfciState =>
        exact (careful_delete hc hstate (hcareful sfciState hstate).2).2.2.2
          vnfiID status hstatus

def sharing (deletions : List Nat) : VNFController :=
  after (.addSFCI (sampleDocker []) (sampleSFCI 1 [1]) ::
    .addSFCI (sampleDocker []) (sampleSFCI 2 [1]) ::
    deletions.map (.delSFCI (sampleDocker [])))

theorem possible_sample (c : VNFController) (sfciID : Nat)
    (h : ∀ container ∈ c.running, c.hasVNFI (sampleVNFI 1).vnfi.vnfiID = true) :
    machine.admits c (.addSFCI (sampleDocker []) (sampleSFCI sfciID [1])) := by
  refine ⟨⟨?_, ?_⟩, ?_⟩
  · intro v hv hnew port _ container hmem
    obtain rfl := List.mem_singleton.mp hv
    rw [h container hmem] at hnew
    cases hnew
  · intro v hv w hw hne
    obtain rfl := List.mem_singleton.mp hv
    obtain rfl := List.mem_singleton.mp hw
    exact absurd rfl hne
  · intro v hv
    obtain rfl := List.mem_singleton.mp hv
    decide

theorem reachable_sharing : carefulMachine.Reachable (sharing [2]) := by
  have hfresh : carefulMachine.Reachable fresh := Machine.Reachable.init rfl
  have hfirst : carefulMachine.Reachable
      (after [.addSFCI (sampleDocker []) (sampleSFCI 1 [1])]) := by
    have hprovidable : Providable (sampleDocker []) (sampleVNFI 1)
        (fresh.addSFCI (sampleSFCI 1 [1])) := by
      refine ⟨⟨rfl, by decide, ⟨by decide, by decide⟩, rfl, rfl,
        _, rfl⟩, ⟨(0, 65536), by decide, by decide⟩, ?_⟩
      intro port hport a ha hap
      cases hport
      obtain rfl := List.mem_singleton.mp ha
      rintro b hb -
      obtain rfl := List.mem_singleton.mp hb
      exact hap
    have hcareful : fresh.Careful
        (.addSFCI (sampleDocker []) (sampleSFCI 1 [1])) :=
      Or.inr ⟨Or.inr hprovidable, trivial⟩
    exact hfresh.step ⟨possible_sample fresh 1 (by simp [fresh]), hcareful⟩
  have hsecond : carefulMachine.Reachable (sharing []) := by
    have hcareful : (after [.addSFCI (sampleDocker []) (sampleSFCI 1 [1])]).Careful
        (.addSFCI (sampleDocker []) (sampleSFCI 2 [1])) :=
      Or.inr ⟨Or.inl (by decide), trivial⟩
    exact hfirst.step ⟨possible_sample _ 2 (by decide), hcareful⟩
  have hcareful : (sharing []).Careful (.delSFCI (sampleDocker []) 2) := by
    intro sfciState hstate
    have hempty : ∀ sfciState ∈ (sharing []).vnfiSet.get? 2,
        sfciState.items = [] := by decide
    have hitems := hempty sfciState hstate
    refine ⟨fun vnfiID hcontains => ?_, hitems ▸ trivial⟩
    rw [Dict.contains, Dict.get?, hitems] at hcontains
    cases hcontains
  have hpossible : machine.admits (sharing [])
      (.delSFCI (sampleDocker []) 2) := trivial
  exact hsecond.step ⟨hpossible, hcareful⟩

theorem used_held_unused_released_sharing :
    (∃ k status, (sharing [2]).getVNFIDeployStatus k ⟨0, 1⟩ = some status ∧
      (sharing [2]).Holds status) ∧
    ∃ status, (sharing [2]).getVNFIDeployStatus 1 ⟨0, 1⟩ = some status ∧
      (handle (sharing [2]) (.delSFCI (sampleDocker []) 1)).2.Released
        status := by
  have hused : (sharing [2]).UsedBy 1 ⟨0, 1⟩ :=
    ⟨sampleSFCI 1 [1], by decide, sampleVNFI 1, by decide, rfl⟩
  have hkeys : (sharing [2]).sfciDict.keys = [1] := by decide
  have hlast : ∀ vnfiID k, k ≠ 1 → ¬ (sharing [2]).UsedBy k vnfiID := by
    rintro vnfiID k hk ⟨sfci, hsfci, -⟩
    have hmem := Dict.mem_keys_iff.mpr ⟨sfci, hsfci⟩
    rw [hkeys, List.mem_singleton] at hmem
    exact hk hmem
  have hcareful : (sharing [2]).Careful (.delSFCI (sampleDocker []) 1) := by
    intro sfciState hstate
    refine ⟨fun vnfiID _ k hk => hlast vnfiID k hk, ?_⟩
    have hone : ∀ sfciState ∈ (sharing [2]).vnfiSet.get? 1,
        sfciState.items = [(⟨0, 1⟩, ⟨sampleVNFI 1, .deployed,
          some ⟨0, [[2], []], 0, 65535⟩, none⟩)] := by decide
    rw [hone sfciState hstate]
    refine ⟨fun d hd => ?_, trivial⟩
    obtain rfl := Option.some.inj hd
    exact ⟨rfl, .inr (.inl ⟨(2, 65536), by decide, by decide⟩),
      .inr (.inr (.inl ⟨(1024, 65534), by decide, by decide⟩))⟩
  obtain ⟨hheld, hreleased⟩ := used_held_unused_released reachable_sharing
  exact ⟨hheld 1 ⟨0, 1⟩ hused,
    hreleased (sampleDocker []) 1 hcareful ⟨0, 1⟩ hused (hlast ⟨0, 1⟩)⟩

/-- The SFCI that came first is deleted, and the container of the VNFI with it. -/
theorem shared_container_killed :
    machine.Reachable (sharing [1]) ∧ (sharing [1]).UsedBy 2 ⟨0, 1⟩ ∧
      ¬ ∃ k status, (sharing [1]).getVNFIDeployStatus k ⟨0, 1⟩ = some status ∧
        (sharing [1]).Holds status := by
  refine ⟨?_, ⟨sampleSFCI 2 [1], by decide, sampleVNFI 1,
    by decide, rfl⟩, ?_⟩
  · have hfresh : machine.Reachable fresh := Machine.Reachable.init rfl
    have hfirst : machine.Reachable
        (after [.addSFCI (sampleDocker []) (sampleSFCI 1 [1])]) :=
      hfresh.step (possible_sample fresh 1 (by simp [fresh]))
    have hsecond : machine.Reachable (sharing []) :=
      hfirst.step (possible_sample _ 2 (by decide))
    have hpossible : machine.admits (sharing [])
        (.delSFCI (sampleDocker []) 1) := trivial
    exact hsecond.step hpossible
  · rintro ⟨k, status, hstatus, -⟩
    have hnone : ∀ sfciState ∈ (sharing [1]).vnfiSet.values,
        sfciState.contains ⟨0, 1⟩ = false := by decide
    obtain ⟨sfciState, hstate, hget⟩ := Option.bind_eq_some_iff.mp hstatus
    have hcontains := hnone sfciState (Dict.mem_values_iff.mpr ⟨k, hstate⟩)
    simp [Dict.contains, hget] at hcontains

end VNFController

end SelfAdaptiveMano

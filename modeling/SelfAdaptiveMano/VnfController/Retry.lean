import SelfAdaptiveMano.VnfController.Creation

/-!
# The reply to a command to add an SFCI

An SFCI is registered before its VNFIs are deployed, and an SFCI that is
registered is not looked at again. The reply to a retry therefore says nothing
about the VNFIs that could not be deployed the first time, and the same holds of
a VNFI that another SFCI could not deploy. `add_successful_iff_deployed_iff` says
exactly when the reply is right.
-/

namespace SelfAdaptiveMano

open Library

namespace VNFController

variable {docker : Docker} {sfciID : Nat} {c : VNFController}

/-- A container can be made for each VNFI that is not recorded, in the state in
which its turn comes. -/
def AllCreatable (docker : Docker) (sfciID : Nat) :
    List ServerVNFI → VNFController → Prop
  | [], _ => True
  | v :: vs, c =>
      (c.hasVNFI v.vnfi.vnfiID = true ∨ Creatable docker v c) ∧
        AllCreatable docker sfciID vs (addServerVNFI docker sfciID v c).2

theorem addServerVNFI_records (docker : Docker) (v : ServerVNFI)
    (h : c.hasSFCI sfciID = true) :
    (addServerVNFI docker sfciID v c).2.hasSFCI sfciID = true ∧
      ((addServerVNFI docker sfciID v c).1 = true ↔
        c.hasVNFI v.vnfi.vnfiID = true ∨ Creatable docker v c) ∧
      ∃ status, (status.state = .deployed ↔
          (addServerVNFI docker sfciID v c).1 = true) ∧
        ∀ sfciID' vnfiID, (addServerVNFI docker sfciID v
            c).2.getVNFIDeployStatus sfciID' vnfiID =
          if c.hasVNFI v.vnfi.vnfiID = false ∧ sfciID' = sfciID ∧
              vnfiID = v.vnfi.vnfiID then some status
          else c.getVNFIDeployStatus sfciID' vnfiID := by
  have houtcome := addServerVNFI_outcome docker sfciID v c
  generalize addServerVNFI docker sfciID v c = turn at houtcome ⊢
  cases houtcome with
  | shared hrecorded =>
      refine ⟨h, by simp [hrecorded], ⟨v, .deployed, none, none⟩, by simp, ?_⟩
      simp [hrecorded]
  | deployed hnew hcreatable deployment rest htaken =>
      refine ⟨?_, by simp [hcreatable], ⟨v, .deployed, some deployment, none⟩,
        by simp, fun sfciID' vnfiID => ?_⟩
      · exact (hasSFCI_setVNFI ..).trans h
      · rw [getStatus_deploy h]
        simp [hnew]
  | failed hnew hnot e c₁ hrecords =>
      have hsame : ∀ sfciID' vnfiID, c₁.getVNFIDeployStatus sfciID' vnfiID =
          (c.setVNFI sfciID ⟨v, .processing, none, none⟩).getVNFIDeployStatus
            sfciID' vnfiID := by
        intro sfciID' vnfiID
        rw [getVNFIDeployStatus, getVNFIDeployStatus, hrecords]
      have hsfci : c₁.hasSFCI sfciID = true := by
        rw [hasSFCI, hrecords]
        exact (hasSFCI_setVNFI ..).trans h
      refine ⟨(hasSFCI_setVNFI ..).trans hsfci, by simp [hnew, hnot],
        ⟨v, .failed, none, some e⟩, by simp, fun sfciID' vnfiID => ?_⟩
      rw [getStatus_setVNFI _ _ _ hsfci, hsame, getStatus_setVNFI _ _ _ h]
      simp only [hnew, true_and]
      split <;> rfl

/-- Once a VNFI is recorded, its record does not change any more. -/
theorem deployed_addServerVNFIs {vnfiID : UUID} (vs : List ServerVNFI)
    (h : c.hasSFCI sfciID = true) (hrecorded : c.hasVNFI vnfiID = true) :
    (addServerVNFIs docker sfciID vs c).2.hasVNFI vnfiID = true ∧
      ((addServerVNFIs docker sfciID vs c).2.Deployed vnfiID ↔
        c.Deployed vnfiID) := by
  induction vs generalizing c with
  | nil => exact ⟨hrecorded, Iff.rfl⟩
  | cons v vs ih =>
      obtain ⟨hsfci, -, status, -, hstatus⟩ := addServerVNFI_records docker v h
      have hsame : ∀ sfciID', (addServerVNFI docker sfciID v
          c).2.getVNFIDeployStatus sfciID' vnfiID =
            c.getVNFIDeployStatus sfciID' vnfiID := by
        intro sfciID'
        rw [hstatus, if_neg]
        rintro ⟨hnew, -, rfl⟩
        rw [hnew] at hrecorded
        cases hrecorded
      have hrecorded' : (addServerVNFI docker sfciID v c).2.hasVNFI vnfiID =
          true := by
        simpa only [hasVNFI_iff, hsame] using hrecorded
      obtain ⟨hhas, hdeployed⟩ := ih hsfci hrecorded'
      refine ⟨hhas, hdeployed.trans ?_⟩
      simp only [Deployed, hsame]

theorem deployed_addServerVNFI (docker : Docker) (v : ServerVNFI)
    (h : c.hasSFCI sfciID = true) (vnfiID : UUID) :
    ((addServerVNFI docker sfciID v c).2.hasVNFI vnfiID = true ↔
        c.hasVNFI vnfiID = true ∨ vnfiID = v.vnfi.vnfiID) ∧
      ((addServerVNFI docker sfciID v c).2.Deployed vnfiID ↔
        if c.hasVNFI v.vnfi.vnfiID = false ∧ vnfiID = v.vnfi.vnfiID then
          (addServerVNFI docker sfciID v c).1 = true
        else c.Deployed vnfiID) := by
  obtain ⟨-, -, status, hdeployed, hstatus⟩ := addServerVNFI_records docker v h
  by_cases hown : c.hasVNFI v.vnfi.vnfiID = false ∧ vnfiID = v.vnfi.vnfiID
  · obtain ⟨hnew, rfl⟩ := hown
    have hnone : ∀ k, c.getVNFIDeployStatus k v.vnfi.vnfiID = none := by
      intro k
      by_contra hsome
      obtain ⟨s, hs⟩ := Option.ne_none_iff_exists'.mp hsome
      rw [hasVNFI_iff.mpr ⟨k, s, hs⟩] at hnew
      cases hnew
    have hrecord : ∀ k s, (addServerVNFI docker sfciID v
        c).2.getVNFIDeployStatus k v.vnfi.vnfiID = some s ↔
          k = sfciID ∧ s = status := by
      intro k s
      rw [hstatus, hnone]
      simp only [hnew, and_true, true_and]
      split_ifs with hk
      · simp [hk, eq_comm]
      · simp [hk]
    constructor
    · simp [hasVNFI_iff, hrecord]
    · simp [Deployed, hrecord, hnew, hdeployed]
  · have hsame : ∀ k, (addServerVNFI docker sfciID v c).2.getVNFIDeployStatus k
        vnfiID = c.getVNFIDeployStatus k vnfiID := by
      intro k
      rw [hstatus, if_neg]
      rintro ⟨hnew, -, heq⟩
      exact hown ⟨hnew, heq⟩
    rw [if_neg hown]
    constructor
    · rw [hasVNFI_iff, hasVNFI_iff]
      simp only [hsame]
      constructor
      · exact .inl
      · rintro (hrecorded | rfl)
        · exact hrecorded
        · rw [← hasVNFI_iff]
          simpa using hown
    · simp only [Deployed, hsame]

/-- The loop goes well exactly if all containers can be made. Then each VNFI is
deployed that was not recorded as failed before; otherwise one is not. -/
theorem addServerVNFIs_spec (docker : Docker) (vs : List ServerVNFI)
    (h : c.hasSFCI sfciID = true) :
    ((addServerVNFIs docker sfciID vs c).1 = true ↔
        AllCreatable docker sfciID vs c) ∧
      ((addServerVNFIs docker sfciID vs c).1 = true → ∀ v ∈ vs,
        ((addServerVNFIs docker sfciID vs c).2.Deployed v.vnfi.vnfiID ↔
          (c.hasVNFI v.vnfi.vnfiID = true → c.Deployed v.vnfi.vnfiID))) ∧
      ((addServerVNFIs docker sfciID vs c).1 = false → ∃ v ∈ vs,
        ¬ (addServerVNFIs docker sfciID vs c).2.Deployed v.vnfi.vnfiID) := by
  induction vs generalizing c with
  | nil => simp [addServerVNFIs, AllCreatable]
  | cons v vs ih =>
      obtain ⟨hsfci, hadded, -⟩ := addServerVNFI_records docker v h
      have hturn := deployed_addServerVNFI docker v h
      obtain ⟨hsuccess, hright, hwrong⟩ := ih hsfci
      -- the record of the turn's own VNFI stays as it is
      obtain ⟨-, hkept⟩ := @deployed_addServerVNFIs docker _ _ _ vs hsfci
        ((hturn v.vnfi.vnfiID).1.mpr (.inr rfl))
      simp only [addServerVNFIs, AllCreatable, Bool.and_eq_true,
        Bool.and_eq_false_iff]
      refine ⟨by rw [hadded, hsuccess], ?_, ?_⟩
      · rintro ⟨hthis, hrest⟩
        have hstep : ∀ vnfiID,
            ((addServerVNFI docker sfciID v c).2.hasVNFI vnfiID = true →
              (addServerVNFI docker sfciID v c).2.Deployed vnfiID) ↔
            (c.hasVNFI vnfiID = true → c.Deployed vnfiID) := by
          intro vnfiID
          rw [(hturn vnfiID).1, (hturn vnfiID).2]
          split_ifs with hown
          · obtain ⟨hnew, rfl⟩ := hown
            simp [hnew, hthis]
          · constructor
            · exact fun himp hrecorded => himp (.inl hrecorded)
            · rintro himp (hrecorded | rfl)
              · exact himp hrecorded
              · exact himp (by simpa using hown)
        intro w hw
        obtain rfl | hw := List.mem_cons.mp hw
        · rw [hkept, ← hstep, (hturn w.vnfi.vnfiID).1]
          simp
        · exact (hright hrest w hw).trans (hstep w.vnfi.vnfiID)
      · rintro (hthis | hrest)
        · refine ⟨v, List.mem_cons_self, ?_⟩
          have hnew : c.hasVNFI v.vnfi.vnfiID = false := by
            rw [Bool.eq_false_iff]
            intro hrecorded
            rw [hadded.mpr (.inl hrecorded)] at hthis
            cases hthis
          rw [hkept, (hturn v.vnfi.vnfiID).2, if_pos ⟨hnew, rfl⟩, hthis]
          simp
        · obtain ⟨w, hw, hnot⟩ := hwrong hrest
          exact ⟨w, List.mem_cons_of_mem v hw, hnot⟩

/-- The reply to an `ADD_SFCI` tells whether all VNFIs of the SFCI are deployed
exactly if: the SFCI is registered and they were all deployed before; or it is
not registered, and no VNFI of it is recorded without being deployed, or some
container cannot be made. -/
theorem add_successful_iff_deployed_iff (docker : Docker) (sfci : SFCI)
    (c : VNFController) :
    ((handle c (.addSFCI docker sfci)).1 = .successful ↔
      ∀ v ∈ sfci.serverVNFIs,
        (handle c (.addSFCI docker sfci)).2.Deployed v.vnfi.vnfiID) ↔
    if c.hasSFCI sfci.sfciID = true then
      ∀ v ∈ sfci.serverVNFIs, c.Deployed v.vnfi.vnfiID
    else
      (∀ v ∈ sfci.serverVNFIs, c.hasVNFI v.vnfi.vnfiID = true →
        c.Deployed v.vnfi.vnfiID) ∨
      ¬ AllCreatable docker sfci.sfciID sfci.serverVNFIs (c.addSFCI sfci) := by
  have hreply : ∀ b, replyState b = .successful ↔ b = true := by decide
  simp only [handle, sfciAddHandler, hreply]
  split_ifs with hregistered
  · simp
  · have hsfci : (c.addSFCI sfci).hasSFCI sfci.sfciID = true := by
      simp [hasSFCI, addSFCI, Dict.contains]
    have hsame := @getStatus_addSFCI c sfci (Bool.eq_false_iff.mpr hregistered)
    have hhas : ∀ vnfiID, (c.addSFCI sfci).hasVNFI vnfiID = true ↔
        c.hasVNFI vnfiID = true := by
      simp [hasVNFI_iff, hsame]
    have hdeployed : ∀ vnfiID, (c.addSFCI sfci).Deployed vnfiID ↔
        c.Deployed vnfiID := by
      simp [Deployed, hsame]
    obtain ⟨hsuccess, hright, hwrong⟩ :=
      addServerVNFIs_spec docker sfci.serverVNFIs hsfci
    simp only [hhas, hdeployed] at hright
    rw [← hsuccess]
    cases h : (addServerVNFIs docker sfci.sfciID sfci.serverVNFIs
        (c.addSFCI sfci)).1 with
    | true =>
        simp only [true_iff, not_true_eq_false, or_false]
        exact forall₂_congr (hright h)
    | false =>
        obtain ⟨v, hv, hnot⟩ := hwrong h
        simp only [Bool.false_eq_true, not_false_eq_true, or_true, iff_true,
          false_iff]
        exact fun hall => hnot (hall v hv)

/-- The second VNFI of the SFCI 1 cannot be deployed; the command is sent once
more. -/
def retried : VNFController :=
  after [.addSFCI (sampleDocker [2]) (sampleSFCI 1 [1, 2])]

theorem retry_successful_not_deployed :
    machine.Reachable retried ∧
      (handle retried (.addSFCI (sampleDocker [2])
        (sampleSFCI 1 [1, 2]))).1 = .successful ∧
      ∃ v ∈ (sampleSFCI 1 [1, 2]).serverVNFIs,
        ¬ (handle retried (.addSFCI (sampleDocker [2])
          (sampleSFCI 1 [1, 2]))).2.Deployed v.vnfi.vnfiID := by
  refine ⟨?_, by decide, sampleVNFI 2, by decide, ?_⟩
  · have hfresh : machine.Reachable fresh := Machine.Reachable.init rfl
    show machine.Reachable (machine.step fresh
      (.addSFCI (sampleDocker [2]) (sampleSFCI 1 [1, 2])))
    refine hfresh.step ⟨⟨by simp [fresh], ?_⟩, by decide⟩
    intro v hv w hw hne _ port hport hport'
    have hports : ∀ v ∈ (sampleSFCI 1 [1, 2]).serverVNFIs,
        ∀ w ∈ (sampleSFCI 1 [1, 2]).serverVNFIs,
          v.vnfi.vnfiID ≠ w.vnfi.vnfiID →
            65536 - v.vnfi.vnfiID.tick ≠ 65536 - w.vnfi.vnfiID.tick := by
      decide
    refine hports v hv w hw hne ?_
    cases hport
    exact (Except.ok.inj hport').symm
  · rintro ⟨sfciID, status, hstatus, hstate⟩
    have hset : ∀ e ∈ (handle retried (.addSFCI (sampleDocker [2])
        (sampleSFCI 1 [1, 2]))).2.vnfiSet.items,
        ∀ status ∈ e.2.get? (sampleVNFI 2).vnfi.vnfiID,
          status.state ≠ .deployed := by decide
    obtain ⟨sfciState, hsfciState, hget⟩ := Option.bind_eq_some_iff.mp hstatus
    exact hset (sfciID, sfciState) (Dict.mem_items_iff.mpr hsfciState) status
      hget hstate

end VNFController

end SelfAdaptiveMano

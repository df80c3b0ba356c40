import SelfAdaptiveMano.Orchestration.Steps
import SelfAdaptiveMano.Regulator.RequestHandler

/-!
# Where a request is

A request that has come to the handler is forwarded, parked or rejected. An
`UPDATE_SFC_STATE` is carried out in place of being forwarded.

Two things are left open here: a request for `ADD_SFCI`, which raises in the
handler, and an `UPDATE_SFC_STATE` that is found to be superfluous while it is
parked, which is stored as rejected and stays parked.
-/

namespace SelfAdaptiveMano.Regulator.RequestHandler

open Library

variable {s s' : RequestHandler} {r : RegulatorRequest} {requestID : UUID}
  {A A' : List RegulatorRequest}

def whenValid (r : RegulatorRequest) : Decision :=
  if r.requestType = .updateSFCState then .applied else .forwarded

/-- A request is in exactly one place: it is parked and nothing was done with it,
it was forwarded or carried out once, or it was rejected. -/
inductive Placed (s : RequestHandler) (r : RegulatorRequest) : Prop where
  | parked :
      s.isParked r = true → s.decisions r.requestID = [] → Placed s r
  | done :
      s.isParked r = false → s.decisions r.requestID = [whenValid r] →
      Placed s r
  | rejected :
      s.isParked r = false → s.decisions r.requestID = [.rejected] → Placed s r

/-- Nothing that concerns the requests with an id has changed. -/
structure Apart (requestID : UUID) (s s' : RequestHandler) : Prop where
  taskDict : ∀ requestType, (s'.taskDict requestType).get? requestID =
    (s.taskDict requestType).get? requestID
  decisions : s'.decisions requestID = s.decisions requestID
  rejected : requestID ∈ s'.rejectedWhileParked ↔
    requestID ∈ s.rejectedWhileParked

/-- What a turn does with its own request. -/
inductive Moved (r : RegulatorRequest) (s s' : RequestHandler) : Prop where
  | settled {decision : Decision} :
      decision = whenValid r ∨ decision = .rejected →
      (s'.taskDict r.requestType).get? r.requestID = none →
      s'.decisions r.requestID = s.decisions r.requestID ++ [decision] →
      s'.rejectedWhileParked = s.rejectedWhileParked → Moved r s s'
  | parked :
      (s'.taskDict r.requestType).get? r.requestID = some (r, s.now) →
      s'.decisions r.requestID = s.decisions r.requestID →
      s'.rejectedWhileParked = s.rejectedWhileParked → Moved r s s'
  | superfluous :
      (s'.taskDict r.requestType).get? r.requestID =
        (s.taskDict r.requestType).get? r.requestID →
      s'.decisions r.requestID = s.decisions r.requestID ++ [.rejected] →
      (s.isParked r = true → r.requestID ∈ s'.rejectedWhileParked) →
      s.rejectedWhileParked ⊆ s'.rejectedWhileParked → Moved r s s'

/-- A turn that is about the request `r`. -/
structure Turn (r : RegulatorRequest) (s s' : RequestHandler) : Prop where
  now : s'.now = s.now
  arrived : s'.arrived = s.arrived
  apart : ∀ requestID, requestID ≠ r.requestID → Apart requestID s s'
  otherTypes : ∀ requestType, requestType ≠ r.requestType →
    (s'.taskDict requestType).get? r.requestID =
      (s.taskDict requestType).get? r.requestID
  moved : Moved r s s'

theorem Apart.refl (requestID : UUID) (s : RequestHandler) :
    Apart requestID s s :=
  ⟨fun _ => rfl, rfl, Iff.rfl⟩

theorem Apart.trans {s'' : RequestHandler} (h : Apart requestID s s')
    (h' : Apart requestID s' s'') : Apart requestID s s'' where
  taskDict := fun requestType =>
    (h'.taskDict requestType).trans (h.taskDict requestType)
  decisions := h'.decisions.trans h.decisions
  rejected := h'.rejected.trans h.rejected

section Primitives

theorem decisions_note (decision : Decision) (r : RegulatorRequest)
    (s : RequestHandler) (requestID : UUID) :
    (s.note decision r).decisions requestID =
      if r.requestID = requestID then s.decisions requestID ++ [decision]
      else s.decisions requestID := by
  rw [decisions, note, List.filter_append, List.map_append]
  by_cases h : r.requestID = requestID
  · simp [h, decisions]
  · simp [h, decisions]

theorem get?_park (r : RegulatorRequest) (s : RequestHandler)
    (requestType : RequestType) (requestID : UUID) :
    ((s.park r).taskDict requestType).get? requestID =
      if requestType = r.requestType ∧ requestID = r.requestID then
        some (r, s.now)
      else (s.taskDict requestType).get? requestID := by
  rw [park]
  by_cases htype : requestType = r.requestType
  · subst htype
    simp [Dict.get?_set]
  · simp [htype]

theorem get?_unpark (requestType : RequestType) (requestID : UUID)
    (s : RequestHandler) (requestType' : RequestType) (requestID' : UUID) :
    ((s.unpark requestType requestID).taskDict requestType').get? requestID' =
      if requestType' = requestType ∧ requestID' = requestID then none
      else (s.taskDict requestType').get? requestID' := by
  rw [unpark]
  by_cases htype : requestType' = requestType
  · subst htype
    simp [Dict.get?_erase]
  · simp [htype]

theorem turn_settled {decision : Decision} (oib : OrchInfoBase)
    (hdecision : decision = whenValid r ∨ decision = .rejected) :
    Turn r s { (s.note decision r).unpark r.requestType r.requestID with
      oib := oib } where
  now := rfl
  arrived := rfl
  apart := by
    intro requestID hne
    refine ⟨fun requestType => ?_, ?_, Iff.rfl⟩
    · refine (get?_unpark ..).trans ?_
      rw [if_neg fun h => hne h.2]
      rfl
    · refine (decisions_note ..).trans ?_
      rw [if_neg hne.symm]
  otherTypes := by
    intro requestType hne
    refine (get?_unpark ..).trans ?_
    rw [if_neg fun h => hne h.1]
    rfl
  moved := by
    refine .settled hdecision ?_ ?_ rfl
    · refine (get?_unpark ..).trans ?_
      rw [if_pos ⟨rfl, rfl⟩]
    · refine (decisions_note ..).trans ?_
      rw [if_pos rfl]

theorem turn_park (r : RegulatorRequest) (s : RequestHandler) :
    Turn r s (s.park r) where
  now := rfl
  arrived := rfl
  apart := by
    intro requestID hne
    refine ⟨fun requestType => ?_, rfl, Iff.rfl⟩
    rw [get?_park, if_neg fun h => hne h.2]
  otherTypes := by
    intro requestType hne
    rw [get?_park, if_neg fun h => hne h.1]
  moved := by
    refine .parked ?_ rfl rfl
    rw [get?_park, if_pos ⟨rfl, rfl⟩]

theorem turn_superfluous (r : RegulatorRequest) (s : RequestHandler) :
    Turn r s { s.reject r with
      rejectedWhileParked := if s.isParked r then
        s.rejectedWhileParked ++ [r.requestID] else s.rejectedWhileParked } where
  now := rfl
  arrived := rfl
  apart := by
    intro requestID hne
    refine ⟨fun _ => rfl, ?_, ?_⟩
    · refine (decisions_note ..).trans ?_
      rw [if_neg hne.symm]
    · dsimp only
      split
      · simp [hne]
      · exact Iff.rfl
  otherTypes := fun _ _ => rfl
  moved := by
    refine .superfluous rfl ?_ ?_ ?_
    · refine (decisions_note ..).trans ?_
      rw [if_pos rfl]
    · intro hparked
      simp [hparked]
    · dsimp only
      split
      · exact List.subset_append_left _ _
      · exact List.Subset.refl _

end Primitives

def Handleable (r : RegulatorRequest) : Prop :=
  r.WellFormed ∧ r.requestType ≠ .addSFCI

theorem turn_forwardOrPark (valid : Bool) (s : RequestHandler)
    (htype : r.requestType ≠ .updateSFCState) :
    Turn r s ((forwardOrPark valid r).finalState s) := by
  have hvalid : Decision.forwarded = whenValid r := (if_neg htype).symm
  cases valid with
  | true => exact turn_settled s.oib (Or.inl hvalid)
  | false => exact turn_park r s

theorem turn_handle (h : Handleable r) (s : RequestHandler) :
    Turn r s (handle r s) := by
  obtain ⟨hwell, hnot⟩ := h
  unfold handle requestBranch
  unfold RegulatorRequest.WellFormed at hwell
  cases htype : r.requestType with
  | getLinkInfo | getDCNInfo | getSFCIState =>
      simp only [htype] at hwell
  | addSFCI => exact absurd htype hnot
  | addSFC =>
      simp only [htype] at hwell
      obtain ⟨sfc, hsfc⟩ := Option.isSome_iff_exists.mp hwell
      have hturn := turn_forwardOrPark (r := r)
        (s.oib.isAddSFCValidState sfc.sfcUUID) s (by rw [htype]; decide)
      dsimp only
      rw [addSFCRequest, hsfc]
      exact hturn
  | delSFC =>
      simp only [htype] at hwell
      obtain ⟨sfc, hsfc⟩ := Option.isSome_iff_exists.mp hwell
      have hturn := turn_forwardOrPark (r := r)
        (s.oib.isDelSFCValidState sfc.sfcUUID) s (by rw [htype]; decide)
      dsimp only
      rw [delSFCRequest, hsfc]
      exact hturn
  | delSFCI =>
      simp only [htype] at hwell
      obtain ⟨sfc, hsfc⟩ := Option.isSome_iff_exists.mp hwell.1
      obtain ⟨sfci, hsfci⟩ := Option.isSome_iff_exists.mp hwell.2
      have hturn := turn_forwardOrPark (r := r)
        (isValidDelSFCIRequest s.oib (s.oib.getSFCState sfc.sfcUUID)
          sfci.sfciID) s (by rw [htype]; decide)
      dsimp only
      rw [delSFCIRequest, hsfc, hsfci]
      exact hturn
  | updateSFCState =>
      simp only [htype] at hwell
      obtain ⟨sfc, hsfc⟩ := Option.isSome_iff_exists.mp hwell.1
      obtain ⟨newState, hnewState⟩ := Option.isSome_iff_exists.mp hwell.2
      have hvalid : Decision.applied = whenValid r := (if_pos htype).symm
      dsimp only
      rw [updateSFCStateRequest, hsfc, hnewState]
      show Turn r s (if s.oib.getSFCState sfc.sfcUUID = some newState then _
        else if isValidToTransSFCState (s.oib.getSFCState sfc.sfcUUID) newState
          then _ else _)
      split
      · exact turn_superfluous r s
      · split
        · exact turn_settled _ (Or.inl hvalid)
        · exact turn_park r s

/-- A request that the handler cannot deal with raises before anything is
written, or is passed over. -/
theorem handle_of_not_handleable (h : ¬ Handleable r) (s : RequestHandler) :
    handle r s = s := by
  unfold handle requestBranch
  unfold Handleable RegulatorRequest.WellFormed at h
  cases htype : r.requestType with
  | getLinkInfo | getDCNInfo | getSFCIState => rfl
  | addSFC =>
      simp only [htype] at h
      have hsfc : r.attributes.sfc = none := by simpa using h
      dsimp only
      rw [addSFCRequest, hsfc]
      rfl
  | delSFC =>
      simp only [htype] at h
      have hsfc : r.attributes.sfc = none := by simpa using h
      dsimp only
      rw [delSFCRequest, hsfc]
      rfl
  | addSFCI =>
      dsimp only
      rw [addSFCIRequest]
      cases r.attributes.sfc with
      | none => rfl
      | some sfc => cases r.attributes.sfci <;> rfl
  | delSFCI =>
      simp only [htype] at h
      dsimp only
      rw [delSFCIRequest]
      cases hsfc : r.attributes.sfc with
      | none => rfl
      | some sfc =>
          have hsfci : r.attributes.sfci = none := by
            rw [hsfc] at h
            simpa using h
          rw [hsfci]
          rfl
  | updateSFCState =>
      simp only [htype] at h
      dsimp only
      rw [updateSFCStateRequest]
      cases hsfc : r.attributes.sfc with
      | none => rfl
      | some sfc =>
          have hnew : r.newState = none := by
            rw [hsfc] at h
            simpa using h
          rw [hnew]
          rfl

theorem Moved.placed (h : Moved r s s') (hstart : s.decisions r.requestID = [])
    (hrejected : r.requestID ∉ s'.rejectedWhileParked) : Placed s' r := by
  have hparked : s'.isParked r =
      ((s'.taskDict r.requestType).get? r.requestID).isSome := rfl
  cases h with
  | settled hdecision hget hdone hsame =>
      rw [hget] at hparked
      rw [hstart] at hdone
      obtain rfl | rfl := hdecision
      · exact .done hparked hdone
      · exact .rejected hparked hdone
  | parked hget hdone hsame =>
      rw [hget] at hparked
      exact .parked hparked (hdone.trans hstart)
  | superfluous hget hdone hnoted hsub =>
      rw [hget] at hparked
      rw [hstart] at hdone
      refine .rejected (hparked.trans ?_) hdone
      cases hbefore : ((s.taskDict r.requestType).get? r.requestID).isSome with
      | false => rfl
      | true => exact absurd (hnoted hbefore) hrejected

theorem Moved.rejected_subset (h : Moved r s s') :
    s.rejectedWhileParked ⊆ s'.rejectedWhileParked := by
  cases h with
  | settled _ _ _ hsame => exact hsame ▸ List.Subset.refl _
  | parked _ _ hsame => exact hsame ▸ List.Subset.refl _
  | superfluous _ _ _ hsub => exact hsub

theorem Placed.congr (h : Placed s r) (hapart : Apart r.requestID s s') :
    Placed s' r := by
  have hparked : s'.isParked r = s.isParked r :=
    congrArg Option.isSome (hapart.taskDict r.requestType)
  cases h with
  | parked hin hnone =>
      exact .parked (hparked.trans hin) (hapart.decisions.trans hnone)
  | done hout hone =>
      exact .done (hparked.trans hout) (hapart.decisions.trans hone)
  | rejected hout hone =>
      exact .rejected (hparked.trans hout) (hapart.decisions.trans hone)

/-- The state of the handler after the requests `A` have arrived. -/
structure Sound (A : List RegulatorRequest) (s : RequestHandler) : Prop where
  unique : ∀ r ∈ A, ∀ r' ∈ A, r.requestID = r'.requestID → r = r'
  stored : ∀ requestType requestID e,
    (s.taskDict requestType).get? requestID = some e →
      e.1 ∈ A ∧ e.1.requestID = requestID ∧ e.1.requestType = requestType ∧
        Handleable e.1
  unknown : ∀ requestID, (∀ r ∈ A, r.requestID ≠ requestID) →
    s.decisions requestID = []
  placed : ∀ r ∈ A, Handleable r → r.requestID ∉ s.rejectedWhileParked →
    Placed s r

theorem Sound.congr (h : Sound A s)
    (hapart : ∀ requestID, Apart requestID s s') : Sound A s' where
  unique := h.unique
  stored := by
    intro requestType requestID e hget
    rw [(hapart requestID).taskDict] at hget
    exact h.stored requestType requestID e hget
  unknown := by
    intro requestID hunknown
    rw [(hapart requestID).decisions]
    exact h.unknown requestID hunknown
  placed := by
    intro r hr hhandleable hrejected
    have hr' := hapart r.requestID
    refine (h.placed r hr hhandleable fun hin => ?_).congr hr'
    exact hrejected (hr'.rejected.mpr hin)

theorem Sound.turn (h : Sound A s) (hturn : Turn r s s') (hr : Handleable r)
    (hmem : r ∈ A') (hsub : A ⊆ A') (hnew : ∀ r' ∈ A', r' = r ∨ r' ∈ A)
    (hunique : ∀ r ∈ A', ∀ r' ∈ A', r.requestID = r'.requestID → r = r')
    (hstart : r.requestID ∉ s.rejectedWhileParked →
      s.decisions r.requestID = []) : Sound A' s' where
  unique := hunique
  stored := by
    intro requestType requestID e hget
    have hold : ∀ {requestType requestID e},
        (s.taskDict requestType).get? requestID = some e →
        e.1 ∈ A' ∧ e.1.requestID = requestID ∧ e.1.requestType = requestType ∧
          Handleable e.1 := by
      intro requestType requestID e hget
      obtain ⟨he, hrest⟩ := h.stored requestType requestID e hget
      exact ⟨hsub he, hrest⟩
    by_cases hid : requestID = r.requestID
    swap
    · rw [(hturn.apart requestID hid).taskDict] at hget
      exact hold hget
    subst hid
    by_cases htype : requestType = r.requestType
    swap
    · rw [hturn.otherTypes requestType htype] at hget
      exact hold hget
    subst htype
    cases hturn.moved with
    | settled _ hnone => cases hnone.symm.trans hget
    | parked hparked =>
        cases hparked.symm.trans hget
        exact ⟨hmem, rfl, rfl, hr⟩
    | superfluous hsame => exact hold (hsame.symm.trans hget)
  unknown := by
    intro requestID hunknown
    have hne : requestID ≠ r.requestID := (hunknown r hmem).symm
    rw [(hturn.apart requestID hne).decisions]
    exact h.unknown requestID fun r' hr' => hunknown r' (hsub hr')
  placed := by
    intro r' hr' hhandleable hrejected
    by_cases hid : r'.requestID = r.requestID
    · obtain rfl := hunique r' hr' r hmem hid
      refine hturn.moved.placed (hstart fun hin => ?_) hrejected
      exact hrejected (hturn.moved.rejected_subset hin)
    · have hapart := hturn.apart r'.requestID hid
      have hA : r' ∈ A := (hnew r' hr').resolve_left fun heq => hid (heq ▸ rfl)
      refine (h.placed r' hA hhandleable fun hin => ?_).congr hapart
      exact hrejected (hapart.rejected.mpr hin)

theorem Sound.turn_parked (h : Sound A s) {e : RegulatorRequest × Nat}
    {requestType : RequestType}
    (hget : (s.taskDict requestType).get? requestID = some e)
    (hturn : Turn e.1 s s') : Sound A s' := by
  obtain ⟨hmem, rfl, rfl, hhandleable⟩ := h.stored requestType requestID e hget
  refine h.turn hturn hhandleable hmem (List.Subset.refl A)
    (fun _ hr' => Or.inr hr') h.unique fun hrejected => ?_
  have hparked : s.isParked e.1 = true := congrArg Option.isSome hget
  cases h.placed e.1 hmem hhandleable hrejected with
  | parked _ hnone => exact hnone
  | done hout => cases hout.symm.trans hparked
  | rejected hout => cases hout.symm.trans hparked

section Pass

def TimedOut (requestType : RequestType) (e : UUID × (RegulatorRequest × Nat))
    (s s' : RequestHandler) : Prop :=
  s.now - e.2.2 > REQUEST_WAITING_TIMEOUT →
    (s'.taskDict requestType).get? e.1 = none ∧
      s'.decisions e.1 = s.decisions e.1 ++ [.rejected]

theorem TimedOut.congr {s₁ s₁' : RequestHandler} {requestType : RequestType}
    {e : UUID × (RegulatorRequest × Nat)} (h : TimedOut requestType e s₁ s₁')
    (hnow : s₁.now = s.now) (hbefore : Apart e.1 s s₁)
    (hafter : Apart e.1 s₁' s') : TimedOut requestType e s s' := by
  intro hold
  obtain ⟨hnone, hdone⟩ := h (hnow.symm ▸ hold)
  refine ⟨(hafter.taskDict requestType).trans hnone, ?_⟩
  rw [hafter.decisions, hdone, hbefore.decisions]

def OnlyType (requestType : RequestType) (s s' : RequestHandler) : Prop :=
  ∀ requestType', requestType' ≠ requestType → ∀ requestID,
    (s'.taskDict requestType').get? requestID =
      (s.taskDict requestType').get? requestID

theorem Turn.onlyType (h : Turn r s s') : OnlyType r.requestType s s' := by
  intro requestType hne requestID
  by_cases hid : requestID = r.requestID
  · rw [hid, h.otherTypes requestType hne]
  · exact (h.apart requestID hid).taskDict requestType

/-- What a part of a pass does that goes through the requests with the ids `k`.
-/
structure Passed (A : List RegulatorRequest) (k : UUID → Prop)
    (s s' : RequestHandler) : Prop where
  sound : Sound A s'
  now : s'.now = s.now
  arrived : s'.arrived = s.arrived
  apart : ∀ requestID, ¬ k requestID → Apart requestID s s'

theorem processRequestTask_spec (h : Sound A s) {requestType : RequestType}
    {e : UUID × (RegulatorRequest × Nat)}
    (hget : (s.taskDict requestType).get? e.1 = some e.2) :
    Passed A (· = e.1) s (processRequestTask requestType s e) ∧
      OnlyType requestType s (processRequestTask requestType s e) ∧
      TimedOut requestType e s (processRequestTask requestType s e) := by
  obtain ⟨-, hid, htype, hhandleable⟩ := h.stored requestType e.1 e.2 hget
  unfold processRequestTask TimedOut
  dsimp only
  by_cases hold : s.now - e.2.2 > REQUEST_WAITING_TIMEOUT
  · rw [if_pos hold]
    have hturn : Turn e.2.1 s
        ((s.reject e.2.1).unpark requestType e.2.1.requestID) := by
      subst htype
      exact turn_settled _ (Or.inr rfl)
    refine ⟨⟨h.turn_parked hget hturn, hturn.now, hturn.arrived,
      fun requestID hne => hturn.apart requestID (hid.symm ▸ hne)⟩,
      htype ▸ hturn.onlyType, fun _ => ?_⟩
    constructor
    · refine (get?_unpark ..).trans ?_
      rw [if_pos ⟨rfl, hid.symm⟩]
    · refine (decisions_note .rejected e.2.1 s e.1).trans ?_
      rw [if_pos hid]
  · rw [if_neg hold]
    have hturn := turn_handle hhandleable s
    exact ⟨⟨h.turn_parked hget hturn, hturn.now, hturn.arrived,
      fun requestID hne => hturn.apart requestID (hid.symm ▸ hne)⟩,
      htype ▸ hturn.onlyType, fun h => absurd h hold⟩

theorem processRequests_spec {requestType : RequestType}
    {l : List (UUID × (RegulatorRequest × Nat))} (hl : (l.map Prod.fst).Nodup)
    (h : Sound A s)
    (hget : ∀ e ∈ l, (s.taskDict requestType).get? e.1 = some e.2) :
    Passed A (· ∈ l.map Prod.fst) s
        (l.foldl (processRequestTask requestType) s) ∧
      OnlyType requestType s (l.foldl (processRequestTask requestType) s) ∧
      ∀ e ∈ l, TimedOut requestType e s
        (l.foldl (processRequestTask requestType) s) := by
  induction l generalizing s with
  | nil =>
      refine ⟨⟨h, rfl, rfl, fun requestID _ => .refl requestID s⟩,
        fun _ _ _ => rfl, ?_⟩
      intro e he
      cases he
  | cons e l ih =>
      obtain ⟨hnew, hl⟩ := List.nodup_cons.mp hl
      obtain ⟨hhead, honly, htimed⟩ :=
        processRequestTask_spec h (hget e List.mem_cons_self)
      have hne : ∀ e' ∈ l, e'.1 ≠ e.1 := by
        intro e' he' heq
        exact hnew (heq ▸ List.mem_map_of_mem he')
      obtain ⟨htail, honlyTail, htimedTail⟩ := ih hl hhead.sound fun e' he' => by
        rw [(hhead.apart e'.1 (hne e' he')).taskDict]
        exact hget e' (List.mem_cons_of_mem e he')
      refine ⟨⟨htail.sound, htail.now.trans hhead.now,
        htail.arrived.trans hhead.arrived, fun requestID hnot => ?_⟩,
        fun t ht requestID => ?_, ?_⟩
      · obtain ⟨hnotHead, hnotTail⟩ := not_or.mp (mt List.mem_cons.mpr hnot)
        exact (hhead.apart requestID hnotHead).trans
          (htail.apart requestID hnotTail)
      · exact (honlyTail t ht requestID).trans (honly t ht requestID)
      · intro e' he'
        obtain rfl | he' := List.mem_cons.mp he'
        · exact htimed.congr rfl (.refl _ _) (htail.apart e'.1 hnew)
        · exact (htimedTail e' he').congr hhead.now
            (hhead.apart e'.1 (hne e' he')) (.refl _ _)

theorem Sound.not_parked_elsewhere (h : Sound A s)
    {requestType requestType' : RequestType} {e : RegulatorRequest × Nat}
    (hget : (s.taskDict requestType).get? requestID = some e)
    (hne : requestType' ≠ requestType) :
    requestID ∉ (s.taskDict requestType').keys := by
  intro hmem
  obtain ⟨e', hget'⟩ := Dict.mem_keys_iff.mp hmem
  obtain ⟨hA, hid, htype, -⟩ := h.stored _ _ e hget
  obtain ⟨hA', hid', htype', -⟩ := h.stored _ _ e' hget'
  have heq := h.unique _ hA' _ hA (hid'.trans hid.symm)
  rw [heq] at htype'
  exact hne (htype'.symm.trans htype)

theorem processTypes_spec {types : List RequestType} (htypes : types.Nodup)
    (h : Sound A s) :
    Passed A (fun requestID => ∃ requestType ∈ types,
        requestID ∈ (s.taskDict requestType).keys) s
        (types.foldl (fun s requestType =>
          (s.taskDict requestType).items.foldl
            (processRequestTask requestType) s) s) ∧
      ∀ requestType ∈ types, ∀ e ∈ (s.taskDict requestType).items,
        TimedOut requestType e s (types.foldl (fun s requestType =>
          (s.taskDict requestType).items.foldl
            (processRequestTask requestType) s) s) := by
  induction types generalizing s with
  | nil =>
      refine ⟨⟨h, rfl, rfl, fun requestID _ => .refl requestID s⟩, ?_⟩
      intro requestType hmem
      cases hmem
  | cons t types ih =>
      obtain ⟨ht, htypes⟩ := List.nodup_cons.mp htypes
      obtain ⟨hhead, honly, htimed⟩ := processRequests_spec
        (s.taskDict t).nodup_keys h fun e he => Dict.mem_items_iff.mp he
      obtain ⟨htail, htimedTail⟩ := ih htypes hhead.sound
      have hkeys : ∀ t' ∈ types, ∀ requestID,
          requestID ∈ (((s.taskDict t).items.foldl (processRequestTask t)
            s).taskDict t').keys ↔ requestID ∈ (s.taskDict t').keys := by
        intro t' ht' requestID
        have hne : t' ≠ t := fun heq => ht (heq ▸ ht')
        rw [Dict.mem_keys_iff, Dict.mem_keys_iff, honly t' hne]
      refine ⟨⟨htail.sound, htail.now.trans hhead.now,
        htail.arrived.trans hhead.arrived, fun requestID hnot => ?_⟩, ?_⟩
      · refine (hhead.apart requestID fun hmem => ?_).trans
          (htail.apart requestID ?_)
        · exact hnot ⟨t, List.mem_cons_self, hmem⟩
        · rintro ⟨t', ht', hmem⟩
          exact hnot ⟨t', List.mem_cons_of_mem t ht',
            (hkeys t' ht' requestID).mp hmem⟩
      · intro t' ht' e he
        have hget := Dict.mem_items_iff.mp he
        by_cases heq : t' = t
        · subst heq
          refine (htimed e he).congr rfl (.refl _ _) (htail.apart e.1 ?_)
          rintro ⟨t'', ht'', hmem⟩
          have hne : t'' ≠ t' := fun heq => ht (heq ▸ ht'')
          exact h.not_parked_elsewhere hget hne ((hkeys t'' ht'' e.1).mp hmem)
        · have hmem := (List.mem_cons.mp ht').resolve_left heq
          have he' : e ∈ (((s.taskDict t).items.foldl (processRequestTask t)
              s).taskDict t').items := by
            show (e.1, e.2) ∈ _
            rw [Dict.mem_items_iff, honly t' heq]
            exact hget
          refine (htimedTail t' hmem e he').congr hhead.now
            (hhead.apart e.1 ?_) (.refl _ _)
          exact h.not_parked_elsewhere hget fun hne => heq hne.symm

end Pass

theorem Handleable.mem_taskTypes (h : Handleable r) :
    r.requestType ∈ taskTypes := by
  obtain ⟨hwell, -⟩ := h
  unfold RegulatorRequest.WellFormed at hwell
  cases htype : r.requestType with
  | getLinkInfo | getDCNInfo | getSFCIState => simp only [htype] at hwell
  | updateSFCState | addSFC | addSFCI | delSFCI | delSFC => decide

theorem sound_of_reachable (h : machine.Reachable s) : Sound s.arrived s := by
  refine Machine.Reachable.invariant (P := fun s => Sound s.arrived s) ?_ ?_ h
  · rintro s ⟨hdict, hlog, harrived, -⟩
    rw [harrived]
    refine ⟨fun r hr => absurd hr List.not_mem_nil, ?_, ?_,
      fun r hr => absurd hr List.not_mem_nil⟩
    · intro requestType requestID e hget
      rw [hdict, Dict.get?_empty] at hget
      cases hget
    · intro requestID _
      rw [decisions, hlog]
      rfl
  · intro s i hs hi
    cases i with
    | request r =>
        have hunique : ∀ r₁ ∈ s.arrived ++ [r], ∀ r₂ ∈ s.arrived ++ [r],
            r₁.requestID = r₂.requestID → r₁ = r₂ := by
          intro r₁ h₁ r₂ h₂ hid
          obtain h₁ | h₁ := List.mem_append.mp h₁ <;>
            obtain h₂ | h₂ := List.mem_append.mp h₂
          · exact hs.unique r₁ h₁ r₂ h₂ hid
          · rw [List.mem_singleton.mp h₂] at hid
            exact absurd hid (hi r₁ h₁)
          · rw [List.mem_singleton.mp h₁] at hid
            exact absurd hid.symm (hi r₂ h₂)
          · rw [List.mem_singleton.mp h₁, List.mem_singleton.mp h₂]
        have hs' : Sound s.arrived { s with arrived := s.arrived ++ [r] } :=
          hs.congr fun _ => ⟨fun _ => rfl, rfl, Iff.rfl⟩
        by_cases hr : Handleable r
        · have hturn := turn_handle hr { s with arrived := s.arrived ++ [r] }
          have harrived : (machine.step s (.request r)).arrived =
              s.arrived ++ [r] := hturn.arrived
          rw [harrived]
          refine hs'.turn hturn hr ?_ (List.subset_append_left _ _) ?_ hunique
            fun _ => hs'.unknown r.requestID hi
          · exact List.mem_append_right _ List.mem_cons_self
          · intro r' hr'
            obtain hr' | hr' := List.mem_append.mp hr'
            · exact Or.inr hr'
            · exact Or.inl (List.mem_singleton.mp hr')
        · show Sound (handle r _).arrived (handle r _)
          rw [handle_of_not_handleable hr]
          refine ⟨hunique, ?_, ?_, ?_⟩
          · intro requestType requestID e hget
            obtain ⟨he, hrest⟩ := hs'.stored requestType requestID e hget
            exact ⟨List.mem_append_left _ he, hrest⟩
          · intro requestID hunknown
            exact hs'.unknown requestID fun r' hr' =>
              hunknown r' (List.mem_append_left _ hr')
          · intro r' hr' hhandleable hrejected
            obtain hr' | hr' := List.mem_append.mp hr'
            · exact hs'.placed r' hr' hhandleable hrejected
            · rw [List.mem_singleton.mp hr'] at hhandleable
              exact absurd hhandleable hr
    | processAllRequestTask =>
        have htypes : taskTypes.Nodup := by decide
        obtain ⟨hpass, -⟩ := processTypes_spec htypes hs
        have harrived : (machine.step s .processAllRequestTask).arrived =
            s.arrived := hpass.arrived
        rw [harrived]
        exact hpass.sound
    | database oib => exact hs.congr fun _ => ⟨fun _ => rfl, rfl, Iff.rfl⟩
    | time now => exact hs.congr fun _ => ⟨fun _ => rfl, rfl, Iff.rfl⟩

/-- In every run each request that the handler can deal with is in exactly one
place, and a parked one whose last attempt lies more than
`REQUEST_WAITING_TIMEOUT` back is rejected by the next pass. Nothing is said of
an `UPDATE_SFC_STATE` that was rejected while it was parked. -/
theorem placed_and_timed_out (h : machine.Reachable s) (hr : r ∈ s.arrived)
    (hhandleable : Handleable r)
    (hrejected : r.requestID ∉ s.rejectedWhileParked) :
    Placed s r ∧
      ∀ timestamp, (s.taskDict r.requestType).get? r.requestID =
          some (r, timestamp) →
        s.now - timestamp > REQUEST_WAITING_TIMEOUT →
        s.processAllRequestTask.isParked r = false ∧
          s.processAllRequestTask.decisions r.requestID = [.rejected] := by
  have hsound := sound_of_reachable h
  have hplaced := hsound.placed r hr hhandleable hrejected
  refine ⟨hplaced, fun timestamp hget hold => ?_⟩
  have htypes : taskTypes.Nodup := by decide
  obtain ⟨-, htimed⟩ := processTypes_spec htypes hsound
  obtain ⟨hnone, hdone⟩ := htimed r.requestType hhandleable.mem_taskTypes
    (r.requestID, (r, timestamp)) (Dict.mem_items_iff.mpr hget) hold
  have hparked : s.isParked r = true := congrArg Option.isSome hget
  have hnothing : s.decisions r.requestID = [] := by
    cases hplaced with
    | parked _ hnothing => exact hnothing
    | done hout => cases hout.symm.trans hparked
    | rejected hout => cases hout.symm.trans hparked
  refine ⟨congrArg Option.isSome hnone, ?_⟩
  rw [hnothing] at hdone
  exact hdone

def fresh (oib : OrchInfoBase) : RequestHandler :=
  ⟨oib, fun _ => .empty, 0, [], [], []⟩

theorem run_fresh (oib : OrchInfoBase) : machine.Run [] (fresh oib) :=
  .start ⟨fun _ => rfl, rfl, rfl, rfl⟩

/-- A request to delete an SFC that is not stored. -/
def lateRequest : RegulatorRequest :=
  { Orchestrator.sampleRequest 0 .delSFC 0 none with newState := none }

def lateHandler : RequestHandler :=
  [Input.request lateRequest, .time 16].foldl machine.step
    (fresh ⟨.empty, .empty, .empty⟩)

theorem placed_and_timed_out_late :
    Placed lateHandler lateRequest ∧
      lateHandler.processAllRequestTask.isParked lateRequest = false ∧
      lateHandler.processAllRequestTask.decisions lateRequest.requestID =
        [.rejected] := by
  have hinputs : machine.Arrive (fresh ⟨.empty, .empty, .empty⟩)
      [.request lateRequest, .time 16] :=
    ⟨fun r hr => absurd hr List.not_mem_nil, Nat.zero_le 16, trivial⟩
  have hreachable : machine.Reachable lateHandler :=
    ((run_fresh _).arrive hinputs).reachable
  obtain ⟨hplaced, htimed⟩ := placed_and_timed_out (r := lateRequest) hreachable
    List.mem_cons_self ⟨rfl, by decide⟩ List.not_mem_nil
  exact ⟨hplaced, htimed 0 rfl (by decide)⟩

def manualRequest : RegulatorRequest :=
  { Orchestrator.sampleRequest 0 .updateSFCState 0 none with
    newState := some .manual }

def oneActiveSFC : OrchInfoBase where
  requestTable := .empty
  sfcTable := Dict.empty.set ⟨0, 0⟩
    ⟨.turbonet, [], .active, Orchestrator.sampleSFC 0⟩
  sfciTable := .empty

/-- An `UPDATE_SFC_STATE` that was carried out is neither forwarded nor parked
nor rejected. -/
theorem manual_request_applied :
    ¬ ∀ s : RequestHandler, machine.Reachable s → ∀ r ∈ s.arrived,
      r.WellFormed →
        (s.isParked r = true ∧ s.decisions r.requestID = []) ∨
        (s.isParked r = false ∧ s.decisions r.requestID = [.forwarded]) ∨
        (s.isParked r = false ∧ s.decisions r.requestID = [.rejected]) := by
  intro h
  have hinputs : machine.Arrive (fresh oneActiveSFC) [.request manualRequest] :=
    ⟨fun r hr => absurd hr List.not_mem_nil, trivial⟩
  have hplace := h _ ((run_fresh _).arrive hinputs).reachable manualRequest
    List.mem_cons_self ⟨rfl, rfl⟩
  exact absurd hplace (by decide)

end SelfAdaptiveMano.Regulator.RequestHandler

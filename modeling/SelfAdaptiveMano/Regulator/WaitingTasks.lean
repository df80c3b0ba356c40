import SelfAdaptiveMano.Regulator.RecoveryTurns

/-!
# Notices that hit an SFCI in recovery

A task for an SFCI that has a running task is meant to wait. A hit is sent to the
waiting tasks when the SFCI has a task of the same type, in whatever state. The
table of the waiting tasks is indexed wrongly, so that the attempt to store one
always raises: nothing is kept, and the rest of the notice is lost with it. A hit
of the other type becomes a running task at once.
-/

namespace SelfAdaptiveMano.Regulator.SFCRestorer

open Library

variable {s s' : SFCRestorer} {modes : SFCModes}

def IsWaiting (s : SFCRestorer) (hit : AffectedSFCI) : Prop :=
  ∃ task, (s.rTM.waitingTaskDict hit.recoveryTaskType).task? hit.sfc.sfcUUID
    hit.sfciID = some task

def IsHitRecovering (s : SFCRestorer) (hit : AffectedSFCI) : Prop :=
  s.IsRecovering hit.sfc.sfcUUID hit.sfciID

def IsHitOccupied (s : SFCRestorer) (hit : AffectedSFCI) : Prop :=
  ∃ recoveryTaskType, s.rTM.hasRecoveryTask hit.sfc.sfcUUID hit.sfciID
    recoveryTaskType = true

/-- Along the rest of a run, which ends in `last`, a task waits for the SFCI as
long as that one has a task. The first pass that starts afterwards makes it a
running task, and it waits no longer. -/
def BecomesRunning (modes : SFCModes) (hit : AffectedSFCI) :
    List (SFCRestorer × Input) → SFCRestorer → Prop
  | [], last => last.IsWaiting hit
  | (s, .startPass) :: rest, last =>
      s.IsWaiting hit ∧
        (s.IsHitOccupied hit → BecomesRunning modes hit rest last) ∧
        (¬ s.IsHitOccupied hit →
          (step modes s .startPass).IsHitRecovering hit ∧
            ¬ (step modes s .startPass).IsWaiting hit)
  | (s, _) :: rest, last =>
      s.IsWaiting hit ∧ BecomesRunning modes hit rest last

/-- No notice of a run is aborted, and each hit of an SFCI in recovery is kept
until it becomes a running task. -/
def KeepsHits (modes : SFCModes) (τ : List (SFCRestorer × Input))
    (last : SFCRestorer) : Prop :=
  ∀ before s hits after, τ = before ++ (s, .notice hits) :: after →
    (handleDetectionDict modes hits).raises s = false ∧
      ∀ hit ∈ hits, modes.isAutoRecovery hit.sfc = true →
        s.IsHitRecovering hit → BecomesRunning modes hit after last

/-- An SFCI that a notice of a run names, of an SFC that is to recover by itself,
has no running task, and no task of the type that the notice asks for in any
state. -/
def HitsNoneRecovering (modes : SFCModes) (τ : List (SFCRestorer × Input)) :
    Prop :=
  ∀ s hits, (s, .notice hits) ∈ τ →
    ∀ hit ∈ hits, modes.isAutoRecovery hit.sfc = true →
      ¬ s.IsHitRecovering hit ∧
        s.rTM.hasRecoveryTask hit.sfc.sfcUUID hit.sfciID
          hit.recoveryTaskType = false

theorem BecomesRunning.isWaiting {hit : AffectedSFCI}
    {rest : List (SFCRestorer × Input)} {last : SFCRestorer}
    (h : BecomesRunning modes hit rest last) :
    ∃ s, (s = last ∨ ∃ i, (s, i) ∈ rest) ∧ s.IsWaiting hit := by
  cases rest with
  | nil => exact ⟨last, Or.inl rfl, h⟩
  | cons e rest =>
      obtain ⟨s, i⟩ := e
      refine ⟨s, Or.inr ⟨i, List.mem_cons_self⟩, ?_⟩
      cases i with
      | startPass => exact h.1
      | notice hits => exact h.1
      | task => exact h.1
      | database oib => exact h.1
      | time now => exact h.1

section Notice

/-- The handling of a notice raises exactly if the notice names an SFCI that has
a running task of the same type. -/
theorem raises_handleDetectionDict {hits : List AffectedSFCI}
    (hnodup : (hits.map AffectedSFCI.sfciID).Nodup) (s : SFCRestorer) :
    (handleDetectionDict modes hits).raises s = true ↔
      ∃ hit ∈ hits, modes.isAutoRecovery hit.sfc = true ∧
        s.rTM.hasRecoveryTask hit.sfc.sfcUUID hit.sfciID
          hit.recoveryTaskType = true := by
  -- the SFCIs that the loop has not got to have the tasks that they had
  let R (done : List AffectedSFCI) (s' : SFCRestorer) : Prop :=
    ∀ sfciID ∉ done.map AffectedSFCI.sfciID, ∀ sfcUUID recoveryTaskType,
      s'.rTM.task? sfcUUID recoveryTaskType sfciID =
        s.rTM.task? sfcUUID recoveryTaskType sfciID
  let B (hit : AffectedSFCI) : Prop := modes.isAutoRecovery hit.sfc = true ∧
    s.rTM.hasRecoveryTask hit.sfc.sfcUUID hit.sfciID hit.recoveryTaskType = true
  have hloop := PyM.run_forM_or (f := handleAffected modes) (B := B) (R := R)
    (l := hits) (s := s) (fun _ _ _ _ => rfl) ?_
  · rw [PyM.raises, handleDetectionDict]
    obtain ⟨s', hrun, hgood, -⟩ | ⟨hbad, e, s', hrun⟩ := hloop
    · rw [hrun]
      refine iff_of_false Bool.false_ne_true ?_
      rintro ⟨hit, hhit, hB⟩
      exact hgood hit hhit hB
    · rw [hrun]
      exact iff_of_true rfl hbad
  · intro done hit rest s' hl hR
    have hnew : hit.sfciID ∉ done.map AffectedSFCI.sfciID := by
      rw [hl, List.map_append, List.nodup_append] at hnodup
      intro hmem
      exact hnodup.2.2 _ hmem hit.sfciID List.mem_cons_self rfl
    have hhas : s'.rTM.hasRecoveryTask hit.sfc.sfcUUID hit.sfciID
        hit.recoveryTaskType = s.rTM.hasRecoveryTask hit.sfc.sfcUUID hit.sfciID
          hit.recoveryTaskType :=
      congrArg Option.isSome (hR hit.sfciID hnew _ _)
    have hR' : R (done ++ [hit]) s' := by
      intro sfciID hnot
      rw [List.map_append, List.mem_append, not_or] at hnot
      exact hR sfciID hnot.1
    by_cases hauto : modes.isAutoRecovery hit.sfc = true
    · by_cases htask : s.rTM.hasRecoveryTask hit.sfc.sfcUUID hit.sfciID
          hit.recoveryTaskType = true
      · refine Or.inr ⟨⟨hauto, htask⟩, ?_⟩
        rw [handleAffected, if_pos hauto, PyM.run_bind_get, hhas, if_pos htask]
        exact ⟨_, _, rfl⟩
      · refine Or.inl ?_
        rw [handleAffected, if_pos hauto, PyM.run_bind_get, hhas, if_neg htask]
        refine ⟨_, rfl, fun hB => htask hB.2, fun sfciID hnot sfcUUID type => ?_⟩
        rw [List.map_append, List.mem_append, not_or] at hnot
        have hne : sfciID ≠ hit.sfciID := fun h =>
          hnot.2 (h ▸ List.mem_cons_self)
        rw [← hR sfciID hnot.1 sfcUUID type]
        exact RecoveryTaskMaintainer.task?_put _ |>.trans
          (if_neg fun h => hne h.2.2)
    · refine Or.inl ⟨s', ?_, fun hB => hauto hB.1, hR'⟩
      rw [handleAffected, if_neg hauto]
      rfl

end Notice

/-- All notices of a run are handled as they should exactly if none of them hits
an SFCI that has a running task or a task of the same type. -/
theorem keepsHits_iff_hitsNoneRecovering {τ : List (SFCRestorer × Input)}
    {last : SFCRestorer} (h : (machine modes).Run τ last) :
    KeepsHits modes τ last ↔ HitsNoneRecovering modes τ := by
  constructor
  · intro hkeeps s hits hmem hit hhit hauto
    obtain ⟨before, after, rfl⟩ := List.append_of_mem hmem
    obtain ⟨hquiet, hkept⟩ := hkeeps before s hits after rfl
    have hnodup : (hits.map AffectedSFCI.sfciID).Nodup :=
      (h.admits_of_mem hmem).2.1
    constructor
    · intro hrecovering
      obtain ⟨s', hs', task, htask⟩ :=
        (hkept hit hhit hauto hrecovering).isWaiting
      -- but nothing ever waits
      have hreachable : (machine modes).Reachable s' := by
        obtain rfl | ⟨i, hi⟩ := hs'
        · exact h.reachable
        · refine h.reachable_of_mem (e := (s', i)) ?_
          exact List.mem_append_right _ (List.mem_cons_of_mem _ hi)
      rw [noWaiting_of_reachable hreachable] at htask
      cases htask
    · rw [← Bool.not_eq_true]
      intro htask
      have hraises := (raises_handleDetectionDict hnodup s).mpr
        ⟨hit, hhit, hauto, htask⟩
      rw [hquiet] at hraises
      cases hraises
  · rintro hnone before s hits after rfl
    have hmem : (s, Input.notice hits) ∈
        before ++ (s, .notice hits) :: after :=
      List.mem_append_right _ List.mem_cons_self
    refine ⟨?_, fun hit hhit hauto hrecovering => ?_⟩
    · have hnodup : (hits.map AffectedSFCI.sfciID).Nodup :=
        (h.admits_of_mem hmem).2.1
      rw [← Bool.not_eq_true, raises_handleDetectionDict hnodup]
      rintro ⟨hit, hhit, hauto, htask⟩
      rw [(hnone s hits hmem hit hhit hauto).2] at htask
      cases htask
    · exact absurd hrecovering (hnone s hits hmem hit hhit hauto).1

def oneNotice : List Input :=
  [.notice [exampleHit .sfci 0, exampleHit .sfci 1]]

theorem arrive_oneNotice :
    (machine exampleModes).Arrive exampleStart oneNotice := by
  refine ⟨admits_exampleNotice (by decide) ?_ rfl rfl, trivial⟩
  intro hit hhit
  simp only [List.mem_cons, List.not_mem_nil, or_false] at hhit
  obtain rfl | rfl := hhit
  · exact ⟨.sfci, 0, by decide, rfl⟩
  · exact ⟨.sfci, 1, by decide, rfl⟩

/-- The tasks of both SFCIs time out, and then a notice says that the classifier
was hit. -/
def hitAfterTimeOut : List Input :=
  oneNotice ++ [.time (RECOVERY_TASK_TIMEOUT + 1), .startPass, .task, .task,
    .notice [exampleHit .sfc 0]]

theorem keepsHits_iff_hitsNoneRecovering_hitAfterTimeOut :
    KeepsHits exampleModes
      ((machine exampleModes).trace exampleStart hitAfterTimeOut)
      (hitAfterTimeOut.foldl (machine exampleModes).step exampleStart) := by
  have harrive : (machine exampleModes).Arrive exampleStart hitAfterTimeOut := by
    refine ⟨arrive_oneNotice.1, Nat.zero_le _, rfl, trivial, trivial,
      admits_exampleNotice (by decide) ?_ rfl rfl, trivial⟩
    intro hit hhit
    exact ⟨.sfc, 0, by decide, List.mem_singleton.mp hhit⟩
  refine (keepsHits_iff_hitsNoneRecovering
    (run_exampleStart.arrive harrive)).mpr ?_
  intro s hits hmem hit hhit _
  simp only [hitAfterTimeOut, oneNotice, List.cons_append, List.nil_append,
    Machine.trace, List.nil_append, List.mem_cons, List.not_mem_nil, or_false,
    Prod.mk.injEq, reduceCtorEq, and_false, false_or, Input.notice.injEq] at hmem
  obtain ⟨rfl, rfl⟩ | ⟨rfl, rfl⟩ := hmem
  · refine ⟨?_, ?_⟩
    · rintro ⟨recoveryTaskType, task, htask, -⟩
      cases htask
    · rfl
  · obtain rfl := List.mem_singleton.mp hhit
    refine ⟨?_, rfl⟩
    -- the one task of the SFCI has failed
    rintro ⟨recoveryTaskType, task, htask, hruns⟩
    cases recoveryTaskType with
    | sfc => cases htask
    | sfci =>
        cases htask
        exact hruns rfl

/-- A second notice names the first SFCI once more. -/
theorem second_notice_aborted :
    ¬ ∀ (modes : SFCModes) (τ : List (SFCRestorer × Input)) (last : SFCRestorer),
      (machine modes).Run τ last → KeepsHits modes τ last := by
  intro h
  have hfirst := run_exampleStart.arrive arrive_oneNotice
  have hsecond := Machine.Run.step hfirst (i := .notice [exampleHit .sfci 0]) ?_
  · obtain ⟨hraises, -⟩ := h exampleModes _ _ hsecond _ _ _ [] rfl
    exact absurd hraises (by decide)
  · refine admits_exampleNotice (by decide) ?_ rfl rfl
    intro hit hhit
    exact ⟨.sfci, 0, by decide, List.mem_singleton.mp hhit⟩

end SelfAdaptiveMano.Regulator.SFCRestorer

import SelfAdaptiveMano.Mediator.LifeInvariant

/-!
# The lives the Mediator can lead

A life begins as `Life.born` and goes on by the first answers of children that
were sent (`Lived`). Three facts are carried along: the history agrees with the
children, only the child of an `ADD_SFCI` for the VNF controller ever waits, and
everything the Mediator sent was warranted when it was sent.
-/

namespace SelfAdaptiveMano

open Library Mediator

namespace Life

/-- The lives the Mediator can lead, when the controller of a child gives the
replies `answers`. -/
inductive Lived (answers : MsgType → Command → CommandReply → Prop) :
    Life → Prop where
  | born (classifierType : ClassifierType) (clock : Nat) (cmd : Command) :
      Lived answers (born classifierType clock cmd)
  | answer {l : Life} {n : MsgType} {k : Kid} {cmdRply : CommandReply} :
      Lived answers l → l.stored → l.kids.get? n = some k →
      k.state ≠ .waiting → k.cmdReply = none →
      (cmdRply.cmdState = .successful ∨ cmdRply.cmdState = .fail) →
      cmdRply.cmdID = k.cmd.cmdID → answers n k.cmd cmdRply →
      Lived answers (l.answer n k cmdRply)

variable {answers : MsgType → Command → CommandReply → Prop}

theorem Lived.sound {l : Life} (h : Lived answers l) : l.Sound := by
  induction h with
  | born classifierType clock cmd => exact .born classifierType clock cmd
  | answer _ _ hk hs hr hfin hid _ ih => exact ih.answer hk hs hr hfin hid

theorem get?_register (l : Life) (clock : Nat) {n : MsgType}
    {queue : Option String} {items : List (MsgType × Option String)}
    (hn : (n, queue) ∈ items) (hnodup : (items.map Prod.fst).Nodup) :
    ∃ id, (l.register clock items).kids.get? n =
      some ⟨{ l.cmd with cmdID := id },
        if queue.isSome then .processing else .waiting, none⟩ := by
  induction items generalizing l clock with
  | nil => simp at hn
  | cons e items ih =>
      rw [List.map_cons, List.nodup_cons] at hnodup
      rcases List.mem_cons.mp hn with rfl | hn'
      · rcases queue with _ | queue
        · refine ⟨⟨generator, clock⟩, ?_⟩
          rw [register, get?_register_of_not_mem _ _ hnodup.1, get?_prepare,
            if_pos rfl]
          rfl
        · refine ⟨⟨generator, clock⟩, ?_⟩
          rw [register, get?_register_of_not_mem _ _ hnodup.1, get?_dispatch,
            if_pos rfl]
          rfl
      · rcases e with ⟨name, queue' | queue'⟩
        · exact ih (l.prepare name ⟨generator, clock⟩) (clock + 1) hn' hnodup.2
        · exact ih (l.dispatch name queue' ⟨generator, clock⟩) (clock + 1) hn'
            hnodup.2

theorem mem_of_get?_register {cmd : Command} {clock : Nat} {n : MsgType}
    {k : Kid} {items : List (MsgType × Option String)}
    (hk : ((start cmd).register clock items).kids.get? n = some k) :
    ∃ queue, (n, queue) ∈ items := by
  by_contra hn
  have hn' : n ∉ items.map Prod.fst := by
    intro hmem
    rcases List.mem_map.mp hmem with ⟨⟨n', queue⟩, he, rfl⟩
    exact hn ⟨queue, he⟩
  rw [get?_register_of_not_mem _ _ hn'] at hk
  simp [start] at hk

/-- The only children that are not sent at once. -/
theorem plan_unsent {classifierType : ClassifierType} {cmd : Command}
    {items : List (MsgType × Option String)} {n : MsgType}
    (hplan : plan classifierType cmd = some items) (hn : (n, none) ∈ items) :
    n = .vnfControllerCmd ∧ cmd.cmdType = .addSFCI ∧
      cmd.attributes.zone.isSome ∧
      ∃ queue, (.sffControllerCmd, some queue) ∈ items := by
  cases hz : cmd.attributes.zone with
  | none =>
      simp only [plan, hz, Option.some.injEq] at hplan
      simp [← hplan] at hn
  | some zone =>
      cases zone <;> cases ht : cmd.cmdType <;> cases classifierType <;>
        simp only [plan, hz, ht, Option.some.injEq, reduceCtorEq] at hplan <;>
        simp [← hplan, inZone, classifierItem] at hn <;>
        simp [← hplan, hn, inZone, classifierItem]

/-- The child of an `ADD_SFCI` for the VNF controller is not sent at once. -/
theorem plan_vnf {classifierType : ClassifierType} {cmd : Command}
    {items : List (MsgType × Option String)} {queue : String}
    (hplan : plan classifierType cmd = some items)
    (ht : cmd.cmdType = .addSFCI) :
    (.vnfControllerCmd, some queue) ∉ items := by
  cases hz : cmd.attributes.zone with
  | none =>
      simp only [plan, hz, Option.some.injEq] at hplan
      simp [← hplan]
  | some zone =>
      cases zone <;> cases classifierType <;>
        simp only [plan, hz, ht, Option.some.injEq] at hplan <;>
        simp [← hplan, inZone, classifierItem]

/-- Only the child of an `ADD_SFCI` for the VNF controller waits, and it waits
for the SFF controller. -/
def Staged (l : Life) : Prop :=
  ∀ n k, l.kids.get? n = some k → k.state = .waiting →
    n = .vnfControllerCmd ∧ l.cmd.cmdType = .addSFCI ∧
      l.cmd.attributes.zone.isSome ∧
      ∃ sff, l.kids.get? .sffControllerCmd = some sff

theorem staged_born (classifierType : ClassifierType) (clock : Nat)
    (cmd : Command) : (Life.born classifierType clock cmd).Staged := by
  intro n k hk hw
  rw [Life.born] at hk ⊢
  cases hplan : plan classifierType cmd with
  | none => simp [hplan, start] at hk
  | some items =>
      simp only [hplan] at hk ⊢
      have hnodup := Represents.plan_nodup hplan
      rcases mem_of_get?_register hk with ⟨queue | queue, hn⟩
      · rcases plan_unsent hplan hn with ⟨hvnf, ht, hz, queue, hsff⟩
        rcases get?_register (start cmd) clock hsff hnodup with
          ⟨id, hsff⟩
        rw [register_cmd]
        exact ⟨hvnf, ht, hz, _, hsff⟩
      · rcases get?_register (start cmd) clock hn hnodup with
          ⟨id, hk'⟩
        rw [hk] at hk'
        cases hk'
        simp at hw

/-- Settling a life only moves a waiting child on. -/
theorem settle_kid {l : Life} {state : CmdState} {n : MsgType} {k : Kid}
    (hk : (l.settle state).kids.get? n = some k) :
    l.kids.get? n = some k ∨
      ∃ vnf zone, l.dueVnf = some (vnf, zone) ∧ n = .vnfControllerCmd ∧
        k = { vnf.fromUnknown with state := .processing } := by
  have h := l.settles state
  generalize l.settle state = l' at h hk
  cases h with
  | stuck _ => exact .inl hk
  | replied _ _ _ =>
      rw [retire_kids] at hk
      exact .inl hk
  | silent _ _ _ =>
      rw [retire_kids] at hk
      exact .inl hk
  | forwarded _ _ _ _ =>
      rw [sendVnf] at hk
      cases hdue : l.dueVnf with
      | none =>
          rw [hdue] at hk
          exact .inl hk
      | some due =>
          rw [hdue] at hk
          simp only [send_setKid, get?_send] at hk
          split at hk
          · next hn =>
              cases hk
              exact .inr ⟨due.1, due.2, rfl, hn, rfl⟩
          · exact .inl hk

theorem settle_keeps {l : Life} (state : CmdState) {n : MsgType} {k : Kid}
    (hk : l.kids.get? n = some k) :
    ∃ k', (l.settle state).kids.get? n = some k' := by
  have h := l.settles state
  generalize l.settle state = l' at h
  cases h with
  | stuck _ => exact ⟨k, hk⟩
  | replied _ _ _ => exact ⟨k, by rw [retire_kids]; exact hk⟩
  | silent _ _ _ => exact ⟨k, by rw [retire_kids]; exact hk⟩
  | forwarded _ _ _ _ =>
      rw [sendVnf]
      cases hdue : l.dueVnf with
      | none => exact ⟨k, hk⟩
      | some due =>
          simp only [send_setKid, get?_send]
          by_cases hn : n = .vnfControllerCmd
          · exact ⟨_, if_pos hn⟩
          · exact ⟨k, by rw [if_neg hn, hk]⟩

theorem Staged.hear {l : Life} (h : l.Staged) {n : MsgType} {k : Kid}
    {cmdRply : CommandReply}
    (hfin : cmdRply.cmdState = .successful ∨ cmdRply.cmdState = .fail) :
    (l.hear n k cmdRply).Staged := by
  intro n₁ k₁ hk₁ hw
  rw [get?_hear] at hk₁
  split at hk₁
  · cases hk₁
    rcases hfin with hfin | hfin <;> simp [hfin] at hw
  · rcases h n₁ k₁ hk₁ hw with ⟨hn, ht, hz, sff, hsff⟩
    refine ⟨hn, ht, hz, ?_⟩
    by_cases hn' : MsgType.sffControllerCmd = n
    · exact ⟨_, by rw [get?_hear, if_pos hn']⟩
    · exact ⟨sff, by rw [get?_hear, if_neg hn', hsff]⟩

theorem Staged.settle {l : Life} (h : l.Staged) (state : CmdState) :
    (l.settle state).Staged := by
  intro n k hk hw
  rw [settle_cmd]
  rcases settle_kid hk with hk | ⟨vnf, zone, -, -, rfl⟩
  · rcases h n k hk hw with ⟨hn, ht, hz, sff, hsff⟩
    exact ⟨hn, ht, hz, settle_keeps state hsff⟩
  · cases hw

theorem Lived.staged {l : Life} (h : Lived answers l) : l.Staged := by
  induction h with
  | born classifierType clock cmd =>
      exact staged_born classifierType clock cmd
  | answer _ _ _ _ _ hfin _ _ ih => exact (ih.hear hfin).settle _

theorem eq_of_count_fail {l : Life} {n n' : MsgType} {k k' : Kid}
    (hone : (l.kids.items.map fun e => e.2.state).count .fail = 1)
    (hk : l.kids.get? n = some k) (hk' : l.kids.get? n' = some k')
    (hf : k.state = .fail) (hf' : k'.state = .fail) : n = n' := by
  rw [List.count, List.countP_map, List.countP_eq_length_filter,
    List.length_eq_one_iff] at hone
  rcases hone with ⟨e, he⟩
  have hmem : (n, k) ∈ [e] := by
    rw [← he, List.mem_filter]
    exact ⟨Dict.mem_items_iff.mpr hk, by simp [hf]⟩
  have hmem' : (n', k') ∈ [e] := by
    rw [← he, List.mem_filter]
    exact ⟨Dict.mem_items_iff.mpr hk', by simp [hf']⟩
  rw [List.mem_singleton] at hmem hmem'
  exact congrArg Prod.fst (hmem.trans hmem'.symm)

theorem Sound.unanswered {l : Life} (h : l.Sound) {n : MsgType} {k : Kid}
    (hk : l.kids.get? n = some k) (hr : k.cmdReply = none) :
    k.state ≠ .successful ∧ k.state ≠ .fail := by
  rcases h.kid hk with ⟨-, hst⟩ | ⟨cmdRply, hsome, -⟩
  · rcases hst with hst | hst <;> simp [hst]
  · simp [hr] at hsome

theorem Sound.answered_of_state {l : Life} (h : l.Sound) {n : MsgType} {k : Kid}
    (hk : l.kids.get? n = some k)
    (hst : k.state = .successful ∨ k.state = .fail) :
    ∃ a, .answered a ∈ l.history ∧ a.cmdID = k.cmd.cmdID ∧
      a.cmdState = k.state := by
  rcases h.kid hk with ⟨-, hst'⟩ | ⟨a, hsome, hsame, -, hid⟩
  · rcases hst' with hst' | hst' <;> rcases hst with hst | hst <;>
      simp [hst'] at hst
  · exact ⟨a, h.answered.mpr ⟨n, k, hk, hsome⟩, hid, hsame.symm⟩

/-- Once the parent was replied to, all children have succeeded or one has
failed. -/
def Replied (l : Life) : Prop :=
  Unreplied l.history ∨ l.allKids (· == .successful) ∨ l.anyKid (· == .fail)

theorem Replied.of_unanswered {l : Life} (h : l.Replied) (hsound : l.Sound)
    {n : MsgType} {k : Kid} (hk : l.kids.get? n = some k)
    (hr : k.cmdReply = none) :
    Unreplied l.history ∨ ∃ n' k', n' ≠ n ∧ l.kids.get? n' = some k' ∧
      k'.state = .fail := by
  have hk' := hsound.unanswered hk hr
  rcases h with h | h | h
  · exact .inl h
  · have := allKids_iff.mp h n k hk
    exact absurd (beq_iff_eq.mp this) hk'.1
  · rcases anyKid_iff.mp h with ⟨n', k', hget, hf⟩
    rw [beq_iff_eq] at hf
    refine .inr ⟨n', k', ?_, hget, hf⟩
    rintro rfl
    rw [hk] at hget
    cases hget
    exact hk'.2 hf

theorem Unreplied.append_singleton {history : List Happening}
    (h : Unreplied history) {what : Happening}
    (hwhat : ∀ queue msgType cmdRply,
      what ≠ .sent queue ⟨msgType, .commandReply cmdRply⟩) :
    Unreplied (history ++ [what]) := by
  intro queue msgType cmdRply hmem
  rw [List.mem_append, List.mem_singleton] at hmem
  rcases hmem with hmem | hmem
  · exact h queue msgType cmdRply hmem
  · exact hwhat queue msgType cmdRply hmem.symm

theorem unreplied_prepare {l : Life} (h : Unreplied l.history) (n : MsgType)
    (id : UUID) : Unreplied (l.prepare n id).history :=
  h.append_singleton (by simp)

theorem unreplied_dispatch {l : Life} (h : Unreplied l.history) (n : MsgType)
    (queue : String) (id : UUID) : Unreplied (l.dispatch n queue id).history :=
  (unreplied_prepare h n id).append_singleton (by simp)

theorem unreplied_register {l : Life} (h : Unreplied l.history) (clock : Nat)
    (items : List (MsgType × Option String)) :
    Unreplied (l.register clock items).history := by
  induction items generalizing l clock with
  | nil => exact h
  | cons e items ih =>
      rcases e with ⟨n, queue | queue⟩
      · exact ih (unreplied_prepare h _ _) _
      · exact ih (unreplied_dispatch h _ _ _) _

theorem unreplied_born (classifierType : ClassifierType) (clock : Nat)
    (cmd : Command) :
    Unreplied (Life.born classifierType clock cmd).history := by
  have hstart : Unreplied (start cmd).history := by
    intro queue msgType cmdRply hmem
    simp [start] at hmem
  rw [Life.born]
  cases plan classifierType cmd with
  | none => exact hstart
  | some items => exact unreplied_register hstart clock items

theorem justified_register {l : Life} (h : Justified (Warranted l.cmd) l.history)
    (hu : Unreplied l.history) (clock : Nat)
    {items : List (MsgType × Option String)}
    (hvnf : l.cmd.cmdType = .addSFCI →
      ∀ queue, (.vnfControllerCmd, some queue) ∉ items) :
    Justified (Warranted l.cmd) (l.register clock items).history := by
  induction items generalizing l clock with
  | nil => exact h
  | cons e items ih =>
      have hvnf' : l.cmd.cmdType = .addSFCI →
          ∀ queue, (.vnfControllerCmd, some queue) ∉ items :=
        fun ht queue hmem => hvnf ht queue (List.mem_cons_of_mem e hmem)
      have hprep (n : MsgType) (id : UUID) :
          Justified (Warranted l.cmd) (l.prepare n id).history :=
        justified_append_singleton.mpr ⟨h, hu⟩
      rcases e with ⟨n, queue | queue⟩
      · have := ih (hprep n ⟨generator, clock⟩) (unreplied_prepare hu n _)
          (clock + 1) hvnf'
        exact this
      · have hdis : Justified (Warranted l.cmd)
            (l.dispatch n queue ⟨generator, clock⟩).history := by
          refine justified_append_singleton.mpr ⟨hprep n _, ?_⟩
          rintro ht rfl
          exact absurd List.mem_cons_self (hvnf ht queue)
        have := ih hdis (unreplied_dispatch hu n queue _) (clock + 1) hvnf'
        exact this

theorem justified_born (classifierType : ClassifierType) (clock : Nat)
    (cmd : Command) :
    Justified (Warranted cmd) (Life.born classifierType clock cmd).history := by
  have hstart : Justified (Warranted cmd) (start cmd).history :=
    justified_append_singleton (l := []).mpr ⟨justified_nil _, trivial⟩
  have hu : Unreplied (start cmd).history := by
    intro queue msgType cmdRply hmem
    simp [start] at hmem
  rw [Life.born]
  cases hplan : plan classifierType cmd with
  | none => exact hstart
  | some items =>
      exact justified_register (l := start cmd) hstart hu clock
        fun ht queue => plan_vnf hplan ht

/-- A verdict on a life in which `k` has just answered says that nothing was
replied before. -/
theorem unreplied_of_verdict {l : Life} (hsound : l.Sound) (hrep : l.Replied)
    {n : MsgType} {k : Kid} {cmdRply : CommandReply} {verdict : CmdState}
    (hk : l.kids.get? n = some k) (hr : k.cmdReply = none)
    (hv : (l.hear n k cmdRply).verdict cmdRply.cmdState = some verdict) :
    Unreplied l.history := by
  rcases hrep.of_unanswered hsound hk hr with hu | ⟨n', k', hn, hk', hf⟩
  · exact hu
  · have hget : (l.hear n k cmdRply).kids.get? n' = some k' := by
      rw [get?_hear, if_neg hn, hk']
    rcases verdict_eq_some hv with ⟨-, hall⟩ | ⟨-, hfail, hone⟩
    · have := beq_iff_eq.mp (allKids_iff.mp hall n' k' hget)
      rw [hf] at this
      cases this
    · have hgetn : (l.hear n k cmdRply).kids.get? n = some { k with
          state := cmdRply.cmdState, cmdReply := some cmdRply } := by
        rw [get?_hear, if_pos rfl]
      exact absurd (eq_of_count_fail hone hget hgetn hf hfail) hn

theorem reply?_eq_some {l : Life} {state : CmdState} {rply : CommandReply}
    (h : l.reply? state = some rply) :
    rply.cmdID = l.cmd.cmdID ∧ rply.cmdState = state := by
  rw [Life.reply?] at h
  split at h
  · split at h
    · cases h
      exact ⟨rfl, rfl⟩
    · cases h
  · cases h

theorem warranted_reply {l : Life} (hsound : l.Sound) (hrep : l.Replied)
    {n : MsgType} {k : Kid} {cmdRply rply : CommandReply} {dst : String}
    {verdict : CmdState} (hk : l.kids.get? n = some k)
    (hs : k.state ≠ .waiting) (hr : k.cmdReply = none)
    (hfin : cmdRply.cmdState = .successful ∨ cmdRply.cmdState = .fail)
    (hid : cmdRply.cmdID = k.cmd.cmdID)
    (hv : (l.hear n k cmdRply).verdict cmdRply.cmdState = some verdict)
    (hrply : (l.hear n k cmdRply).reply? verdict = some rply) :
    Warranted l.cmd (l.hear n k cmdRply).history
      (.sent dst ⟨.mediatorCmdReply, .commandReply rply⟩) := by
  have hsound₁ := hsound.hear hk hs hr hfin hid
  rcases reply?_eq_some hrply with ⟨hrid, hrst⟩
  have hu := unreplied_of_verdict hsound hrep hk hr hv
  refine ⟨hu.append_singleton (by simp), hrid, ?_⟩
  rcases verdict_eq_some hv with ⟨hsucc, hall⟩ | ⟨hfail, hfail', -⟩
  · left
    refine ⟨hrst.trans hsucc, ?_⟩
    intro n' id hprep
    rcases hsound₁.prepared.mp hprep with ⟨k', hk', hid'⟩
    have hst := beq_iff_eq.mp (allKids_iff.mp hall n' k' hk')
    rcases hsound₁.answered_of_state hk' (.inl hst) with ⟨a, ha, haid, hast⟩
    exact ⟨a, ha, haid.trans hid', hast.trans hst⟩
  · right
    exact ⟨hrst.trans hfail, cmdRply, by simp, hfail'⟩

/-- Sending the child of an `ADD_SFCI` to the VNF controller is warranted. -/
theorem warranted_vnf {l : Life} (hsound : l.Sound) {vnf : Kid} {zone : Zone}
    {queue : String} {cCmd : Command}
    (hfail : ¬ l.anyKid (· == .fail)) (hdue : l.dueVnf = some (vnf, zone)) :
    Warranted l.cmd l.history
      (.sent queue ⟨.vnfControllerCmd, .command cCmd⟩) := by
  rcases dueVnf_eq_some_iff.mp hdue with ⟨-, hsff, hvnf, -, hw⟩
  rcases sffSuccessful_iff.mp hsff with ⟨sff, hksff, hst⟩
  intro _ _
  refine ⟨?_, ?_, ?_⟩
  · intro queue' cCmd' hmem
    rcases hsound.sent.mp ⟨queue', hmem⟩ with ⟨k, hk, -, hk'⟩
    rw [hvnf] at hk
    cases hk
    exact hk' hw
  · rcases hsound.answered_of_state hksff (.inl hst) with ⟨a, ha, haid, hast⟩
    exact ⟨a, hsound.prepared.mpr ⟨sff, hksff, haid.symm⟩, ha, hast.trans hst⟩
  · intro a ha hast
    rcases hsound.answered.mp ha with ⟨n, k, hk, hka⟩
    rcases hsound.kid hk with ⟨hnone, -⟩ | ⟨a', ha', hkst, -, -⟩
    · simp [hnone] at hka
    · rw [hka] at ha'
      cases ha'
      refine hfail (anyKid_iff.mpr ⟨n, k, hk, ?_⟩)
      rw [beq_iff_eq, hkst, hast]

theorem Lived.replied {l : Life} (h : Lived answers l) : l.Replied := by
  induction h with
  | born classifierType clock cmd =>
      exact .inl (unreplied_born classifierType clock cmd)
  | @answer l n k cmdRply hl _ hk hs hr hfin hid _ ih =>
      have hgetn : (l.hear n k cmdRply).kids.get? n = some { k with
          state := cmdRply.cmdState, cmdReply := some cmdRply } := by
        rw [get?_hear, if_pos rfl]
      -- without a reply now, one sent before leaves a failure behind
      have hkeep : Unreplied (l.hear n k cmdRply).history ∨
          (l.hear n k cmdRply).anyKid (· == .fail) := by
        rcases ih.of_unanswered hl.sound hk hr with hu | ⟨n', k', hn, hk', hf⟩
        · exact .inl (hu.append_singleton (by simp))
        · refine .inr (anyKid_iff.mpr ⟨n', k', ?_, by simp [hf]⟩)
          rw [get?_hear, if_neg hn, hk']
      rw [Life.answer]
      have hset := (l.hear n k cmdRply).settles cmdRply.cmdState
      generalize (l.hear n k cmdRply).settle cmdRply.cmdState = l' at hset
      cases hset with
      | stuck _ => exact hkeep.imp_right .inr
      | silent _ _ _ =>
          rw [Replied, retire_history, allKids, anyKid, retire_kids]
          exact hkeep.imp_right .inr
      | replied hsrc hv hrply =>
          rw [Replied, allKids, anyKid, retire_kids]
          right
          rcases verdict_eq_some hv with ⟨-, hall⟩ | ⟨-, hfail, -⟩
          · exact .inl hall
          · have hany : (l.hear n k cmdRply).anyKid (· == .fail) :=
              anyKid_iff.mpr ⟨n, _, hgetn, by simp [hfail]⟩
            exact .inr hany
      | forwarded _ _ hfail _ =>
          have hu := hkeep.resolve_right hfail
          left
          rw [sendVnf]
          split
          · exact hu.append_singleton (by simp)
          · exact hu

/-- Whatever the Mediator sent about a command was warranted at that moment. -/
theorem Lived.justified {l : Life} (h : Lived answers l) :
    Justified (Warranted l.cmd) l.history := by
  induction h with
  | born classifierType clock cmd =>
      rw [born_cmd]
      exact justified_born classifierType clock cmd
  | @answer l n k cmdRply hl _ hk hs hr hfin hid _ ih =>
      rw [answer_cmd, Life.answer]
      have hsound := hl.sound.hear hk hs hr hfin hid
      have hhear : Justified (Warranted l.cmd) (l.hear n k cmdRply).history :=
        justified_append_singleton.mpr ⟨ih, trivial⟩
      have hset := (l.hear n k cmdRply).settles cmdRply.cmdState
      generalize (l.hear n k cmdRply).settle cmdRply.cmdState = l' at hset
      cases hset with
      | stuck _ => exact hhear
      | silent _ _ _ =>
          rw [retire_history]
          exact hhear
      | replied hsrc hv hrply =>
          rw [retire_history]
          refine justified_append_singleton.mpr ⟨hhear, ?_⟩
          exact warranted_reply hl.sound hl.replied hk hs hr hfin hid hv hrply
      | forwarded _ _ hfail _ =>
          rw [sendVnf]
          cases hdue : (l.hear n k cmdRply).dueVnf with
          | none => exact hhear
          | some due =>
              refine justified_append_singleton.mpr ⟨hhear, ?_⟩
              exact warranted_vnf hsound hfail hdue

end Life

end SelfAdaptiveMano

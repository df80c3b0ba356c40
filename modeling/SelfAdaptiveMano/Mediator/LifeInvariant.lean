import SelfAdaptiveMano.Mediator.Answer
import SelfAdaptiveMano.Library.Log

/-!
# What holds of every life

The history of a life says what its children say: a child was prepared under
its name, it was sent unless it is still waiting, and it was answered with the
reply it holds (`Sound`). What settling a life can amount to is said once, in
`Settles`, and `Warranted` says what must have happened before the Mediator
sends something.
-/

namespace SelfAdaptiveMano

open Library Mediator

structure Life.Sound (l : Life) : Prop where
  kid : ∀ {n k}, l.kids.get? n = some k →
    (k.cmdReply = none ∧ (k.state = .waiting ∨ k.state = .processing)) ∨
      ∃ cmdRply, k.cmdReply = some cmdRply ∧ k.state = cmdRply.cmdState ∧
        (cmdRply.cmdState = .successful ∨ cmdRply.cmdState = .fail) ∧
        cmdRply.cmdID = k.cmd.cmdID
  received : ∀ {cmd}, .received cmd ∈ l.history ↔ cmd = l.cmd
  prepared : ∀ {n id}, .prepared n id ∈ l.history ↔
    ∃ k, l.kids.get? n = some k ∧ k.cmd.cmdID = id
  sent : ∀ {n cCmd}, (∃ queue, .sent queue ⟨n, .command cCmd⟩ ∈ l.history) ↔
    ∃ k, l.kids.get? n = some k ∧ k.cmd = cCmd ∧ k.state ≠ .waiting
  answered : ∀ {cmdRply}, .answered cmdRply ∈ l.history ↔
    ∃ n k, l.kids.get? n = some k ∧ k.cmdReply = some cmdRply

namespace Life

theorem allKids_iff {l : Life} {test : CmdState → Bool} :
    l.allKids test ↔ ∀ n k, l.kids.get? n = some k → test k.state := by
  simp only [allKids, List.all_eq_true, Prod.forall, Dict.mem_items_iff]

theorem anyKid_iff {l : Life} {test : CmdState → Bool} :
    l.anyKid test ↔ ∃ n k, l.kids.get? n = some k ∧ test k.state := by
  simp only [anyKid, List.any_eq_true, Prod.exists, Dict.mem_items_iff]

theorem send_setKid (l : Life) (n : MsgType) (k : Kid) (queue : String) :
    (l.setKid n k).send n k queue = l.send n k queue := by
  simp only [send, setKid, log, Dict.set_set]

namespace Sound

theorem congr {l l' : Life} (h : l.Sound) (hcmd : l'.cmd = l.cmd)
    (hkids : l'.kids = l.kids) (hhist : l'.history = l.history) :
    l'.Sound := by
  constructor
  · intro n k hk
    exact h.kid (hkids ▸ hk)
  · intro cmd
    rw [hcmd, hhist, h.received]
  · intro n id
    rw [hkids, hhist, h.prepared]
  · intro n cCmd
    rw [hkids, hhist, h.sent]
  · intro cmdRply
    rw [hkids, hhist, h.answered]

theorem cmdReply_of_waiting {l : Life} (h : l.Sound) {n : MsgType} {k : Kid}
    (hk : l.kids.get? n = some k) (hw : k.state = .waiting) :
    k.cmdReply = none := by
  rcases h.kid hk with ⟨hnone, -⟩ | ⟨cmdRply, -, hst, hfin, -⟩
  · exact hnone
  · rw [hw] at hst
    rcases hfin with hfin | hfin <;> simp [← hst] at hfin

theorem start (cmd : Command) : (start cmd).Sound := by
  constructor <;> simp [Life.start]

theorem prepare {l : Life} (h : l.Sound) {n : MsgType}
    (hn : l.kids.get? n = none) (id : UUID) : (l.prepare n id).Sound := by
  have hget := l.get?_prepare n
  have hne : ∀ {n' k}, l.kids.get? n' = some k → n' ≠ n := by
    rintro n' k hk rfl
    simp [hn] at hk
  constructor
  · intro n' k hk
    rw [hget] at hk
    split at hk
    · cases hk
      exact .inl ⟨rfl, .inl rfl⟩
    · exact h.kid hk
  · intro cmd
    simp [Life.prepare, log, setKid, h.received]
  · intro n' id'
    have hhist : .prepared n' id' ∈ (l.prepare n id).history ↔
        .prepared n' id' ∈ l.history ∨ (n' = n ∧ id' = id) := by
      simp [Life.prepare, log, setKid]
    rw [hhist, h.prepared, hget]
    constructor
    · rintro (⟨k, hk, hid⟩ | ⟨rfl, rfl⟩)
      · exact ⟨k, by rw [if_neg (hne hk), hk], hid⟩
      · exact ⟨l.newKid id', by rw [if_pos rfl], rfl⟩
    · rintro ⟨k, hk, hid⟩
      split at hk
      · next hn' => cases hk; exact .inr ⟨hn', hid.symm⟩
      · exact .inl ⟨k, hk, hid⟩
  · intro n' cCmd
    have hhist : (∃ queue, .sent queue ⟨n', .command cCmd⟩ ∈
        (l.prepare n id).history) ↔
          ∃ queue, .sent queue ⟨n', .command cCmd⟩ ∈ l.history := by
      simp [Life.prepare, log, setKid]
    rw [hhist, h.sent, hget]
    constructor
    · rintro ⟨k, hk, hc, hs⟩
      exact ⟨k, by rw [if_neg (hne hk), hk], hc, hs⟩
    · rintro ⟨k, hk, hc, hs⟩
      split at hk
      · cases hk
        exact absurd rfl hs
      · exact ⟨k, hk, hc, hs⟩
  · intro cmdRply
    have hhist : .answered cmdRply ∈ (l.prepare n id).history ↔
        .answered cmdRply ∈ l.history := by
      simp [Life.prepare, log, setKid]
    rw [hhist, h.answered]
    constructor
    · rintro ⟨n', k, hk, hr⟩
      exact ⟨n', k, by rw [hget, if_neg (hne hk), hk], hr⟩
    · rintro ⟨n', k, hk, hr⟩
      rw [hget] at hk
      split at hk
      · cases hk
        simp [newKid] at hr
      · exact ⟨n', k, hk, hr⟩

theorem send {l : Life} (h : l.Sound) {n : MsgType} {k k' : Kid}
    (hk : l.kids.get? n = some k) (hw : k.state = .waiting)
    (hid : k'.cmd.cmdID = k.cmd.cmdID) (hr : k'.cmdReply = none)
    (queue : String) : (l.send n k' queue).Sound := by
  have hget := fun n₁ => l.get?_send n n₁ k' queue
  have hnone := h.cmdReply_of_waiting hk hw
  constructor
  · intro n₁ k₁ hk₁
    rw [hget] at hk₁
    split at hk₁
    · cases hk₁
      exact .inl ⟨hr, .inr rfl⟩
    · exact h.kid hk₁
  · intro cmd
    simp [Life.send, log, setKid, h.received]
  · intro n₁ id₁
    have hhist : .prepared n₁ id₁ ∈ (l.send n k' queue).history ↔
        .prepared n₁ id₁ ∈ l.history := by
      simp [Life.send, log, setKid]
    rw [hhist, h.prepared, hget]
    by_cases hn₁ : n₁ = n
    · subst hn₁
      simp [hk, hid]
    · simp [hn₁]
  · intro n₁ cCmd
    have hhist : (∃ queue', .sent queue' ⟨n₁, .command cCmd⟩ ∈
        (l.send n k' queue).history) ↔
          (∃ queue', .sent queue' ⟨n₁, .command cCmd⟩ ∈ l.history) ∨
            (n₁ = n ∧ cCmd = k'.cmd) := by
      simp [Life.send, log, setKid, exists_or]
    rw [hhist, h.sent, hget]
    by_cases hn₁ : n₁ = n
    · subst hn₁
      simp [hk, hw, eq_comm]
    · simp [hn₁]
  · intro cmdRply
    have hhist : .answered cmdRply ∈ (l.send n k' queue).history ↔
        .answered cmdRply ∈ l.history := by
      simp [Life.send, log, setKid]
    rw [hhist, h.answered]
    constructor
    · rintro ⟨n₁, k₁, hk₁, hr₁⟩
      refine ⟨n₁, k₁, ?_, hr₁⟩
      have hn₁ : n₁ ≠ n := by
        rintro rfl
        rw [hk] at hk₁
        cases hk₁
        simp [hnone] at hr₁
      rw [hget, if_neg hn₁, hk₁]
    · rintro ⟨n₁, k₁, hk₁, hr₁⟩
      rw [hget] at hk₁
      split at hk₁
      · cases hk₁
        simp [hr] at hr₁
      · exact ⟨n₁, k₁, hk₁, hr₁⟩

theorem dispatch {l : Life} (h : l.Sound) {n : MsgType}
    (hn : l.kids.get? n = none) (queue : String) (id : UUID) :
    (l.dispatch n queue id).Sound :=
  (h.prepare hn id).send (by rw [get?_prepare, if_pos rfl]) rfl rfl rfl queue

theorem register {l : Life} (h : l.Sound) (clock : Nat)
    {items : List (MsgType × Option String)}
    (hn : ∀ e ∈ items, l.kids.get? e.1 = none)
    (hnodup : (items.map Prod.fst).Nodup) :
    (l.register clock items).Sound := by
  induction items generalizing l clock with
  | nil => exact h
  | cons e items ih =>
      rw [List.map_cons, List.nodup_cons] at hnodup
      have hne : ∀ e' ∈ items, e'.1 ≠ e.1 := fun e' he' heq =>
        hnodup.1 (heq ▸ List.mem_map_of_mem he')
      have hn' : ∀ e' ∈ items, l.kids.get? e'.1 = none :=
        fun e' he' => hn e' (List.mem_cons_of_mem e he')
      have hn₀ := hn e List.mem_cons_self
      rcases e with ⟨name, queue | queue⟩
      · refine ih (h.prepare hn₀ _) _ ?_ hnodup.2
        intro e' he'
        rw [get?_prepare, if_neg (hne e' he'), hn' e' he']
      · refine ih (h.dispatch hn₀ queue _) _ ?_ hnodup.2
        intro e' he'
        rw [get?_dispatch, if_neg (hne e' he'), hn' e' he']

theorem born (classifierType : ClassifierType) (clock : Nat) (cmd : Command) :
    (Life.born classifierType clock cmd).Sound := by
  rw [Life.born]
  cases hplan : plan classifierType cmd with
  | none => exact (start cmd).congr rfl rfl rfl
  | some items =>
      exact (start cmd).register clock (fun _ _ => rfl)
        (Represents.plan_nodup hplan)

/-- Storing the answer of a child that was sent. -/
theorem hear {l : Life} (h : l.Sound) {n : MsgType} {k : Kid}
    {cmdRply : CommandReply} (hk : l.kids.get? n = some k)
    (hs : k.state ≠ .waiting) (hr : k.cmdReply = none)
    (hfin : cmdRply.cmdState = .successful ∨ cmdRply.cmdState = .fail)
    (hid : cmdRply.cmdID = k.cmd.cmdID) : (l.hear n k cmdRply).Sound := by
  have hget := fun n₁ => l.get?_hear n n₁ k cmdRply
  have hfin' : cmdRply.cmdState ≠ .waiting := by
    rcases hfin with hfin | hfin <;> simp [hfin]
  constructor
  · intro n₁ k₁ hk₁
    rw [hget] at hk₁
    split at hk₁
    · cases hk₁
      exact .inr ⟨cmdRply, rfl, rfl, hfin, hid⟩
    · exact h.kid hk₁
  · intro cmd
    simp [h.received]
  · intro n₁ id₁
    have hhist : .prepared n₁ id₁ ∈ l.history ++ [.answered cmdRply] ↔
        .prepared n₁ id₁ ∈ l.history := by simp
    rw [hear_history, hhist, h.prepared, hget]
    by_cases hn₁ : n₁ = n
    · subst hn₁
      simp [hk]
    · simp [hn₁]
  · intro n₁ cCmd
    have hhist : (∃ queue, .sent queue ⟨n₁, .command cCmd⟩ ∈
        l.history ++ [.answered cmdRply]) ↔
          ∃ queue, .sent queue ⟨n₁, .command cCmd⟩ ∈ l.history := by simp
    rw [hear_history, hhist, h.sent, hget]
    by_cases hn₁ : n₁ = n
    · subst hn₁
      simp [hk, hs, hfin']
    · simp [hn₁]
  · intro cmdRply₁
    simp only [hear_history, List.mem_append, List.mem_singleton, h.answered,
      Happening.answered.injEq, hget]
    constructor
    · rintro (⟨n₁, k₁, hk₁, hr₁⟩ | rfl)
      · have hn₁ : n₁ ≠ n := by
          rintro rfl
          rw [hk] at hk₁
          cases hk₁
          simp [hr] at hr₁
        exact ⟨n₁, k₁, by rw [if_neg hn₁, hk₁], hr₁⟩
      · exact ⟨n, _, if_pos rfl, rfl⟩
    · rintro ⟨n₁, k₁, hk₁, hr₁⟩
      split at hk₁
      · cases hk₁
        exact .inr (Option.some.inj hr₁).symm
      · exact .inl ⟨n₁, k₁, hk₁, hr₁⟩

theorem reply {l : Life} (h : l.Sound) (dst : String) (msgType : MsgType)
    (cmdRply : CommandReply) :
    (l.log (.sent dst ⟨msgType, .commandReply cmdRply⟩)).Sound := by
  constructor
  · intro n k hk
    exact h.kid hk
  · intro cmd
    simp [log, h.received]
  · intro n id
    simp [log, h.prepared]
  · intro n cCmd
    have hsent : (∃ queue, .sent queue ⟨n, .command cCmd⟩ ∈ l.history) ↔
        ∃ k, l.kids.get? n = some k ∧ k.cmd = cCmd ∧ k.state ≠ .waiting :=
      h.sent
    simpa [log] using hsent
  · intro cmdRply
    simp [log, h.answered]

theorem retire {l : Life} (h : l.Sound) : l.retire.Sound := by
  rw [Life.retire]
  split
  · exact h.congr rfl rfl rfl
  · exact h

theorem sendVnf {l : Life} (h : l.Sound) : l.sendVnf.Sound := by
  rw [Life.sendVnf]
  cases hdue : l.dueVnf with
  | none => exact h
  | some due =>
      rcases due with ⟨vnf, zone⟩
      rcases dueVnf_eq_some_iff.mp hdue with ⟨-, -, hvnf, -, hw⟩
      simp only [send_setKid]
      have hid : vnf.fromUnknown.cmd.cmdID = vnf.cmd.cmdID := rfl
      have hnone := h.cmdReply_of_waiting hvnf hw
      exact h.send hvnf hw hid hnone _

theorem settle {l : Life} (h : l.Sound) (state : CmdState) :
    (l.settle state).Sound := by
  rw [Life.settle]
  split
  · exact h
  · split
    · split
      · exact (h.reply ..).retire
      · exact h
    · split
      · exact h.retire
      · split
        · exact h.sendVnf
        · exact h.retire

theorem answer {l : Life} (h : l.Sound) {n : MsgType} {k : Kid}
    {cmdRply : CommandReply} (hk : l.kids.get? n = some k)
    (hs : k.state ≠ .waiting) (hr : k.cmdReply = none)
    (hfin : cmdRply.cmdState = .successful ∨ cmdRply.cmdState = .fail)
    (hid : cmdRply.cmdID = k.cmd.cmdID) : (l.answer n k cmdRply).Sound :=
  (h.hear hk hs hr hfin hid).settle _

end Sound

inductive Settles (l : Life) (state : CmdState) : Life → Prop where
  /-- A statement raised before the end. -/
  | stuck :
      (l.cmd.attributes.source = none ∨
        ∃ verdict, l.verdict state = some verdict ∧ l.reply? verdict = none) →
      Settles l state l
  | replied {dst : String} {verdict : CmdState} {rply : CommandReply} :
      l.cmd.attributes.source = some dst → l.verdict state = some verdict →
      l.reply? verdict = some rply →
      Settles l state
        (l.log (.sent dst ⟨.mediatorCmdReply, .commandReply rply⟩)).retire
  | forwarded :
      l.cmd.attributes.source ≠ none → l.verdict state = none →
      ¬ l.anyKid (· == .fail) → l.anyKid (· == .waiting) →
      Settles l state l.sendVnf
  | silent :
      l.cmd.attributes.source ≠ none → l.verdict state = none →
      (l.anyKid (· == .fail) ∨ ¬ l.anyKid (· == .waiting)) →
      Settles l state l.retire

theorem settles (l : Life) (state : CmdState) :
    Settles l state (l.settle state) := by
  rw [settle]
  cases hsrc : l.cmd.attributes.source with
  | none => exact .stuck (.inl hsrc)
  | some dst =>
      have hsrc' : l.cmd.attributes.source ≠ none := by simp [hsrc]
      cases hv : l.verdict state with
      | some verdict =>
          cases hr : l.reply? verdict with
          | some rply =>
              simp only [hr]
              exact .replied hsrc hv hr
          | none =>
              simp only [hr]
              exact .stuck (.inr ⟨verdict, hv, hr⟩)
      | none =>
          by_cases hfail : l.anyKid (· == .fail)
          · simp only [hfail, if_true]
            exact .silent hsrc' hv (.inl hfail)
          · by_cases hwait : l.anyKid (· == .waiting)
            · simp only [hfail, hwait, if_true, Bool.false_eq_true, if_false]
              exact .forwarded hsrc' hv hfail hwait
            · simp only [hfail, hwait, Bool.false_eq_true, if_false]
              exact .silent hsrc' hv (.inr hwait)

@[simp] theorem retire_cmd (l : Life) : l.retire.cmd = l.cmd := by
  rw [retire]
  split <;> rfl

@[simp] theorem retire_kids (l : Life) : l.retire.kids = l.kids := by
  rw [retire]
  split <;> rfl

@[simp] theorem retire_history (l : Life) : l.retire.history = l.history := by
  rw [retire]
  split <;> rfl

@[simp] theorem sendVnf_cmd (l : Life) : l.sendVnf.cmd = l.cmd := by
  rw [sendVnf]
  cases l.dueVnf <;> rfl

@[simp] theorem settle_cmd (l : Life) (state : CmdState) :
    (l.settle state).cmd = l.cmd := by
  have h := l.settles state
  generalize l.settle state = l' at h
  cases h with
  | stuck _ => rfl
  | replied _ _ _ => rw [retire_cmd, log]
  | forwarded _ _ _ _ => rw [sendVnf_cmd]
  | silent _ _ _ => rw [retire_cmd]

@[simp] theorem answer_cmd (l : Life) (n : MsgType) (k : Kid)
    (cmdRply : CommandReply) : (l.answer n k cmdRply).cmd = l.cmd := by
  rw [answer, settle_cmd, hear_cmd]

def Unreplied (history : List Happening) : Prop :=
  ∀ queue msgType cmdRply,
    .sent queue ⟨msgType, .commandReply cmdRply⟩ ∉ history

/-- What must have happened to the command `cmd` before an event: before its
reply, that no reply was sent and that the answers say what the reply says;
before the child of an `ADD_SFCI` goes to the VNF controller, that it did not
go there before and that the SFF controller has succeeded and no controller has
failed. -/
def Warranted (cmd : Command) (pre : List Happening) : Happening → Prop
  | .prepared _ _ => Unreplied pre
  | .sent _ ⟨_, .commandReply cmdRply⟩ =>
      Unreplied pre ∧ cmdRply.cmdID = cmd.cmdID ∧
        ((cmdRply.cmdState = .successful ∧ ∀ n id, .prepared n id ∈ pre →
            ∃ a, .answered a ∈ pre ∧ a.cmdID = id ∧ a.cmdState = .successful) ∨
          (cmdRply.cmdState = .fail ∧
            ∃ a, .answered a ∈ pre ∧ a.cmdState = .fail))
  | .sent _ ⟨name, .command _⟩ =>
      cmd.cmdType = .addSFCI → name = .vnfControllerCmd →
        (∀ queue cCmd, .sent queue ⟨.vnfControllerCmd, .command cCmd⟩ ∉ pre) ∧
          (∃ a, .prepared .sffControllerCmd a.cmdID ∈ pre ∧
            .answered a ∈ pre ∧ a.cmdState = .successful) ∧
          ∀ a, .answered a ∈ pre → a.cmdState ≠ .fail
  | _ => True

theorem verdict_eq_some {l : Life} {state verdict : CmdState}
    (h : l.verdict state = some verdict) :
    (verdict = .successful ∧ l.allKids (· == .successful)) ∨
      (verdict = .fail ∧ state = .fail ∧
        (l.kids.items.map fun e => e.2.state).count .fail = 1) := by
  rw [Life.verdict] at h
  split at h
  · next hall => exact .inl ⟨(Option.some.inj h).symm, hall⟩
  · split at h
    · split at h
      · next hone =>
          rw [Bool.and_eq_true, beq_iff_eq, beq_iff_eq] at hone
          exact .inr ⟨(Option.some.inj h).symm, hone.2, hone.1⟩
      · simp at h
    · simp at h

end Life

end SelfAdaptiveMano

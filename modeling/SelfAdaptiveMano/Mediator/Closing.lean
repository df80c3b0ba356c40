import SelfAdaptiveMano.Mediator.Lived
import SelfAdaptiveMano.Mediator.Attributes

/-!
# When a life comes to its end

A life should be stored as long as a child was sent and has not answered. An
answer to one of several such children keeps the life stored; the answer to the
last of them must either remove the life or send the child that still waits.
`Concludes` says when it does.
-/

namespace SelfAdaptiveMano

open Library Mediator

namespace Life

def zones : List Zone := [.simulator, .turbonet, .puffer]

theorem zone_of_plan_eq_none {classifierType : ClassifierType} {cmd : Command}
    (h : plan classifierType cmd = none) :
    ∃ zone ∈ zones, cmd.attributes.zone = some zone := by
  cases hz : cmd.attributes.zone with
  | none => simp [plan, hz] at h
  | some zone => cases zone <;> simp_all [plan, zones]

/-- Exactly in a zone that the Mediator knows, a child is sent at once. -/
theorem exists_queue_iff {classifierType : ClassifierType} {cmd : Command}
    {items : List (MsgType × Option String)}
    (h : plan classifierType cmd = some items) :
    (∃ n queue, (n, some queue) ∈ items) ↔
      ∃ zone ∈ zones, cmd.attributes.zone = some zone := by
  cases hz : cmd.attributes.zone with
  | none =>
      simp only [plan, hz, Option.some.injEq] at h
      simp [← h]
  | some zone =>
      cases zone <;> cases ht : cmd.cmdType <;>
        simp only [plan, hz, ht, Option.some.injEq, reduceCtorEq] at h <;>
        simp [← h, inZone, zones, exists_or]

/-- A child was sent and has not answered. -/
def Open (l : Life) : Prop :=
  ∃ n k, l.kids.get? n = some k ∧ k.state = .processing

def Replyable (l : Life) : Prop :=
  replyError l.cmd.cmdType = none ∧
    ∀ r r', some r ∈ l.replies → some r' ∈ l.replies → r.Agrees r'

theorem reply?_isSome_iff {l : Life} {verdict : CmdState} :
    (l.reply? verdict).isSome ↔ l.Replyable := by
  rw [Replyable, ← getMixedAttributes_isOk_iff, reply?]
  cases h : getMixedAttributes l.replies with
  | error e => simp
  | ok attr => simp

/-- What an answer needs so that the life is removed or goes on, when no child
is left that was sent and has not answered: a source to reply to, no failure
before a child that still waits, and a reply that can be sent if one is due. -/
def Concludes (l : Life) (state : CmdState) : Prop :=
  l.cmd.attributes.source ≠ none ∧
    (l.anyKid (· == .waiting) → ¬ l.anyKid (· == .fail)) ∧
    (¬ l.anyKid (· == .waiting) → (l.verdict state).isSome → l.Replyable)

theorem anyKid_fail_of_count {l : Life}
    (hone : (l.kids.items.map fun e => e.2.state).count .fail = 1) :
    l.anyKid (· == .fail) := by
  have hmem : CmdState.fail ∈ l.kids.items.map fun e => e.2.state :=
    List.count_pos_iff.mp (by omega)
  rcases List.mem_map.mp hmem with ⟨⟨n, k⟩, hitem, hst⟩
  exact anyKid_iff.mpr ⟨n, k, Dict.mem_items_iff.mp hitem, beq_iff_eq.mpr hst⟩

/-- A child that is the only one to fail is counted once. -/
theorem count_fail_eq_one {l : Life} {n : MsgType} {k : Kid}
    (hk : l.kids.get? n = some k) (hf : k.state = .fail)
    (honly : ∀ n' k', l.kids.get? n' = some k' → k'.state = .fail → n' = n) :
    (l.kids.items.map fun e => e.2.state).count .fail = 1 := by
  have hnodup : l.kids.items.Nodup := List.Nodup.of_map _ l.kids.nodup_keys
  have hperm : (l.kids.items.filter fun e => e.2.state == .fail).Perm
      [(n, k)] := by
    refine (List.perm_ext_iff_of_nodup (hnodup.filter _)
      (List.nodup_singleton _)).mpr ?_
    rintro ⟨n', k'⟩
    rw [List.mem_filter, List.mem_singleton, Dict.mem_items_iff]
    constructor
    · rintro ⟨hk', hf'⟩
      have := honly n' k' hk' (beq_iff_eq.mp hf')
      subst this
      rw [hk] at hk'
      cases hk'
      rfl
    · intro heq
      cases heq
      exact ⟨hk, beq_iff_eq.mpr hf⟩
  rw [List.count, List.countP_map, List.countP_eq_length_filter]
  exact hperm.length_eq

theorem verdict_of_successful {l : Life} (state : CmdState)
    (h : ∀ n k, l.kids.get? n = some k → k.state = .successful) :
    l.verdict state = some .successful := by
  have hall : l.allKids (· == .successful) :=
    allKids_iff.mpr fun n k hk => beq_iff_eq.mpr (h n k hk)
  rw [verdict, if_pos hall]

theorem verdict_of_first_failure {l : Life} {n : MsgType} {k : Kid}
    (hk : l.kids.get? n = some k) (hf : k.state = .fail)
    (honly : ∀ n' k', l.kids.get? n' = some k' → k'.state = .fail → n' = n) :
    l.verdict .fail = some .fail := by
  have hone := count_fail_eq_one hk hf honly
  have hnall : ¬ l.allKids (· == .successful) := by
    intro h
    have := allKids_iff.mp h n k hk
    simp [hf] at this
  rw [verdict, if_neg hnall, if_pos (anyKid_fail_of_count hone),
    if_pos (by simp [hone])]

theorem anyKid_fail_of_verdict {l : Life} {state verdict : CmdState}
    (hv : l.verdict state = some verdict) (hw : l.anyKid (· == .waiting)) :
    l.anyKid (· == .fail) := by
  rcases verdict_eq_some hv with ⟨-, hall⟩ | ⟨-, -, hone⟩
  · rcases anyKid_iff.mp hw with ⟨n, k, hk, hwait⟩
    have hsucc := allKids_iff.mp hall n k hk
    rw [beq_iff_eq] at hwait hsucc
    rw [hwait] at hsucc
    cases hsucc
  · exact anyKid_fail_of_count hone

theorem Sound.mem_replies {l : Life} (h : l.Sound) {a : CommandReply} :
    some a ∈ l.replies ↔ .answered a ∈ l.history := by
  rw [h.answered, replies, List.mem_map]
  simp only [Prod.exists, Dict.mem_items_iff]

theorem Sound.anyKid_fail_iff {l : Life} (h : l.Sound) :
    l.anyKid (· == .fail) ↔ ∃ a, .answered a ∈ l.history ∧
      a.cmdState = .fail := by
  rw [anyKid_iff]
  constructor
  · rintro ⟨n, k, hk, hf⟩
    rw [beq_iff_eq] at hf
    rcases h.answered_of_state hk (.inr hf) with ⟨a, ha, -, hst⟩
    exact ⟨a, ha, hst.trans hf⟩
  · rintro ⟨a, ha, hf⟩
    rcases h.answered.mp ha with ⟨n, k, hk, hr⟩
    rcases h.kid hk with ⟨hnone, -⟩ | ⟨a', hr', hst, -, -⟩
    · simp [hnone] at hr
    · rw [hr] at hr'
      cases hr'
      exact ⟨n, k, hk, by rw [hst, hf]; rfl⟩

/-- A reply of the parent is due after the last answer exactly if the answers
before it were all successful. -/
theorem verdict_hear_isSome_iff {l : Life} (hsound : l.Sound) {n : MsgType}
    {k : Kid} {cmdRply : CommandReply} (hk : l.kids.get? n = some k)
    (hr : k.cmdReply = none)
    (hfin : cmdRply.cmdState = .successful ∨ cmdRply.cmdState = .fail)
    (hlast : ∀ n' k', l.kids.get? n' = some k' → k'.state = .processing →
      n' = n)
    (hw : ¬ l.anyKid (· == .waiting)) :
    ((l.hear n k cmdRply).verdict cmdRply.cmdState).isSome ↔
      ∀ a, .answered a ∈ l.history → a.cmdState = .successful := by
  have hself : (l.hear n k cmdRply).kids.get? n = some { k with
      state := cmdRply.cmdState, cmdReply := some cmdRply } := by
    rw [get?_hear, if_pos rfl]
  have hother : ∀ {n' k'}, n' ≠ n →
      ((l.hear n k cmdRply).kids.get? n' = some k' ↔
        l.kids.get? n' = some k') := by
    intro n' k' hne
    rw [get?_hear, if_neg hne]
  -- the other children have answered before
  have hsaid : ∀ {n' k'}, n' ≠ n → l.kids.get? n' = some k' →
      ∃ a, .answered a ∈ l.history ∧ k'.state = a.cmdState := by
    intro n' k' hne hk'
    rcases hsound.kid hk' with ⟨-, hst | hst⟩ | ⟨a, hra, hst, -, -⟩
    · exact absurd (anyKid_iff.mpr ⟨n', k', hk', by rw [hst]; rfl⟩) hw
    · exact absurd (hlast n' k' hk' hst) hne
    · exact ⟨a, hsound.answered.mpr ⟨n', k', hk', hra⟩, hst⟩
  constructor
  · intro hsome a ha
    rcases Option.isSome_iff_exists.mp hsome with ⟨verdict, hv⟩
    rcases hsound.answered.mp ha with ⟨n', k', hk', hra⟩
    have hne : n' ≠ n := by
      rintro rfl
      rw [hk] at hk'
      cases hk'
      simp [hr] at hra
    rcases hsound.kid hk' with ⟨hnone, -⟩ | ⟨a', hra', hst, hfina, -⟩
    · simp [hnone] at hra
    · rw [hra] at hra'
      cases hra'
      rcases verdict_eq_some hv with ⟨-, hall⟩ | ⟨-, hfail, hone⟩
      · have := allKids_iff.mp hall n' k' ((hother hne).mpr hk')
        rw [beq_iff_eq] at this
        exact hst.symm.trans this
      · refine hfina.resolve_right fun hafail => hne ?_
        exact eq_of_count_fail hone ((hother hne).mpr hk') hself
          (hst.trans hafail) hfail
  · intro hall
    rcases hfin with hsucc | hfail
    · rw [verdict_of_successful, Option.isSome_some]
      intro n' k' hk'
      by_cases hne : n' = n
      · subst hne
        rw [hself] at hk'
        cases hk'
        exact hsucc
      · rcases hsaid hne ((hother hne).mp hk') with ⟨a, ha, hst⟩
        exact hst.trans (hall a ha)
    · rw [hfail, verdict_of_first_failure hself hfail, Option.isSome_some]
      intro n' k' hk' hf
      by_contra hne
      rcases hsaid hne ((hother hne).mp hk') with ⟨a, ha, hst⟩
      rw [hall a ha, hf] at hst
      cases hst

@[simp] theorem retire_open (l : Life) : l.retire.Open ↔ l.Open := by
  rw [Open, Open, retire_kids]

theorem retire_eq_of_open {l : Life} (h : l.Open) : l.retire = l := by
  rcases h with ⟨n, k, hk, hst⟩
  rw [retire, if_neg]
  intro hall
  have := allKids_iff.mp hall n k hk
  simp [hst] at this

/-- Without an open child, a life is removed unless a child waits. -/
theorem retire_stored {l : Life} (hs : l.stored) (hclosed : ¬ l.Open) :
    l.retire.stored ↔ l.anyKid (· == .waiting) := by
  rw [retire]
  split
  · next hall =>
      simp only [Bool.false_eq_true, false_iff]
      intro hany
      rcases anyKid_iff.mp hany with ⟨n, k, hk, hw⟩
      have := allKids_iff.mp hall n k hk
      rw [beq_iff_eq] at hw
      simp [hw] at this
  · next hall =>
      simp only [hs, true_iff]
      by_contra hnone
      refine hall (allKids_iff.mpr ?_)
      intro n k hk
      have hw : k.state ≠ .waiting := by
        intro hw
        exact hnone (anyKid_iff.mpr ⟨n, k, hk, by simp [hw]⟩)
      have hp : k.state ≠ .processing := fun hp => hclosed ⟨n, k, hk, hp⟩
      simp [hw, hp]

theorem sendVnf_open {l : Life} (h : l.Open) : l.sendVnf.Open := by
  rcases h with ⟨n, k, hk, hst⟩
  rw [sendVnf]
  cases l.dueVnf with
  | none => exact ⟨n, k, hk, hst⟩
  | some due =>
      simp only [send_setKid]
      exact ⟨.vnfControllerCmd, _, by rw [get?_send, if_pos rfl], rfl⟩

theorem settle_of_open {l : Life} (state : CmdState) (hs : l.stored)
    (h : l.Open) : (l.settle state).stored ∧ (l.settle state).Open := by
  have hset := l.settles state
  generalize l.settle state = l' at hset
  cases hset with
  | stuck _ => exact ⟨hs, h⟩
  | @replied dst verdict rply _ _ _ =>
      have h' : (l.log (.sent dst ⟨.mediatorCmdReply, .commandReply rply⟩)).Open := h
      rw [retire_eq_of_open h']
      exact ⟨hs, h⟩
  | forwarded _ _ _ _ =>
      rw [sendVnf_stored]
      exact ⟨hs, sendVnf_open h⟩
  | silent _ _ _ =>
      rw [retire_eq_of_open h]
      exact ⟨hs, h⟩

theorem dueVnf_of_closed {l : Life} (hsound : l.Sound) (hstaged : l.Staged)
    (hclosed : ¬ l.Open) (hw : l.anyKid (· == .waiting))
    (hfail : ¬ l.anyKid (· == .fail)) :
    ∃ vnf zone, l.dueVnf = some (vnf, zone) := by
  rcases anyKid_iff.mp hw with ⟨n, vnf, hvnf, hwait⟩
  rw [beq_iff_eq] at hwait
  rcases hstaged n vnf hvnf hwait with ⟨rfl, ht, hz, sff, hsff⟩
  rcases Option.isSome_iff_exists.mp hz with ⟨zone, hzone⟩
  refine ⟨vnf, zone, dueVnf_eq_some_iff.mpr ⟨ht, ?_, hvnf, hzone, hwait⟩⟩
  refine sffSuccessful_iff.mpr ⟨sff, hsff, ?_⟩
  rcases hsound.kid hsff with ⟨-, hst | hst⟩ | ⟨a, -, hst, hfin, -⟩
  · have := (hstaged _ _ hsff hst).1
    cases this
  · exact absurd ⟨_, sff, hsff, hst⟩ hclosed
  · rcases hfin with hfin | hfin
    · exact hst.trans hfin
    · refine absurd (anyKid_iff.mpr ⟨_, sff, hsff, ?_⟩) hfail
      simp [hst, hfin]

theorem born_stored_iff_open (classifierType : ClassifierType) (clock : Nat)
    (cmd : Command) :
    ((born classifierType clock cmd).stored ↔
        (born classifierType clock cmd).Open) ↔
      ∃ zone ∈ zones, cmd.attributes.zone = some zone := by
  rw [born]
  cases hp : plan classifierType cmd with
  | none =>
      refine iff_of_true ?_ (zone_of_plan_eq_none hp)
      simp [Open, start]
  | some items =>
      rw [← exists_queue_iff hp]
      simp only [register_stored]
      constructor
      · intro h
        rcases h.mp rfl with ⟨n, k, hk, hst⟩
        rcases mem_of_get?_register hk with ⟨queue | queue, hn⟩
        · rcases get?_register (start cmd) clock hn
            (Represents.plan_nodup hp) with ⟨id, hk'⟩
          rw [hk] at hk'
          cases hk'
          cases hst
        · exact ⟨n, queue, hn⟩
      · rintro ⟨n, queue, hn⟩
        rcases get?_register (start cmd) clock hn
          (Represents.plan_nodup hp) with ⟨id, hk⟩
        exact iff_of_true rfl ⟨n, _, hk, rfl⟩

theorem settle_closed_iff {l : Life} {state : CmdState} (hsound : l.Sound)
    (hstaged : l.Staged) (hs : l.stored) (hclosed : ¬ l.Open) :
    ((l.settle state).stored ↔ (l.settle state).Open) ↔
      l.Concludes state := by
  have hset := l.settles state
  generalize l.settle state = l' at hset
  cases hset with
  | stuck hstuck =>
      have hlhs : ¬ (l.stored ↔ l.Open) := by simp [hs, hclosed]
      refine iff_of_false hlhs ?_
      rintro ⟨hsrc, hwait, hreply⟩
      rcases hstuck with hnone | ⟨verdict, hv, hrnone⟩
      · exact hsrc hnone
      · by_cases hw : l.anyKid (· == .waiting)
        · exact hwait hw (anyKid_fail_of_verdict hv hw)
        · have hsome : (l.reply? verdict).isSome :=
            reply?_isSome_iff.mpr (hreply hw (by simp [hv]))
          simp [hrnone] at hsome
  | @replied dst verdict rply hsrc hv hrply =>
      have hclosed' : ¬ (l.log
        (.sent dst ⟨.mediatorCmdReply, .commandReply rply⟩)).Open := hclosed
      have hs' : (l.log
        (.sent dst ⟨.mediatorCmdReply, .commandReply rply⟩)).stored := hs
      rw [retire_open, retire_stored hs' hclosed']
      have hready : l.Replyable :=
        reply?_isSome_iff.mp (by rw [hrply, Option.isSome_some])
      constructor
      · intro h
        have hnw : ¬ l.anyKid (· == .waiting) := fun hw => hclosed (h.mp hw)
        exact ⟨by simp [hsrc], fun hw => absurd hw hnw, fun _ _ => hready⟩
      · rintro ⟨-, hwait, -⟩
        have hnw : ¬ l.anyKid (· == .waiting) :=
          fun hw => hwait hw (anyKid_fail_of_verdict hv hw)
        exact iff_of_false hnw hclosed
  | forwarded hsrc hv hfail hw =>
      rcases dueVnf_of_closed hsound hstaged hclosed hw hfail with
        ⟨vnf, zone, hdue⟩
      have hopen : l.sendVnf.Open := by
        rw [sendVnf, hdue]
        simp only [send_setKid]
        exact ⟨.vnfControllerCmd, _, by rw [get?_send, if_pos rfl], rfl⟩
      rw [sendVnf_stored]
      refine iff_of_true (by simp [hs, hopen]) ⟨hsrc, fun _ => hfail, ?_⟩
      exact fun hnw => absurd hw hnw
  | silent hsrc hv hor =>
      rw [retire_open, retire_stored hs hclosed]
      constructor
      · intro h
        have hnw : ¬ l.anyKid (· == .waiting) := fun hw => hclosed (h.mp hw)
        exact ⟨hsrc, fun hw => absurd hw hnw, by simp [hv]⟩
      · rintro ⟨-, hwait, -⟩
        have hnw : ¬ l.anyKid (· == .waiting) :=
          fun hw => hor.elim (hwait hw) fun hnw => hnw hw
        exact iff_of_false hnw hclosed

end Life

end SelfAdaptiveMano

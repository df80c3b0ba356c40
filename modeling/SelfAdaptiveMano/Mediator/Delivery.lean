import SelfAdaptiveMano.Mediator.Controllers
import SelfAdaptiveMano.Mediator.Store
import SelfAdaptiveMano.Mediator.Promises

/-!
# When the reply of a command is sent

The last success among the children of a command, or the first failure, decides
what the command is replied. The reply is sent unless the attributes of the
answers contradict each other or the type of the command has no reply. In the
Simulator and in Turbonet the answers never contradict each other; in Puffer the
sources of the classifier, the SFF and the network controller do.
-/

namespace SelfAdaptiveMano

open Library

namespace Life

theorem settle_stored_of_open {l : Life} {state : CmdState} (hs : l.stored)
    (hopen : (l.settle state).Open) : (l.settle state).stored := by
  have hset := l.settles state
  generalize l.settle state = l' at hset hopen
  cases hset with
  | stuck _ => exact hs
  | @replied dst verdict rply _ _ _ =>
      rw [retire_open] at hopen
      rw [retire_eq_of_open hopen]
      exact hs
  | forwarded _ _ _ _ =>
      rw [sendVnf_stored]
      exact hs
  | silent _ _ _ =>
      rw [retire_open] at hopen
      rw [retire_eq_of_open hopen]
      exact hs

theorem Lived.stored_of_open
    {answers : MsgType → Command → CommandReply → Prop} {l : Life}
    (h : Lived answers l) (hopen : l.Open) : l.stored := by
  cases h with
  | born classifierType clock cmd =>
      rw [Life.born] at hopen ⊢
      cases hplan : plan classifierType cmd with
      | none =>
          rw [hplan] at hopen
          rcases hopen with ⟨n, k, hk, -⟩
          simp [start] at hk
      | some items => rw [register_stored]; rfl
  | answer _ hs _ _ _ _ _ _ => exact settle_stored_of_open hs hopen

theorem settle_of_verdict {l : Life} {state verdict : CmdState} {dst : String}
    (hsrc : l.cmd.attributes.source = some dst)
    (hv : l.verdict state = some verdict) (hready : l.Replyable) :
    ∃ rply, (l.settle state).history = l.history ++
        [.sent dst ⟨.mediatorCmdReply, .commandReply rply⟩] ∧
      rply.cmdID = l.cmd.cmdID ∧ rply.cmdState = verdict := by
  rcases Option.isSome_iff_exists.mp (reply?_isSome_iff.mpr hready) with
    ⟨rply, hrply⟩
  refine ⟨rply, ?_, reply?_eq_some hrply⟩
  simp only [settle, hsrc, hv, hrply, retire_history]
  rfl

theorem settle_kid_of_ne_waiting {l : Life} (state : CmdState) {n : MsgType}
    {k : Kid} (hk : l.kids.get? n = some k) (hw : k.state ≠ .waiting) :
    (l.settle state).kids.get? n = some k := by
  rcases settle_keeps state hk with ⟨k', hk'⟩
  rcases settle_kid hk' with hsame | ⟨vnf, zone, hdue, rfl, -⟩
  · rw [hk', ← hsame, hk]
  · rcases dueVnf_eq_some_iff.mp hdue with ⟨-, -, hvnf, -, hwait⟩
    rw [hk] at hvnf
    cases hvnf
    exact absurd hwait hw

theorem Lived.hear_agrees {l : Life} (h : Lived controllerAnswers l)
    {n : MsgType} {k : Kid} {cmdRply : CommandReply} (hs : l.stored)
    (hk : l.kids.get? n = some k) (hw : k.state ≠ .waiting)
    (hr : k.cmdReply = none)
    (hfin : cmdRply.cmdState = .successful ∨ cmdRply.cmdState = .fail)
    (hid : cmdRply.cmdID = k.cmd.cmdID)
    (hans : controllerAnswers n k.cmd cmdRply) {zone : Zone}
    (hz : l.cmd.attributes.zone = some zone)
    (hzone : zone = .simulator ∨ zone = .turbonet) {a a' : CommandReply}
    (ha : .answered a ∈ (l.hear n k cmdRply).history)
    (ha' : .answered a' ∈ (l.hear n k cmdRply).history) : a.Agrees a' := by
  have hsound := h.sound.hear hk hw hr hfin hid
  have hl' := Lived.answer h hs hk hw hr hfin hid hans
  have hkid : ∀ {a}, .answered a ∈ (l.hear n k cmdRply).history →
      ∃ n' k', (l.answer n k cmdRply).kids.get? n' = some k' ∧
        k'.cmdReply = some a := by
    intro a ha
    rcases hsound.answered.mp ha with ⟨n', k', hk', hka⟩
    have hw' : k'.state ≠ .waiting := by
      intro hw'
      have := hsound.cmdReply_of_waiting hk' hw'
      simp [hka] at this
    exact ⟨n', k', settle_kid_of_ne_waiting _ hk' hw', hka⟩
  rcases hkid ha with ⟨n₁, k₁, hk₁, hka₁⟩
  rcases hkid ha' with ⟨n₂, k₂, hk₂, hka₂⟩
  exact hl'.agrees (by rw [answer_cmd, hz]) hzone hk₁ hk₂ hka₁ hka₂

end Life

namespace Mediator

/-- The reply decides about the command `p`: it is the first answer of its
child, no child has failed before, and it is a failure or the last answer. -/
structure Decides (m : Mediator) (p : UUID) (cmdRply : CommandReply) : Prop where
  prepared : ∃ n, .prepared n cmdRply.cmdID ∈ m.historyOf p
  first : ∀ a, .answered a ∈ m.historyOf p → a.cmdID ≠ cmdRply.cmdID
  unfailed : ∀ a, .answered a ∈ m.historyOf p → a.cmdState = .successful
  decided : cmdRply.cmdState = .fail ∨
    ∀ n id, .prepared n id ∈ m.historyOf p → id = cmdRply.cmdID ∨
      ∃ a, .answered a ∈ m.historyOf p ∧ a.cmdID = id

end Mediator

open Mediator

namespace Represented

variable {answers : MsgType → Command → CommandReply → Prop}

theorem verdict_of_decides {m : Mediator} {A : UUID → Option Life}
    (h : Represented answers m A) {cmdRply : CommandReply} {p : UUID} {l : Life}
    {n : MsgType} {k : Kid} (hp : A p = some l) (hk : l.kids.get? n = some k)
    (hid : cmdRply.cmdID = k.cmd.cmdID)
    (hfin : cmdRply.cmdState = .successful ∨ cmdRply.cmdState = .fail)
    (hdec : m.Decides p cmdRply) :
    (l.hear n k cmdRply).verdict cmdRply.cmdState = some cmdRply.cmdState := by
  have hsound := (h.lived hp).sound
  have hhist := h.represents.history_some hp
  have hself : (l.hear n k cmdRply).kids.get? n = some { k with
      state := cmdRply.cmdState, cmdReply := some cmdRply } := by
    rw [Life.get?_hear, if_pos rfl]
  -- what is known of another child comes from its own answer
  have hother : ∀ {n' k' a}, n' ≠ n →
      (l.hear n k cmdRply).kids.get? n' = some k' →
      .answered a ∈ l.history → a.cmdID = k'.cmd.cmdID →
        k'.state = .successful := by
    intro n' k' a hne hk' ha haid
    rw [Life.get?_hear, if_neg hne] at hk'
    have hr := h.cmdReply_of_answered hp hk' ha haid
    rcases hsound.kid hk' with ⟨hnone, -⟩ | ⟨a', hr', hst, -, -⟩
    · simp [hnone] at hr
    · rw [hr] at hr'
      cases hr'
      exact hst.trans (hdec.unfailed a (hhist ▸ ha))
  rcases hfin with hsucc | hfail
  · rw [hsucc]
    refine Life.verdict_of_successful _ ?_
    intro n' k' hk'
    by_cases hne : n' = n
    · subst hne
      rw [hself] at hk'
      cases hk'
      exact hsucc
    · have hk'' := hk'
      rw [Life.get?_hear, if_neg hne] at hk''
      have hall := hdec.decided.resolve_left (by simp [hsucc])
      rw [hhist] at hall
      rcases hall n' _ (hsound.prepared.mpr ⟨k', hk'', rfl⟩) with
        hsame | ⟨a, ha, haid⟩
      · exact absurd (h.represents.kid_unique hp hp hk'' hk
          (hsame.trans hid)).2 hne
      · exact hother hne hk' ha haid
  · rw [hfail]
    refine Life.verdict_of_first_failure hself hfail ?_
    intro n' k' hk' hf
    by_contra hne
    have hk'' := hk'
    rw [Life.get?_hear, if_neg hne] at hk''
    rcases hsound.answered_of_state hk'' (.inr hf) with ⟨a, ha, haid, -⟩
    rw [hother hne hk' ha haid] at hf
    cases hf

end Represented

namespace Mediator

/-- In every run in which the controllers of the repository answer, the reply
that decides about an `ADD_SFC`, `ADD_SFCI`, `DEL_SFCI` or `DEL_SFC` is followed
by the reply of that command, always in the Simulator and in Turbonet, and in
Puffer when the answers agree. -/
theorem deciding_reply_delivered {m : Mediator}
    (h : (machine controllerAnswers).Reachable m) {p : UUID} {cmd : Command}
    {cmdRply : CommandReply} {dst : String}
    (hadm : (machine controllerAnswers).admits m (.reply cmdRply))
    (hcmd : .received cmd ∈ m.historyOf p)
    (htype : cmd.cmdType ∈ [.addSFC, .addSFCI, .delSFCI, .delSFC])
    (hsrc : cmd.attributes.source = some dst) (hdec : m.Decides p cmdRply)
    (hagree : cmd.attributes.zone = some .simulator ∨
      cmd.attributes.zone = some .turbonet ∨
      ∀ a a', m.Said p cmdRply a → m.Said p cmdRply a' → a.Agrees a') :
    ∃ rply, (m.handle (.reply cmdRply)).historyOf p = m.historyOf p ++
        [.answered cmdRply,
          .sent dst ⟨.mediatorCmdReply, .commandReply rply⟩] ∧
      rply.cmdID = p ∧ rply.cmdState = cmdRply.cmdState := by
  rcases represented h with ⟨A, hA⟩
  rcases hA.reply_child hadm with ⟨q, l, n, k, hq, hk, hw, hid, hans⟩
  have hl := hA.lived hq
  -- the child that answers is a child of this command
  have hpq : p = q := by
    rcases hdec.prepared with ⟨n', hprep⟩
    rcases hA.life_of_mem hprep with ⟨l', hp, hhist⟩
    rw [hhist] at hprep
    rcases (hA.lived hp).sound.prepared.mp hprep with ⟨k', hk', hid'⟩
    exact (hA.represents.kid_unique hp hq hk' hk (hid'.trans hid)).1
  subst hpq
  have hhist := hA.represents.history_some hq
  have hcmdl : cmd = l.cmd := by
    rw [hhist] at hcmd
    exact hl.sound.received.mp hcmd
  subst hcmdl
  have hst : k.state = .processing := by
    refine (hA.processing_iff hq hk).mpr ⟨hw, ?_⟩
    rw [← hid, ← hhist]
    exact hdec.first
  have hr : k.cmdReply = none := by
    rcases hl.sound.kid hk with ⟨hnone, -⟩ | ⟨a, -, hsta, hfin, -⟩
    · exact hnone
    · rw [hst] at hsta
      rcases hfin with hfin | hfin <;> simp [← hsta] at hfin
  have hs := hl.stored_of_open ⟨n, k, hk, hst⟩
  have hready : (l.hear n k cmdRply).Replyable := by
    have hsound := hl.sound.hear hk hw hr hadm.1 hid
    refine ⟨?_, ?_⟩
    · simp only [List.mem_cons, List.not_mem_nil, or_false] at htype
      rcases htype with ht | ht | ht | ht <;> simp [replyError, ht]
    · intro a a' ha ha'
      rw [hsound.mem_replies] at ha ha'
      rcases hagree with hz | hz | hagree
      · exact hl.hear_agrees hs hk hw hr hadm.1 hid hans hz (.inl rfl) ha ha'
      · exact hl.hear_agrees hs hk hw hr hadm.1 hid hans hz (.inr rfl) ha ha'
      · exact hagree a a' ((hA.answered_hear_iff hq n k cmdRply a).mp ha)
          ((hA.answered_hear_iff hq n k cmdRply a').mp ha')
  have hv := hA.verdict_of_decides hq hk hid hadm.1 hdec
  have hsrc' : (l.hear n k cmdRply).cmd.attributes.source = some dst := hsrc
  rcases Life.settle_of_verdict hsrc' hv hready with ⟨rply, hrhist, hrid, hrst⟩
  have hA' := hA.reply hq hk hid hs hw hr hadm.1 hans
  have hlid := hA.represents.parent_cmdID hq
  refine ⟨rply, ?_, hrid.trans hlid, hrst⟩
  rw [hA'.represents.history_some (Function.update_self p _ A), hhist,
    Life.answer, hrhist, Life.hear_history, List.append_assoc]
  rfl

/-- The last of the three children of an `ADD_SFCI` in Turbonet succeeds. -/
theorem deciding_reply_delivered_turbonet :
    ∃ rply, (p4Succeeded.handle (.reply vnfRply)).historyOf ⟨1, 0⟩ =
        p4Succeeded.historyOf ⟨1, 0⟩ ++
        [.answered vnfRply, .sent "ORCHESTRATOR_QUEUE"
          ⟨.mediatorCmdReply, .commandReply rply⟩] ∧
      rply.cmdID = ⟨1, 0⟩ ∧ rply.cmdState = .successful := by
  have hcmd : .received (sampleCmd .addSFCI .turbonet) ∈
      p4Succeeded.historyOf ⟨1, 0⟩ := by simp [historyOf_p4Succeeded]
  have hdec : p4Succeeded.Decides ⟨1, 0⟩ vnfRply := by
    refine ⟨⟨.vnfControllerCmd, ?_⟩, ?_, ?_, .inr ?_⟩
    · simp [historyOf_p4Succeeded, vnfRply, sampleRply]
    · simp [historyOf_p4Succeeded, sffRply, p4Rply, vnfRply, sampleRply]
    · simp [historyOf_p4Succeeded, sffRply, p4Rply, sampleRply]
    · intro n id hprepared
      simp only [historyOf_p4Succeeded, List.mem_cons, reduceCtorEq, false_or,
        or_false, Happening.prepared.injEq, List.not_mem_nil] at hprepared
      obtain ⟨-, rfl⟩ | ⟨-, rfl⟩ | ⟨-, rfl⟩ := hprepared
      · exact .inr ⟨sffRply, by simp [historyOf_p4Succeeded], rfl⟩
      · exact .inr ⟨p4Rply, by simp [historyOf_p4Succeeded], rfl⟩
      · exact .inl rfl
  exact deciding_reply_delivered run_p4Succeeded.reachable admits_vnfRply hcmd
    (by simp [sampleCmd]) rfl hdec (.inr (.inl rfl))

/-- A `GET_TOPOLOGY` in Puffer. -/
def getTopologyPuffer : Mediator :=
  (fresh .server).handle (.command (sampleCmd .getTopology .puffer))

def topologyRply : CommandReply :=
  sampleRply 0 .successful
    ((sampleCmd .getTopology .puffer).attributes.copied
      ((Dict.empty.set "switches" (.dict .empty)).set "links" (.dict .empty)))

/-- In Puffer a `GET_TOPOLOGY` is never replied to. -/
theorem no_reply_in_puffer :
    (machine controllerAnswers).Reachable getTopologyPuffer ∧
      (machine controllerAnswers).admits getTopologyPuffer
        (.reply topologyRply) ∧
      getTopologyPuffer.Decides ⟨1, 0⟩ topologyRply ∧
      (getTopologyPuffer.handle (.reply topologyRply)).repliesTo ⟨1, 0⟩ =
        [] := by
  have hhist : getTopologyPuffer.historyOf ⟨1, 0⟩ =
      [.received (sampleCmd .getTopology .puffer),
        .prepared .networkControllerCmd ⟨generator, 0⟩,
        .sent "NETWORK_CONTROLLER_QUEUE_PUFFER_ZONE" ⟨.networkControllerCmd,
          .command (sampleChild .getTopology .puffer 0)⟩] := by
    decide
  have hadm : (machine controllerAnswers).admits getTopologyPuffer
      (.reply topologyRply) := by
    refine ⟨.inl rfl, ⟨1, 0⟩, .networkControllerCmd,
      sampleChild .getTopology .puffer 0,
      ⟨"NETWORK_CONTROLLER_QUEUE_PUFFER_ZONE", ?_⟩, rfl, ?_⟩
    · exact Represented.mem_historyOf.mp (by simp [hhist])
    · exact ⟨.empty, .empty, rfl⟩
  refine ⟨reachable_sample .getTopology .puffer, hadm, ?_, by decide⟩
  refine ⟨⟨.networkControllerCmd, ?_⟩, ?_, ?_, .inr ?_⟩
  all_goals simp [hhist, topologyRply, sampleRply]

end Mediator

end SelfAdaptiveMano

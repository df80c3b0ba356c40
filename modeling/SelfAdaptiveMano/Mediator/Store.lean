import SelfAdaptiveMano.Mediator.Controllers

/-!
# What the store of the Mediator holds

The store should hold the commands that have a child which was sent and has not
answered, with their children, and nothing else (`StoreExact`). A run keeps to
that exactly if each of its steps does: a command must come from a zone that the
Mediator knows, and the last answer of the children that were sent must leave
nothing behind. It leaves something behind when a child was registered and will
never be sent, and when making or sending the reply of the parent raises.
-/

namespace SelfAdaptiveMano

open Library

namespace Mediator

/-- A child of `p` was sent and has not answered. -/
def Awaiting (m : Mediator) (p : UUID) : Prop :=
  ∃ queue n cCmd, .sent queue ⟨n, .command cCmd⟩ ∈ m.historyOf p ∧
    ∀ a, .answered a ∈ m.historyOf p → a.cmdID ≠ cCmd.cmdID

def StoreExact (m : Mediator) : Prop :=
  ∀ id, m.cm.contains id ↔ ∃ p, m.Awaiting p ∧
    (id = p ∨ ∃ n, .prepared n id ∈ m.historyOf p)

/-- A child of `p` was registered and not sent. -/
def Unsent (m : Mediator) (p : UUID) : Prop :=
  ∃ n id, .prepared n id ∈ m.historyOf p ∧
    ∀ queue cCmd, .sent queue ⟨n, .command cCmd⟩ ∉ m.historyOf p

/-- The reply answers the only child of `p` that was sent and has not answered.
-/
structure Closes (m : Mediator) (p : UUID) (cmdRply : CommandReply) : Prop where
  sent : ∃ queue n cCmd, .sent queue ⟨n, .command cCmd⟩ ∈ m.historyOf p ∧
    cCmd.cmdID = cmdRply.cmdID
  unanswered : ∀ a, .answered a ∈ m.historyOf p → a.cmdID ≠ cmdRply.cmdID
  last : ∀ queue n cCmd, .sent queue ⟨n, .command cCmd⟩ ∈ m.historyOf p →
    cCmd.cmdID ≠ cmdRply.cmdID →
      ∃ a, .answered a ∈ m.historyOf p ∧ a.cmdID = cCmd.cmdID

/-- The answers to the children of `p`, with a new one. -/
def Said (m : Mediator) (p : UUID) (cmdRply a : CommandReply) : Prop :=
  a = cmdRply ∨ .answered a ∈ m.historyOf p

/-- What the last answer to the command `cmd` needs to leave nothing behind. -/
structure Concludes (m : Mediator) (p : UUID) (cmd : Command)
    (cmdRply : CommandReply) : Prop where
  source : cmd.attributes.source ≠ none
  unsent : m.Unsent p → ∀ a, m.Said p cmdRply a → a.cmdState ≠ .fail
  replyable : ¬ m.Unsent p →
    (∀ a, .answered a ∈ m.historyOf p → a.cmdState = .successful) →
      replyError cmd.cmdType = none ∧
        ∀ a a', m.Said p cmdRply a → m.Said p cmdRply a' → a.Agrees a'

/-- The condition under which a step keeps the store exact. -/
def LeavesNothing (m : Mediator) : Input → Prop
  | .command cmd => ∃ zone ∈ Life.zones, cmd.attributes.zone = some zone
  | .reply cmdRply => ∀ p cmd, .received cmd ∈ m.historyOf p →
      m.Closes p cmdRply → m.Concludes p cmd cmdRply

end Mediator

open Mediator

namespace Represented

variable {answers : MsgType → Command → CommandReply → Prop}

theorem cmdReply_of_answered {m : Mediator} {A : UUID → Option Life}
    (h : Represented answers m A) {p : UUID} {l : Life} {n : MsgType} {k : Kid}
    {a : CommandReply} (hp : A p = some l) (hk : l.kids.get? n = some k)
    (ha : .answered a ∈ l.history) (hid : a.cmdID = k.cmd.cmdID) :
    k.cmdReply = some a := by
  have hsound := (h.lived hp).sound
  obtain ⟨n', k', hk', hr⟩ := hsound.answered.mp ha
  rcases hsound.kid hk' with ⟨hnone, -⟩ | ⟨a', hr', -, -, hid'⟩
  · simp [hnone] at hr
  · rw [hr] at hr'
    cases hr'
    rcases h.represents.kid_unique hp hp hk hk' (hid.symm.trans hid') with
      ⟨-, rfl⟩
    rw [hk] at hk'
    cases hk'
    exact hr

theorem processing_iff {m : Mediator} {A : UUID → Option Life}
    (h : Represented answers m A) {p : UUID} {l : Life} {n : MsgType} {k : Kid}
    (hp : A p = some l) (hk : l.kids.get? n = some k) :
    k.state = .processing ↔ k.state ≠ .waiting ∧
      ∀ a, .answered a ∈ l.history → a.cmdID ≠ k.cmd.cmdID := by
  have hsound := (h.lived hp).sound
  constructor
  · intro hst
    refine ⟨by simp [hst], ?_⟩
    intro a ha hid
    have hr := h.cmdReply_of_answered hp hk ha hid
    rcases hsound.kid hk with ⟨hnone, -⟩ | ⟨a', -, hst', hfin, -⟩
    · simp [hnone] at hr
    · rw [hst] at hst'
      rcases hfin with hfin | hfin <;> simp [← hst'] at hfin
  · rintro ⟨hw, hun⟩
    rcases hsound.kid hk with ⟨-, hst | hst⟩ | ⟨a, hr, -, -, hid⟩
    · exact absurd hst hw
    · exact hst
    · exact absurd hid (hun a (hsound.answered.mpr ⟨n, k, hk, hr⟩))

theorem awaiting_iff {m : Mediator} {A : UUID → Option Life}
    (h : Represented answers m A) {p : UUID} {l : Life} (hp : A p = some l) :
    m.Awaiting p ↔ l.Open := by
  have hsound := (h.lived hp).sound
  rw [Awaiting, h.represents.history_some hp]
  constructor
  · rintro ⟨queue, n, cCmd, hsent, hun⟩
    obtain ⟨k, hk, rfl, hw⟩ := hsound.sent.mp ⟨queue, hsent⟩
    exact ⟨n, k, hk, (h.processing_iff hp hk).mpr ⟨hw, hun⟩⟩
  · rintro ⟨n, k, hk, hst⟩
    obtain ⟨hw, hun⟩ := (h.processing_iff hp hk).mp hst
    obtain ⟨queue, hsent⟩ := hsound.sent.mpr ⟨k, hk, rfl, hw⟩
    exact ⟨queue, n, k.cmd, hsent, hun⟩

theorem unsent_iff {m : Mediator} {A : UUID → Option Life}
    (h : Represented answers m A) {p : UUID} {l : Life} (hp : A p = some l) :
    m.Unsent p ↔ l.anyKid (· == .waiting) := by
  have hsound := (h.lived hp).sound
  rw [Unsent, h.represents.history_some hp, Life.anyKid_iff]
  constructor
  · rintro ⟨n, id, hprep, hun⟩
    obtain ⟨k, hk, -⟩ := hsound.prepared.mp hprep
    refine ⟨n, k, hk, ?_⟩
    by_contra hw
    rw [beq_iff_eq] at hw
    obtain ⟨queue, hsent⟩ := hsound.sent.mpr ⟨k, hk, rfl, hw⟩
    exact hun queue k.cmd hsent
  · rintro ⟨n, k, hk, hw⟩
    rw [beq_iff_eq] at hw
    refine ⟨n, k.cmd.cmdID, hsound.prepared.mpr ⟨k, hk, rfl⟩, ?_⟩
    intro queue cCmd hsent
    obtain ⟨k', hk', -, hw'⟩ := hsound.sent.mp ⟨queue, hsent⟩
    rw [hk] at hk'
    cases hk'
    exact hw' hw

theorem storeExact_iff {m : Mediator} {A : UUID → Option Life}
    (h : Represented answers m A) :
    m.StoreExact ↔ ∀ p l, A p = some l → (l.stored ↔ l.Open) := by
  constructor
  · intro hexact p l hp
    rw [← h.represents.stored_iff hp, hexact p]
    constructor
    · rintro ⟨q, hq, rfl | ⟨n, hprep⟩⟩
      · exact (h.awaiting_iff hp).mp hq
      · obtain ⟨l', hq', hhist⟩ := h.life_of_mem hprep
        rw [hhist] at hprep
        obtain ⟨k, hk, hid⟩ := (h.lived hq').sound.prepared.mp hprep
        exact absurd hid.symm (h.represents.parent_ne_kid hp hq' hk)
    · intro hopen
      exact ⟨p, (h.awaiting_iff hp).mpr hopen, .inl rfl⟩
  · intro hall id
    constructor
    · intro hc
      obtain ⟨info, hinfo⟩ := Option.isSome_iff_exists.mp hc
      obtain ⟨p, l, hp, hs, hid⟩ := h.represents.only hinfo
      refine ⟨p, (h.awaiting_iff hp).mpr ((hall p l hp).mp hs), ?_⟩
      rcases hid with rfl | ⟨n, k, hk, rfl⟩
      · exact .inl rfl
      · refine .inr ⟨n, ?_⟩
        rw [h.represents.history_some hp]
        exact (h.lived hp).sound.prepared.mpr ⟨k, hk, rfl⟩
    · rintro ⟨p, hp, hid⟩
      have hp' := hp
      obtain ⟨queue, n, cCmd, hsent, -⟩ := hp'
      obtain ⟨l, hpl, hhist⟩ := h.life_of_mem hsent
      have hs := (hall p l hpl).mpr ((h.awaiting_iff hpl).mp hp)
      rcases hid with rfl | ⟨n', hprep⟩
      · exact (h.represents.stored_iff hpl).mpr hs
      · rw [hhist] at hprep
        obtain ⟨k, hk, rfl⟩ := (h.lived hpl).sound.prepared.mp hprep
        rw [Dict.contains, h.represents.kid_info hpl hs hk]
        rfl

theorem storeExact_update_iff {m m' : Mediator} {A : UUID → Option Life}
    {p : UUID} {l' : Life} (h : Represented answers m A) (hexact : m.StoreExact)
    (h' : Represented answers m' (Function.update A p (some l'))) :
    m'.StoreExact ↔ (l'.stored ↔ l'.Open) := by
  rw [h'.storeExact_iff]
  constructor
  · intro hall
    exact hall p l' (Function.update_self p _ A)
  · intro hl' q l hq
    rw [Function.update_apply] at hq
    split at hq
    · cases hq
      exact hl'
    · exact h.storeExact_iff.mp hexact q l hq

theorem closes_iff {m : Mediator} {A : UUID → Option Life}
    (h : Represented answers m A) {cmdRply : CommandReply} {p q : UUID}
    {l : Life} {n : MsgType} {k : Kid} (hp : A p = some l)
    (hk : l.kids.get? n = some k) (hid : cmdRply.cmdID = k.cmd.cmdID) :
    m.Closes q cmdRply ↔ q = p ∧ k.state = .processing ∧
      ∀ n' k', l.kids.get? n' = some k' → k'.state = .processing → n' = n := by
  have hhist := h.represents.history_some hp
  have hsound := (h.lived hp).sound
  constructor
  · rintro ⟨⟨queue, n₁, cCmd, hsent, hcid⟩, hun, hlast⟩
    obtain ⟨l₁, hq, hhist₁⟩ := h.life_of_mem hsent
    rw [hhist₁] at hsent hun hlast
    obtain ⟨k₁, hk₁, rfl, hw⟩ := (h.lived hq).sound.sent.mp ⟨queue, hsent⟩
    rcases h.represents.kid_unique hp hq hk hk₁ (hid.symm.trans hcid.symm) with
      ⟨rfl, rfl⟩
    rw [hp] at hq
    cases hq
    rw [hk] at hk₁
    cases hk₁
    refine ⟨rfl, (h.processing_iff hp hk).mpr ⟨hw, hid ▸ hun⟩, ?_⟩
    intro n' k' hk' hst
    obtain ⟨hw', hun'⟩ := (h.processing_iff hp hk').mp hst
    obtain ⟨queue', hsent'⟩ := hsound.sent.mpr ⟨k', hk', rfl, hw'⟩
    by_contra hne
    have hids : k'.cmd.cmdID ≠ cmdRply.cmdID := by
      intro hids
      exact hne (h.represents.kid_unique hp hp hk' hk (hids.trans hid)).2
    obtain ⟨a, ha, haid⟩ := hlast queue' n' k'.cmd hsent' hids
    exact hun' a ha haid
  · rintro ⟨rfl, hst, honly⟩
    obtain ⟨hw, hun⟩ := (h.processing_iff hp hk).mp hst
    obtain ⟨queue, hsent⟩ := hsound.sent.mpr ⟨k, hk, rfl, hw⟩
    refine ⟨⟨queue, n, k.cmd, hhist ▸ hsent, hid.symm⟩, ?_, ?_⟩
    · rw [hhist, hid]
      exact hun
    · intro queue' n' cCmd hsent' hne
      rw [hhist] at hsent' ⊢
      obtain ⟨k', hk', rfl, hw'⟩ := hsound.sent.mp ⟨queue', hsent'⟩
      by_contra hnone
      have hst' : k'.state = .processing := by
        refine (h.processing_iff hp hk').mpr ⟨hw', ?_⟩
        intro a ha haid
        exact hnone ⟨a, ha, haid⟩
      have := honly n' k' hk' hst'
      subst this
      rw [hk] at hk'
      cases hk'
      exact hne hid.symm

theorem answered_hear_iff {m : Mediator} {A : UUID → Option Life}
    (h : Represented answers m A) {p : UUID} {l : Life} (hp : A p = some l)
    (n : MsgType) (k : Kid) (cmdRply a : CommandReply) :
    .answered a ∈ (l.hear n k cmdRply).history ↔ m.Said p cmdRply a := by
  rw [Said, h.represents.history_some hp, Life.hear_history, List.mem_append,
    List.mem_singleton, Happening.answered.injEq, or_comm]

/-- The two ways to say that the last answer leaves nothing behind. -/
theorem concludes_iff {m : Mediator} {A : UUID → Option Life}
    (h : Represented answers m A) {cmdRply : CommandReply} {p : UUID} {l : Life}
    {n : MsgType} {k : Kid} (hp : A p = some l) (hk : l.kids.get? n = some k)
    (hw : k.state ≠ .waiting) (hr : k.cmdReply = none)
    (hid : cmdRply.cmdID = k.cmd.cmdID)
    (hfin : cmdRply.cmdState = .successful ∨ cmdRply.cmdState = .fail)
    (hlast : ∀ n' k', l.kids.get? n' = some k' → k'.state = .processing →
      n' = n) :
    m.Concludes p l.cmd cmdRply ↔
      (l.hear n k cmdRply).Concludes cmdRply.cmdState := by
  have hhist := h.represents.history_some hp
  have hsound := (h.lived hp).sound
  have hsound₁ := hsound.hear hk hw hr hfin hid
  have hwaiting : (l.hear n k cmdRply).anyKid (· == .waiting) ↔ m.Unsent p := by
    rw [h.unsent_iff hp, Life.anyKid_iff, Life.anyKid_iff]
    have hne : cmdRply.cmdState ≠ .waiting := by
      rcases hfin with hfin | hfin <;> simp [hfin]
    have hsame : ∀ n', (∃ k', (l.hear n k cmdRply).kids.get? n' = some k' ∧
        (k'.state == .waiting) = true) ↔
          ∃ k', l.kids.get? n' = some k' ∧ (k'.state == .waiting) = true := by
      intro n'
      rw [Life.get?_hear]
      by_cases hn : n' = n
      · subst hn
        simp [hk, hw, hne]
      · simp [hn]
    exact exists_congr hsame
  have hsaid := fun a => h.answered_hear_iff hp n k cmdRply a
  have hfail : ¬ (l.hear n k cmdRply).anyKid (· == .fail) ↔
      ∀ a, m.Said p cmdRply a → a.cmdState ≠ .fail := by
    rw [hsound₁.anyKid_fail_iff]
    simp only [hsaid, not_exists, not_and]
  have hready : (l.hear n k cmdRply).Replyable ↔
      replyError l.cmd.cmdType = none ∧
        ∀ a a', m.Said p cmdRply a → m.Said p cmdRply a' → a.Agrees a' := by
    simp only [Life.Replyable, hsound₁.mem_replies, hsaid, Life.hear_cmd]
  rw [Life.Concludes, hwaiting, hfail, hready, Life.hear_cmd]
  constructor
  · rintro ⟨hsrc, hunsent, hreply⟩
    refine ⟨hsrc, hunsent, ?_⟩
    intro hnone hsome
    refine hreply hnone ?_
    rw [hhist]
    exact (Life.verdict_hear_isSome_iff hsound hk hr hfin hlast
      (fun hany => hnone ((h.unsent_iff hp).mpr hany))).mp hsome
  · rintro ⟨hsrc, hunsent, hreply⟩
    refine ⟨hsrc, hunsent, ?_⟩
    intro hnone hall
    refine hreply hnone ?_
    rw [hhist] at hall
    exact (Life.verdict_hear_isSome_iff hsound hk hr hfin hlast
      (fun hany => hnone ((h.unsent_iff hp).mpr hany))).mpr hall

end Represented

namespace Mediator

variable {answers : MsgType → Command → CommandReply → Prop}

theorem storeExact_start {m : Mediator} (h : (machine answers).init m) :
    m.StoreExact := by
  rw [(Represented.start h).storeExact_iff]
  simp

theorem storeExact_command_iff {m : Mediator}
    (h : (machine answers).Reachable m) (hexact : m.StoreExact) {cmd : Command}
    (hadm : (machine answers).admits m (.command cmd)) :
    (m.handle (.command cmd)).StoreExact ↔ m.LeavesNothing (.command cmd) := by
  obtain ⟨A, hA⟩ := represented h
  rw [hA.storeExact_update_iff hexact (hA.command hadm)]
  exact Life.born_stored_iff_open ..

/-- A reply keeps the store exact if it is not the last one, or leaves nothing
behind. -/
theorem storeExact_reply_iff {m : Mediator}
    (h : (machine answers).Reachable m) (hexact : m.StoreExact)
    {cmdRply : CommandReply}
    (hadm : (machine answers).admits m (.reply cmdRply)) :
    (m.handle (.reply cmdRply)).StoreExact ↔
      m.LeavesNothing (.reply cmdRply) := by
  obtain ⟨A, hA⟩ := represented h
  obtain ⟨p, l, n, k, hp, hk, hw, hid, hans⟩ := hA.reply_child hadm
  have hcloses := fun q => hA.closes_iff (q := q) hp hk hid
  have hstored := hA.storeExact_iff.mp hexact p l hp
  by_cases hold : l.stored = false ∨ k.cmdReply ≠ none
  · rw [hA.reply_ignored hp hk hid hold]
    refine iff_of_true hexact ?_
    intro q cmd _ hc
    obtain ⟨-, hst, -⟩ := (hcloses q).mp hc
    rcases hold with hgone | hr
    · rw [hgone] at hstored
      exact absurd (hstored.mpr ⟨n, k, hk, hst⟩) Bool.false_ne_true
    · rcases (hA.lived hp).sound.kid hk with ⟨hnone, -⟩ | ⟨a, -, hsta, hfin, -⟩
      · exact absurd hnone hr
      · rw [hst] at hsta
        rcases hfin with hfin | hfin <;> simp [← hsta] at hfin
  · rw [not_or, ne_eq, not_not, Bool.not_eq_false] at hold
    obtain ⟨hs, hr⟩ := hold
    have hl := hA.lived hp
    have hst : k.state = .processing := by
      rcases hl.sound.kid hk with ⟨-, hst | hst⟩ | ⟨a, hsome, -⟩
      · exact absurd hst hw
      · exact hst
      · simp [hr] at hsome
    rw [hA.storeExact_update_iff hexact
      (hA.reply hp hk hid hs hw hr hadm.1 hans), Life.answer]
    by_cases hlast : ∀ n' k', l.kids.get? n' = some k' →
        k'.state = .processing → n' = n
    · have hclosed : ¬ (l.hear n k cmdRply).Open := by
        rintro ⟨n', k', hk', hst'⟩
        rw [Life.get?_hear] at hk'
        split at hk'
        · cases hk'
          rcases hadm.1 with hfin | hfin <;> simp [hfin] at hst'
        · next hne => exact hne (hlast n' k' hk' hst')
      rw [Life.settle_closed_iff (hl.sound.hear hk hw hr hadm.1 hid)
        (hl.staged.hear hadm.1) hs hclosed,
        ← hA.concludes_iff hp hk hw hr hid hadm.1 hlast]
      constructor
      · intro hc q cmd hcmd hq
        obtain ⟨rfl, -, -⟩ := (hcloses q).mp hq
        rw [hA.represents.history_some hp, hl.sound.received] at hcmd
        rw [hcmd]
        exact hc
      · intro hall
        refine hall p l.cmd ?_ ((hcloses p).mpr ⟨rfl, hst, hlast⟩)
        rw [hA.represents.history_some hp]
        exact hl.sound.received.mpr rfl
    · have hopen : (l.hear n k cmdRply).Open := by
        simp only [not_forall] at hlast
        obtain ⟨n', k', hk', hst', hne⟩ := hlast
        exact ⟨n', k', by rw [Life.get?_hear, if_neg hne, hk'], hst'⟩
      have hboth := Life.settle_of_open cmdRply.cmdState
        (l := l.hear n k cmdRply) hs hopen
      refine iff_of_true (iff_of_true hboth.1 hboth.2) ?_
      intro q cmd _ hq
      exact absurd ((hcloses q).mp hq).2.2 hlast

/-- Throughout a run the store holds exactly the commands that await an answer
and their children, if and only if every step of the run leaves nothing behind.
-/
theorem storeExact_iff_leavesNothing
    {τ : List (Mediator × Input)} {m : Mediator}
    (h : (machine answers).Run τ m) :
    ((∀ e ∈ τ, e.1.StoreExact) ∧ m.StoreExact) ↔
      ∀ e ∈ τ, e.1.LeavesNothing e.2 := by
  refine Machine.Run.all_iff_meets (fun _ => storeExact_start) ?_ h
  intro m i hreach hexact hadm
  cases i with
  | command cmd => exact storeExact_command_iff hreach hexact hadm
  | reply cmdRply => exact storeExact_reply_iff hreach hexact hadm

/-! ### An `ADD_SFCI` in Turbonet -/

def sffRply : CommandReply :=
  sampleRply 0 .successful
    (zoneAttributes (sourceAttributes "{sffController}") .turbonet)

def p4Rply : CommandReply :=
  sampleRply 1 .successful (zoneAttributes .empty .turbonet)

def vnfRply : CommandReply :=
  sampleRply 2 .successful (zoneAttributes .empty .turbonet)

def vnfChild : Command :=
  { sampleChild .addSFCI .turbonet 2 with
    attributes := ⟨some .turbonet, some "unknown", none, none⟩ }

def addSFCITurbonet : Mediator :=
  (fresh .server).handle (.command (sampleCmd .addSFCI .turbonet))

def sffSucceeded : Mediator := addSFCITurbonet.handle (.reply sffRply)

def p4Succeeded : Mediator := sffSucceeded.handle (.reply p4Rply)

theorem admits_sffRply :
    (machine controllerAnswers).admits addSFCITurbonet (.reply sffRply) :=
  ⟨.inl rfl, ⟨1, 0⟩, .sffControllerCmd, sampleChild .addSFCI .turbonet 0,
    ⟨"SFF_CONTROLLER_QUEUE_TURBONET_ZONE", by decide +kernel⟩, rfl, .turbonet, rfl, rfl⟩

theorem admits_p4Rply :
    (machine controllerAnswers).admits sffSucceeded (.reply p4Rply) :=
  ⟨.inl rfl, ⟨1, 0⟩, .p4ControllerCmd, sampleChild .addSFCI .turbonet 1,
    ⟨"P4CONTROLLER_QUEUE_TURBONET_ZONE", by decide +kernel⟩, rfl, rfl⟩

theorem admits_vnfRply :
    (machine controllerAnswers).admits p4Succeeded (.reply vnfRply) :=
  ⟨.inl rfl, ⟨1, 0⟩, .vnfControllerCmd, vnfChild,
    ⟨"VNF_CONTROLLER_QUEUE_TURBONET_ZONE", by decide +kernel⟩, rfl, .turbonet, rfl,
    rfl⟩

theorem historyOf_p4Succeeded :
    p4Succeeded.historyOf ⟨1, 0⟩ =
      [.received (sampleCmd .addSFCI .turbonet),
        .prepared .sffControllerCmd ⟨generator, 0⟩,
        .sent "SFF_CONTROLLER_QUEUE_TURBONET_ZONE"
          ⟨.sffControllerCmd, .command (sampleChild .addSFCI .turbonet 0)⟩,
        .prepared .p4ControllerCmd ⟨generator, 1⟩,
        .sent "P4CONTROLLER_QUEUE_TURBONET_ZONE"
          ⟨.p4ControllerCmd, .command (sampleChild .addSFCI .turbonet 1)⟩,
        .prepared .vnfControllerCmd ⟨generator, 2⟩, .answered sffRply,
        .sent "VNF_CONTROLLER_QUEUE_TURBONET_ZONE"
          ⟨.vnfControllerCmd, .command vnfChild⟩,
        .answered p4Rply] := by
  decide +kernel

theorem said_p4Succeeded {a : CommandReply}
    (h : p4Succeeded.Said ⟨1, 0⟩ vnfRply a) : a ∈ [sffRply, p4Rply, vnfRply] := by
  obtain rfl | h := h
  · simp
  · rw [historyOf_p4Succeeded] at h
    simp only [List.mem_cons, reduceCtorEq, false_or, List.not_mem_nil, or_false,
      Happening.answered.injEq] at h ⊢
    exact h.imp_right Or.inl

theorem run_p4Succeeded : (machine controllerAnswers).Run
    ([(fresh .server, .command (sampleCmd .addSFCI .turbonet))] ++
      [(addSFCITurbonet, .reply sffRply)] ++ [(sffSucceeded, .reply p4Rply)])
    p4Succeeded := by
  have hadm : (machine controllerAnswers).admits (fresh .server)
      (.command (sampleCmd .addSFCI .turbonet)) := by
    refine ⟨by simp [sampleCmd, generator], ?_⟩
    intro e he
    simp [fresh] at he
  exact run_handle (run_handle (run_handle (τ := []) (.start ⟨rfl, rfl⟩) hadm)
    admits_sffRply) admits_p4Rply

theorem parent_of_p4Succeeded : ∀ e ∈ p4Succeeded.trace, e.parent = ⟨1, 0⟩ := by
  decide +kernel

theorem not_closes_of_sent {m : Mediator} {p p' : UUID} {cmdRply : CommandReply}
    {queue : String} {n : MsgType} {cCmd : Command}
    (hparent : ∀ e ∈ m.trace, e.parent = p)
    (hsent : .sent queue ⟨n, .command cCmd⟩ ∈ m.historyOf p)
    (hne : cCmd.cmdID ≠ cmdRply.cmdID)
    (hunanswered : ∀ a, .answered a ∈ m.historyOf p → a.cmdID ≠ cCmd.cmdID) :
    ¬ m.Closes p' cmdRply := by
  intro hcloses
  obtain ⟨queue', n', cCmd', hsent', -⟩ := hcloses.sent
  obtain rfl : p' = p := hparent _ (Represented.mem_historyOf.mp hsent')
  obtain ⟨a, ha, hid⟩ := hcloses.last _ _ _ hsent hne
  exact hunanswered a ha hid

theorem not_closes_addSFCITurbonet (p : UUID) :
    ¬ addSFCITurbonet.Closes p sffRply := by
  have hhist : addSFCITurbonet.historyOf ⟨1, 0⟩ =
      (p4Succeeded.historyOf ⟨1, 0⟩).take 6 := by
    decide +kernel
  rw [historyOf_p4Succeeded] at hhist
  have hsent : .sent "P4CONTROLLER_QUEUE_TURBONET_ZONE"
      ⟨.p4ControllerCmd, .command (sampleChild .addSFCI .turbonet 1)⟩ ∈
        addSFCITurbonet.historyOf ⟨1, 0⟩ := by
    simp [hhist]
  refine not_closes_of_sent (by decide +kernel) hsent (by decide) ?_
  simp [hhist]

theorem not_closes_sffSucceeded (p : UUID) : ¬ sffSucceeded.Closes p p4Rply := by
  have hhist : sffSucceeded.historyOf ⟨1, 0⟩ =
      (p4Succeeded.historyOf ⟨1, 0⟩).take 8 := by
    decide +kernel
  rw [historyOf_p4Succeeded] at hhist
  have hsent : .sent "VNF_CONTROLLER_QUEUE_TURBONET_ZONE"
      ⟨.vnfControllerCmd, .command vnfChild⟩ ∈
        sffSucceeded.historyOf ⟨1, 0⟩ := by
    simp [hhist]
  refine not_closes_of_sent (by decide +kernel) hsent (by decide) fun a ha => ?_
  obtain rfl : a = sffRply := by simpa [hhist] using ha
  decide

theorem agrees_of_mem {a a' : CommandReply} (ha : a ∈ [sffRply, p4Rply, vnfRply])
    (ha' : a' ∈ [sffRply, p4Rply, vnfRply]) : a.Agrees a' := by
  have hans : ∀ a ∈ [sffRply, p4Rply, vnfRply], ∃ n,
      (n = .p4ControllerCmd ∨ n = .sffControllerCmd ∨ n = .vnfControllerCmd) ∧
        controllerAnswers n (sampleChild .addSFCI .turbonet 0) a := by
    simp only [List.forall_mem_cons]
    exact ⟨⟨.sffControllerCmd, by simp, .turbonet, rfl, rfl⟩,
      ⟨.p4ControllerCmd, by simp, rfl⟩,
      ⟨.vnfControllerCmd, by simp, .turbonet, rfl, rfl⟩, List.forall_mem_nil _⟩
  obtain ⟨n, hn, h⟩ := hans a ha
  obtain ⟨n', hn', h'⟩ := hans a' ha'
  exact agrees_of_turbonet rfl hn h rfl hn' h'

theorem concludes_p4Succeeded : p4Succeeded.Concludes ⟨1, 0⟩
    (sampleCmd .addSFCI .turbonet) vnfRply where
  source := by simp [sampleCmd]
  unsent := by
    intro _ a ha
    have hmem := said_p4Succeeded ha
    simp only [List.mem_cons, List.not_mem_nil, or_false] at hmem
    obtain rfl | rfl | rfl := hmem <;> rintro ⟨⟩
  replyable _ _ :=
    ⟨rfl, fun _ _ ha ha' => agrees_of_mem (said_p4Succeeded ha) (said_p4Succeeded ha')⟩

theorem leavesNothing_p4Succeeded : p4Succeeded.LeavesNothing (.reply vnfRply) := by
  intro p cmd hcmd _
  obtain rfl := parent_of_p4Succeeded _ (Represented.mem_historyOf.mp hcmd)
  rw [historyOf_p4Succeeded] at hcmd
  obtain rfl : cmd = sampleCmd .addSFCI .turbonet := by simpa using hcmd
  exact concludes_p4Succeeded

/-- Only the last of the three answers closes the command, and they agree. -/
theorem storeExact_iff_leavesNothing_addSFCI :
    (p4Succeeded.handle (.reply vnfRply)).StoreExact := by
  refine ((storeExact_iff_leavesNothing
    (run_handle run_p4Succeeded admits_vnfRply)).mpr ?_).2
  simp only [List.cons_append, List.nil_append, List.forall_mem_cons]
  refine ⟨⟨.turbonet, by simp [Life.zones], rfl⟩, ?_, ?_,
    leavesNothing_p4Succeeded, List.forall_mem_nil _⟩
  · exact fun p _ _ hcloses => (not_closes_addSFCITurbonet p hcloses).elim
  · exact fun p _ _ hcloses => (not_closes_sffSucceeded p hcloses).elim

/-- An `ADD_SFCI` in Turbonet after the SFF controller has failed and the P4
controller has succeeded. -/
def leftBehind : Mediator :=
  (((fresh .server).handle (.command (sampleCmd .addSFCI .turbonet))).handle
    (.reply (sampleRply 0 .fail
      (zoneAttributes (sourceAttributes "{sffController}") .turbonet)))).handle
    (.reply (sampleRply 1 .successful (zoneAttributes .empty .turbonet)))

/-- Every child that was sent has answered, and the command is still stored. -/
theorem leftBehind_stored :
    (machine controllerAnswers).Reachable leftBehind ∧
      ¬ leftBehind.Awaiting ⟨1, 0⟩ ∧ leftBehind.cm.contains ⟨1, 0⟩ ∧
      ¬ leftBehind.StoreExact := by
  have hadm : (machine controllerAnswers).admits
      ((fresh .server).handle (.command (sampleCmd .addSFCI .turbonet)))
      (.reply (sampleRply 0 .fail
        (zoneAttributes (sourceAttributes "{sffController}") .turbonet))) := by
    refine ⟨.inr rfl, ⟨1, 0⟩, .sffControllerCmd,
      sampleChild .addSFCI .turbonet 0,
      ⟨"SFF_CONTROLLER_QUEUE_TURBONET_ZONE", by decide⟩, rfl, ?_⟩
    exact ⟨.turbonet, rfl, rfl⟩
  have hadm' : (machine controllerAnswers).admits
      (((fresh .server).handle (.command (sampleCmd .addSFCI .turbonet))).handle
        (.reply (sampleRply 0 .fail
          (zoneAttributes (sourceAttributes "{sffController}") .turbonet))))
      (.reply (sampleRply 1 .successful (zoneAttributes .empty .turbonet))) := by
    exact ⟨.inl rfl, ⟨1, 0⟩, .p4ControllerCmd,
      sampleChild .addSFCI .turbonet 1,
      ⟨"P4CONTROLLER_QUEUE_TURBONET_ZONE", by decide⟩, rfl, rfl⟩
  have hhist : leftBehind.historyOf ⟨1, 0⟩ =
      [.received (sampleCmd .addSFCI .turbonet),
        .prepared .sffControllerCmd ⟨generator, 0⟩,
        .sent "SFF_CONTROLLER_QUEUE_TURBONET_ZONE"
          ⟨.sffControllerCmd, .command (sampleChild .addSFCI .turbonet 0)⟩,
        .prepared .p4ControllerCmd ⟨generator, 1⟩,
        .sent "P4CONTROLLER_QUEUE_TURBONET_ZONE"
          ⟨.p4ControllerCmd, .command (sampleChild .addSFCI .turbonet 1)⟩,
        .prepared .vnfControllerCmd ⟨generator, 2⟩,
        .answered (sampleRply 0 .fail
          (zoneAttributes (sourceAttributes "{sffController}") .turbonet)),
        .sent "ORCHESTRATOR_QUEUE" ⟨.mediatorCmdReply, .commandReply
          ⟨⟨1, 0⟩, .fail,
            zoneAttributes (sourceAttributes "{sffController}") .turbonet⟩⟩,
        .answered (sampleRply 1 .successful
          (zoneAttributes .empty .turbonet))] := by
    decide
  have hparent : ∀ e ∈ leftBehind.trace, e.parent = ⟨1, 0⟩ := by
    decide
  have hawait : ∀ p, ¬ leftBehind.Awaiting p := by
    rintro p ⟨queue, n, cCmd, hsent, hun⟩
    have hp := hparent _ (Represented.mem_historyOf.mp hsent)
    simp only at hp
    subst hp
    rw [hhist] at hsent hun
    simp [sampleRply] at hun
    simp at hsent
    rcases hsent with ⟨-, -, rfl⟩ | ⟨-, -, rfl⟩
    · exact hun.1 rfl
    · exact hun.2 rfl
  have hstored : leftBehind.cm.contains ⟨1, 0⟩ := by decide
  refine ⟨reachable_handle (reachable_handle
    (reachable_sample .addSFCI .turbonet) hadm) hadm', hawait _, hstored, ?_⟩
  intro hexact
  obtain ⟨p, hp, -⟩ := (hexact ⟨1, 0⟩).mp hstored
  exact hawait p hp

end Mediator

end SelfAdaptiveMano

import SelfAdaptiveMano.Mediator.Represents

/-!
# The Mediator simulates the lives of its commands

Each function of the Mediator, run in a state that represents some lives,
returns in a state that represents the lives changed as `Life` says. The
functions that only read are evaluated on the life they read.
-/

namespace SelfAdaptiveMano

open Library

namespace CommandMaintainer

theorem run_getInfo {cm : CommandMaintainer} {cmdID : UUID} {info : CmdInfo}
    (h : cm.get? cmdID = some info) :
    (getInfo cmdID).run cm = .ok info cm := by
  simp [getInfo, EStateM.run_bind, h]

theorem run_getInfo_none {cm : CommandMaintainer} {cmdID : UUID}
    (h : cm.get? cmdID = none) :
    (getInfo cmdID).run cm = .error .keyError cm := by
  simp [getInfo, EStateM.run_bind, h]

theorem run_modifyInfo {cm : CommandMaintainer} {cmdID : UUID} {info : CmdInfo}
    (h : cm.get? cmdID = some info) (f : CmdInfo → CmdInfo) :
    (modifyInfo cmdID f).run cm = .ok () (cm.modify cmdID f) := by
  rw [modifyInfo, PyM.run_bind_ok (run_getInfo h)]
  rfl

theorem run_delInfo {cm : CommandMaintainer} {cmdID : UUID} {info : CmdInfo}
    (h : cm.get? cmdID = some info) :
    (delInfo cmdID).run cm = .ok () (cm.erase cmdID) := by
  rw [delInfo, PyM.run_bind_ok (run_getInfo h)]
  rfl

theorem run_addCmd (cm : CommandMaintainer) (cmd : Command) :
    (addCmd cmd).run cm = .ok () (cm.set cmd.cmdID
      { cmd := cmd, state := .waiting, cmdReply := none, parentCmdID := none,
        childCmdID := .empty }) := rfl

theorem run_transitCmdState (cm : CommandMaintainer) (cmdID : UUID)
    (statePrev stateNext : CmdState) :
    (transitCmdState cmdID statePrev stateNext).run cm =
      .ok () (cm.modify cmdID fun info =>
        if info.state = statePrev then { info with state := stateNext }
        else info) := rfl

theorem run_getCmd (cm : CommandMaintainer) (cmdID : UUID) :
    (getCmd cmdID).run cm = .ok ((cm.get? cmdID).map CmdInfo.cmd) cm := rfl

theorem run_getCmdState {cm : CommandMaintainer} {cmdID : UUID} {info : CmdInfo}
    (h : cm.get? cmdID = some info) :
    (getCmdState cmdID).run cm = .ok info.state cm := by
  rw [getCmdState, PyM.run_bind_ok (run_getInfo h)]
  rfl

/-- Deleting entries that are all there, one after the other. -/
theorem run_forM_delInfo {cm : CommandMaintainer} {l : List (MsgType × UUID)}
    (hin : ∀ e ∈ l, ∃ info, cm.get? e.2 = some info)
    (hnodup : (l.map Prod.snd).Nodup) :
    ∃ cm', (l.forM fun child => delInfo child.2).run cm = .ok () cm' ∧
      ∀ id, cm'.get? id = if id ∈ l.map Prod.snd then none else cm.get? id := by
  induction l generalizing cm with
  | nil => exact ⟨cm, rfl, by simp⟩
  | cons e l ih =>
      rw [List.map_cons, List.nodup_cons] at hnodup
      obtain ⟨info, hinfo⟩ := hin e List.mem_cons_self
      have hin' : ∀ e' ∈ l, ∃ info, (cm.erase e.2).get? e'.2 = some info := by
        intro e' he'
        have hne : e'.2 ≠ e.2 := fun heq =>
          hnodup.1 (heq ▸ List.mem_map_of_mem he')
        rw [Dict.get?_erase, if_neg hne]
        exact hin e' (List.mem_cons_of_mem e he')
      obtain ⟨cm', hrun, hget⟩ := ih hin' hnodup.2
      refine ⟨cm', ?_, ?_⟩
      · change (delInfo e.2 >>= fun _ =>
          l.forM fun child => delInfo child.2).run cm = _
        rw [PyM.run_bind_ok (run_delInfo hinfo)]
        exact hrun
      · intro id
        rw [hget, Dict.get?_erase]
        by_cases hid : id = e.2
        · simp [hid]
        · simp only [List.map_cons, List.mem_cons, hid, false_or, if_false]

end CommandMaintainer

namespace Mediator

open CommandMaintainer

theorem run_withCm {α : Type} {act : PyM CommandMaintainer α} {m : Mediator}
    {a : α} {cm : CommandMaintainer} (h : act.run m.cm = .ok a cm) :
    (withCm act).run m = .ok a { m with cm := cm } :=
  PyM.run_zoom_ok h

theorem run_withCm_error {α : Type} {act : PyM CommandMaintainer α}
    {m : Mediator} {e : PyError} {cm : CommandMaintainer}
    (h : act.run m.cm = .error e cm) :
    (withCm act).run m = .error e { m with cm := cm } :=
  PyM.run_zoom_error h

theorem run_note (m : Mediator) (parent : UUID) (what : Happening) :
    (note parent what).run m =
      .ok () { m with trace := m.trace ++ [⟨parent, what⟩] } := rfl

theorem run_uuid1 (m : Mediator) :
    uuid1.run m = .ok ⟨generator, m.clock⟩ { m with clock := m.clock + 1 } := rfl

end Mediator

open CommandMaintainer Mediator

namespace Represents

theorem prepareChildCmd_spec {m : Mediator} {A : UUID → Option Life}
    {cmd : Command} {l : Life} {name : MsgType} (h : Represents m A)
    (hp : A cmd.cmdID = some l) (hs : l.stored) (hcmd : l.cmd = cmd)
    (hn : l.kids.get? name = none) :
    ∃ m', (prepareChildCmd cmd name).run m =
        .ok (l.newKid ⟨generator, m.clock⟩).cmd m' ∧
      Represents m' (Function.update A cmd.cmdID
        (some (l.prepare name ⟨generator, m.clock⟩))) ∧
      m'.clock = m.clock + 1 ∧ m'.classifierType = m.classifierType := by
  obtain ⟨state, hinfo⟩ := h.parent_info hp hs
  have hne : (⟨generator, m.clock⟩ : UUID) ≠ cmd.cmdID := by
    intro heq
    exact h.parent_foreign hp (by rw [← heq])
  have h₁ := run_modifyInfo hinfo fun info => { info with
    childCmdID := info.childCmdID.set name ⟨generator, m.clock⟩ }
  let cCmd : Command := { cmd with cmdID := ⟨generator, m.clock⟩ }
  let cm := (m.cm.modify cmd.cmdID fun info => { info with
    childCmdID := info.childCmdID.set name ⟨generator, m.clock⟩ }).set
      ⟨generator, m.clock⟩
      { cmd := cCmd, state := .waiting, cmdReply := none, parentCmdID := none,
        childCmdID := .empty }
  have hcm : cm.get? ⟨generator, m.clock⟩ = some
      { cmd := cCmd, state := .waiting, cmdReply := none, parentCmdID := none,
        childCmdID := .empty } := Dict.get?_set_self ..
  have h₂ := run_modifyInfo hcm fun info =>
    { info with parentCmdID := some cmd.cmdID }
  let m₁ : Mediator := { m with
    cm := cm.modify ⟨generator, m.clock⟩ fun info =>
      { info with parentCmdID := some cmd.cmdID }
    clock := m.clock + 1 }
  have hkid : Represents m₁ (Function.update A cmd.cmdID
      (some (l.setKid name (l.newKid ⟨generator, m.clock⟩)))) := by
    refine h.addKid hp hs hn ?_
    intro id
    rw [Dict.get?_modify]
    by_cases hid : id = ⟨generator, m.clock⟩
    · rw [if_pos hid, if_pos hid, hcm, Life.newKid, hcmd]
      rfl
    · rw [if_neg hid, if_neg hid, Dict.get?_set_of_ne _ _ hid,
        Dict.get?_modify]
  have hnote := hkid.note (Function.update_self ..)
    (.prepared name ⟨generator, m.clock⟩)
  rw [Function.update_idem] at hnote
  refine ⟨_, ?_, hnote, rfl, rfl⟩
  refine (PyM.run_bind_ok (run_uuid1 m) _).trans ?_
  let m₀ : Mediator := { m with clock := m.clock + 1 }
  refine (PyM.run_bind_ok (run_withCm (m := m₀) h₁) _).trans ?_
  refine (PyM.run_bind_ok (run_withCm (run_addCmd _ cCmd)) _).trans ?_
  refine (PyM.run_bind_ok (run_withCm (m := { m₀ with cm := cm }) h₂) _).trans ?_
  rw [Life.newKid, hcmd]
  rfl

theorem sendChildCmd_spec {m : Mediator} {A : UUID → Option Life}
    {cmd : Command} {l : Life} {name : MsgType} {k : Kid}
    (h : Represents m A) (hp : A cmd.cmdID = some l) (hs : l.stored)
    (hk : l.kids.get? name = some k) (hw : k.state = .waiting)
    (queue : String) :
    ∃ m', (sendChildCmd cmd k.cmd name queue).run m = .ok () m' ∧
      Represents m' (Function.update A cmd.cmdID
        (some (l.send name k queue))) ∧
      m'.clock = m.clock ∧ m'.classifierType = m.classifierType := by
  have h₁ := h.note hp (.sent queue ⟨name, .command k.cmd⟩)
  have hs₁ : (l.log (.sent queue ⟨name, .command k.cmd⟩)).stored := hs
  have h₂ := h₁.parentState (Function.update_self ..) hs₁
    (f := fun info => if info.state = .waiting then
      { info with state := .processing } else info) (by
    intro state
    by_cases hst : state = .waiting
    · exact ⟨.processing, by simp [Life.info, hst]⟩
    · exact ⟨state, by simp [Life.info, hst]⟩)
  have h₃ := h₂.setKid (j := { k with state := .processing })
    (Function.update_self ..) hs₁ hk rfl (f := fun info =>
      if info.state = .waiting then { info with state := .processing }
      else info) (by simp [Kid.info, hw])
  rw [Function.update_idem] at h₃
  refine ⟨_, ?_, h₃, rfl, rfl⟩
  refine (PyM.run_bind_ok (run_note m _ _) _).trans ?_
  refine (PyM.run_bind_ok (run_withCm (run_transitCmdState _ _ _ _)) _).trans ?_
  exact run_withCm (run_transitCmdState _ _ _ _)

theorem dispatchChildCmd_spec {m : Mediator} {A : UUID → Option Life}
    {cmd : Command} {l : Life} {name : MsgType} {zone : Zone}
    (h : Represents m A) (hp : A cmd.cmdID = some l) (hs : l.stored)
    (hcmd : l.cmd = cmd) (hn : l.kids.get? name = none)
    (hz : cmd.attributes.zone = some zone) (queueType : QueueType) :
    ∃ m', (dispatchChildCmd name queueType cmd).run m = .ok () m' ∧
      Represents m' (Function.update A cmd.cmdID (some (l.dispatch name
        (genQueueName queueType (some zone)) ⟨generator, m.clock⟩))) ∧
      m'.clock = m.clock + 1 ∧ m'.classifierType = m.classifierType := by
  obtain ⟨m₁, hrun, h₁, hc, ht⟩ := h.prepareChildCmd_spec hp hs hcmd hn
  have hkid : (l.prepare name ⟨generator, m.clock⟩).kids.get? name =
      some (l.newKid ⟨generator, m.clock⟩) := Dict.get?_set_self ..
  rcases h₁.sendChildCmd_spec (Function.update_self ..) hs hkid rfl
    (genQueueName queueType (some zone)) with ⟨m₂, hrun₂, h₂, hc₂, ht₂⟩
  rw [Function.update_idem] at h₂
  refine ⟨m₂, ?_, h₂, hc₂.trans hc, ht₂.trans ht⟩
  have hzone : (zoneOf cmd).run m₁ = .ok zone m₁ := by simp [zoneOf, hz]
  rw [dispatchChildCmd, PyM.run_bind_ok hrun, PyM.run_bind_ok hzone]
  exact hrun₂

/-- `act` registers the children `items` of `cmd`, in this order, whatever was
registered before, as long as no name is used twice. -/
def Registers (classifierType : ClassifierType) (cmd : Command)
    (act : PyM Mediator Unit) (items : List (MsgType × Option String)) : Prop :=
  ∀ (m : Mediator) (A : UUID → Option Life) (l : Life),
    Represents m A → A cmd.cmdID = some l → l.stored → l.cmd = cmd →
    m.classifierType = classifierType →
    (∀ e ∈ items, l.kids.get? e.1 = none) → (items.map Prod.fst).Nodup →
    ∃ m', act.run m = .ok () m' ∧
      Represents m' (Function.update A cmd.cmdID
        (some (l.register m.clock items))) ∧
      m'.clock = m.clock + items.length ∧
      m'.classifierType = classifierType

theorem registers_nil {classifierType : ClassifierType} {cmd : Command} :
    Registers classifierType cmd (pure ()) [] := by
  intro m A l h hp hs hcmd ht _ _
  refine ⟨m, rfl, ?_, rfl, ht⟩
  rw [Life.register, ← hp, Function.update_eq_self]
  exact h

theorem registers_dispatch {classifierType : ClassifierType} {cmd : Command}
    {zone : Zone} (hz : cmd.attributes.zone = some zone) (name : MsgType)
    (queueType : QueueType) :
    Registers classifierType cmd (dispatchChildCmd name queueType cmd)
      [Life.inZone zone name queueType] := by
  intro m A l h hp hs hcmd ht hn _
  have hn := hn _ List.mem_cons_self
  rcases h.dispatchChildCmd_spec hp hs hcmd hn hz queueType with
    ⟨m', hrun, h', hc, ht'⟩
  exact ⟨m', hrun, h', hc, ht'.trans ht⟩

theorem registers_prepare {classifierType : ClassifierType} {cmd : Command}
    (name : MsgType) :
    Registers classifierType cmd (do let _ ← prepareChildCmd cmd name)
      [(name, none)] := by
  intro m A l h hp hs hcmd ht hn _
  have hn := hn _ List.mem_cons_self
  obtain ⟨m', hrun, h', hc, ht'⟩ := h.prepareChildCmd_spec hp hs hcmd hn
  refine ⟨m', ?_, h', hc, ht'.trans ht⟩
  rw [PyM.run_bind_ok hrun]
  rfl

theorem Registers.seq {classifierType : ClassifierType} {cmd : Command}
    {act act' : PyM Mediator Unit} {items items' : List (MsgType × Option String)}
    (h₁ : Registers classifierType cmd act items)
    (h₂ : Registers classifierType cmd act' items') :
    Registers classifierType cmd (do act; act') (items ++ items') := by
  intro m A l h hp hs hcmd ht hn hnodup
  rw [List.map_append, List.nodup_append] at hnodup
  rcases h₁ m A l h hp hs hcmd ht (fun e he => hn e (List.mem_append_left _ he))
    hnodup.1 with ⟨m₁, hrun₁, hr₁, hc₁, ht₁⟩
  have hn₂ : ∀ e ∈ items', (l.register m.clock items).kids.get? e.1 = none := by
    intro e he
    have hne : e.1 ∉ items.map Prod.fst := fun hmem =>
      hnodup.2.2 e.1 hmem e.1 (List.mem_map_of_mem he) rfl
    rw [Life.get?_register_of_not_mem _ _ hne]
    exact hn e (List.mem_append_right _ he)
  rcases h₂ m₁ _ _ hr₁ (Function.update_self ..) (by simpa using hs)
    (by simpa using hcmd) ht₁ hn₂ hnodup.2.1 with ⟨m₂, hrun₂, hr₂, hc₂, ht₂⟩
  rw [Function.update_idem, hc₁, ← Life.register_append] at hr₂
  refine ⟨m₂, ?_, hr₂, ?_, ht₂⟩
  · rw [PyM.run_bind_ok hrun₁]
    exact hrun₂
  · rw [hc₂, hc₁, List.length_append, Nat.add_assoc]

theorem Registers.whenServer {cmd : Command} {act : PyM Mediator Unit}
    {items : List (MsgType × Option String)} (classifierType : ClassifierType)
    (h : Registers classifierType cmd act items) :
    Registers classifierType cmd (whenServer act)
      (if classifierType = .server then items else []) := by
  intro m A l hm hp hs hcmd ht hn hnodup
  have hrun : (Mediator.whenServer act).run m =
      (if classifierType = .server then act else pure ()).run m := by
    rw [← ht]
    rfl
  rw [hrun]
  by_cases hserver : classifierType = .server
  · rw [if_pos hserver] at hn hnodup ⊢
    rw [if_pos hserver]
    exact h m A l hm hp hs hcmd ht hn hnodup
  · rw [if_neg hserver, if_neg hserver]
    exact registers_nil m A l hm hp hs hcmd ht (by simp) (by simp)

end Represents

end SelfAdaptiveMano

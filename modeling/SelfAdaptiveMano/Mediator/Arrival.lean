import SelfAdaptiveMano.Mediator.Simulation

/-!
# A command arrives

The branches of `_commandHandler` over zones and command types are the plan of
`Life.plan`, and the Mediator takes a command in by beginning the life
`Life.born`.
-/

namespace SelfAdaptiveMano

open Library CommandMaintainer Mediator

namespace Represents

theorem registers_turbonet {classifierType : ClassifierType} {cmd : Command}
    {items : List (MsgType × Option String)}
    (hz : cmd.attributes.zone = some .turbonet)
    (hplan : Life.plan classifierType cmd = some items) :
    Registers classifierType cmd (processCmdInTurbonetZone cmd) items := by
  have hd (name : MsgType) (queueType : QueueType) :
      Registers classifierType cmd (dispatchChildCmd name queueType cmd)
        [Life.inZone .turbonet name queueType] :=
    registers_dispatch hz name queueType
  have sff := hd .sffControllerCmd .sffController
  have p4 := hd .p4ControllerCmd .p4Controller
  have vnf := hd .vnfControllerCmd .vnfController
  cases ht : cmd.cmdType <;>
    simp only [Life.plan, hz, ht, Option.some.injEq, reduceCtorEq] at hplan <;>
    subst hplan <;> simp only [processCmdInTurbonetZone, ht]
  case addSFC => exact p4
  case addSFCI => exact sff.seq (p4.seq (registers_prepare _))
  case delSFCI => exact sff.seq (p4.seq vnf)
  case delSFC => exact p4

theorem registers_puffer {classifierType : ClassifierType} {cmd : Command}
    {items : List (MsgType × Option String)}
    (hz : cmd.attributes.zone = some .puffer)
    (hplan : Life.plan classifierType cmd = some items) :
    Registers classifierType cmd (processCmdInPufferZone cmd) items := by
  have hd (name : MsgType) (queueType : QueueType) :
      Registers classifierType cmd (dispatchChildCmd name queueType cmd)
        [Life.inZone .puffer name queueType] :=
    registers_dispatch hz name queueType
  have classifier :=
    (hd .classifierControllerCmd .serverClassifierController).whenServer
  have sff := hd .sffControllerCmd .sffController
  have network := hd .networkControllerCmd .networkController
  have vnf := hd .vnfControllerCmd .vnfController
  cases ht : cmd.cmdType <;>
    simp only [Life.plan, hz, ht, Option.some.injEq, reduceCtorEq] at hplan <;>
    subst hplan <;> simp only [processCmdInPufferZone, ht]
  case addSFC => exact classifier.seq network
  case addSFCI =>
    exact classifier.seq (sff.seq (network.seq (registers_prepare _)))
  case delSFCI => exact classifier.seq (sff.seq (network.seq vnf))
  case delSFC => exact classifier.seq network
  case getServerSet => exact hd .serverManagerCmd .serverManager
  case getTopology => exact network
  case getSFCIState => exact sff

theorem registers_simulator {classifierType : ClassifierType} {cmd : Command}
    {items : List (MsgType × Option String)}
    (hz : cmd.attributes.zone = some .simulator)
    (hplan : Life.plan classifierType cmd = some items) :
    Registers classifierType cmd (processCmdInSimulatorZone cmd) items := by
  simp only [Life.plan, hz, Option.some.injEq] at hplan
  subst hplan
  intro m A l h hp hs hcmd ht hn _
  have hn := hn _ List.mem_cons_self
  rcases h.prepareChildCmd_spec hp hs hcmd hn with ⟨m₁, hrun, h₁, hc, ht₁⟩
  have hkid : (l.prepare .simulatorCmd ⟨generator, m.clock⟩).kids.get?
      .simulatorCmd = some (l.newKid ⟨generator, m.clock⟩) :=
    Dict.get?_set_self ..
  rcases h₁.sendChildCmd_spec (Function.update_self ..) hs hkid rfl
    (genQueueName .simulator none) with ⟨m₂, hrun₂, h₂, hc₂, ht₂⟩
  rw [Function.update_idem] at h₂
  refine ⟨m₂, ?_, h₂, hc₂.trans hc, (ht₂.trans ht₁).trans ht⟩
  rw [processCmdInSimulatorZone, forwardCmd2Simulator, PyM.run_bind_ok hrun]
  exact hrun₂

theorem delCmdwithChildCmd_spec {m : Mediator} {A : UUID → Option Life}
    {p : UUID} {l : Life} (h : Represents m A) (hp : A p = some l)
    (hs : l.stored) :
    ∃ m', (withCm (delCmdwithChildCmd p)).run m = .ok () m' ∧
      Represents m' (Function.update A p (some { l with stored := false })) ∧
      m'.clock = m.clock ∧ m'.classifierType = m.classifierType := by
  rcases h.parent_info hp hs with ⟨state, hinfo⟩
  have hin : ∀ e ∈ l.childCmdID.items, ∃ k, l.kids.get? e.1 = some k ∧
      k.cmd.cmdID = e.2 := by
    intro e he
    have hget := Dict.mem_items_iff.mp he
    rw [Life.childCmdID, Dict.get?_map, Option.map_eq_some_iff] at hget
    exact hget
  have hnodup : (l.childCmdID.items.map Prod.snd).Nodup := by
    rw [List.nodup_map_iff_inj_on l.childCmdID.nodup_keys.of_map]
    rintro ⟨n, id⟩ he ⟨n', id'⟩ he' hid
    rcases hin _ he with ⟨k, hk, rfl⟩
    rcases hin _ he' with ⟨k', hk', rfl⟩
    have hn := (h.kid_unique hp hp hk hk' hid).2
    exact Prod.ext hn hid
  have hstored : ∀ e ∈ l.childCmdID.items,
      ∃ info, m.cm.get? e.2 = some info := by
    intro e he
    rcases hin e he with ⟨k, hk, hid⟩
    exact ⟨_, hid ▸ h.kid_info hp hs hk⟩
  rcases run_forM_delInfo hstored hnodup with ⟨cm', hrun, hget⟩
  have hmem : ∀ {n k}, l.kids.get? n = some k →
      k.cmd.cmdID ∈ l.childCmdID.items.map Prod.snd := by
    intro n k hk
    refine List.mem_map.mpr ⟨(n, k.cmd.cmdID), ?_, rfl⟩
    rw [Dict.mem_items_iff, Life.childCmdID, Dict.get?_map, hk]
    rfl
  have hpmem : p ∉ l.childCmdID.items.map Prod.snd := by
    intro hmem
    rcases List.mem_map.mp hmem with ⟨e, he, hid⟩
    rcases hin e he with ⟨k, hk, hid'⟩
    exact h.parent_ne_kid hp hp hk (hid.symm.trans hid'.symm)
  have hpget : cm'.get? p = some (l.info state) := by
    rw [hget, if_neg hpmem, hinfo]
  have hdel : (delCmdwithChildCmd p).run m.cm = .ok () (cm'.erase p) := by
    rw [delCmdwithChildCmd, PyM.run_bind_ok (run_getInfo hinfo)]
    refine (PyM.run_bind_ok hrun _).trans ?_
    exact run_delInfo hpget
  refine ⟨_, run_withCm hdel, h.remove hp ⟨?_, ?_⟩ ?_, rfl, rfl⟩
  · exact Dict.get?_erase_self ..
  · intro n k hk
    rw [Dict.get?_erase, if_neg (h.parent_ne_kid hp hp hk).symm, hget,
      if_pos (hmem hk)]
  · intro id hid hid'
    rw [Dict.get?_erase, if_neg hid, hget, if_neg]
    intro hmem'
    rcases List.mem_map.mp hmem' with ⟨e, he, rfl⟩
    rcases hin e he with ⟨k, hk, hide⟩
    exact hid' _ k hk hide.symm

theorem plan_nodup {classifierType : ClassifierType} {cmd : Command}
    {items : List (MsgType × Option String)}
    (hplan : Life.plan classifierType cmd = some items) :
    (items.map Prod.fst).Nodup := by
  cases hz : cmd.attributes.zone with
  | none =>
      simp only [Life.plan, hz, Option.some.injEq] at hplan
      simp [← hplan]
  | some zone =>
      cases zone <;> cases ht : cmd.cmdType <;> cases classifierType <;>
        simp only [Life.plan, hz, ht, Option.some.injEq, reduceCtorEq] at hplan <;>
        simp [← hplan, Life.inZone, Life.classifierItem]

/-- The part of `commandHandler` that depends on the zone. -/
def zoneHandler (cmd : Command) : Zone → PyM Mediator Unit
  | .simulator => processCmdInSimulatorZone cmd
  | .turbonet => processCmdInTurbonetZone cmd
  | .puffer => processCmdInPufferZone cmd
  | _ => pure ()

theorem zoneHandler_registers {classifierType : ClassifierType} {cmd : Command}
    {zone : Zone} {items : List (MsgType × Option String)}
    (hz : cmd.attributes.zone = some zone)
    (hplan : Life.plan classifierType cmd = some items) :
    Registers classifierType cmd (zoneHandler cmd zone) items := by
  cases zone with
  | simulator => exact registers_simulator hz hplan
  | turbonet => exact registers_turbonet hz hplan
  | puffer => exact registers_puffer hz hplan
  | _ =>
      simp only [Life.plan, hz, Option.some.injEq] at hplan
      subst hplan
      exact registers_nil

theorem zoneHandler_of_plan_eq_none {classifierType : ClassifierType}
    {cmd : Command} {zone : Zone} (hz : cmd.attributes.zone = some zone)
    (hplan : Life.plan classifierType cmd = none) :
    zoneHandler cmd zone = withCm (delCmdwithChildCmd cmd.cmdID) := by
  cases zone <;> cases ht : cmd.cmdType <;>
    simp only [Life.plan, hz, ht, reduceCtorEq] at hplan <;>
    simp only [zoneHandler, processCmdInTurbonetZone, processCmdInPufferZone, ht]

theorem command_spec {m : Mediator} {A : UUID → Option Life} {cmd : Command}
    (h : Represents m A) (hnew : A cmd.cmdID = none)
    (hforeign : cmd.cmdID.generator ≠ generator) :
    Represents (m.handle (.command cmd)) (Function.update A cmd.cmdID
        (some (Life.born m.classifierType m.clock cmd))) ∧
      (m.handle (.command cmd)).classifierType = m.classifierType := by
  have h₁ := h.start hnew hforeign
  have hrun : (commandHandler cmd).run m = ((zoneOf cmd >>= zoneHandler cmd).run
      { m with
        cm := m.cm.set cmd.cmdID ((Life.start cmd).info .waiting)
        trace := m.trace ++ [⟨cmd.cmdID, .received cmd⟩] }) := by
    rw [commandHandler, PyM.run_bind_ok (run_note m _ _)]
    refine (PyM.run_bind_ok (run_withCm (run_addCmd _ cmd)) _).trans ?_
    congr 1
  have hhandle : m.handle (.command cmd) = (commandHandler cmd).finalState m :=
    rfl
  rw [hhandle, PyM.finalState, hrun]
  cases hz : cmd.attributes.zone with
  | none =>
      have hzone : zoneOf cmd = throw .keyError := by
        rw [zoneOf, hz]
        rfl
      have hborn : Life.born m.classifierType m.clock cmd = Life.start cmd := by
        simp [Life.born, Life.plan, hz, Life.register]
      rw [hzone, PyM.run_bind_error (PyM.run_throw' _ _), hborn]
      exact ⟨h₁, rfl⟩
  | some zone =>
      have hzone : zoneOf cmd = pure zone := by
        rw [zoneOf, hz]
        rfl
      rw [hzone, pure_bind]
      cases hplan : Life.plan m.classifierType cmd with
      | none =>
          rcases h₁.delCmdwithChildCmd_spec (Function.update_self ..) rfl with
            ⟨m', hrun', h', -, ht'⟩
          rw [Function.update_idem] at h'
          rw [zoneHandler_of_plan_eq_none hz hplan, hrun', Life.born, hplan]
          exact ⟨h', ht'⟩
      | some items =>
          have hnone : ∀ e ∈ items, (Life.start cmd).kids.get? e.1 = none :=
            fun _ _ => rfl
          rcases zoneHandler_registers hz hplan _ _ _ h₁
            (Function.update_self ..) rfl rfl rfl hnone (plan_nodup hplan) with
            ⟨m', hrun', h', -, ht'⟩
          rw [Function.update_idem] at h'
          rw [hrun', Life.born, hplan]
          exact ⟨h', ht'⟩

end Represents

end SelfAdaptiveMano

import SelfAdaptiveMano.Mediator.Arrival

/-!
# A child answers

A reply to a child of a stored life makes the Mediator settle that life as
`Life.answer` says. What it reads from the store on the way is what the life
says about the children; where one of its statements raises, the life is left
as it was settled so far.
-/

namespace SelfAdaptiveMano

open Library CommandMaintainer Mediator

namespace Represents

theorem run_getInfo_kid {m : Mediator} {A : UUID → Option Life} {p : UUID}
    {l : Life} (h : Represents m A) (hp : A p = some l) (hs : l.stored)
    {e : MsgType × Kid} (he : e ∈ l.kids.items) :
    (getInfo e.2.cmd.cmdID).run m.cm = .ok (e.2.info p) m.cm :=
  run_getInfo (h.kid_info hp hs (Dict.mem_items_iff.mp he))

theorem run_getCmdState_kid {m : Mediator} {A : UUID → Option Life} {p : UUID}
    {l : Life} (h : Represents m A) (hp : A p = some l) (hs : l.stored)
    {e : MsgType × Kid} (he : e ∈ l.kids.items) :
    (getCmdState e.2.cmd.cmdID).run m.cm = .ok e.2.state m.cm :=
  run_getCmdState (h.kid_info hp hs (Dict.mem_items_iff.mp he))

theorem run_allChildCmd {m : Mediator} {A : UUID → Option Life} {p : UUID}
    {l : Life} (h : Represents m A) (hp : A p = some l) (hs : l.stored)
    (test : CmdState → Bool) :
    (allChildCmd p test).run m.cm = .ok (l.allKids test) m.cm := by
  obtain ⟨state, hinfo⟩ := h.parent_info hp hs
  rw [allChildCmd, PyM.run_bind_ok (run_getInfo hinfo)]
  refine PyM.run_allM fun e he => ?_
  rw [PyM.run_bind_ok (h.run_getCmdState_kid hp hs he)]
  rfl

theorem run_anyChildCmd {m : Mediator} {A : UUID → Option Life} {p : UUID}
    {l : Life} (h : Represents m A) (hp : A p = some l) (hs : l.stored)
    (test : CmdState → Bool) :
    (anyChildCmd p test).run m.cm = .ok (l.anyKid test) m.cm := by
  obtain ⟨state, hinfo⟩ := h.parent_info hp hs
  rw [anyChildCmd, PyM.run_bind_ok (run_getInfo hinfo)]
  refine PyM.run_anyM fun e he => ?_
  rw [PyM.run_bind_ok (h.run_getCmdState_kid hp hs he)]
  rfl

theorem run_isOnlyOneChildCmdFailed {m : Mediator} {A : UUID → Option Life}
    {p : UUID} {l : Life} (h : Represents m A) (hp : A p = some l)
    (hs : l.stored) :
    (isOnlyOneChildCmdFailed p).run m.cm =
      .ok ((l.kids.items.map fun e => e.2.state).count .fail == 1) m.cm := by
  obtain ⟨state, hinfo⟩ := h.parent_info hp hs
  have hstates : (l.childCmdID.items.mapM fun child =>
      getCmdState child.2).run m.cm =
        .ok (l.kids.items.map fun e => e.2.state) m.cm :=
    PyM.run_mapM fun e he => h.run_getCmdState_kid hp hs he
  rw [isOnlyOneChildCmdFailed, PyM.run_bind_ok (run_getInfo hinfo)]
  exact PyM.run_bind_ok hstates _

theorem run_getChildCMdRplyList {m : Mediator} {A : UUID → Option Life}
    {p : UUID} {l : Life} (h : Represents m A) (hp : A p = some l)
    (hs : l.stored) :
    (getChildCMdRplyList p).run m.cm = .ok l.replies m.cm := by
  obtain ⟨state, hinfo⟩ := h.parent_info hp hs
  rw [getChildCMdRplyList, PyM.run_bind_ok (run_getInfo hinfo)]
  refine PyM.run_mapM fun e he => ?_
  rw [PyM.run_bind_ok (h.run_getInfo_kid hp hs he)]
  rfl

theorem run_getCmdType {m : Mediator} {A : UUID → Option Life} {p : UUID}
    {l : Life} (h : Represents m A) (hp : A p = some l) (hs : l.stored) :
    (getCmdType p).run m.cm = .ok l.cmd.cmdType m.cm := by
  obtain ⟨state, hinfo⟩ := h.parent_info hp hs
  rw [getCmdType, PyM.run_bind_ok (run_getInfo hinfo)]
  rfl

theorem run_getCmd_parent {m : Mediator} {A : UUID → Option Life} {p : UUID}
    {l : Life} (h : Represents m A) (hp : A p = some l) (hs : l.stored) :
    (getCmd p).run m.cm = .ok (some l.cmd) m.cm := by
  obtain ⟨state, hinfo⟩ := h.parent_info hp hs
  rw [run_getCmd, hinfo]
  rfl

/-- The reply of the parent is sent when it can be made; otherwise the attempt
raises and only the state of the parent has changed. -/
theorem replyParentCmd_spec {m : Mediator} {A : UUID → Option Life} {p : UUID}
    {l : Life} (h : Represents m A) (hp : A p = some l) (hs : l.stored)
    (state : CmdState) (dst : String) :
    match l.reply? state with
    | some rply => ∃ m', (replyParentCmd p state dst).run m = .ok () m' ∧
        Represents m' (Function.update A p (some (l.log
          (.sent dst ⟨.mediatorCmdReply, .commandReply rply⟩))))
    | none => ∃ e m', (replyParentCmd p state dst).run m = .error e m' ∧
        Represents m' A := by
  obtain ⟨state₀, hinfo⟩ := h.parent_info hp hs
  have hcmdID := h.parent_cmdID hp
  let m₁ : Mediator := { m with
    cm := m.cm.modify p fun info => { info with state := state } }
  have h₁ : Represents m₁ A := h.parentState hp hs fun _ => ⟨state, rfl⟩
  have hrun₁ : (withCm (changeCmdState p state)).run m = .ok () m₁ :=
    run_withCm (run_modifyInfo hinfo _)
  have hlist := run_withCm (h₁.run_getChildCMdRplyList hp hs)
  have htype := run_withCm (h₁.run_getCmdType hp hs)
  rw [replyParentCmd, PyM.run_bind_ok hrun₁]
  cases hmix : getMixedAttributes l.replies with
  | error e =>
      have hgen : (genParentCmdRply p state).run m₁ = .error e m₁ := by
        rw [genParentCmdRply, PyM.run_bind_ok hlist, hmix]
        rfl
      have hreply : l.reply? state = none := by
        simp only [Life.reply?, hmix]
      rw [hreply]
      exact ⟨e, m₁, PyM.run_bind_error hgen _, h₁⟩
  | ok attr =>
      have hgen : (genParentCmdRply p state).run m₁ =
          .ok ⟨p, state, attr⟩ m₁ := by
        rw [genParentCmdRply, PyM.run_bind_ok hlist, hmix]
        rfl
      rw [PyM.run_bind_ok hgen, sendParentCmdRply]
      cases herr : replyError l.cmd.cmdType with
      | none =>
          have hreply : l.reply? state = some ⟨p, state, attr⟩ := by
            simp only [Life.reply?, hmix, herr, if_true, hcmdID]
          rw [hreply]
          refine ⟨_, ?_, h₁.note hp _⟩
          refine (PyM.run_bind_ok htype _).trans ?_
          simp only [herr]
          rfl
      | some e =>
          have hreply : l.reply? state = none := by
            simp [Life.reply?, hmix, herr]
          rw [hreply]
          refine ⟨e, m₁, ?_, h₁⟩
          refine (PyM.run_bind_ok htype _).trans ?_
          simp only [herr]
          rfl

theorem delDeterminedCmd_spec {m : Mediator} {A : UUID → Option Life}
    {p : UUID} {l : Life} (h : Represents m A) (hp : A p = some l)
    (hs : l.stored) :
    Represents ((delDeterminedCmd p).finalState m)
      (Function.update A p (some l.retire)) := by
  have hrun := run_withCm (h.run_allChildCmd hp hs fun state =>
    !(state == .waiting || state == .processing))
  rw [delDeterminedCmd, PyM.finalState_bind]
  rw [show (withCm (isAllChildCmdDetermined p)).run m = _ from hrun]
  cases hall : l.allKids fun state =>
      !(state == .waiting || state == .processing) with
  | true =>
      obtain ⟨m', hrun', h', -, -⟩ := h.delCmdwithChildCmd_spec hp hs
      rw [Life.retire, if_pos hall]
      simp only [if_true]
      rw [PyM.finalState_of_ok hrun']
      exact h'
  | false =>
      rw [Life.retire, if_neg (Bool.eq_false_iff.mp hall), ← hp,
        Function.update_eq_self]
      exact h

theorem run_getChildCmdID {m : Mediator} {A : UUID → Option Life} {p : UUID}
    {l : Life} (h : Represents m A) (hp : A p = some l) (hs : l.stored)
    {name : MsgType} {k : Kid} (hk : l.kids.get? name = some k) :
    (getChildCmdID p name).run m.cm = .ok k.cmd.cmdID m.cm := by
  obtain ⟨state, hinfo⟩ := h.parent_info hp hs
  rw [getChildCmdID, PyM.run_bind_ok (run_getInfo hinfo)]
  have hget : l.childCmdID.get? name = some k.cmd.cmdID := by
    rw [Life.childCmdID, Dict.get?_map, hk]
    rfl
  rw [show (l.info state).childCmdID.get? name = _ from hget]
  rfl

theorem run_getChildCmdID_none {m : Mediator} {A : UUID → Option Life}
    {p : UUID} {l : Life} (h : Represents m A) (hp : A p = some l)
    (hs : l.stored) {name : MsgType} (hk : l.kids.get? name = none) :
    (getChildCmdID p name).run m.cm = .error .keyError m.cm := by
  obtain ⟨state, hinfo⟩ := h.parent_info hp hs
  rw [getChildCmdID, PyM.run_bind_ok (run_getInfo hinfo)]
  have hget : l.childCmdID.get? name = none := by
    rw [Life.childCmdID, Dict.get?_map, hk]
    rfl
  rw [show (l.info state).childCmdID.get? name = _ from hget]
  rfl

/-- The prepared child goes to the VNF controller when it was not sent before;
in every other case nothing changes. -/
theorem addSFCIs2Server_spec {m : Mediator} {A : UUID → Option Life} {p : UUID}
    {l : Life} {sff : Kid} (h : Represents m A) (hp : A p = some l)
    (hs : l.stored) (ht : l.cmd.cmdType = .addSFCI)
    (hsff : l.kids.get? .sffControllerCmd = some sff)
    (hst : sff.state = .successful) :
    Represents ((addSFCIs2Server l.cmd).finalState m)
      (Function.update A p (some l.sendVnf)) := by
  have hid := h.parent_cmdID hp
  have hsame : (∀ vnf zone, l.dueVnf ≠ some (vnf, zone)) →
      Function.update A p (some l.sendVnf) = A := by
    intro hdue
    have hnone : l.dueVnf = none :=
      Option.eq_none_iff_forall_ne_some.mpr fun due => hdue due.1 due.2
    rw [Life.sendVnf, hnone, ← hp, Function.update_eq_self]
  rw [addSFCIs2Server, PyM.finalState_bind, hid]
  cases hvnf : l.kids.get? .vnfControllerCmd with
  | none =>
      have hget : (getChildCmd p .vnfControllerCmd).run m.cm =
          .error .keyError m.cm := by
        rw [getChildCmd, PyM.run_bind_error (h.run_getChildCmdID_none hp hs hvnf)]
      rw [run_withCm_error hget, hsame (by simp [Life.dueVnf_eq_some_iff, hvnf])]
      exact h
  | some vnf =>
      have hinfo := run_getInfo (h.kid_info hp hs hvnf)
      have hget : (getChildCmd p .vnfControllerCmd).run m.cm =
          .ok vnf.cmd m.cm := by
        rw [getChildCmd, PyM.run_bind_ok (h.run_getChildCmdID hp hs hvnf),
          PyM.run_bind_ok hinfo]
        rfl
      rw [run_withCm hget]
      simp only
      rw [PyM.finalState_bind]
      cases hz : l.cmd.attributes.zone with
      | none =>
          rw [zoneOf, hz, hsame (by simp [Life.dueVnf_eq_some_iff, hz])]
          exact h
      | some zone =>
          have hstate := run_withCm (run_getCmdState (h.kid_info hp hs hvnf))
          rw [zoneOf, hz]
          simp only [PyM.run_ofOption_some]
          rw [PyM.finalState_bind, hstate]
          simp only
          by_cases hw : (vnf.info p).state = .waiting
          · have hw' : vnf.state = .waiting := hw
            have hdue : l.dueVnf = some (vnf, zone) := by
              rw [Life.dueVnf_eq_some_iff, Life.sffSuccessful_iff]
              exact ⟨ht, ⟨sff, hsff, hst⟩, hvnf, hz, hw'⟩
            have h₁ := h.setKid (j := vnf.fromUnknown) hp hs hvnf rfl
              (f := fun info => { info with cmd := vnf.fromUnknown.cmd }) rfl
            have hrun₁ := run_withCm (run_modifyInfo (h.kid_info hp hs hvnf)
              fun info => { info with cmd := vnf.fromUnknown.cmd })
            rw [← hid] at h₁
            rcases h₁.sendChildCmd_spec (Function.update_self ..) hs
              (Dict.get?_set_self ..) hw'
              (genQueueName .vnfController (some zone)) with ⟨m₂, hrun₂, h₂, -⟩
            rw [Function.update_idem, hid] at h₂
            rw [if_pos hw, Life.sendVnf, hdue]
            have hrun := PyM.run_bind_ok hrun₁ fun _ =>
              sendChildCmd l.cmd vnf.fromUnknown.cmd .vnfControllerCmd
                (genQueueName .vnfController (some zone))
            rw [hrun₂] at hrun
            exact (PyM.finalState_of_ok hrun).symm ▸ h₂
          · have hw' : ¬ vnf.state = .waiting := hw
            have hdue : ∀ k z, l.dueVnf ≠ some (k, z) := by
              intro k z hdue
              obtain ⟨-, -, hk, -, hkw⟩ := Life.dueVnf_eq_some_iff.mp hdue
              rw [hvnf] at hk
              cases hk
              exact hw' hkw
            rw [if_neg hw, hsame hdue]
            exact h

theorem waitingParentCmdHandler_spec {m : Mediator} {A : UUID → Option Life}
    {p : UUID} {l : Life} (h : Represents m A) (hp : A p = some l)
    (hs : l.stored) :
    Represents ((waitingParentCmdHandler p).finalState m)
      (Function.update A p (some l.sendVnf)) := by
  have hsame : (∀ vnf zone, l.dueVnf ≠ some (vnf, zone)) →
      Function.update A p (some l.sendVnf) = A := by
    intro hdue
    have hnone : l.dueVnf = none :=
      Option.eq_none_iff_forall_ne_some.mpr fun due => hdue due.1 due.2
    rw [Life.sendVnf, hnone, ← hp, Function.update_eq_self]
  rw [waitingParentCmdHandler, PyM.finalState_bind,
    run_withCm (h.run_getCmdType hp hs)]
  simp only
  by_cases ht : l.cmd.cmdType = .addSFCI
  · rw [if_pos ht, PyM.finalState_bind]
    cases hsff : l.kids.get? .sffControllerCmd with
    | none =>
        have hstate : (getChildCmdState p .sffControllerCmd).run m.cm =
            .error .keyError m.cm := by
          rw [getChildCmdState,
            PyM.run_bind_error (h.run_getChildCmdID_none hp hs hsff)]
        rw [run_withCm_error hstate, hsame (by
          simp [Life.dueVnf_eq_some_iff, Life.sffSuccessful_iff, hsff])]
        exact h
    | some sff =>
        have hstate : (getChildCmdState p .sffControllerCmd).run m.cm =
            .ok sff.state m.cm := by
          rw [getChildCmdState,
            PyM.run_bind_ok (h.run_getChildCmdID hp hs hsff)]
          exact run_getCmdState (h.kid_info hp hs hsff)
        rw [run_withCm hstate]
        simp only
        by_cases hst : sff.state = .successful
        · rw [if_pos hst, PyM.finalState_bind,
            run_withCm (h.run_getCmd_parent hp hs)]
          exact h.addSFCIs2Server_spec hp hs ht hsff hst
        · rw [if_neg hst, hsame (by
            simp [Life.dueVnf_eq_some_iff, Life.sffSuccessful_iff, hsff, hst])]
          exact h
  · rw [if_neg ht, hsame (by simp [Life.dueVnf_eq_some_iff, ht])]
    exact h

end Represents

theorem Life.sendVnf_stored (l : Life) : l.sendVnf.stored = l.stored := by
  rw [Life.sendVnf]
  cases l.dueVnf <;> rfl

/-- A command with a child that is waiting is not forgotten. -/
theorem Life.retire_sendVnf {l : Life} (h : l.anyKid (· == .waiting)) :
    l.sendVnf.retire = l.sendVnf := by
  obtain ⟨⟨n, k⟩, he, hk⟩ := List.any_eq_true.mp h
  have hget := Dict.mem_items_iff.mp he
  have hk : k.state = .waiting := by simpa using hk
  have hkid : ∃ n' k', l.sendVnf.kids.get? n' = some k' ∧
      (k'.state = .waiting ∨ k'.state = .processing) := by
    rw [Life.sendVnf]
    cases l.dueVnf with
    | none => exact ⟨n, k, hget, .inl hk⟩
    | some due =>
        refine ⟨.vnfControllerCmd, _, Life.get?_send .., .inr ?_⟩
        rfl
  obtain ⟨n', k', hget', hk'⟩ := hkid
  rw [Life.retire, if_neg]
  rw [Life.allKids, List.all_eq_true]
  intro hall
  have := hall (n', k') (Dict.mem_items_iff.mpr hget')
  rcases hk' with hk' | hk' <;> simp [hk'] at this

namespace Represents

/-- Which branch `_exeCmdStateAction` takes. -/
theorem run_stateAction {m : Mediator} {A : UUID → Option Life} {p : UUID}
    {l : Life} {n : MsgType} {k : Kid} (h : Represents m A)
    (hp : A p = some l) (hs : l.stored) (hk : l.kids.get? n = some k)
    (dst : String) :
    (stateAction k.cmd.cmdID p dst).run m =
      (match l.verdict k.state with
        | some verdict => replyParentCmd p verdict dst
        | none =>
            if l.anyKid (· == CmdState.fail) then pure ()
            else if l.anyKid (· == CmdState.waiting) then
              waitingParentCmdHandler p
            else pure ()).run m := by
  have hall : (withCm (isParentCmdSuccessful p)).run m = _ :=
    run_withCm (h.run_allChildCmd hp hs (· == .successful))
  have hfail : (withCm (isParentCmdFailed p)).run m = _ :=
    run_withCm (h.run_anyChildCmd hp hs (· == .fail))
  have hwait : (withCm (isParentCmdWaiting p)).run m = _ :=
    run_withCm (h.run_anyChildCmd hp hs (· == .waiting))
  have hone := run_withCm (h.run_isOnlyOneChildCmdFailed hp hs)
  have hstate := run_withCm (run_getCmdState (h.kid_info hp hs hk))
  rw [stateAction, PyM.run_bind_ok hall, Life.verdict]
  by_cases hall' : l.allKids (· == .successful)
  · rw [if_pos hall', if_pos hall']
  · rw [if_neg hall', if_neg hall']
    refine (PyM.run_bind_ok hfail _).trans ?_
    by_cases hfail' : l.anyKid (· == .fail)
    · rw [if_pos hfail', if_pos hfail']
      refine (PyM.run_bind_ok hone _).trans ?_
      refine (PyM.run_bind_ok hstate _).trans ?_
      by_cases hdue : ((l.kids.items.map fun e => e.2.state).count .fail == 1 &&
          (k.info p).state == .fail) = true
      · rw [if_pos hdue, if_pos (show (_ && k.state == _) = true from hdue)]
      · rw [if_neg hdue, if_neg (show ¬ (_ && k.state == _) = true from hdue)]
        simp only
        rw [if_pos hfail']
    · rw [if_neg hfail', if_neg hfail']
      refine (PyM.run_bind_ok hwait _).trans ?_
      simp only
      rw [if_neg hfail']

theorem exeCmdStateAction_spec {m : Mediator} {A : UUID → Option Life}
    {p : UUID} {l : Life} {n : MsgType} {k : Kid} (h : Represents m A)
    (hp : A p = some l) (hs : l.stored) (hk : l.kids.get? n = some k) :
    Represents ((exeCmdStateAction k.cmd.cmdID).finalState m)
      (Function.update A p (some (l.settle k.state))) := by
  have hparent : (getParentCmdID k.cmd.cmdID).run m.cm = .ok (some p) m.cm := by
    rw [getParentCmdID, PyM.run_bind_ok (run_getInfo (h.kid_info hp hs hk))]
    rfl
  have hself : Function.update A p (some l) = A := by
    rw [← hp, Function.update_eq_self]
  rw [exeCmdStateAction, PyM.finalState_bind, run_withCm hparent]
  simp only
  rw [PyM.finalState_bind]
  simp only [PyM.run_ofOption_some]
  rw [PyM.finalState_bind, run_withCm (h.run_getCmd_parent hp hs)]
  simp only
  rw [PyM.finalState_bind]
  simp only [PyM.run_ofOption_some]
  rw [PyM.finalState_bind]
  cases hsrc : l.cmd.attributes.source with
  | none =>
      have hsettle : l.settle k.state = l := by simp only [Life.settle, hsrc]
      simp only [PyM.run_ofOption_none]
      rw [hsettle, hself]
      exact h
  | some dst =>
      simp only [PyM.run_ofOption_some]
      rw [PyM.finalState_bind]
      have hrun := h.run_stateAction hp hs hk dst
      have hdel := h.delDeterminedCmd_spec hp hs
      cases hv : l.verdict k.state with
      | some verdict =>
          have hreply := h.replyParentCmd_spec hp hs verdict dst
          simp only [hv] at hrun
          cases hr : l.reply? verdict with
          | some rply =>
              have hsettle : l.settle k.state = (l.log
                  (.sent dst ⟨.mediatorCmdReply, .commandReply rply⟩)).retire := by
                simp only [Life.settle, hsrc, hv, hr]
              rw [hr] at hreply
              obtain ⟨m₁, hrun₁, h₁⟩ := hreply
              have hdel₁ :=
                h₁.delDeterminedCmd_spec (Function.update_self ..) hs
              rw [Function.update_idem] at hdel₁
              rw [hrun, hrun₁, hsettle]
              exact hdel₁
          | none =>
              have hsettle : l.settle k.state = l := by
                simp only [Life.settle, hsrc, hv, hr]
              rw [hr] at hreply
              obtain ⟨e, m₁, hrun₁, h₁⟩ := hreply
              rw [hrun, hrun₁, hsettle, hself]
              exact h₁
      | none =>
          simp only [hv] at hrun
          by_cases hfail : l.anyKid (· == .fail)
          · have hsettle : l.settle k.state = l.retire := by
              simp only [Life.settle, hsrc, hv, hfail, if_true]
            rw [if_pos hfail] at hrun
            rw [hrun, hsettle]
            exact hdel
          · rw [if_neg hfail] at hrun
            by_cases hwait : l.anyKid (· == .waiting)
            · have hsettle : l.settle k.state = l.sendVnf := by
                simp only [Life.settle, hsrc, hv, hfail, hwait, if_true,
                  Bool.false_eq_true, if_false]
              rw [if_pos hwait] at hrun
              rw [hrun, hsettle]
              have hw := h.waitingParentCmdHandler_spec hp hs
              cases hres : (waitingParentCmdHandler p).run m with
              | error e m₁ =>
                  rwa [PyM.finalState_of_error hres] at hw
              | ok a m₁ =>
                  rw [PyM.finalState_of_ok hres] at hw
                  have hdel₁ := hw.delDeterminedCmd_spec
                    (Function.update_self ..) (by rwa [Life.sendVnf_stored])
                  rw [Function.update_idem, Life.retire_sendVnf hwait] at hdel₁
                  exact hdel₁
            · have hsettle : l.settle k.state = l.retire := by
                simp only [Life.settle, hsrc, hv, hfail, hwait,
                  Bool.false_eq_true, if_false]
              rw [if_neg hwait] at hrun
              rw [hrun, hsettle]
              exact hdel

theorem run_noteAnswer {m : Mediator} {A : UUID → Option Life} {p : UUID}
    {l : Life} {n : MsgType} {k : Kid} {cmdRply : CommandReply}
    (h : Represents m A) (hp : A p = some l) (hs : l.stored)
    (hk : l.kids.get? n = some k) (hid : cmdRply.cmdID = k.cmd.cmdID) :
    (noteAnswer cmdRply).run m = .ok ()
      { m with trace := m.trace ++ [⟨p, .answered cmdRply⟩] } := by
  have hget : (m.cm.get? cmdRply.cmdID).bind CmdInfo.parentCmdID = some p := by
    rw [hid, h.kid_info hp hs hk]
    rfl
  rw [noteAnswer, PyM.run_bind_get, hget]
  rfl

/-- A reply to a child of a stored life is that child's answer, unless the
child has answered before. -/
theorem reply_spec {m : Mediator} {A : UUID → Option Life} {p : UUID}
    {l : Life} {n : MsgType} {k : Kid} {cmdRply : CommandReply}
    (h : Represents m A) (hp : A p = some l) (hs : l.stored)
    (hk : l.kids.get? n = some k) (hid : cmdRply.cmdID = k.cmd.cmdID) :
    (k.cmdReply ≠ none → m.handle (.reply cmdRply) = m) ∧
      (k.cmdReply = none → Represents (m.handle (.reply cmdRply))
        (Function.update A p (some (l.answer n k cmdRply)))) := by
  have hinfo := h.kid_info hp hs hk
  have hhas : (isChildCmdHasCmdRply cmdRply.cmdID).run m.cm =
      .ok k.cmdReply.isSome m.cm := by
    rw [isChildCmdHasCmdRply, hid, PyM.run_bind_ok (run_getInfo hinfo)]
    rfl
  have hhandle : m.handle (.reply cmdRply) =
      (commandReplyHandler cmdRply).finalState m := rfl
  rw [hhandle, commandReplyHandler, PyM.finalState_bind, run_withCm hhas]
  simp only
  constructor
  · intro hsome
    rw [if_pos (Option.isSome_iff_ne_none.mpr hsome)]
    rfl
  · intro hnone
    have hk' : ¬ k.cmdReply.isSome = true := by simp [hnone]
    rw [if_neg hk', hid]
    let answered : Kid :=
      { k with state := cmdRply.cmdState, cmdReply := some cmdRply }
    -- the two writes to the child's entry, and the record of the answer
    have hrun₁ : (changeCmdState k.cmd.cmdID cmdRply.cmdState).run m.cm = _ :=
      run_modifyInfo hinfo _
    have h₁ := h.setKid (j := { k with state := cmdRply.cmdState }) hp hs hk rfl
      (f := fun info => { info with state := cmdRply.cmdState }) rfl
    have hk₁ : (l.setKid n { k with state := cmdRply.cmdState }).kids.get? n =
        some { k with state := cmdRply.cmdState } := Dict.get?_set_self ..
    have hrun₂ : (addCmdRply k.cmd.cmdID cmdRply).run _ = _ :=
      run_modifyInfo (h₁.kid_info (Function.update_self ..) hs hk₁) _
    have h₂ := h₁.setKid (j := answered) (Function.update_self ..) hs hk₁ rfl
      (f := fun info => { info with cmdReply := some cmdRply }) rfl
    have hset : (l.setKid n { k with state := cmdRply.cmdState }).setKid n
        answered = l.setKid n answered := by
      simp only [Life.setKid, Dict.set_set]
    rw [Function.update_idem, hset] at h₂
    have hk₂ : (l.setKid n answered).kids.get? n = some answered :=
      Dict.get?_set_self ..
    have hrun₃ := h₂.run_noteAnswer (Function.update_self ..) hs hk₂ hid
    have h₃ := h₂.note (Function.update_self ..) (.answered cmdRply)
    rw [Function.update_idem] at h₃
    have hspec := h₃.exeCmdStateAction_spec (Function.update_self ..) hs hk₂
    rw [Function.update_idem] at hspec
    rw [PyM.finalState_bind, run_withCm hrun₁]
    simp only
    rw [PyM.finalState_bind, run_withCm hrun₂]
    simp only
    rw [PyM.finalState_bind, hrun₃]
    exact hspec

end Represents

/-- A reply to a command that is not in the store is rejected, and nothing has
changed. -/
theorem Mediator.run_commandReplyHandler_of_not_stored {m : Mediator}
    {cmdRply : CommandReply} (h : m.cm.get? cmdRply.cmdID = none) :
    (commandReplyHandler cmdRply).run m = .error .keyError m := by
  have hhas : (isChildCmdHasCmdRply cmdRply.cmdID).run m.cm =
      .error .keyError m.cm := by
    rw [isChildCmdHasCmdRply, PyM.run_bind_error (run_getInfo_none h)]
  exact PyM.run_bind_error (run_withCm_error hhas) _

end SelfAdaptiveMano

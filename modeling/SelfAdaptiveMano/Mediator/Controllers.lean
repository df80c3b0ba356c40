import SelfAdaptiveMano.Mediator.Closing
import SelfAdaptiveMano.Mediator.Runs

/-!
# What the controllers put into their replies

Each controller fills the attributes of its replies in its own way. The SFF and
the VNF controller name the zone they serve, which is the zone of the command,
because the queue they read is the queue of that zone; the P4 controller names
its zone always. Under `source` the classifier controller, the SFF controller
and the network controllers each put a name of their own, so that two of them
never agree. In the Simulator and in Turbonet at most one child of a command
names a source.
-/

namespace SelfAdaptiveMano

open Library Mediator

def CommandAttributes.copied (attributes : CommandAttributes)
    (reply : Attributes) : Attributes :=
  let reply := match attributes.zone with
    | some zone => reply.set "zone" (.scalar zone.name)
    | none => reply
  match attributes.source with
  | some source => reply.set "source" (.scalar source)
  | none => reply

/-- The attributes of a reply that names the zone `zone`. -/
def zoneAttributes (attributes : Attributes) (zone : Zone) : Attributes :=
  attributes.set "zone" (.scalar zone.name)

def sourceAttributes (source : String) : Attributes :=
  Dict.empty.set "source" (.scalar source)

def networkSources : List String := ["{ryu uffr}", "{ryu notVia-pSFC}"]

/-- The reply `cmdRply` to the child command `cCmd` has the attributes that the
controller of the child puts there. -/
def controllerAnswers (msgType : MsgType) (cCmd : Command)
    (cmdRply : CommandReply) : Prop :=
  match msgType with
  | .classifierControllerCmd =>
      cmdRply.attributes = sourceAttributes "{classifierController}"
  | .sffControllerCmd => ∃ zone, cCmd.attributes.zone = some zone ∧
      cmdRply.attributes =
        zoneAttributes (sourceAttributes "{sffController}") zone
  | .vnfControllerCmd => ∃ zone, cCmd.attributes.zone = some zone ∧
      cmdRply.attributes = zoneAttributes .empty zone
  | .p4ControllerCmd => cmdRply.attributes = zoneAttributes .empty .turbonet
  | .networkControllerCmd =>
      if cCmd.cmdType = .getTopology then
        ∃ switches links, cmdRply.attributes = cCmd.attributes.copied
          ((Dict.empty.set "switches" (.dict switches)).set "links"
            (.dict links))
      else ∃ source ∈ networkSources,
        cmdRply.attributes = sourceAttributes source
  | .serverManagerCmd => ∃ servers, cmdRply.attributes =
      cCmd.attributes.copied (Dict.empty.set "servers" (.dict servers))
  | .simulatorCmd => ∃ attributes : Attributes, cmdRply.attributes =
      zoneAttributes (attributes.set "source" (.scalar "simulator")) .simulator
  | .mediatorCmdReply => False

namespace Life

variable {answers : MsgType → Command → CommandReply → Prop}

theorem Lived.kid_origin {l : Life} (h : Lived answers l) {n : MsgType}
    {k : Kid} (hk : l.kids.get? n = some k) :
    (∃ classifierType items queue, plan classifierType l.cmd = some items ∧
        (n, queue) ∈ items) ∧
      k.cmd.attributes.zone = l.cmd.attributes.zone ∧
        ∀ a, k.cmdReply = some a → answers n k.cmd a := by
  induction h generalizing n k with
  | born classifierType clock cmd =>
      rw [born_cmd]
      rw [Life.born] at hk
      cases hplan : plan classifierType cmd with
      | none => simp [hplan, start] at hk
      | some items =>
          simp only [hplan] at hk
          rcases mem_of_get?_register hk with ⟨queue, hn⟩
          rcases get?_register (start cmd) clock hn
            (Represents.plan_nodup hplan) with ⟨id, hk'⟩
          rw [hk] at hk'
          cases hk'
          exact ⟨⟨classifierType, items, queue, hplan, hn⟩, rfl, by simp⟩
  | @answer l n₀ k₀ cmdRply hl _ hk₀ hs hr hfin hid hans ih =>
      rw [answer_cmd]
      have hhear : ∀ {n' k'}, (l.hear n₀ k₀ cmdRply).kids.get? n' = some k' →
          (∃ classifierType items queue, plan classifierType l.cmd =
              some items ∧ (n', queue) ∈ items) ∧
            k'.cmd.attributes.zone = l.cmd.attributes.zone ∧
              ∀ a, k'.cmdReply = some a → answers n' k'.cmd a := by
        intro n' k' hk'
        rw [get?_hear] at hk'
        split at hk'
        · next hn' =>
            cases hk'
            rcases ih hk₀ with ⟨hplan, hz, -⟩
            rw [hn']
            refine ⟨hplan, hz, ?_⟩
            intro a ha
            cases ha
            exact hans
        · exact ih hk'
      rcases settle_kid hk with hk | ⟨vnf, zone, hdue, rfl, rfl⟩
      · exact hhear hk
      · rcases dueVnf_eq_some_iff.mp hdue with ⟨-, -, hvnf, -, hw⟩
        have hnone := (hl.sound.hear hk₀ hs hr hfin hid).cmdReply_of_waiting
          hvnf hw
        rcases hhear hvnf with ⟨hplan, hz, -⟩
        refine ⟨hplan, hz, ?_⟩
        intro a ha
        exact absurd (ha.symm.trans hnone) (Option.some_ne_none a)

theorem plan_turbonet {classifierType : ClassifierType} {cmd : Command}
    {items : List (MsgType × Option String)} {n : MsgType}
    {queue : Option String} (hz : cmd.attributes.zone = some .turbonet)
    (hplan : plan classifierType cmd = some items) (hn : (n, queue) ∈ items) :
    n = .p4ControllerCmd ∨ n = .sffControllerCmd ∨ n = .vnfControllerCmd := by
  cases ht : cmd.cmdType <;>
    simp only [plan, hz, ht, Option.some.injEq, reduceCtorEq] at hplan <;>
    simp [← hplan, inZone] at hn <;> grind

theorem plan_simulator {classifierType : ClassifierType} {cmd : Command}
    {items : List (MsgType × Option String)} {n : MsgType}
    {queue : Option String} (hz : cmd.attributes.zone = some .simulator)
    (hplan : plan classifierType cmd = some items) (hn : (n, queue) ∈ items) :
    n = .simulatorCmd := by
  simp only [plan, hz, Option.some.injEq] at hplan
  simp [← hplan] at hn
  exact hn.1

end Life

/-- In Turbonet only the SFF controller names a source. -/
theorem controllerAnswers_turbonet {n : MsgType} {cCmd : Command}
    {a : CommandReply} (hz : cCmd.attributes.zone = some .turbonet)
    (hn : n = .p4ControllerCmd ∨ n = .sffControllerCmd ∨ n = .vnfControllerCmd)
    (ha : controllerAnswers n cCmd a) (key : String) (v : AttrValue)
    (hv : a.attributes.get? key = some v) :
    v = .scalar Zone.turbonet.name ∧ key = "zone" ∨
      v = .scalar "{sffController}" ∧ key = "source" := by
  have hget : ∀ attributes : Attributes, attributes = .empty ∨
      attributes = sourceAttributes "{sffController}" →
        (zoneAttributes attributes .turbonet).get? key = some v →
          v = .scalar Zone.turbonet.name ∧ key = "zone" ∨
            v = .scalar "{sffController}" ∧ key = "source" := by
    rintro attributes hor hget
    rw [zoneAttributes, Dict.get?_set] at hget
    split at hget
    · next hkey =>
        cases hget
        exact .inl ⟨rfl, hkey⟩
    · rcases hor with rfl | rfl
      · simp at hget
      · rw [sourceAttributes, Dict.get?_set] at hget
        split at hget
        · next hkey =>
            cases hget
            exact .inr ⟨rfl, hkey⟩
        · simp at hget
  rcases hn with rfl | rfl | rfl
  · rw [ha] at hv
    exact hget _ (.inl rfl) hv
  · rcases ha with ⟨zone, hzone, ha⟩
    rw [hz] at hzone
    cases hzone
    rw [ha] at hv
    exact hget _ (.inr rfl) hv
  · rcases ha with ⟨zone, hzone, ha⟩
    rw [hz] at hzone
    cases hzone
    rw [ha] at hv
    exact hget _ (.inl rfl) hv

theorem agrees_of_turbonet {n n' : MsgType} {cCmd cCmd' : Command}
    {a a' : CommandReply} (hz : cCmd.attributes.zone = some .turbonet)
    (hn : n = .p4ControllerCmd ∨ n = .sffControllerCmd ∨ n = .vnfControllerCmd)
    (ha : controllerAnswers n cCmd a)
    (hz' : cCmd'.attributes.zone = some .turbonet)
    (hn' : n' = .p4ControllerCmd ∨ n' = .sffControllerCmd ∨
      n' = .vnfControllerCmd)
    (ha' : controllerAnswers n' cCmd' a') : a.Agrees a' := by
  intro key v v' hv hv'
  rcases controllerAnswers_turbonet hz hn ha key v hv with ⟨rfl, rfl⟩ | ⟨rfl, rfl⟩
  · rcases controllerAnswers_turbonet hz' hn' ha' _ v' hv' with
      ⟨rfl, -⟩ | ⟨-, hkey⟩
    · exact .refl _
    · simp at hkey
  · rcases controllerAnswers_turbonet hz' hn' ha' _ v' hv' with
      ⟨-, hkey⟩ | ⟨rfl, -⟩
    · simp at hkey
    · exact .refl _

theorem Life.Lived.agrees {l : Life} (h : Lived controllerAnswers l)
    {zone : Zone} (hz : l.cmd.attributes.zone = some zone)
    (hzone : zone = .simulator ∨ zone = .turbonet) {n n' : MsgType} {k k' : Kid}
    (hk : l.kids.get? n = some k) (hk' : l.kids.get? n' = some k')
    {a a' : CommandReply} (ha : k.cmdReply = some a)
    (ha' : k'.cmdReply = some a') : a.Agrees a' := by
  rcases h.kid_origin hk with ⟨⟨_, _, _, hplan, hn⟩, hkz, hans⟩
  rcases h.kid_origin hk' with ⟨⟨_, _, _, hplan', hn'⟩, hkz', hans'⟩
  rcases hzone with rfl | rfl
  · have hsame := (plan_simulator hz hplan hn).trans
      (plan_simulator hz hplan' hn').symm
    subst hsame
    rw [hk] at hk'
    cases hk'
    rw [ha] at ha'
    cases ha'
    intro key v v' hv hv'
    rw [hv] at hv'
    cases hv'
    exact .refl v
  · exact agrees_of_turbonet (hkz.trans hz) (plan_turbonet hz hplan hn) (hans a ha)
      (hkz'.trans hz) (plan_turbonet hz hplan' hn') (hans' a' ha')

end SelfAdaptiveMano

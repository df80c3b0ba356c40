import SelfAdaptiveMano.P4.Entries
import SelfAdaptiveMano.Library.Cover
import SelfAdaptiveMano.Library.Machine
import Mathlib.Data.Finset.Basic

/-!
# Entries and installed SFCIs

An SFCI is installed from a successful addition to the next successful deletion
with its id. The switches should hold what the installed SFCIs require and
nothing else (`Exact`). They do in every run whose commands are safe. A deletion
is safe only where the SFCI has no entry on a P4 switch, because `_delsfci`
removes none, and where no other SFCI needs one of its routes, because the routes
are deleted without asking who uses them.
-/

namespace SelfAdaptiveMano.P4

open Library

/-- The P4 controller, whether it still runs, and the installed SFCIs, each with
its SFC. -/
structure System (τ β : Type) where
  controller : P4Controller τ β
  alive : Bool
  installed : Dict Nat (SFC × SFCI)

def installedAfter (cmd : P4Command) (installed : Dict Nat (SFC × SFCI)) :
    Dict Nat (SFC × SFCI) :=
  match cmd.cmdType with
  | .addSFCI => installed.set cmd.sfci.sfciID (cmd.sfc, cmd.sfci)
  | .delSFCI => installed.erase cmd.sfci.sfciID
  | _ => installed

def routesNeeded (installed : Dict Nat (SFC × SFCI)) : Set P4Entry :=
  installed.needed fun p => requiredRoutes p.1 p.2

def entriesNeeded (installed : Dict Nat (SFC × SFCI)) :
    Set ((Nat × NFKey) × NFData) :=
  installed.needed fun p => {e | e ∈ requiredEntries p.1 p.2}

/-- The SFCI that is installed under `sfciID`, if any, has no entry on a P4
switch, and each of its routes is one of `routes` or needed by another SFCI. -/
def Replaceable (installed : Dict Nat (SFC × SFCI)) (sfciID : Nat)
    (routes : Set P4Entry) : Prop :=
  ∀ p, installed.get? sfciID = some p → requiredEntries p.1 p.2 = [] ∧
    ∀ e ∈ requiredRoutes p.1 p.2,
      e ∈ routes ∨ e ∈ routesNeeded (installed.erase sfciID)

section Runs

variable {τ β : Type} (platform : Platform τ β)

def System.step (s : System τ β) (cmd : P4Command) : System τ β :=
  match (handleCommand platform cmd).run s.controller with
  | .ok success c =>
      ⟨c, s.alive, if success then installedAfter cmd s.installed
        else s.installed⟩
  | .error _ c => ⟨c, false, s.installed⟩

/-- The switches hold exactly what the installed SFCIs require. -/
structure Exact (s : System τ β) : Prop where
  routes : platform.turbonet.routes s.controller.turbonet =
    routesNeeded s.installed
  entries : ∀ k d, (tables platform).entry s.controller k = some d ↔
    (k, d) ∈ entriesNeeded s.installed

/-- The controller starts with empty tables and a connection to the first P4
switch. -/
def Initial (s : System τ β) : Prop :=
  s.alive = true ∧ s.installed = Dict.empty ∧
    platform.turbonet.routes s.controller.turbonet = ∅ ∧
    ∃ agent, s.controller.p4agent = Dict.empty.set 0 agent ∧
      platform.bfrt.entries agent = fun _ => none

def machine : Machine (System τ β) P4Command where
  init := Initial platform
  admits s _ := s.alive = true
  step := System.step platform

/-- An addition that leaves the switches exact. -/
structure AddSafe (installed : Dict Nat (SFC × SFCI)) (cmd : P4Command) :
    Prop where
  wellFormed : WellFormed platform cmd.sfc cmd.sfci
  supported : ∀ nf ∈ cmd.sfci.vnfiSequence, ∀ nfi ∈ nf,
    Supported cmd.sfci.morphicName nfi
  length : cmd.sfci.vnfiSequence.length ≤ SI_PORT_MAP.length
  nodup : ((requiredEntries cmd.sfc cmd.sfci).map Prod.fst).Nodup
  unused : ∀ e ∈ requiredEntries cmd.sfc cmd.sfci, ∀ d,
    (e.1, d) ∉ entriesNeeded installed
  replaceable : Replaceable installed cmd.sfci.sfciID
    (requiredRoutes cmd.sfc cmd.sfci)

/-- A deletion that leaves the switches exact. -/
structure DelSafe (installed : Dict Nat (SFC × SFCI)) (cmd : P4Command) :
    Prop where
  wellFormed : WellFormed platform cmd.sfc cmd.sfci
  unshared : ∀ e ∈ requiredRoutes cmd.sfc cmd.sfci,
    e ∉ routesNeeded (installed.erase cmd.sfci.sfciID)
  replaceable : Replaceable installed cmd.sfci.sfciID
    (requiredRoutes cmd.sfc cmd.sfci)

def Safe (s : System τ β) (cmd : P4Command) : Prop :=
  match cmd.cmdType with
  | .addSFCI => AddSafe platform s.installed cmd
  | .delSFCI => DelSafe platform s.installed cmd
  | _ => True

variable {platform}

theorem exists_of_mem_stageEntries {morphic : RouteProtocol} {spis : List Nat}
    {stages : List (List VNFI)} {e : (Nat × NFKey) × NFData}
    (h : e ∈ stageEntries morphic spis stages) :
    ∃ nf ∈ stages, ∃ nfi ∈ nf, ∃ si eport,
      e ∈ nfiEntriesOn morphic spis si eport nfi := by
  induction stages with
  | nil => cases h
  | cons nf nfs ih =>
      obtain h | h := List.mem_append.mp h
      · obtain ⟨nfi, hnfi, he⟩ := List.mem_flatMap.mp h
        exact ⟨nf, List.mem_cons_self, nfi, hnfi, _, _, he⟩
      · obtain ⟨nf', hnf', hrest⟩ := ih h
        exact ⟨nf', List.mem_cons_of_mem nf hnf', hrest⟩

theorem complete_nfiEntries {morphic : RouteProtocol} {nfi : VNFI}
    {si eport spi : Nat} (h : Supported morphic nfi)
    (hnode : p4idOf nfi.node ≠ none) {e : NFKey × NFData}
    (he : e ∈ nfiEntries morphic si eport nfi spi) : e.1.Complete := by
  obtain he | he := List.mem_append.mp he
  · simp only [ieGressEntries, List.mem_cons, List.not_mem_nil, or_false] at he
    obtain rfl | rfl := he <;> trivial
  · cases h with
    | elsewhere hnone => exact absurd hnone hnode
    | firewall rules _ htype hrules hwritable =>
        rw [if_pos htype, hrules] at he
        obtain ⟨aclins, haclins, rfl⟩ := List.mem_map.mp he
        exact (hwritable aclins haclins).2.2
    | rateLimiter maxMbps _ htype _ =>
        have hnot : nfi.vnfType ≠ VNF_TYPE_FW := by rw [htype]; decide
        rw [if_neg hnot, if_pos htype] at he
        obtain rfl := List.mem_singleton.mp he
        trivial
    | monitor _ htype =>
        have hnotFW : nfi.vnfType ≠ VNF_TYPE_FW := by rw [htype]; decide
        have hnotRL : nfi.vnfType ≠ VNF_TYPE_RATELIMITER := by
          rw [htype]
          decide
        rw [if_neg hnotFW, if_neg hnotRL] at he
        obtain rfl := List.mem_singleton.mp he
        rw [monitorEntry]
        split <;> trivial

theorem requiredEntries_writable {sfc : SFC} {sfci : SFCI}
    (h : ∀ nf ∈ sfci.vnfiSequence, ∀ nfi ∈ nf, Supported sfci.morphicName nfi)
    {e : (Nat × NFKey) × NFData} (he : e ∈ requiredEntries sfc sfci) :
    e.1.1 = 0 ∧ e.1.2.Complete := by
  obtain ⟨nf, hnf, nfi, hnfi, si, eport, he⟩ := exists_of_mem_stageEntries he
  have hsupported := h nf hnf nfi hnfi
  rw [nfiEntriesOn] at he
  split at he
  · cases he
  · rename_i p4id hnode
    obtain ⟨spi, -, he⟩ := List.mem_flatMap.mp he
    obtain ⟨entry, hentry, rfl⟩ := List.mem_map.mp he
    refine ⟨?_, complete_nfiEntries hsupported (by simp [hnode]) hentry⟩
    cases hsupported with
    | elsewhere hnone => simp [hnode] at hnone
    | firewall rules hzero => exact Option.some.inj (hnode.symm.trans hzero)
    | rateLimiter maxMbps hzero => exact Option.some.inj (hnode.symm.trans hzero)
    | monitor hzero => exact Option.some.inj (hnode.symm.trans hzero)

theorem adds_addsfci (hbfrt : platform.bfrt.Lawful) {cmd : P4Command}
    {installed : Dict Nat (SFC × SFCI)}
    (h : AddSafe platform installed cmd) :
    (tables platform).Adds (addsfci platform cmd) true
      (requiredEntries cmd.sfc cmd.sfci) := by
  rw [← List.nil_append (requiredEntries ..)]
  exact Tables.Adds.bind_ofExcept (hasDirections_eq h.wellFormed.directions)
    (Tables.Adds.bind
      (Tables.Adds.modify fun c => ⟨by simp [tables], fun _ => Iff.rfl, rfl⟩)
      (adds_addStages hbfrt _ h.length h.supported))

theorem routes_handleAll_of_keeps {cmds : List TurbonetCommand}
    (h : ∀ cmd ∈ cmds, ∀ t, platform.turbonet.routes
      (platform.turbonet.handle cmd t) = platform.turbonet.routes t) (t : τ) :
    platform.turbonet.routes (platform.turbonet.handleAll cmds t) =
      platform.turbonet.routes t := by
  induction cmds generalizing t with
  | nil => rfl
  | cons cmd cmds ih =>
      have ih' := ih fun cmd' hcmd' => h cmd' (List.mem_cons_of_mem cmd hcmd')
      rw [Turbonet.handleAll_cons, ih', h cmd List.mem_cons_self]

theorem routes_add (hturbonet : platform.turbonet.Lawful)
    (routes entries : List P4Entry) (t : τ) :
    platform.turbonet.routes (platform.turbonet.handleAll
        (routes.map TurbonetCommand.addNSHRoute ++
          entries.map TurbonetCommand.addClassifierEntry) t) =
      platform.turbonet.routes t ∪ {e | e ∈ routes} := by
  rw [Turbonet.handleAll_append, routes_handleAll_of_keeps fun cmd hcmd => by
    obtain ⟨e, -, rfl⟩ := List.mem_map.mp hcmd
    exact hturbonet.addClassifierEntry e]
  induction routes generalizing t with
  | nil => simp
  | cons e routes ih =>
      rw [List.map_cons, Turbonet.handleAll_cons, ih, hturbonet.addNSHRoute]
      ext e'
      simp only [Set.mem_union, Set.mem_insert_iff, Set.mem_ofPred_eq,
        List.mem_cons]
      tauto

theorem routes_del (hturbonet : platform.turbonet.Lawful)
    (routes entries : List P4Entry) (t : τ) :
    platform.turbonet.routes (platform.turbonet.handleAll
        (routes.map TurbonetCommand.delNSHRoute ++
          entries.map TurbonetCommand.delClassifierEntry) t) =
      platform.turbonet.routes t \ {e | e ∈ routes} := by
  rw [Turbonet.handleAll_append, routes_handleAll_of_keeps fun cmd hcmd => by
    obtain ⟨e, -, rfl⟩ := List.mem_map.mp hcmd
    exact hturbonet.delClassifierEntry e]
  induction routes generalizing t with
  | nil =>
      ext e
      simp
  | cons e routes ih =>
      rw [List.map_cons, Turbonet.handleAll_cons, ih, hturbonet.delNSHRoute]
      ext e'
      simp only [Set.mem_sdiff, Set.mem_singleton_iff, Set.mem_ofPred_eq,
        List.mem_cons]
      tauto

/-- The invariant along the safe runs. -/
structure Sound (platform : Platform τ β) (s : System τ β) : Prop where
  exact : Exact platform s
  alive : s.alive = true
  connected : (s.controller.p4agent.get? 0).isSome = true

theorem mem_requiredRoutes {sfc : SFC} {sfci : SFCI}
    (h : WellFormed platform sfc sfci) :
    {e | e ∈ sentRoutes sfc sfci} = requiredRoutes sfc sfci :=
  Set.ext fun _ => mem_sentRoutes_iff h

def P4Controller.noted (cmd : P4Command) (c : P4Controller τ β) :
    P4Controller τ β :=
  { c with commandresults := c.commandresults.set cmd.cmdID .processing }

def P4Controller.replied (cmd : P4Command) (success : Bool)
    (c : P4Controller τ β) : P4Controller τ β :=
  { c with
    commandresults := c.commandresults.set cmd.cmdID
      (if success then CmdState.successful else .fail)
    replies := c.replies ++
      [(cmd.cmdID, if success then CmdState.successful else .fail)] }

theorem run_handleCommand {cmd : P4Command} {c c' : P4Controller τ β}
    {success : Bool}
    (h : (dispatch platform cmd).run (c.noted cmd) = .ok success c') :
    (handleCommand platform cmd).run c = .ok success (c'.replied cmd success) := by
  have hnoted : (modifyThe (P4Controller τ β) (P4Controller.noted cmd) :
      PyM (P4Controller τ β) PUnit).run c = .ok ⟨⟩ (c.noted cmd) := rfl
  exact (PyM.run_bind_ok hnoted _).trans (PyM.run_bind_ok h _)

theorem run_dispatch_add (hturbonet : platform.turbonet.Lawful)
    (hbfrt : platform.bfrt.Lawful) {installed : Dict Nat (SFC × SFCI)}
    {cmd : P4Command} (htype : cmd.cmdType = .addSFCI)
    (hsafe : AddSafe platform installed cmd) {c : P4Controller τ β}
    (hfresh : (tables platform).Fresh (requiredEntries cmd.sfc cmd.sfci) c) :
    ∃ c', (dispatch platform cmd).run c = .ok true c' ∧
      platform.turbonet.routes c'.turbonet =
        platform.turbonet.routes c.turbonet ∪
          requiredRoutes cmd.sfc cmd.sfci ∧
      (∀ k d, (tables platform).entry c' k = some d ↔
        (tables platform).entry c k = some d ∨
          (k, d) ∈ requiredEntries cmd.sfc cmd.sfci) ∧
      ∀ k, (tables platform).writable c' k ↔ (tables platform).writable c k := by
  obtain ⟨entries, hsends⟩ := sends_sendSFC TurbonetCommand.addNSHRoute
    TurbonetCommand.addClassifierEntry hsafe.wellFormed
  have hrun := hsends c
  generalize hc₁ : ({ c with turbonet := _ } : P4Controller τ β) = c₁ at hrun
  have hfresh₁ : (tables platform).Fresh
      (requiredEntries cmd.sfc cmd.sfci) c₁ := by
    subst hc₁
    exact ⟨hfresh.nodup, hfresh.writable, hfresh.unused⟩
  obtain ⟨c', hrun', hadded⟩ := adds_addsfci hbfrt hsafe c₁ hfresh₁
  refine ⟨c', ?_, ?_, fun k d => ?_, fun k => ?_⟩
  · rw [dispatch, htype]
    exact (PyM.run_bind_ok hrun _).trans (PyM.run_bind_ok hrun' _)
  · have hrest : c'.turbonet = c₁.turbonet := hadded.rest
    rw [hrest, ← mem_requiredRoutes hsafe.wellFormed, ← hc₁]
    exact routes_add hturbonet _ _ _
  · have hentry := hadded.entry k d
    subst hc₁
    exact hentry
  · have hwritable := hadded.writable k
    subst hc₁
    exact hwritable

/-- A deletion deletes the routes and no entry. -/
theorem run_dispatch_del (hturbonet : platform.turbonet.Lawful)
    {cmd : P4Command} (htype : cmd.cmdType = .delSFCI)
    (h : WellFormed platform cmd.sfc cmd.sfci) (c : P4Controller τ β) :
    ∃ t, (dispatch platform cmd).run c = .ok true { c with turbonet := t } ∧
      platform.turbonet.routes t = platform.turbonet.routes c.turbonet \
        requiredRoutes cmd.sfc cmd.sfci := by
  obtain ⟨entries, hsends⟩ := sends_sendSFC TurbonetCommand.delNSHRoute
    TurbonetCommand.delClassifierEntry h
  have hroutes :=
    routes_del hturbonet (sentRoutes cmd.sfc cmd.sfci) entries c.turbonet
  rw [mem_requiredRoutes h] at hroutes
  refine ⟨_, ?_, hroutes⟩
  rw [dispatch, htype]
  exact PyM.run_bind_ok (hsends c) _

theorem Replaceable.routes {installed : Dict Nat (SFC × SFCI)} {sfciID : Nat}
    {routes : Set P4Entry} (h : Replaceable installed sfciID routes)
    {e : P4Entry} (he : e ∈ routesNeeded installed) (hnot : e ∉ routes) :
    e ∈ routesNeeded (installed.erase sfciID) := by
  obtain ⟨p, hp, he⟩ | he := (Dict.mem_needed_iff sfciID).mp he
  · exact ((h p hp).2 e he).resolve_left hnot
  · exact he

theorem Replaceable.entries {installed : Dict Nat (SFC × SFCI)} {sfciID : Nat}
    {routes : Set P4Entry} (h : Replaceable installed sfciID routes)
    (e : (Nat × NFKey) × NFData) : e ∈ entriesNeeded installed ↔
      e ∈ entriesNeeded (installed.erase sfciID) := by
  rw [entriesNeeded, Dict.mem_needed_iff sfciID]
  refine or_iff_right fun ⟨p, hp, he⟩ => ?_
  rw [Set.mem_ofPred_eq, (h p hp).1] at he
  cases he

theorem sound_add (hturbonet : platform.turbonet.Lawful)
    (hbfrt : platform.bfrt.Lawful) {s : System τ β} {cmd : P4Command}
    (hs : Sound platform s) (htype : cmd.cmdType = .addSFCI)
    (hsafe : AddSafe platform s.installed cmd) :
    Sound platform (s.step platform cmd) := by
  have hfresh : (tables platform).Fresh (requiredEntries cmd.sfc cmd.sfci)
      (s.controller.noted cmd) := by
    refine ⟨hsafe.nodup, fun e he => ?_, fun e he => ?_⟩
    · obtain ⟨hzero, hcomplete⟩ := requiredEntries_writable hsafe.supported he
      refine ⟨?_, hcomplete⟩
      rw [hzero]
      exact hs.connected
    · rw [Option.eq_none_iff_forall_not_mem]
      intro d hd
      exact hsafe.unused e he d ((hs.exact.entries e.1 d).mp hd)
  obtain ⟨c, hrun, hroutes, hentries, hwritable⟩ :=
    run_dispatch_add hturbonet hbfrt htype hsafe hfresh
  have hstep : s.step platform cmd = ⟨c.replied cmd true, s.alive,
      s.installed.set cmd.sfci.sfciID (cmd.sfc, cmd.sfci)⟩ := by
    rw [System.step, run_handleCommand hrun, installedAfter, htype]
    rfl
  rw [hstep]
  refine ⟨⟨?_, fun k d => ?_⟩, hs.alive, ?_⟩
  · refine hroutes.trans ?_
    ext e
    rw [routesNeeded, Dict.mem_needed_set_iff, Set.mem_union, or_comm]
    refine or_congr_right' fun hnot => ?_
    rw [show platform.turbonet.routes (s.controller.noted cmd).turbonet =
      routesNeeded s.installed from hs.exact.routes]
    constructor
    · exact fun he => hsafe.replaceable.routes he hnot
    · exact fun he => (Dict.mem_needed_iff _).mpr (.inr he)
  · refine (hentries k d).trans ?_
    rw [entriesNeeded, Dict.mem_needed_set_iff, or_comm]
    refine or_congr_right ?_
    exact (hs.exact.entries k d).trans (hsafe.replaceable.entries (k, d))
  · exact ((hwritable (0, .counterIngress 0 0)).mpr ⟨hs.connected, trivial⟩).1

theorem sound_del (hturbonet : platform.turbonet.Lawful) {s : System τ β}
    {cmd : P4Command} (hs : Sound platform s) (htype : cmd.cmdType = .delSFCI)
    (hsafe : DelSafe platform s.installed cmd) :
    Sound platform (s.step platform cmd) := by
  obtain ⟨t, hrun, hroutes⟩ := run_dispatch_del hturbonet htype
    hsafe.wellFormed (s.controller.noted cmd)
  have hstep : s.step platform cmd = ⟨({ s.controller.noted cmd with
      turbonet := t } : P4Controller τ β).replied cmd true, s.alive,
      s.installed.erase cmd.sfci.sfciID⟩ := by
    rw [System.step, run_handleCommand hrun, installedAfter, htype]
    rfl
  rw [hstep]
  refine ⟨⟨?_, fun k d => ?_⟩, hs.alive, hs.connected⟩
  · refine hroutes.trans ?_
    rw [show platform.turbonet.routes (s.controller.noted cmd).turbonet =
      routesNeeded s.installed from hs.exact.routes]
    ext e
    constructor
    · rintro ⟨he, hnot⟩
      exact hsafe.replaceable.routes he hnot
    · intro he
      refine ⟨(Dict.mem_needed_iff _).mpr (.inr he), fun hroute => ?_⟩
      exact hsafe.unshared e hroute he
  · exact (hs.exact.entries k d).trans (hsafe.replaceable.entries (k, d))

theorem sound_step (hturbonet : platform.turbonet.Lawful)
    (hbfrt : platform.bfrt.Lawful) {s : System τ β} {cmd : P4Command}
    (hs : Sound platform s) (hsafe : Safe platform s cmd) :
    Sound platform (s.step platform cmd) := by
  rw [Safe] at hsafe
  split at hsafe
  · rename_i htype
    exact sound_add hturbonet hbfrt hs htype hsafe
  · rename_i htype
    exact sound_del hturbonet hs htype hsafe
  · rename_i hadd hdel
    have hrun : (dispatch platform cmd).run (s.controller.noted cmd) =
        .ok true (s.controller.noted cmd) := by
      rw [dispatch]
      split
      · exact absurd (by assumption) hadd
      · exact absurd (by assumption) hdel
      · rfl
    have hinstalled : installedAfter cmd s.installed = s.installed := by
      rw [installedAfter]
      split
      · exact absurd (by assumption) hadd
      · exact absurd (by assumption) hdel
      · rfl
    have hstep : s.step platform cmd =
        ⟨(s.controller.noted cmd).replied cmd true, s.alive, s.installed⟩ := by
      rw [System.step, run_handleCommand hrun]
      simp only [if_true, hinstalled]
    rw [hstep]
    exact ⟨⟨hs.exact.routes, hs.exact.entries⟩, hs.alive, hs.connected⟩

end Runs

/-- A platform with tables that refuse a key they have, and with addresses that
nobody asks for. -/
def tablePlatform : Platform (Finset P4Entry) (Dict NFKey NFData) where
  turbonet :=
    { handle := fun
        | .addNSHRoute entry, routes => insert entry routes
        | .delNSHRoute entry, routes => routes.erase entry
        | .addClassifierEntry _, routes => routes
        | .delClassifierEntry _, routes => routes
      routes := fun routes => routes }
  bfrt :=
    { entryAdd := fun key data => do
        let table ← get
        if table.contains key then throw (.exception "ALREADY_EXISTS")
        else set (table.set key data)
      entryMod := fun key data => do
        let table ← get
        if table.contains key then set (table.set key data)
        else throw (.exception "NOT_FOUND")
      entries := fun table => table.get? }
  inetPton _ _ := none

theorem tablePlatform_turbonet : tablePlatform.turbonet.Lawful where
  addNSHRoute entry routes := Finset.coe_insert entry routes
  delNSHRoute entry routes := Finset.coe_erase entry routes
  addClassifierEntry _ _ := rfl
  delClassifierEntry _ _ := rfl

theorem tablePlatform_bfrt : tablePlatform.bfrt.Lawful where
  entryAdd := by
    intro key table _ hnone data
    have hnew : table.contains key = false := by
      rw [Dict.contains, show table.get? key = none from hnone]
      rfl
    refine ⟨table.set key data, ?_, ?_⟩
    · simp [tablePlatform, hnew]
    · funext k
      simp only [tablePlatform, Dict.get?_set, Function.update_apply]
  entryMod := by
    intro key table old hold data
    have hthere : table.contains key = true := by
      rw [Dict.contains, show table.get? key = some old from hold]
      rfl
    refine ⟨table.set key data, ?_, ?_⟩
    · simp [tablePlatform, hthere]
    · funext k
      simp only [tablePlatform, Dict.get?_set, Function.update_apply]

/-- A chain of one monitor on the first P4 switch, from switch 1 through switch
2 and back. -/
def monitorSFCI (sfciID : Nat) : SFCI where
  sfciID := sfciID
  vnfiSequence := [[⟨VNF_TYPE_MONITOR, .other, .switch 20 true⟩]]
  primaryForwardingPath := Dict.empty.set DIRECTION0_PATHID_OFFSET
    [[(0, 1), (0, 2), (0, 20)], [(1, 20), (1, 2), (1, 1)]]
  morphicName := .ipv4

def serverSFCI (sfciID : Nat) : SFCI where
  sfciID := sfciID
  vnfiSequence := [[⟨VNF_TYPE_MONITOR, .other, .server 30⟩]]
  primaryForwardingPath := Dict.empty.set DIRECTION0_PATHID_OFFSET
    [[(0, 1), (0, 3), (0, 30)], [(1, 30), (1, 3), (1, 1)]]
  morphicName := .ipv4

def oneDirection : SFC :=
  ⟨[⟨SFC_DIRECTION_0, .switch 1 true, .switch 1 true, none, "*", "*"⟩]⟩

def exampleCommand (cmdType : CmdType) (tick : Nat) (sfci : SFCI) : P4Command :=
  ⟨cmdType, ⟨0, tick⟩, oneDirection, sfci⟩

def exampleStart : System (Finset P4Entry) (Dict NFKey NFData) where
  controller := ⟨Dict.empty, Dict.empty, Dict.empty, Dict.empty,
    Dict.empty.set 0 Dict.empty, ∅, []⟩
  alive := true
  installed := Dict.empty

theorem exampleStart_initial : Initial tablePlatform exampleStart :=
  ⟨rfl, rfl, Finset.coe_empty, Dict.empty, rfl, rfl⟩

theorem wellFormed_oneDirection {sfci : SFCI}
    {first : List (Nat × Nat)} {rest : List (List (Nat × Nat))} {next : Nat}
    (hpath : sfci.primaryForwardingPath.get? DIRECTION0_PATHID_OFFSET =
      some (first :: rest)) (hnext : ignextnode (first :: rest) = some next) :
    WellFormed tablePlatform oneDirection sfci where
  directions := by decide
  directionID := by simp [oneDirection]
  path := by
    intro diri hdiri
    obtain rfl := List.mem_singleton.mp hdiri
    exact ⟨_, next, hpath, hnext⟩
  srcIP := by
    intro diri hdiri
    obtain rfl := List.mem_singleton.mp hdiri
    exact ⟨(none, none), by decide⟩
  dstIP := by
    intro diri hdiri
    obtain rfl := List.mem_singleton.mp hdiri
    exact ⟨(none, none), by decide⟩

section Runs

variable {τ β : Type} {platform : Platform τ β}

/-- In each run whose commands are all safe, the switches hold in every state
exactly what the installed SFCIs require. -/
theorem entries_exact_of_safe (hturbonet : platform.turbonet.Lawful)
    (hbfrt : platform.bfrt.Lawful) {history : List (System τ β × P4Command)}
    {s : System τ β} (hrun : (machine platform).Run history s)
    (hsafe : ∀ e ∈ history, Safe platform e.1 e.2) : Exact platform s := by
  have hsound : Sound platform s := by
    refine hrun.invariant_of_meets ?_ ?_ hsafe
    · rintro s ⟨halive, hinstalled, hroutes, agent, hagent, hentries⟩
      refine ⟨⟨?_, fun k d => ?_⟩, halive, ?_⟩
      · rw [hroutes, hinstalled, routesNeeded, Dict.needed_empty]
      · rw [hinstalled, entriesNeeded, Dict.needed_empty]
        simp only [tables, hagent, Dict.get?_set, Set.mem_empty_iff_false,
          iff_false]
        split
        · simp [hentries]
        · simp
      · rw [hagent]
        simp
    · intro s cmd _ hs _ hcmd
      exact sound_step hturbonet hbfrt hs hcmd
  exact hsound.exact

end Runs

def exampleRun (cmds : List P4Command) :
    System (Finset P4Entry) (Dict NFKey NFData) :=
  cmds.foldl (System.step tablePlatform) exampleStart

def addMonitor1 : P4Command := exampleCommand .addSFCI 0 (monitorSFCI 1)
def addMonitor2 : P4Command := exampleCommand .addSFCI 1 (monitorSFCI 2)
def delMonitor1 : P4Command := exampleCommand .delSFCI 2 (monitorSFCI 1)
def addServer3 : P4Command := exampleCommand .addSFCI 1 (serverSFCI 3)
def delServer3 : P4Command := exampleCommand .delSFCI 2 (serverSFCI 3)

theorem addSafe_monitor1 :
    AddSafe tablePlatform exampleStart.installed addMonitor1 where
  wellFormed := wellFormed_oneDirection rfl rfl
  supported := by
    intro nf hnf nfi hnfi
    obtain rfl := List.mem_singleton.mp hnf
    obtain rfl := List.mem_singleton.mp hnfi
    exact .monitor rfl rfl
  length := by decide
  nodup := by decide
  unused := by simp [entriesNeeded, exampleStart]
  replaceable := by
    intro p hp
    cases hp

theorem addSafe_server3 {installed : Dict Nat (SFC × SFCI)}
    (hnew : installed.get? 3 = none) :
    AddSafe tablePlatform installed addServer3 where
  wellFormed := wellFormed_oneDirection rfl rfl
  supported := by
    intro nf hnf nfi hnfi
    obtain rfl := List.mem_singleton.mp hnf
    obtain rfl := List.mem_singleton.mp hnfi
    exact .elsewhere rfl
  length := by decide
  nodup := by decide
  unused := by
    intro e he
    cases he
  replaceable := by
    intro p hp
    rw [show addServer3.sfci.sfciID = 3 from rfl, hnew] at hp
    cases hp

theorem exampleRun_installed :
    (exampleRun [addMonitor1, addServer3]).installed =
      (Dict.empty.set 1 (oneDirection, monitorSFCI 1)).set 3
        (oneDirection, serverSFCI 3) := by
  decide

theorem delSafe_server3 : DelSafe tablePlatform
    (exampleRun [addMonitor1, addServer3]).installed delServer3 where
  wellFormed := wellFormed_oneDirection rfl rfl
  unshared := by
    intro e he hneeded
    rw [exampleRun_installed] at hneeded
    obtain ⟨k, p, hk, hp, hroute⟩ := Dict.mem_needed_erase_iff.mp hneeded
    have hne : k ≠ 3 := hk
    rw [Dict.get?_set_of_ne _ _ hne, Dict.get?_set] at hp
    split at hp
    · obtain rfl := Option.some.inj hp
      have hapart : ∀ e ∈ sentRoutes oneDirection (serverSFCI 3),
          e ∉ sentRoutes oneDirection (monitorSFCI 1) := by
        decide
      have hserver : e ∈ sentRoutes oneDirection (serverSFCI 3) :=
        (mem_sentRoutes_iff (wellFormed_oneDirection rfl rfl)).mpr he
      have hmonitor : e ∈ sentRoutes oneDirection (monitorSFCI 1) :=
        (mem_sentRoutes_iff (wellFormed_oneDirection rfl rfl)).mpr hroute
      exact hapart e hserver hmonitor
    · cases hp
  replaceable := by
    intro p hp
    rw [exampleRun_installed, show delServer3.sfci.sfciID = 3 from rfl,
      Dict.get?_set_self] at hp
    obtain rfl := Option.some.inj hp
    exact ⟨rfl, fun e he => .inl he⟩

theorem exampleRun_serverDeleted : (machine tablePlatform).Run
    [(exampleStart, addMonitor1), (exampleRun [addMonitor1], addServer3),
      (exampleRun [addMonitor1, addServer3], delServer3)]
    (exampleRun [addMonitor1, addServer3, delServer3]) :=
  .step (i := delServer3) (.step (i := addServer3)
    (.step (i := addMonitor1) (.start exampleStart_initial) rfl)
    (show (exampleRun [addMonitor1]).alive = true by decide))
    (show (exampleRun [addMonitor1, addServer3]).alive = true by decide)

/-- A monitor is added, and a second SFCI with routes of its own comes and
goes. -/
theorem entries_exact_of_safe_serverDeleted :
    Exact tablePlatform (exampleRun [addMonitor1, addServer3, delServer3]) := by
  refine entries_exact_of_safe tablePlatform_turbonet tablePlatform_bfrt
    exampleRun_serverDeleted ?_
  simp only [List.forall_mem_cons, List.not_mem_nil, false_implies,
    implies_true, and_true]
  exact ⟨addSafe_monitor1, addSafe_server3 (by decide), delSafe_server3⟩

theorem exampleRun_monitorDeleted : (machine tablePlatform).Run
    [(exampleStart, addMonitor1), (exampleRun [addMonitor1], addMonitor2),
      (exampleRun [addMonitor1, addMonitor2], delMonitor1)]
    (exampleRun [addMonitor1, addMonitor2, delMonitor1]) :=
  .step (i := delMonitor1) (.step (i := addMonitor2)
    (.step (i := addMonitor1) (.start exampleStart_initial) rfl)
    (show (exampleRun [addMonitor1]).alive = true by decide))
    (show (exampleRun [addMonitor1, addMonitor2]).alive = true by
      decide)

/-- Two monitors share their routes. After the first is deleted, the route that
leads to the second is gone, and a counter of the first is still there. -/
theorem shared_route_deleted :
    (machine tablePlatform).Reachable
        (exampleRun [addMonitor1, addMonitor2, delMonitor1]) ∧
      (exampleRun [addMonitor1, addMonitor2, delMonitor1]).installed =
        Dict.empty.set 2 (oneDirection, monitorSFCI 2) ∧
      p4RouteEntry (2, 20) ∉
        (exampleRun [addMonitor1, addMonitor2, delMonitor1]).controller.turbonet ∧
      (tables tablePlatform).entry
        (exampleRun [addMonitor1, addMonitor2, delMonitor1]).controller
        (0, .counterIngress 1 1) = some .hitIngress ∧
      ¬ Exact tablePlatform
        (exampleRun [addMonitor1, addMonitor2, delMonitor1]) := by
  have hinstalled :
      (exampleRun [addMonitor1, addMonitor2, delMonitor1]).installed =
        Dict.empty.set 2 (oneDirection, monitorSFCI 2) := by
    decide
  have hroute : p4RouteEntry (2, 20) ∉ (exampleRun
      [addMonitor1, addMonitor2, delMonitor1]).controller.turbonet := by
    decide
  refine ⟨exampleRun_monitorDeleted.reachable, hinstalled, hroute,
    by decide, fun hexact => hroute ?_⟩
  have hneeded : p4RouteEntry (2, 20) ∈ routesNeeded
      (exampleRun [addMonitor1, addMonitor2, delMonitor1]).installed := by
    rw [hinstalled]
    refine Dict.mem_needed_of_get? (Dict.get?_set_self ..) ?_
    exact (mem_sentRoutes_iff (wellFormed_oneDirection rfl rfl)).mp
      (by decide)
  rw [← hexact.routes] at hneeded
  exact hneeded

end SelfAdaptiveMano.P4

import SelfAdaptiveMano.Sff.SideState
import SelfAdaptiveMano.Library.Hoare

/-!
# The initialisation of a server

`initClassifier` resets the BESS of a server and creates the objects that every
server has. After it the server is in order, and no VNFI is used on it.
-/

namespace SelfAdaptiveMano.Sff

open Library Library.Objects

/-! ## The objects of every server -/

def nicPort : Object := (.port (.base .datapathNICPort), .port)

def firstModules : List Object :=
  [(.module (.base .input0), .module .queueInc (some (.base .datapathNICPort))),
    (.module (.base .output0),
      .module .queueOut (some (.base .datapathNICPort))),
    (.module (.base .wm1), .module .wildcardMatch none),
    (.module (.base .wm2), .module .wildcardMatch none)]

def em1Module : Object := (.module (.base .em1), .module .exactMatch none)

def lastModules : List Object :=
  [(.module (.base .ar), .module .arpResponder none),
    (.module (.base .pr), .module .pingResponder none),
    (.module (.base .sink1), .module .sink none),
    (.module (.base .ms), .module .macSwap none),
    (.module (.base .outmerge), .module .merge none),
    (.module (.base .macSwapMerge), .module .merge none)]

def baseModules : List Object := firstModules ++ em1Module :: lastModules

/-- The rules of the first match table, on a server with the address
`datapathNICIP`. -/
def baseRules (datapathNICIP : Nat) : List Object :=
  [(.rule (.base .wm1) ⟨[0x0800, SFC_DOMAIN_PREFIX], [0xFFFF, 0xFF000000]⟩,
      .rule 1),
    (.rule (.base .wm1) ⟨[0x0806, 0], [0xFFFF, 0]⟩, .rule 2),
    (.rule (.base .wm1) ⟨[0x894F, 0], [0xFFFF, 0]⟩, .rule 3),
    (.rule (.base .wm1) ⟨[0x0800, datapathNICIP], [0xFFFF, 0xFFFFFFFF]⟩,
      .rule 4)]

def baseLinkObject (link : BaseName × BaseName × Nat) : Object :=
  (.gate (.base link.1) link.2.2, .link (.base link.2.1) 0)

def baseObjects (datapathNICIP : Nat) : List Object :=
  nicPort :: baseModules ++ baseRules datapathNICIP ++
    baseLinks.map baseLinkObject

section Base

variable {datapathNICIP : Nat} {e : Object}

theorem exists_of_mem_baseModules (h : e ∈ baseModules) : ∃ n mclass port,
    e = (.module (.base n), .module mclass port) ∧
      ∀ p, port = some p → p = .base .datapathNICPort := by
  have hall : ∀ e ∈ baseModules, ∃ n mclass, e = (.module (.base n),
      .module mclass none) ∨ e = (.module (.base n), .module mclass
        (some (.base .datapathNICPort))) := by
    simp [baseModules, firstModules, em1Module, lastModules]
  obtain ⟨n, mclass, rfl | rfl⟩ := hall e h
  · exact ⟨n, mclass, none, rfl, fun p hp => nomatch hp⟩
  · exact ⟨n, mclass, _, rfl, fun p hp => (Option.some.inj hp).symm⟩

theorem exists_of_mem_baseRules (h : e ∈ baseRules datapathNICIP) :
    ∃ rule g, e = (.rule (.base .wm1) rule, .rule g) := by
  simp only [baseRules, List.mem_cons, List.not_mem_nil, or_false] at h
  obtain rfl | rfl | rfl | rfl := h <;> exact ⟨_, _, rfl⟩

theorem exists_module (n : BaseName) (h : n ≠ .datapathNICPort) :
    ∃ c, (.module (.base n), c) ∈ baseModules := by
  cases n with
  | datapathNICPort => exact absurd rfl h
  | _ => simp [baseModules, firstModules, em1Module, lastModules]

theorem mem_baseObjects : e ∈ baseObjects datapathNICIP ↔ e = nicPort ∨
    e ∈ baseModules ∨ e ∈ baseRules datapathNICIP ∨
      ∃ link ∈ baseLinks, e = baseLinkObject link := by
  simp only [baseObjects, List.mem_append, List.mem_cons, List.mem_map, or_assoc,
    eq_comm]

theorem gate_of_baseLinks (chainType : ChainType) :
    ∀ link ∈ baseLinks, link.1 = chainType.table → link.2.2 = 0 := by
  cases chainType <;> decide

theorem isBase_baseObjects (chainType : ChainType) (datapathNICIP : Nat) :
    IsBase chainType {e | e ∈ baseObjects datapathNICIP} where
  table := by
    obtain ⟨c, hc⟩ := exists_module chainType.table (by cases chainType <;> decide)
    exact ⟨c, mem_baseObjects.mpr (.inr (.inl hc))⟩
  port := by
    intro n c h
    obtain h | h | h | ⟨link, -, h⟩ := mem_baseObjects.mp h
    · cases h
      exact ⟨_, rfl⟩
    · obtain ⟨_, _, _, heq, -⟩ := exists_of_mem_baseModules h
      cases heq
    · obtain ⟨_, _, heq⟩ := exists_of_mem_baseRules h
      cases heq
    · cases h
  module := by
    intro n c h
    obtain h | h | h | ⟨link, -, h⟩ := mem_baseObjects.mp h
    · cases h
    · obtain ⟨b, _, port, heq, hport⟩ := exists_of_mem_baseModules h
      cases heq
      refine ⟨⟨b, rfl⟩, fun mclass p hc => ?_⟩
      cases hc
      exact ⟨_, hport p rfl⟩
    · obtain ⟨_, _, heq⟩ := exists_of_mem_baseRules h
      cases heq
    · cases h
  gate := by
    intro n g c h
    obtain h | h | h | ⟨link, hlink, h⟩ := mem_baseObjects.mp h
    · cases h
    · obtain ⟨_, _, _, heq, -⟩ := exists_of_mem_baseModules h
      cases heq
    · obtain ⟨_, _, heq⟩ := exists_of_mem_baseRules h
      cases heq
    · cases h
      refine ⟨⟨_, rfl⟩, fun htable => ?_, fun m2 igate hc => ?_⟩
      · injection htable with htable
        exact gate_of_baseLinks chainType link hlink htable
      · cases hc
        exact ⟨_, rfl⟩
  rule := by
    intro t m c h
    obtain h | h | h | ⟨link, -, h⟩ := mem_baseObjects.mp h
    · cases h
    · obtain ⟨_, _, _, heq, -⟩ := exists_of_mem_baseModules h
      cases heq
    · obtain ⟨_, _, heq⟩ := exists_of_mem_baseRules h
      cases heq
      refine ⟨⟨_, rfl⟩, ?_⟩
      cases chainType <;> decide
    · cases h

theorem rule_of_baseObjects {t : Name} {rule : Match} {c : Content}
    (h : (.rule t rule, c) ∈ baseObjects datapathNICIP) : t = .base .wm1 := by
  obtain h | h | h | ⟨link, -, h⟩ := mem_baseObjects.mp h
  · cases h
  · obtain ⟨_, _, _, heq, -⟩ := exists_of_mem_baseModules h
    cases heq
  · obtain ⟨_, _, heq⟩ := exists_of_mem_baseRules h
    cases heq
    rfl
  · cases h

end Base

/-! ## Their creation -/

section Legal

variable {datapathNICIP : Nat} {e : Object}

theorem legal_nicPort : pipeline.Legal ∅ [.create nicPort] :=
  ⟨⟨fun _ h => h, fun _ h => h.elim, fun _ h => h.elim⟩, trivial⟩

theorem legal_baseModules :
    pipeline.Legal {nicPort} (baseModules.map .create) := by
  apply legal_create
  · intro e he
    obtain ⟨n, mclass, port, rfl, hport⟩ := exists_of_mem_baseModules he
    refine ⟨fun c hc => (nomatch hc), fun k hk => ?_, fun e' he' hexcludes => ?_⟩
    · cases port with
      | none => exact hk.elim
      | some p =>
          obtain rfl : k = .port p := hk
          rw [hport p rfl]
          exact ⟨.port, rfl⟩
    · obtain rfl : e' = nicPort := he'
      cases port <;> exact hexcludes
  · simp [baseModules, firstModules, em1Module, lastModules, pipeline]

theorem legal_baseRules : pipeline.Legal
    ({nicPort} ∪ {e | e ∈ baseModules})
    ((baseRules datapathNICIP).map .create) := by
  apply legal_create
  · intro e he
    obtain ⟨rule, g, rfl⟩ := exists_of_mem_baseRules he
    refine ⟨fun c hc => ?_, fun k hk => ?_, fun _ _ h => h⟩
    · obtain hc | hc := hc
      · cases hc
      · obtain ⟨_, _, _, heq, -⟩ := exists_of_mem_baseModules hc
        cases heq
    · obtain rfl : k = .module (.base .wm1) := hk
      obtain ⟨c, hc⟩ := exists_module .wm1 (by decide)
      exact ⟨c, .inr hc⟩
  · simp [baseRules, pipeline]

theorem legal_baseLinks : pipeline.Legal
    ({nicPort} ∪ {e | e ∈ baseModules} ∪ {e | e ∈ baseRules datapathNICIP})
    ((baseLinks.map baseLinkObject).map .create) := by
  have hends : ∀ link ∈ baseLinks, link.1 ≠ .datapathNICPort ∧
      link.2.1 ≠ .datapathNICPort := by
    decide
  apply legal_create
  · intro e he
    obtain ⟨link, hlink, rfl⟩ := List.mem_map.mp he
    obtain ⟨hfrom, hto⟩ := hends link hlink
    refine ⟨fun c hc => ?_, fun k hk => ?_, fun _ _ h => h⟩
    · obtain (hc | hc) | hc := hc
      · cases hc
      · obtain ⟨_, _, _, heq, -⟩ := exists_of_mem_baseModules hc
        cases heq
      · obtain ⟨_, _, heq⟩ := exists_of_mem_baseRules hc
        cases heq
    · obtain rfl | rfl := hk
      · obtain ⟨c, hc⟩ := exists_module _ hfrom
        exact ⟨c, .inl (.inr hc)⟩
      · obtain ⟨c, hc⟩ := exists_module _ hto
        exact ⟨c, .inl (.inr hc)⟩
  · simp [baseLinks, baseLinkObject, pipeline]

end Legal

section Runs

variable {β : Type} {bess : Bess β} (hbess : bess.Lawful)

/-- A server with the objects `S` and the information base `sibm`. -/
def Shown (bess : Bess β) (S : Set Object) (sibm : Sibm) (side : Side β) : Prop :=
  (sideView bess).Shows side S ∧ (sideView bess).rest side = sibm

/-- Changes that go through from the objects `S`. -/
theorem Shown.performs {x : PyM (Side β) Unit} {L : List (Change Key Content)}
    {S : Set Object} {sibm : Sibm}
    (hx : (sideView bess).Performs pipeline (fun _ => True) x () L)
    (hlegal : pipeline.Legal S L) :
    PyM.Meets (Shown bess S sibm) x (fun _ => Shown bess (after S L) sibm)
      fun _ => False :=
  hx.meets trivial hlegal

theorem Shown.modify {S : Set Object} {sibm : Sibm} (f : Sibm → Sibm) :
    PyM.Meets (Shown bess S sibm)
      (modifyThe (Side β) fun side => { side with sibm := f side.sibm })
      (fun _ => Shown bess S (f sibm)) fun _ => False := by
  rintro side ⟨hs, rfl⟩
  exact ⟨hs, rfl⟩

/-- `addOGate2Module` for the gate of the default rule. -/
theorem meets_addDefault {S : Set Object} {sibm : Sibm} {table : BaseName}
    {ogates : Dict GateKey Nat} (h : sibm.ogates.get? table = some ogates) :
    PyM.Meets (Shown bess S sibm) (addOGate2Module table .default 0)
      (fun _ => Shown bess S
        { sibm with ogates := sibm.ogates.set table (ogates.set .default 0) })
      fun _ => False := by
  rintro side ⟨hs, rfl⟩
  rw [addOGate2Module, PyM.run_bind_ok (run_ogatesOf h)]
  exact ⟨hs, rfl⟩

include hbess

theorem performs_creates {l : List Request}
    (h : ∀ r ∈ l, r.created.isSome = true) :
    (sideView bess).Performs pipeline (fun _ => True) (l.forM (checked bess)) ()
      ((l.filterMap Request.created).map .create) := by
  have hlist : (l.filterMap Request.created).map Change.create =
      l.flatMap fun r => r.created.toList.map Change.create := by
    rw [← List.map_flatMap, List.filterMap_eq_flatMap_toList]
  rw [hlist]
  refine View.Performs.forM fun r hr => ?_
  obtain ⟨e, he⟩ := Option.isSome_iff_exists.mp (h r hr)
  rw [he]
  exact performs_create hbess he

theorem meets_configure {r : Request} {name : Name} {c : Content}
    {S : Set Object} {sibm : Sibm} (hr : r.configured = some name)
    (hmem : (.module name, c) ∈ S) :
    PyM.Meets (Shown bess S sibm) (checked bess r)
      (fun _ => Shown bess S sibm) fun _ => False := by
  rintro side ⟨hs, rfl⟩
  obtain ⟨hok, hentry⟩ := hbess.configure hr ((hs (.module name) c).mpr hmem)
  have hrun : (checked bess r).run side =
      .ok () { side with bess := (bess.call r side.bess).2 } := by
    rw [checked, PyM.run_bind_get, hok]
    rfl
  rw [hrun]
  refine ⟨fun k d => ?_, rfl⟩
  dsimp only [sideView]
  rw [hentry]
  exact hs k d

theorem meets_reset {sibm : Sibm} :
    PyM.Meets (fun side => side.sibm = sibm) (do
        requireAlive bess
        request bess .pauseAll
        request bess .resetAll : PyM (Side β) Unit)
      (fun _ => Shown bess ∅ sibm) fun _ => False := by
  rintro side rfl
  have halive : (requireAlive bess).run side = .ok () side := by
    rw [requireAlive, PyM.run_bind_get, if_pos (hbess.answers _)]
    rfl
  rw [PyM.run_bind_ok halive]
  refine ⟨fun k c => ?_, rfl⟩
  dsimp only [sideView]
  rw [hbess.resetAll]
  simp

end Runs

/-- The requests for the port of the NIC and the modules up to the wildcard
match of UFRR. -/
def firstRequests : List Request :=
  [.createPort (.base .datapathNICPort) ⟨false, some 0, none⟩,
    .createModule (.base .input0) .queueInc (.queue (.base .datapathNICPort) 0),
    .createModule (.base .output0) .queueOut (.queue (.base .datapathNICPort) 0),
    .createModule (.base .wm1) .wildcardMatch (.fields [(12, 2), (30, 4)]),
    .createModule (.base .wm2) .wildcardMatch (.fields [(30, 4)])]

def em1Requests : List Request :=
  [.createModule (.base .em1) .exactMatch (.fields [(18, 4)])]

def lastRequests : List Request :=
  [.createModule (.base .ar) .arpResponder .none,
    .createModule (.base .pr) .pingResponder .none,
    .createModule (.base .sink1) .sink .none,
    .createModule (.base .ms) .macSwap .none,
    .createModule (.base .outmerge) .merge .none,
    .createModule (.base .macSwapMerge) .merge .none]

def ruleRequests (datapathNICIP : Nat) : List Request :=
  [.addRule (.base .wm1)
      ⟨[0x0800, SFC_DOMAIN_PREFIX], [0xFFFF, 0xFF000000]⟩ 1,
    .addRule (.base .wm1) ⟨[0x0806, 0], [0xFFFF, 0]⟩ 2,
    .addRule (.base .wm1) ⟨[0x894F, 0], [0xFFFF, 0]⟩ 3,
    .addRule (.base .wm1) ⟨[0x0800, datapathNICIP], [0xFFFF, 0xFFFFFFFF]⟩ 4]

section Initialisation

variable {β : Type} {bess : Bess β}

/-- The statements of `initModules`, by what they change. -/
theorem initModules_eq : initModules bess = (do
    (do requireAlive bess; request bess .pauseAll; request bess .resetAll)
    firstRequests.forM (checked bess)
    modifyThe (Side β) fun side => { side with sibm := side.sibm.addModule .wm2 }
    em1Requests.forM (checked bess)
    modifyThe (Side β) fun side => { side with sibm := side.sibm.addModule .em1 }
    lastRequests.forM (checked bess)
    request bess .resumeAll : PyM (Side β) Unit) := by
  simp only [initModules, firstRequests, em1Requests, lastRequests, List.forM,
    bind_assoc, pure_bind]
  rfl

theorem initRules_eq (server : Server) : initRules bess server = (do
    request bess .pauseAll
    checked bess (.setDefaultGate (.base .wm1) 0)
    (ruleRequests server.datapathNICIP).forM (checked bess)
    checked bess (.setDefaultGate (.base .wm2) 0)
    addOGate2Module .wm2 .default 0
    checked bess (.setDefaultGate (.base .em1) 0)
    addOGate2Module .em1 .default 0
    checked bess (.addResponder (.base .ar) server.datapathNICIP
      (some server.datapathNICMac))
    checked bess (.addResponder (.base .pr) server.datapathNICIP none)
    request bess .resumeAll : PyM (Side β) Unit) := by
  simp only [initRules, ruleRequests, List.forM, bind_assoc, pure_bind]

/-- What the requests of `initModules` create can be created in this order. -/
theorem legal_initModules : pipeline.Legal ∅
    ((firstRequests.filterMap Request.created).map .create ++
      ((em1Requests.filterMap Request.created).map .create ++
        (lastRequests.filterMap Request.created).map .create)) := by
  have hmodules : pipeline.Legal (after ∅ [.create nicPort])
      (baseModules.map .create) := by
    rw [show after ∅ [Change.create nicPort] = ({nicPort} : Set Object) from
      insert_empty_eq nicPort]
    exact legal_baseModules
  show pipeline.Legal ∅ ([.create nicPort] ++ baseModules.map .create)
  exact legal_append.mpr ⟨legal_nicPort, hmodules⟩

def knownTables : Sibm :=
  Sibm.addModule .em1 (Sibm.addModule .wm2 ⟨Dict.empty, Dict.empty⟩)

def initialSibm : Sibm :=
  { knownTables with
    ogates := (knownTables.ogates.set .wm2 (Dict.empty.set .default 0)).set .em1
      (Dict.empty.set .default 0) }

variable (hbess : bess.Lawful)

include hbess

theorem meets_initModules :
    PyM.Meets (fun side => side.sibm = ⟨Dict.empty, Dict.empty⟩)
      (initModules bess)
      (fun _ => Shown bess ({nicPort} ∪ {e | e ∈ baseModules}) knownTables)
      fun _ => False := by
  obtain ⟨hfirst, hrest⟩ := legal_append.mp legal_initModules
  obtain ⟨hem1, hlast⟩ := legal_append.mp hrest
  have hafter : after (after (after ∅
      ((firstRequests.filterMap Request.created).map .create))
      ((em1Requests.filterMap Request.created).map .create))
      ((lastRequests.filterMap Request.created).map .create) =
        {nicPort} ∪ {e | e ∈ baseModules} := by
    rw [← after_append, ← after_append, ← List.map_append, ← List.map_append,
      after_create, Set.empty_union]
    ext e
    exact List.mem_cons
  rw [initModules_eq, ← hafter]
  refine (meets_reset hbess).bind fun _ => ?_
  refine (Shown.performs (performs_creates hbess (by decide)) hfirst).bind
    fun _ => ?_
  refine (Shown.modify (Sibm.addModule .wm2)).bind fun _ => ?_
  refine (Shown.performs (performs_creates hbess (by decide)) hem1).bind
    fun _ => ?_
  refine (Shown.modify (Sibm.addModule .em1)).bind fun _ => ?_
  refine (Shown.performs (performs_creates hbess (by decide)) hlast).bind
    fun _ => ?_
  exact Shown.performs (performs_resumeAll hbess) trivial

theorem meets_initRules (server : Server) :
    PyM.Meets (Shown bess ({nicPort} ∪ {e | e ∈ baseModules}) knownTables)
      (initRules bess server)
      (fun _ => Shown bess ({nicPort} ∪ {e | e ∈ baseModules} ∪
        {e | e ∈ baseRules server.datapathNICIP}) initialSibm)
      fun _ => False := by
  have hmodule : ∀ n : BaseName, n ≠ .datapathNICPort → ∃ c,
      (.module (.base n), c) ∈ ({nicPort} ∪ {e | e ∈ baseModules} : Set Object) := by
    intro n hn
    obtain ⟨c, hc⟩ := exists_module n hn
    exact ⟨c, .inr hc⟩
  obtain ⟨wm1, hwm1⟩ := hmodule .wm1 (by decide)
  obtain ⟨wm2, hwm2⟩ := hmodule .wm2 (by decide)
  obtain ⟨em1, hem1⟩ := hmodule .em1 (by decide)
  obtain ⟨ar, har⟩ := hmodule .ar (by decide)
  obtain ⟨pr, hpr⟩ := hmodule .pr (by decide)
  have hrules : after ({nicPort} ∪ {e | e ∈ baseModules}) (((ruleRequests
        server.datapathNICIP).filterMap Request.created).map .create) =
      {nicPort} ∪ {e | e ∈ baseModules} ∪
        {e | e ∈ baseRules server.datapathNICIP} :=
    after_create (baseRules server.datapathNICIP)
  have hcreated : ∀ r ∈ ruleRequests server.datapathNICIP,
      r.created.isSome = true := by
    simp [ruleRequests, Request.created]
  rw [initRules_eq]
  refine (Shown.performs (performs_pauseAll hbess) trivial).bind fun _ => ?_
  refine (meets_configure hbess rfl hwm1).bind fun _ => ?_
  refine (Shown.performs (performs_creates hbess hcreated) legal_baseRules).bind
    fun _ => ?_
  rw [hrules]
  refine (meets_configure hbess rfl (.inl hwm2)).bind fun _ => ?_
  refine (meets_addDefault rfl).bind fun _ => ?_
  refine (meets_configure hbess rfl (.inl hem1)).bind fun _ => ?_
  refine (meets_addDefault rfl).bind fun _ => ?_
  refine (meets_configure hbess rfl (.inl har)).bind fun _ => ?_
  refine (meets_configure hbess rfl (.inl hpr)).bind fun _ => ?_
  exact Shown.performs (performs_resumeAll hbess) trivial

theorem meets_initLinks (datapathNICIP : Nat) :
    PyM.Meets (Shown bess ({nicPort} ∪ {e | e ∈ baseModules} ∪
        {e | e ∈ baseRules datapathNICIP}) initialSibm) (initLinks bess)
      (fun _ => Shown bess {e | e ∈ baseObjects datapathNICIP} initialSibm)
      fun _ => False := by
  have hlinks : (sideView bess).Performs pipeline (fun _ => True)
      (baseLinks.forM fun link =>
        checked bess (.connectModules (.base link.1) (.base link.2.1) link.2.2 0)) ()
      ((baseLinks.map baseLinkObject).map .create) := by
    rw [List.map_map, List.map_eq_flatMap]
    exact View.Performs.forM fun link _ =>
      performs_create (e := baseLinkObject link) hbess rfl
  have hafter : after ({nicPort} ∪ {e | e ∈ baseModules} ∪
        {e | e ∈ baseRules datapathNICIP})
      ((baseLinks.map baseLinkObject).map .create) =
        {e | e ∈ baseObjects datapathNICIP} := by
    rw [after_create]
    ext e
    simp only [Set.mem_union, Set.mem_singleton_iff, Set.mem_ofPred_eq,
      List.mem_map, mem_baseObjects, or_assoc, eq_comm]
  rw [← hafter]
  refine (Shown.performs (performs_pauseAll hbess) trivial).bind fun _ => ?_
  refine (Shown.performs hlinks legal_baseLinks).bind fun _ => ?_
  exact Shown.performs (performs_resumeAll hbess) trivial

omit hbess in
/-- Without uses only the objects of every server are required. -/
theorem required_nil {chainType : ChainType} {B : Set Object}
    {ogates : Dict GateKey Nat} : required chainType B [] ogates = B := by
  have hpresent : ∀ v, ¬ Present [] v := fun v ⟨_, hu, _⟩ => List.not_mem_nil hu
  have hused : ∀ v d, ¬ Used [] v d := fun v d h => hpresent v h.present
  ext e
  constructor
  · rintro (hB | ⟨hv, -⟩ | ⟨hd, -⟩ | ⟨hd, -⟩ | ⟨hd, -⟩ | ⟨hu, -, -⟩)
    · exact hB
    · exact absurd hv (hpresent _)
    · exact absurd hd (hused _ _)
    · exact absurd hd (hused _ _)
    · exact absurd hd (hused _ _)
    · cases hu
  · exact .base

omit hbess in
theorem sideOk_of_shown (chainType : ChainType) {datapathNICIP : Nat}
    {side : Side β}
    (h : Shown bess {e | e ∈ baseObjects datapathNICIP} initialSibm side) :
    SideOk chainType bess {e | e ∈ baseObjects datapathNICIP} [] side := by
  obtain ⟨hs, hrest⟩ := h
  have hsibm : side.sibm = initialSibm := hrest
  refine ⟨Dict.empty.set .default 0, isBase_baseObjects chainType datapathNICIP,
    ?_, ?_, ?_, ?_⟩
  · rw [hsibm]
    cases chainType <;> rfl
  · refine ⟨rfl, fun v d => ⟨fun hgate => ?_, fun hused => ?_⟩, ?_⟩
    · obtain ⟨g, hg⟩ := hgate
      rw [Dict.get?_set_of_ne _ _ (by simp)] at hg
      cases hg
    · obtain ⟨_, hu, _⟩ := hused
      cases hu
    · intro k k' g hk hk'
      rw [Dict.get?_set] at hk hk'
      split at hk
      · split at hk'
        · next hdefault hdefault' => rw [hdefault, hdefault']
        · cases hk'
      · cases hk
  · rw [required_nil]
    exact hs
  · rw [hsibm]
    exact ⟨fun v => rfl, by rintro v ⟨⟩⟩

end Initialisation

/-! ## On the controller -/

namespace SffController

def withSide {β : Type} (serverID : Nat) (side : Side β) (c : SffController β) :
    SffController β :=
  { c with
    sibms := c.sibms.set serverID side.sibm
    bess := Function.update c.bess serverID side.bess }

section WithSide

variable {β : Type} (serverID : Nat) (side side' : Side β) (c : SffController β)

@[simp] theorem withSide_sfciDict : (c.withSide serverID side).sfciDict =
    c.sfciDict := rfl

theorem withSide_sibms (serverID' : Nat) :
    (c.withSide serverID side).sibms.get? serverID' =
      if serverID' = serverID then some side.sibm else c.sibms.get? serverID' :=
  Dict.get?_set ..

theorem withSide_bess (serverID' : Nat) :
    (c.withSide serverID side).bess serverID' =
      if serverID' = serverID then side.bess else c.bess serverID' :=
  Function.update_apply ..

@[simp] theorem withSide_withSide :
    (c.withSide serverID side).withSide serverID side' =
      c.withSide serverID side' := by
  simp only [withSide, Dict.set_set, Function.update_idem]

end WithSide

end SffController

section Controller

variable {β : Type} {bess : Bess β} {c : SffController β} {serverID : Nat}

theorem run_onSide {α : Type} {x : PyM (Side β) α} {a : α} {sibm : Sibm}
    {side : Side β} (hsibm : c.sibms.get? serverID = some sibm)
    (hrun : x.run ⟨sibm, c.bess serverID⟩ = .ok a side) :
    (onSide serverID x).run c = .ok a (c.withSide serverID side) := by
  rw [onSide, PyM.run_bind_get, PyM.run_bind_ofOption hsibm]
  exact PyM.run_zoom_ok hrun

theorem run_onSide_withSide {α : Type} {x : PyM (Side β) α} {a : α}
    {side side' : Side β} (hrun : x.run side = .ok a side') :
    (onSide serverID x).run (c.withSide serverID side) =
      .ok a (c.withSide serverID side') := by
  have hsibm : (c.withSide serverID side).sibms.get? serverID =
      some side.sibm := by
    rw [SffController.withSide_sibms, if_pos rfl]
  have hbess : (c.withSide serverID side).bess serverID = side.bess := by
    rw [SffController.withSide_bess, if_pos rfl]
  have hrun' : x.run ⟨side.sibm, (c.withSide serverID side).bess serverID⟩ =
      .ok a side' := by
    rw [hbess]
    exact hrun
  rw [run_onSide hsibm hrun', SffController.withSide_withSide]

theorem run_initClassifier (chainType : ChainType) (hbess : bess.Lawful)
    (server : Server) (c : SffController β) : ∃ side,
      (initClassifier bess server).run c =
        .ok () (c.withSide server.serverID side) ∧
      SideOk chainType bess {e | e ∈ baseObjects server.datapathNICIP} []
        side := by
  have hfirst : (modifyThe (SffController β) fun c => { c with
        sibms := c.sibms.set server.serverID ⟨Dict.empty, Dict.empty⟩ } :
          PyM (SffController β) PUnit).run c =
      .ok ⟨⟩ (c.withSide server.serverID
        ⟨⟨Dict.empty, Dict.empty⟩, c.bess server.serverID⟩) := by
    rw [SffController.withSide, Function.update_eq_self]
    rfl
  obtain ⟨_, side₁, hrun₁, hside₁⟩ := (meets_initModules hbess).exists_run
    (s := ⟨⟨Dict.empty, Dict.empty⟩, c.bess server.serverID⟩) rfl
  obtain ⟨_, side₂, hrun₂, hside₂⟩ :=
    (meets_initRules hbess server).exists_run hside₁
  obtain ⟨_, side₃, hrun₃, hside₃⟩ :=
    (meets_initLinks hbess server.datapathNICIP).exists_run hside₂
  refine ⟨side₃, ?_, sideOk_of_shown chainType hside₃⟩
  refine (PyM.run_bind_ok hfirst _).trans ?_
  rw [PyM.run_bind_ok (run_onSide_withSide hrun₁),
    PyM.run_bind_ok (run_onSide_withSide hrun₂)]
  exact run_onSide_withSide hrun₃

end Controller

end SelfAdaptiveMano.Sff

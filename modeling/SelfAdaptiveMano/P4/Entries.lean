import SelfAdaptiveMano.P4.Requirements

/-!
# Adding the entries of the network functions

Where the P4 switch can run the network functions of an SFCI and their keys are
free, `_addsfci` writes exactly the entries that the SFCI requires. The proof
goes down the statements: the agent of the switch, one direction of a VNFI, the
VNFI, the stages.
-/

namespace SelfAdaptiveMano.P4

open Library

section Agent

variable {τ β : Type} {platform : Platform τ β} (hbfrt : platform.bfrt.Lawful)

include hbfrt in
theorem adds_entryAdd (key : NFKey) (data : NFData) :
    (agentTables platform).Adds (platform.bfrt.entryAdd key data) ()
      [(key, data)] := by
  intro b hfresh
  have hcomplete : key.Complete := hfresh.writable (key, data) (by simp)
  have hunused : platform.bfrt.entries b key = none :=
    hfresh.unused (key, data) (by simp)
  obtain ⟨b', hrun, hentries⟩ := hbfrt.entryAdd hcomplete hunused data
  refine ⟨b', hrun, ?_, fun _ => Iff.rfl, rfl⟩
  intro k d
  dsimp only [agentTables]
  rw [hentries, Function.update_apply]
  by_cases hk : k = key
  · subst hk
    simp [hunused, eq_comm]
  · simp [hk]

include hbfrt in
theorem adds_addIEGress (si eport spi : Nat) :
    (agentTables platform).Adds (addIEGress platform spi si eport) ()
      (ieGressEntries si eport spi) :=
  Tables.Adds.bind (adds_entryAdd hbfrt _ _) (adds_entryAdd hbfrt _ _)

include hbfrt in
/-- A rate limiter is added without rates, which are written into the new entry
at once. -/
theorem adds_rateLimiter (si spi ratelim : Nat) :
    (agentTables platform).Adds (do
        addRateLimiter platform spi si
        editRateLimiter platform spi si ratelim ratelim ratelim ratelim) ()
      [(.rateLimiter spi si,
        .hitRatelimiter (some (ratelim, ratelim, ratelim, ratelim)))] := by
  intro b hfresh
  have hunused : platform.bfrt.entries b (.rateLimiter spi si) = none :=
    hfresh.unused (_, _) List.mem_cons_self
  have hcomplete : (NFKey.rateLimiter spi si).Complete := trivial
  obtain ⟨b₁, hadd, hentries⟩ :=
    hbfrt.entryAdd hcomplete hunused (.hitRatelimiter none)
  have hold : platform.bfrt.entries b₁ (.rateLimiter spi si) =
      some (.hitRatelimiter none) := by
    rw [hentries, Function.update_self]
  obtain ⟨b₂, hmod, hentries'⟩ := hbfrt.entryMod hold
    (.hitRatelimiter (some (ratelim, ratelim, ratelim, ratelim)))
  refine ⟨b₂, ?_, ?_, fun _ => Iff.rfl, rfl⟩
  · rw [addRateLimiter, PyM.run_bind_ok hadd]
    exact hmod
  · intro k d
    dsimp only [agentTables]
    rw [hentries', hentries, Function.update_idem, Function.update_apply]
    by_cases hk : k = .rateLimiter spi si
    · subst hk
      simp [hunused, eq_comm]
    · simp [hk]

theorem run_withAgent {c : P4Controller τ β} {p4id : Nat} {agent b : β}
    {x : PyM β Unit} (hagent : c.p4agent.get? p4id = some agent)
    (hrun : x.run agent = .ok () b) :
    (withAgent p4id x : PyM (P4Controller τ β) Unit).run c =
      .ok () { c with p4agent := c.p4agent.set p4id b } := by
  rw [withAgent, PyM.run_bind_get, PyM.run_bind_ofOption hagent]
  exact PyM.run_zoom_ok hrun

theorem added_agent {c : P4Controller τ β} {p4id : Nat} {agent b : β}
    {L : List (NFKey × NFData)} (hagent : c.p4agent.get? p4id = some agent)
    (hadded : (agentTables platform).Added L agent b) :
    (tables platform).Added (L.map fun e => ((p4id, e.1), e.2)) c
      { c with p4agent := c.p4agent.set p4id b } where
  entry := by
    rintro ⟨k, key⟩ d
    simp only [tables, Dict.get?_set, List.mem_map, Prod.mk.injEq, Prod.exists]
    by_cases hk : k = p4id
    · subst hk
      have hentry := hadded.entry key d
      simp only [agentTables] at hentry
      simp [hagent, hentry]
    · simp [hk, Ne.symm hk]
  writable := by
    rintro ⟨k, key⟩
    simp only [tables, Dict.get?_set]
    by_cases hk : k = p4id
    · simp [hk, hagent]
    · simp [hk]
  rest := rfl

theorem fresh_agent {c : P4Controller τ β} {p4id : Nat}
    {L : List (NFKey × NFData)} (hL : L ≠ [])
    (h : (tables platform).Fresh (L.map fun e => ((p4id, e.1), e.2)) c) :
    ∃ agent, c.p4agent.get? p4id = some agent ∧
      (agentTables platform).Fresh L agent := by
  obtain ⟨e, he⟩ := List.exists_mem_of_ne_nil L hL
  obtain ⟨hconnected, -⟩ := h.writable _ (List.mem_map_of_mem he)
  obtain ⟨agent, hagent⟩ := Option.isSome_iff_exists.mp hconnected
  refine ⟨agent, hagent, ?_, ?_, ?_⟩
  · have hnodup := h.nodup
    rw [List.map_map] at hnodup
    refine List.Nodup.of_map (fun k : NFKey => (p4id, k)) ?_
    rw [List.map_map]
    exact hnodup
  · intro e he
    exact (h.writable _ (List.mem_map_of_mem he)).2
  · intro e he
    have hunused := h.unused _ (List.mem_map_of_mem he)
    simp only [tables, hagent, Option.bind_some] at hunused
    exact hunused

theorem adds_withAgent {x : PyM β Unit} {L : List (NFKey × NFData)}
    (p4id : Nat) (hL : L ≠ []) (h : (agentTables platform).Adds x () L) :
    (tables platform).Adds (withAgent p4id x) ()
      (L.map fun e => ((p4id, e.1), e.2)) := by
  intro c hfresh
  obtain ⟨agent, hagent, hfreshAgent⟩ := fresh_agent hL hfresh
  obtain ⟨b, hrun, hadded⟩ := h agent hfreshAgent
  exact ⟨_, run_withAgent hagent hrun, added_agent hagent hadded⟩

theorem adds_withAgent_twice {x y : PyM β Unit} {L : List (NFKey × NFData)}
    (p4id : Nat) (hL : L ≠ [])
    (h : (agentTables platform).Adds (x >>= fun _ => y) () L) :
    (tables platform).Adds
      (withAgent p4id x >>= fun _ => withAgent p4id y) ()
      (L.map fun e => ((p4id, e.1), e.2)) := by
  intro c hfresh
  obtain ⟨agent, hagent, hfreshAgent⟩ := fresh_agent hL hfresh
  obtain ⟨b, hrun, hadded⟩ := h agent hfreshAgent
  obtain ⟨⟨⟩, b₁, hrunx, hruny⟩ := PyM.run_bind_eq_ok_iff.mp hrun
  refine ⟨_, ?_, added_agent hagent hadded⟩
  rw [PyM.run_bind_ok (run_withAgent hagent hrunx),
    run_withAgent (Dict.get?_set_self ..) hruny]
  simp only [Dict.set_set]

end Agent

section VNFIs

variable {τ β : Type} {platform : Platform τ β} (hbfrt : platform.bfrt.Lawful)
  {morphic : RouteProtocol} {nfi : VNFI}

include hbfrt in
theorem adds_addFirewall (p4id si eport spi : Nat) {rules : List ACLTuple}
    (htype : nfi.vnfType = VNF_TYPE_FW)
    (hrules : nfi.config.getRulesList morphic = .ok rules)
    (hwritable : ∀ aclins ∈ rules, aclins.Writable morphic) :
    (tables platform).Adds (addFirewall platform p4id morphic nfi si eport spi)
      () (entriesOn p4id morphic si eport nfi spi) := by
  have hentries : nfiEntries morphic si eport nfi spi =
      ieGressEntries si eport spi ++
        rules.flatMap fun aclins => [firewallEntry morphic si spi aclins] := by
    rw [nfiEntries, if_pos htype, hrules, ← List.map_eq_flatMap]
    rfl
  have hloop : ∀ aclins ∈ rules, (tables platform).Adds (do
      let src ← PyM.ofExcept (getmsk morphic aclins.srcAddr)
      let dst ← PyM.ofExcept (getmsk morphic aclins.dstAddr)
      withAgent p4id (addFWentry platform morphic.version spi si src dst
        aclins.proto 0 aclins.deny)) ⟨⟩
      ([firewallEntry morphic si spi aclins].map
        fun e => ((p4id, e.1), e.2)) := by
    intro aclins haclins
    obtain ⟨hsrc, hdst, -⟩ := hwritable aclins haclins
    exact Tables.Adds.bind_ofExcept hsrc (Tables.Adds.bind_ofExcept hdst
      (adds_withAgent p4id (List.cons_ne_nil _ _) (adds_entryAdd hbfrt _ _)))
  rw [entriesOn, hentries, List.map_append, List.map_flatMap]
  exact Tables.Adds.bind
    (adds_withAgent p4id (List.cons_ne_nil _ _) (adds_addIEGress hbfrt _ _ _))
    (Tables.Adds.bind_ofExcept hrules (Tables.Adds.forM hloop))

include hbfrt in
theorem adds_addLimiter (p4id si eport spi : Nat) {maxMbps : Nat}
    (htype : nfi.vnfType = VNF_TYPE_RATELIMITER)
    (hmax : nfi.config.maxMbps = .ok maxMbps) :
    (tables platform).Adds
      (addLimiter platform p4id (maxMbps * 1024) si eport spi) ()
      (entriesOn p4id morphic si eport nfi spi) := by
  have hnot : nfi.vnfType ≠ VNF_TYPE_FW := by rw [htype]; decide
  rw [entriesOn, nfiEntries, if_neg hnot, if_pos htype, hmax, List.map_append]
  exact Tables.Adds.bind
    (adds_withAgent p4id (List.cons_ne_nil _ _) (adds_addIEGress hbfrt _ _ _))
    (adds_withAgent_twice p4id (List.cons_ne_nil _ _)
      (adds_rateLimiter hbfrt si spi (maxMbps * 1024)))

include hbfrt in
theorem adds_addMonitor (p4id si eport spi : Nat)
    (htype : nfi.vnfType = VNF_TYPE_MONITOR) :
    (tables platform).Adds (addMonitor platform p4id morphic si eport spi) ()
      (entriesOn p4id morphic si eport nfi spi) := by
  have hnotFW : nfi.vnfType ≠ VNF_TYPE_FW := by rw [htype]; decide
  have hnotRL : nfi.vnfType ≠ VNF_TYPE_RATELIMITER := by rw [htype]; decide
  have hmonitor : (agentTables platform).Adds
      (if morphic = .ipv4 then addMonitorv4 platform spi si
        else addMonitorv6 platform spi si) ()
      [monitorEntry morphic si spi] := by
    rw [monitorEntry]
    split <;> exact adds_entryAdd hbfrt _ _
  rw [entriesOn, nfiEntries, if_neg hnotFW, if_neg hnotRL, List.map_append,
    ← List.nil_append (List.map _ [_])]
  exact Tables.Adds.bind
    (adds_withAgent p4id (List.cons_ne_nil _ _) (adds_addIEGress hbfrt _ _ _))
    (Tables.Adds.bind
      (Tables.Adds.modify fun c => ⟨by simp [tables], fun _ => Iff.rfl, rfl⟩)
      (adds_withAgent p4id (List.cons_ne_nil _ _) hmonitor))

include hbfrt in
theorem adds_addNFI (spis : List Nat) (si eport : Nat)
    (h : Supported morphic nfi) :
    (tables platform).Adds (addNFI platform morphic spis si eport nfi) true
      (nfiEntriesOn morphic spis si eport nfi) := by
  rw [nfiEntriesOn, addNFI]
  cases h with
  | elsewhere hnode =>
      rw [hnode]
      exact Tables.Adds.pure true
  | firewall rules hnode htype hrules hwritable =>
      rw [hnode]
      dsimp only
      rw [if_pos htype, ← List.append_nil (List.flatMap _ _)]
      refine Tables.Adds.bind (Tables.Adds.forM fun spi _ => ?_) (.pure true)
      exact adds_addFirewall hbfrt 0 si eport spi htype hrules hwritable
  | rateLimiter maxMbps hnode htype hmax =>
      have hnot : nfi.vnfType ≠ VNF_TYPE_FW := by rw [htype]; decide
      rw [hnode]
      dsimp only
      rw [if_neg hnot, if_pos htype, ← List.append_nil (List.flatMap _ _)]
      refine Tables.Adds.bind_ofExcept hmax
        (Tables.Adds.bind (Tables.Adds.forM fun spi _ => ?_) (.pure true))
      exact adds_addLimiter hbfrt 0 si eport spi htype hmax
  | monitor hnode htype =>
      have hnotFW : nfi.vnfType ≠ VNF_TYPE_FW := by rw [htype]; decide
      have hnotRL : nfi.vnfType ≠ VNF_TYPE_RATELIMITER := by rw [htype]; decide
      rw [hnode]
      dsimp only
      rw [if_neg hnotFW, if_neg hnotRL, if_pos htype,
        ← List.append_nil (List.flatMap _ _)]
      refine Tables.Adds.bind (Tables.Adds.forM fun spi _ => ?_) (.pure true)
      exact adds_addMonitor hbfrt 0 si eport spi htype

include hbfrt in
theorem adds_addStages (spis : List Nat) {stages : List (List VNFI)}
    (hlength : stages.length ≤ SI_PORT_MAP.length)
    (h : ∀ nf ∈ stages, ∀ nfi ∈ nf, Supported morphic nfi) :
    (tables platform).Adds (addStages platform morphic spis stages) true
      (stageEntries morphic spis stages) := by
  induction stages with
  | nil => exact Tables.Adds.pure true
  | cons nf nfs ih =>
      have hport : SI_PORT_MAP[(nf :: nfs).length - 1]? =
          some (SI_PORT_MAP.getD nfs.length 0) := by
        rw [List.length_cons] at hlength ⊢
        rw [Nat.add_sub_cancel, List.getD_eq_getElem?_getD,
          List.getElem?_eq_getElem hlength, Option.getD_some]
      have hrest := ih (by rw [List.length_cons] at hlength; omega)
        fun nf' hnf' => h nf' (List.mem_cons_of_mem nf hnf')
      refine Tables.Adds.bind_ofOption hport (Tables.Adds.bind
        (Tables.Adds.allM fun nfi hnfi => ?_) hrest)
      exact adds_addNFI hbfrt spis _ _ (h nf List.mem_cons_self nfi hnfi)

end VNFIs

end SelfAdaptiveMano.P4

import SelfAdaptiveMano.Library.Hoare
import SelfAdaptiveMano.Orchestration.Orchestrator

/-!
# The commands that are made

What the Orchestrator relies on when it has made commands: the id of a new
command was never used before, and the commands of a batch belong to its
requests one by one.
-/

namespace SelfAdaptiveMano

open Library Orchestrator

def cmdIDs (reqCmdTupleList : List (Request × Option Command)) : List UUID :=
  reqCmdTupleList.filterMap fun p => p.2.map Command.cmdID

/-- The commands were made while the clock went from `g` to `g'`, and no two
have the same id. -/
structure Minted (g : CmdGenerator)
    (reqCmdTupleList : List (Request × Option Command)) (g' : CmdGenerator) :
    Prop where
  clock : g.clock ≤ g'.clock
  tick : ∀ cmdID ∈ cmdIDs reqCmdTupleList,
    g.clock ≤ cmdID.tick ∧ cmdID.tick < g'.clock
  nodup : (cmdIDs reqCmdTupleList).Nodup

namespace Minted

theorem nil (g : CmdGenerator) : Minted g [] g := 
  ⟨Nat.le_refl _, by simp [cmdIDs], by simp [cmdIDs]⟩

theorem append {g g' g'' : CmdGenerator}
    {l l' : List (Request × Option Command)} (h : Minted g l g')
    (h' : Minted g' l' g'') : Minted g (l ++ l') g'' := by
  have happend : cmdIDs (l ++ l') = cmdIDs l ++ cmdIDs l' :=
    List.filterMap_append
  refine ⟨Nat.le_trans h.clock h'.clock, ?_, ?_⟩
  · intro cmdID hmem
    rw [happend, List.mem_append] at hmem
    obtain hmem | hmem := hmem
    · have := h.tick cmdID hmem
      have := h'.clock
      omega
    · have := h'.tick cmdID hmem
      have := h.clock
      omega
  · rw [happend, List.nodup_append]
    refine ⟨h.nodup, h'.nodup, ?_⟩
    rintro cmdID hmem cmdID' hmem' rfl
    have := h.tick cmdID hmem
    have := h'.tick cmdID hmem'
    omega

end Minted

/-- A result that belongs to the request `r` of a batch. -/
structure ResultOf (r : Request) (p : Request × Option Command) : Prop where
  requestID : p.1.requestID = r.requestID
  content : contentOf p.1 = contentOf r
  named : ∃ sfc sfci, p.1.attributes.sfc = some sfc ∧
    p.1.attributes.sfci = some sfci ∧
    ∀ cmd, p.2 = some cmd → cmd.cmdType = .addSFCI ∧
      cmd.attributes.sfc = some sfc ∧ cmd.attributes.sfci = some sfci

theorem ResultOf.requestType {r : Request} {p : Request × Option Command}
    (h : ResultOf r p) : p.1.requestType = r.requestType :=
  congrArg Content.requestType h.content

theorem ResultOf.exists_of_mem {requests : List Request}
    {l : List (Request × Option Command)}
    (h : List.Forall₂ ResultOf requests l) {p : Request × Option Command}
    (hp : p ∈ l) : ∃ r ∈ requests, ResultOf r p := by
  induction h with
  | nil => cases hp
  | @cons r p' requests l hresult _ ih =>
      obtain rfl | hp := List.mem_cons.mp hp
      · exact ⟨r, List.mem_cons_self, hresult⟩
      · obtain ⟨r', hr', hresult'⟩ := ih hp
        exact ⟨r', List.mem_cons_of_mem r hr', hresult'⟩

namespace OSFCAdder

/-- The clock does not go back. -/
def ClockFrom (t : Nat) (g : CmdGenerator) : Prop := t ≤ g.clock

theorem keeps_uuid1 (t : Nat) : PyM.Keeps (ClockFrom t) uuid1 := by
  intro g hg
  exact Nat.le_succ_of_le hg

theorem keeps_assignVNFIID (t vnfType nodeID : Nat) :
    PyM.Keeps (ClockFrom t) (assignVNFIID vnfType nodeID) := by
  refine PyM.Meets.bind_get fun g hg => ?_
  refine PyM.Meets.conseq (P := ClockFrom t) ?_ (fun _ h => h ▸ hg)
    (fun _ _ h => h) fun _ h => h
  cases g.vnfiIDPool.get? (vnfType, nodeID) with
  | some vnfiID => exact fun _ h => h
  | none =>
      refine PyM.Keeps.bind (keeps_uuid1 t) fun vnfiID => ?_
      exact fun _ h => h

theorem keeps_genVNFI (env : Env) (sfc : SFC) (vnfType : Nat) (config : String)
    (node : Node) (t : Nat) :
    PyM.Keeps (ClockFrom t) (genVNFI env sfc vnfType config node) := by
  refine PyM.Keeps.bind (keeps_assignVNFIID t _ _) fun vnfiID => ?_
  refine PyM.Meets.bind_ofExcept (fun maxCPUNum _ => ?_) fun _ h => h
  exact fun _ h => h

theorem keeps_genStage (env : Env) (sfc : SFC) (fpSet : ForwardingPathSet)
    (vnfType stage t : Nat) :
    PyM.Keeps (ClockFrom t) (genStage env sfc fpSet vnfType stage) := by
  refine PyM.Meets.bind_ofOption (fun vnf _ => ?_) fun _ h => h
  refine PyM.Meets.bind_ofExcept (fun nodeList _ => ?_) fun _ h => h
  exact PyM.Keeps.mapM fun node _ => keeps_genVNFI env sfc vnfType _ node t

theorem keeps_getVNFISeqFromForwardingPathSet (env : Env) (sfc : SFC)
    (fpSet : ForwardingPathSet) (t : Nat) :
    PyM.Keeps (ClockFrom t) (getVNFISeqFromForwardingPathSet env sfc fpSet) :=
  PyM.Keeps.mapM fun _ _ => keeps_genStage env sfc fpSet _ _ t

theorem meets_genAddSFCICmd (env : Env) (fpSets : Option FPSetsDict)
    (request : Request) (rIndex : Nat) (g : CmdGenerator) :
    PyM.Meets (· = g) (genAddSFCICmd env fpSets request rIndex)
      (fun p g' => ResultOf request p ∧ Minted g [p] g')
      (ClockFrom g.clock) := by
  have hfail : ∀ g', g' = g → ClockFrom g.clock g' := by
    rintro _ rfl
    exact Nat.le_refl _
  refine PyM.Meets.bind_ofOption (fun sfc hsfc => ?_) hfail
  refine PyM.Meets.bind_ofOption (fun sfci hsfci => ?_) hfail
  refine PyM.Meets.bind_ofOption (fun table _ => ?_) hfail
  refine PyM.Meets.bind_ofOption (fun fpSet _ => ?_) hfail
  cases fpSet with
  | none =>
      rintro _ rfl
      refine ⟨⟨rfl, rfl, sfc, sfci, hsfc, hsfci, ?_⟩, ?_⟩
      · intro cmd hcmd
        cases hcmd
      · exact ⟨Nat.le_refl _, by simp [cmdIDs], by simp [cmdIDs]⟩
  | some fpSet =>
      have hseq := keeps_getVNFISeqFromForwardingPathSet env sfc fpSet g.clock
      refine PyM.Meets.bind (hseq.conseq hfail (fun _ _ h => h) fun _ h => h)
        fun vnfiSequence g₁ hclock => ?_
      refine ⟨⟨rfl, ?_, sfc, _, hsfc, rfl, ?_⟩, ?_⟩
      · simp [contentOf, hsfci]
      · intro cmd hcmd
        cases hcmd
        exact ⟨rfl, rfl, rfl⟩
      · refine ⟨Nat.le_succ_of_le hclock, ?_, by simp [cmdIDs]⟩
        intro cmdID hmem
        have hid : cmdID = ⟨generator, g₁.clock⟩ := by
          simpa [cmdIDs] using hmem
        rw [hid]
        exact ⟨hclock, Nat.lt_succ_self _⟩

theorem meets_genGroup (env : Env) (mappingType : MappingType)
    (requestBatchList : List Request) (g : CmdGenerator) :
    PyM.Meets (· = g) (genGroup env mappingType requestBatchList)
      (fun l g' => List.Forall₂ ResultOf requestBatchList l ∧ Minted g l g')
      (ClockFrom g.clock) := by
  refine PyM.Meets.bind_ofExcept (fun fpSets _ => ?_) ?_
  swap
  · rintro _ rfl
    exact Nat.le_refl _
  have hmap := PyM.Meets.mapM (R := fun q p => ResultOf q.1 p) (T := Minted)
    (F := fun g g' => ClockFrom g.clock g') Minted.nil
    (fun h h' => Minted.append h h')
    (fun h h' => Nat.le_trans h.clock h')
    (fun q (_ : q ∈ requestBatchList.zipIdx) g =>
      meets_genAddSFCICmd env fpSets q.1 q.2 g) g
  refine hmap.conseq (fun _ h => h) (fun l g' h => ⟨?_, h.2⟩) fun _ h => h
  have hzip := List.forall₂_map_left_iff (f := Prod.fst) |>.mpr h.1
  simpa using hzip

/-- `_divRequest` puts each request of the batch in one group. -/
theorem perm_divRequest (requestBatchQueue : List Request) :
    (divRequest requestBatchQueue).values.flatten.Perm
      (requestBatchQueue.map withMappingType) := by
  suffices h : ∀ d : Dict MappingType (List Request),
      (requestBatchQueue.foldl (fun requestDict request =>
        requestDict.set (mappingTypeOf request)
          ((requestDict.get? (mappingTypeOf request)).getD [] ++
            [withMappingType request])) d).values.flatten.Perm
        (d.values.flatten ++ requestBatchQueue.map withMappingType) by
    simpa [Dict.values, divRequest] using h .empty
  induction requestBatchQueue with
  | nil =>
      intro d
      simp
  | cons request requests ih =>
      intro d
      refine (ih _).trans ?_
      have hset := d.perm_flatten_set (mappingTypeOf request)
        [withMappingType request]
      simpa using hset.append_right (requests.map withMappingType)

structure BatchResult (requestBatchQueue : List Request) (g : CmdGenerator)
    (reqCmdTupleList : List (Request × Option Command)) (g' : CmdGenerator) :
    Prop where
  minted : Minted g reqCmdTupleList g'
  results : ∃ requests : List Request,
    requests.Perm (requestBatchQueue.map withMappingType) ∧
    List.Forall₂ ResultOf requests reqCmdTupleList

theorem meets_genABatchOfRequestAndAddSFCICmds (env : Env)
    (requestBatchQueue : List Request) (g : CmdGenerator) :
    PyM.Meets (· = g) (genABatchOfRequestAndAddSFCICmds env requestBatchQueue)
      (fun l g' => BatchResult requestBatchQueue g l g')
      (ClockFrom g.clock) := by
  have hmap := PyM.Meets.mapM
    (R := fun q l => List.Forall₂ ResultOf q.2 l)
    (T := fun g ls g' => Minted g ls.flatten g')
    (F := fun g g' => ClockFrom g.clock g') Minted.nil
    (fun h h' => Minted.append (by simpa using h) h')
    (fun h h' => Nat.le_trans h.clock h')
    (fun q (_ : q ∈ (divRequest requestBatchQueue).items) g =>
      (meets_genGroup env q.1 q.2 g).conseq (fun _ h => h)
        (fun l g' h => ⟨h.1, by simpa using h.2⟩) fun _ h => h) g
  refine PyM.Meets.bind hmap fun ls g' h => ?_
  refine ⟨h.2, _, perm_divRequest requestBatchQueue, ?_⟩
  exact List.rel_flatten (List.forall₂_map_left_iff.mpr h.1)

/-- The command for an `ADD_SFC` has a new id and the SFC of the request. -/
theorem meets_genAddSFCCmd (env : Env) (request : Request)
    (g : CmdGenerator) :
    PyM.Meets (· = g) (genAddSFCCmd env request)
      (fun p g' => g'.clock = g.clock + 1 ∧
        (∃ named directions, request.attributes.sfc = some named ∧
          p.2 = { named with directions := directions }) ∧
        p.1 = ⟨.addSFC, ⟨generator, g.clock⟩,
          ⟨some g.zoneName, none, some p.2, none⟩⟩)
      (fun g' => g.clock ≤ g'.clock) := by
  have hfail : ∀ g', g' = g → g.clock ≤ g'.clock := by
    rintro _ rfl
    exact Nat.le_refl _
  refine PyM.Meets.bind_ofExcept (fun _ _ => ?_) hfail
  refine PyM.Meets.bind_ofOption (fun named hnamed => ?_) hfail
  refine PyM.Meets.bind_get fun _ hg => ?_
  subst hg
  refine PyM.Meets.ite (fun _ => ?_) fun _ => PyM.Meets.throw hfail
  refine PyM.Meets.bind_ofExcept (fun directions _ => ?_) hfail
  rintro _ rfl
  exact ⟨rfl, ⟨named, directions, hnamed, rfl⟩, rfl⟩

end OSFCAdder

namespace OSFCDeleter

open OSFCAdder

theorem getStoredSFC_eq_ok {oib : OrchInfoBase} {request : Request} {sfc : SFC}
    (h : getStoredSFC oib request = .ok sfc) :
    ∃ named, request.attributes.sfc = some named ∧
      oib.getSFC4DB named.sfcUUID = some sfc := by
  unfold getStoredSFC at h
  cases hcheck : checkAddSFCRequest request with
  | error e =>
      rw [hcheck] at h
      cases h
  | ok u =>
      rw [hcheck] at h
      cases hsfc : request.attributes.sfc with
      | none =>
          rw [hsfc] at h
          cases h
      | some named =>
          rw [hsfc] at h
          cases hstored : oib.getSFC4DB named.sfcUUID with
          | none => simp [Option.elim, hstored, bind, Except.bind] at h
          | some stored =>
              refine ⟨named, rfl, ?_⟩
              simp [Option.elim, hstored, bind, Except.bind] at h
              rw [hstored, h]

theorem meets_genDelSFCCmd (oib : OrchInfoBase) (request : Request)
    (g : CmdGenerator) :
    PyM.Meets (· = g) (genDelSFCCmd oib request)
      (fun p g' => g'.clock = g.clock + 1 ∧
        (∃ named, request.attributes.sfc = some named ∧
          oib.getSFC4DB named.sfcUUID = some p.2) ∧
        p.1 = ⟨.delSFC, ⟨generator, g.clock⟩,
          ⟨some p.2.zone, none, some p.2, none⟩⟩)
      (fun g' => g.clock ≤ g'.clock) := by
  refine PyM.Meets.bind_ofExcept (fun sfc hsfc => ?_) ?_
  · rintro _ rfl
    exact ⟨rfl, getStoredSFC_eq_ok hsfc, rfl⟩
  · rintro _ rfl
    exact Nat.le_refl _

theorem meets_genDelSFCICmd (oib : OrchInfoBase) (request : Request)
    (g : CmdGenerator) :
    PyM.Meets (· = g) (genDelSFCICmd oib request)
      (fun p g' => g'.clock = g.clock + 1 ∧
        (∃ named, request.attributes.sfc = some named ∧
          oib.getSFC4DB named.sfcUUID = some p.2.1) ∧
        (∃ namedI, request.attributes.sfci = some namedI ∧
          p.2.2 = oib.getSFCI4DB namedI.sfciID) ∧
        p.1 = ⟨.delSFCI, ⟨generator, g.clock⟩,
          ⟨some p.2.1.zone, none, some p.2.1, p.2.2⟩⟩)
      (fun g' => g.clock ≤ g'.clock) := by
  have hfail : ∀ g', g' = g → g.clock ≤ g'.clock := by
    rintro _ rfl
    exact Nat.le_refl _
  refine PyM.Meets.bind_ofExcept (fun sfc hsfc => ?_) hfail
  refine PyM.Meets.bind_ofOption (fun namedI hsfci => ?_) hfail
  rintro _ rfl
  exact ⟨rfl, getStoredSFC_eq_ok hsfc, ⟨namedI, hsfci, rfl⟩, rfl⟩

end OSFCDeleter

end SelfAdaptiveMano

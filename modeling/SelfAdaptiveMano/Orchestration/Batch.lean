import SelfAdaptiveMano.Orchestration.Steps

/-!
# A batch of requests to add an SFCI

A batch is taken out of its queue, mapped and made into commands before anything
is written. An algorithm that raises for one request, or a path set that cannot
be made into VNFIs, therefore loses all the requests of the batch: none of them
is sent, and none is recorded as failed. `batch_settled_iff` says exactly when
each request of a batch is sent once and recorded as in processing, or recorded
as failed.
-/

namespace SelfAdaptiveMano

open Library

def OrchInfoBase.requestState (oib : OrchInfoBase) (requestID : UUID) :
    Option RequestState :=
  (oib.requestTable.get? requestID).map RequestRow.state

namespace OSFCAdder

/-- The path set of a request can be made into VNFIs: for each stage there is a
VNF, the path leads to a node, the nodes are known, and the performance model
knows the type. -/
def Convertible (env : Env) (sfc : SFC) (fpSet : ForwardingPathSet) : Prop :=
  ∀ e ∈ sfc.vNFTypeSequence.zipIdx,
    (sfc.vnfSequence[e.2]?).isSome ∧
      (∃ nodes, getNodeListOfStage4FPSet env fpSet e.2 = .ok nodes) ∧
      ∃ cpus, env.expectedCPU e.1 sfc = .ok cpus

/-- The table of a group has an entry for each request: `None`, or a path set
that can be made into VNFIs. -/
def GroupMappable (env : Env) (mappingType : MappingType)
    (requestBatchList : List Request) : Prop :=
  ∃ fpSets, mapGroup env mappingType requestBatchList = .ok (some fpSets) ∧
    ∀ e ∈ requestBatchList.zipIdx, ∃ entry, fpSets.get? e.2 = some entry ∧
      ∀ fpSet ∈ entry, ∀ sfc ∈ e.1.attributes.sfc, Convertible env sfc fpSet

/-- All groups of a batch are mapped without an exception. -/
def Mappable (env : Env) (requestBatchQueue : List Request) : Prop :=
  ∀ group ∈ (divRequest requestBatchQueue).items,
    GroupMappable env group.1 group.2

/-- What every turn of a loop in `Except` keeps. -/
theorem foldlM_invariant {α β : Type} {P : α → Prop}
    {f : α → β → Except PyError α} {l : List β}
    (hf : ∀ a, ∀ b ∈ l, ∀ a', P a → f a b = .ok a' → P a') {a a' : α}
    (ha : P a) (h : l.foldlM f a = .ok a') : P a' := by
  induction l generalizing a with
  | nil =>
      cases h
      exact ha
  | cons b l ih =>
      rw [List.foldlM_cons] at h
      cases hfirst : f a b with
      | error e =>
          rw [hfirst] at h
          cases h
      | ok a₁ =>
          rw [hfirst] at h
          exact ih (fun a b' hb' => hf a b' (List.mem_cons_of_mem b hb'))
            (hf a b List.mem_cons_self a₁ ha hfirst) h

theorem addBackupNodes_ne_nil {stage : Nat} {nodeIDs nodeIDs' : List Nat}
    {path : ForwardingPath} (hne : nodeIDs ≠ [])
    (h : addBackupNodes stage nodeIDs path = .ok nodeIDs') : nodeIDs' ≠ [] := by
  refine foldlM_invariant (P := fun l => l ≠ []) ?_ hne h
  intro l hops _ l' hl hstep
  cases hhop : hops.getLast? with
  | none =>
      rw [hhop] at hstep
      cases hstep
  | some hop =>
      rw [hhop] at hstep
      simp only [Option.elim, bind, Except.bind] at hstep
      split at hstep
      · cases hstep
        simp
      · cases hstep
        exact hl

theorem getNodeListOfStage4FPSet_ne_nil {env : Env} {fpSet : ForwardingPathSet}
    {stage : Nat} {nodes : List Node}
    (h : getNodeListOfStage4FPSet env fpSet stage = .ok nodes) :
    nodes ≠ [] := by
  unfold getNodeListOfStage4FPSet at h
  simp only [bind, Except.bind] at h
  split at h
  · cases h
  split at h
  · cases h
  split at h
  · cases h
  split at h
  · cases h
  next hop _ _ _ nodeIDs hnodeIDs =>
    have hne : nodeIDs ≠ [] := by
      refine foldlM_invariant (P := fun l => l ≠ []) ?_ (by simp) hnodeIDs
      rintro l ⟨key, path⟩ _ l' hl hstep
      dsimp only at hstep
      split at hstep
      · cases hstep
        exact hl
      · exact addBackupNodes_ne_nil hl hstep
    obtain ⟨nodeID, rest, rfl⟩ := List.exists_cons_of_ne_nil hne
    rw [List.mapM_cons] at h
    simp only [bind, Except.bind] at h
    split at h
    · cases h
    · split at h
      · cases h
      · cases h
        simp

theorem returns_uuid1 : PyM.Returns uuid1 := fun _ _ => trivial

theorem returns_assignVNFIID (vnfType nodeID : Nat) :
    PyM.Returns (assignVNFIID vnfType nodeID) := by
  refine .bind_get fun g => ?_
  cases g.vnfiIDPool.get? (vnfType, nodeID) with
  | some vnfiID => exact .pure _
  | none =>
      refine returns_uuid1.bind fun vnfiID => ?_
      exact PyM.Returns.bind (fun _ _ => trivial) fun _ => .pure _

theorem returns_getVNFISeq {env : Env} {sfc : SFC} {fpSet : ForwardingPathSet}
    (h : Convertible env sfc fpSet) :
    PyM.Returns (getVNFISeqFromForwardingPathSet env sfc fpSet) := by
  refine .mapM fun e he => ?_
  obtain ⟨hvnf, ⟨nodes, hnodes⟩, cpus, hcpus⟩ := h e he
  obtain ⟨vnf, hvnf⟩ := Option.isSome_iff_exists.mp hvnf
  refine .bind_ofOption hvnf (.bind_ofExcept hnodes (.mapM fun node _ => ?_))
  refine (returns_assignVNFIID _ _).bind fun vnfiID => ?_
  exact .bind_ofExcept hcpus (.pure _)

theorem raises_getVNFISeq {env : Env} {sfc : SFC} {fpSet : ForwardingPathSet}
    (h : ¬ Convertible env sfc fpSet) :
    PyM.Raises (getVNFISeqFromForwardingPathSet env sfc fpSet) := by
  unfold Convertible at h
  push Not at h
  obtain ⟨e, he, hstage⟩ := h
  refine .mapM he ?_
  cases hvnf : sfc.vnfSequence[e.2]? with
  | none => exact (PyM.Raises.ofOption hvnf).bind
  | some vnf =>
      refine PyM.Raises.bind_right fun vnf' => ?_
      cases hnodes : getNodeListOfStage4FPSet env fpSet e.2 with
      | error err =>
          exact (PyM.Raises.ofExcept (by simp)).bind
      | ok nodes =>
          have hcpus := hstage (by simp [hvnf]) ⟨nodes, hnodes⟩
          obtain ⟨node, rest, rfl⟩ :=
            List.exists_cons_of_ne_nil (getNodeListOfStage4FPSet_ne_nil hnodes)
          show PyM.Raises (List.mapM _ (node :: rest))
          refine .mapM List.mem_cons_self ?_
          refine .bind_right fun vnfiID => ?_
          exact (PyM.Raises.ofExcept hcpus).bind

def Named (request : Request) : Prop :=
  ∃ sfc sfci, request.attributes.sfc = some sfc ∧
    request.attributes.sfci = some sfci

theorem mem_of_mem_zipIdx {α : Type} {l : List α} {e : α × Nat}
    (h : e ∈ l.zipIdx) : e.1 ∈ l := by
  rw [(List.mem_zipIdx' h).2]
  exact List.getElem_mem _

theorem returns_genGroup {env : Env} {mappingType : MappingType}
    {requestBatchList : List Request}
    (hnamed : ∀ request ∈ requestBatchList, Named request)
    (h : GroupMappable env mappingType requestBatchList) :
    PyM.Returns (genGroup env mappingType requestBatchList) := by
  obtain ⟨fpSets, hmap, hentries⟩ := h
  refine .bind_ofExcept hmap (.mapM fun e he => ?_)
  obtain ⟨sfc, sfci, hsfc, hsfci⟩ := hnamed e.1 (mem_of_mem_zipIdx he)
  obtain ⟨entry, hentry, hconvertible⟩ := hentries e he
  refine .bind_ofOption hsfc (.bind_ofOption hsfci (.bind_ofOption rfl
    (.bind_ofOption hentry ?_)))
  cases entry with
  | none => exact .pure _
  | some fpSet =>
      refine (returns_getVNFISeq (hconvertible fpSet rfl sfc hsfc)).bind
        fun vnfiSequence => ?_
      exact returns_uuid1.bind fun cmdID => .pure _

theorem raises_genGroup {env : Env} {mappingType : MappingType}
    {requestBatchList : List Request} (hne : requestBatchList ≠ [])
    (hnamed : ∀ request ∈ requestBatchList, Named request)
    (h : ¬ GroupMappable env mappingType requestBatchList) :
    PyM.Raises (genGroup env mappingType requestBatchList) := by
  unfold genGroup
  cases hmap : mapGroup env mappingType requestBatchList with
  | error e => exact (PyM.Raises.ofExcept (by simp)).bind
  | ok table =>
      show PyM.Raises (forwardingPathSetsDict2Cmd env table requestBatchList)
      cases table with
      | none =>
          obtain ⟨request, rest, rfl⟩ := List.exists_cons_of_ne_nil hne
          refine .mapM List.mem_cons_self ?_
          refine .bind_right fun sfc => .bind_right fun sfci => ?_
          exact (PyM.Raises.ofOption rfl).bind
      | some fpSets =>
          have hentry : ∃ e ∈ requestBatchList.zipIdx, ∀ entry,
              fpSets.get? e.2 = some entry → ∃ fpSet ∈ entry,
                ∃ sfc ∈ e.1.attributes.sfc, ¬ Convertible env sfc fpSet := by
            by_contra hall
            push Not at hall
            refine h ⟨fpSets, hmap, fun e he => ?_⟩
            obtain ⟨entry, hentry, hconvertible⟩ := hall e he
            exact ⟨entry, hentry, hconvertible⟩
          obtain ⟨e, he, hentry⟩ := hentry
          refine .mapM he ?_
          obtain ⟨sfc, sfci, hsfc, hsfci⟩ := hnamed e.1 (mem_of_mem_zipIdx he)
          refine .bind_ofOption hsfc (.bind_ofOption hsfci
            (.bind_ofOption rfl ?_))
          cases hget : fpSets.get? e.2 with
          | none => exact (PyM.Raises.ofOption rfl).bind
          | some entry =>
              obtain ⟨fpSet, hfpSet, sfc', hsfc', hnot⟩ := hentry entry hget
              obtain rfl : sfc = sfc' := Option.some.inj (hsfc.symm.trans hsfc')
              obtain rfl : entry = some fpSet := hfpSet
              refine .bind_ofOption rfl ?_
              exact (raises_getVNFISeq hnot).bind

theorem divRequest_ne_nil {requestBatchQueue : List Request}
    {group : MappingType × List Request}
    (h : group ∈ (divRequest requestBatchQueue).items) : group.2 ≠ [] := by
  suffices hfold : ∀ d : Dict MappingType (List Request),
      (∀ group ∈ d.items, group.2 ≠ []) →
      ∀ group ∈ (requestBatchQueue.foldl (fun requestDict request =>
        requestDict.set (mappingTypeOf request)
          ((requestDict.get? (mappingTypeOf request)).getD [] ++
            [withMappingType request])) d).items, group.2 ≠ [] from
    hfold .empty (by simp) group h
  clear h
  induction requestBatchQueue with
  | nil => exact fun d hd => hd
  | cons request requests ih =>
      intro d hd
      refine ih _ ?_
      rintro ⟨mappingType, requests'⟩ hmem
      rw [Dict.mem_items_iff, Dict.get?_set] at hmem
      split at hmem
      · cases hmem
        simp
      · exact hd _ (Dict.mem_items_iff.mpr hmem)

theorem named_divRequest {requestBatchQueue : List Request}
    (hnamed : ∀ request ∈ requestBatchQueue, Named request)
    {group : MappingType × List Request}
    (h : group ∈ (divRequest requestBatchQueue).items) :
    ∀ request ∈ group.2, Named request := by
  intro request hrequest
  have hmem : request ∈ (divRequest requestBatchQueue).values.flatten :=
    List.mem_flatten.mpr ⟨group.2, List.mem_map_of_mem h, hrequest⟩
  rw [(perm_divRequest requestBatchQueue).mem_iff] at hmem
  obtain ⟨r, hr, rfl⟩ := List.mem_map.mp hmem
  exact hnamed r hr

theorem returns_genABatch {env : Env} {requestBatchQueue : List Request}
    (hnamed : ∀ request ∈ requestBatchQueue, Named request)
    (h : Mappable env requestBatchQueue) :
    PyM.Returns (genABatchOfRequestAndAddSFCICmds env requestBatchQueue) := by
  refine PyM.Returns.bind (.mapM fun group hgroup => ?_) fun _ => .pure _
  exact returns_genGroup (named_divRequest hnamed hgroup) (h group hgroup)

theorem raises_genABatch {env : Env} {requestBatchQueue : List Request}
    (hnamed : ∀ request ∈ requestBatchQueue, Named request)
    (h : ¬ Mappable env requestBatchQueue) :
    PyM.Raises (genABatchOfRequestAndAddSFCICmds env requestBatchQueue) := by
  unfold Mappable at h
  push Not at h
  obtain ⟨group, hgroup, hgroupNot⟩ := h
  refine PyM.Raises.bind (.mapM hgroup ?_)
  exact raises_genGroup (divRequest_ne_nil hgroup)
    (named_divRequest hnamed hgroup) hgroupNot

end OSFCAdder

namespace Orchestrator

variable {o o' : Orchestrator}

/-- The commands that were sent for a request since `o`. -/
def sentSince (o o' : Orchestrator) (requestID : UUID) : List Command :=
  ((o'.sent.drop o.sent.length).filter
    (fun sending => sending.requestID = requestID)).map Sending.cmd

/-- One `ADD_SFCI` command was sent for the request, which is stored as in
processing with it; or none was sent, and the request is stored as failed. -/
def Settled (o o' : Orchestrator) (requestID : UUID) : Prop :=
  (∃ cmd, cmd.cmdType = .addSFCI ∧ sentSince o o' requestID = [cmd] ∧
    ∃ row ∈ o'.oib.requestTable.get? requestID,
      row.state = .inProcessing ∧ row.cmdUUID = some cmd.cmdID) ∨
  (sentSince o o' requestID = [] ∧
    o'.oib.requestState requestID = some .failed)

/-- `o'` differs from `o` only by what was done for the requests with the given
ids. -/
structure OnlyFor (o o' : Orchestrator) (requestIDs : List UUID) : Prop where
  sent : ∃ sendings, o'.sent = o.sent ++ sendings ∧
    ∀ sending ∈ sendings, sending.requestID ∈ requestIDs
  row : ∀ requestID, requestID ∉ requestIDs →
    o'.oib.requestTable.get? requestID = o.oib.requestTable.get? requestID

theorem OnlyFor.refl (o : Orchestrator) : OnlyFor o o [] :=
  ⟨⟨[], by simp, by simp⟩, fun _ _ => rfl⟩

theorem OnlyFor.trans {o o₁ o' : Orchestrator} {l l' : List UUID}
    (h : OnlyFor o o₁ l) (h' : OnlyFor o₁ o' l') : OnlyFor o o' (l ++ l') := by
  obtain ⟨sendings, hsent, hids⟩ := h.sent
  obtain ⟨sendings', hsent', hids'⟩ := h'.sent
  refine ⟨⟨sendings ++ sendings', by rw [hsent', hsent, List.append_assoc], ?_⟩, ?_⟩
  · intro sending hmem
    rw [List.mem_append] at hmem ⊢
    obtain hmem | hmem := hmem
    · exact .inl (hids sending hmem)
    · exact .inr (hids' sending hmem)
  · intro requestID hnot
    rw [List.mem_append, not_or] at hnot
    rw [h'.row requestID hnot.2, h.row requestID hnot.1]

theorem sentSince_of_append (sendings : List Sending)
    (h : o'.sent = o.sent ++ sendings) (requestID : UUID) :
    sentSince o o' requestID = (sendings.filter
      (fun sending => sending.requestID = requestID)).map Sending.cmd := by
  rw [sentSince, h, List.drop_left]

theorem filter_eq_nil_of_not_mem {sendings : List Sending} {l : List UUID}
    (h : ∀ sending ∈ sendings, sending.requestID ∈ l) {requestID : UUID}
    (hnot : requestID ∉ l) :
    sendings.filter (fun sending => sending.requestID = requestID) = [] := by
  rw [List.filter_eq_nil_iff]
  intro sending hmem heq
  rw [decide_eq_true_eq] at heq
  exact hnot (heq ▸ h sending hmem)

theorem Settled.then_onlyFor {o o₁ o' : Orchestrator} {requestID : UUID}
    {l l' : List UUID} (h : Settled o o₁ requestID) (honly : OnlyFor o o₁ l)
    (honly' : OnlyFor o₁ o' l') (hnot : requestID ∉ l') :
    Settled o o' requestID := by
  obtain ⟨sendings, hsent, -⟩ := honly.sent
  obtain ⟨sendings', hsent', hids'⟩ := honly'.sent
  have hsame : sentSince o o' requestID = sentSince o o₁ requestID := by
    rw [sentSince_of_append _ hsent, sentSince_of_append _
      (hsent'.trans (by rw [hsent, List.append_assoc])), List.filter_append,
      filter_eq_nil_of_not_mem hids' hnot, List.append_nil]
  rw [Settled, OrchInfoBase.requestState, hsame, honly'.row requestID hnot]
  exact h

theorem Settled.after_onlyFor {o o₁ o' : Orchestrator} {requestID : UUID}
    {l l' : List UUID} (h : Settled o₁ o' requestID) (honly : OnlyFor o o₁ l)
    (honly' : OnlyFor o₁ o' l') (hnot : requestID ∉ l) :
    Settled o o' requestID := by
  obtain ⟨sendings, hsent, hids⟩ := honly.sent
  obtain ⟨sendings', hsent', -⟩ := honly'.sent
  have hsame : sentSince o o' requestID = sentSince o₁ o' requestID := by
    rw [sentSince_of_append _ hsent', sentSince_of_append _
      (hsent'.trans (by rw [hsent, List.append_assoc])), List.filter_append,
      filter_eq_nil_of_not_mem hids hnot, List.nil_append]
  rw [Settled, hsame]
  exact h

theorem requestRow_of_judged {oib oib' : OrchInfoBase} {cmdID : UUID}
    {request : Request} {outcome : Outcome}
    (h : Judged oib cmdID request outcome oib')
    (htype : request.requestType = .addSFCI) :
    (outcome = .sent ∧ ∃ row ∈ oib'.requestTable.get? request.requestID,
      row.state = .inProcessing ∧ row.cmdUUID = some cmdID) ∨
    (outcome ≠ .sent ∧ oib'.requestState request.requestID = some .failed) := by
  cases h with
  | addSFCSent htype' | addSFCInvalid htype' | delSFCISent _ htype'
  | delSFCIInvalid _ htype' | delSFCSent htype' | delSFCInvalid htype' =>
      rw [htype] at htype'
      cases htype'
  | @addSFCISent sfc sfci _ _ _ hvalid =>
      obtain ⟨row, hrow, -, hstate, hcmd⟩ := oib.requestRow_addCmdInfo2Request
        { request with requestState := .inProcessing } sfc.sfcUUID
        (some sfci.sfciID) cmdID
      refine .inl ⟨rfl, row, ?_, hstate, hcmd⟩
      rw [OrchInfoBase.requestTable_addSFCIRequestHandler hvalid]
      exact hrow
  | @addSFCIInvalid sfc sfci _ _ _ hvalid =>
      obtain ⟨row, hrow, -, hstate, -⟩ := oib.requestRow_addCmdInfo2Request
        { request with requestState := .failed } sfc.sfcUUID
        (some sfci.sfciID) cmdID
      refine .inr ⟨by simp, ?_⟩
      rw [OrchInfoBase.addSFCIRequestHandler_of_invalid hvalid,
        OrchInfoBase.requestState]
      exact Option.map_eq_some_iff.mpr ⟨row, hrow, hstate⟩
  | @addSFCIUnmapped sfc sfci =>
      refine .inr ⟨by simp, ?_⟩
      dsimp only [OrchInfoBase.addUnmappedSFCIRequestHandler]
      split
      · next hhas =>
          obtain ⟨row, hrow⟩ := OrchInfoBase.hasRequest_iff.mp hhas
          simp [OrchInfoBase.requestState, OrchInfoBase.updateRequest,
            Dict.get?_modify, hrow]
      · next hhas =>
          simp [OrchInfoBase.requestState, OrchInfoBase.addRequest, hhas]

theorem settled_settleRequest {r : Request} {p : Request × Option Command}
    (h : ResultOf r p) (htype : r.requestType = .addSFCI) (o : Orchestrator) :
    ∃ o', (settleRequest p.1 p.2).run o = .ok () o' ∧
      Settled o o' r.requestID ∧ OnlyFor o o' [r.requestID] := by
  obtain ⟨cmd, outcome, oib', hrun, hjudged, hmade⟩ := run_settleRequest h htype o
  have hrow := requestRow_of_judged hjudged (h.requestType.trans htype)
  have hother := hjudged.requestWrite.other
  rw [h.requestID] at hrow hother
  refine ⟨_, hrun, ?_, ⟨?_, ?_⟩⟩
  · obtain ⟨rfl, hrow⟩ | ⟨hrefused, hstate⟩ := hrow
    · refine .inl ⟨cmd, (hmade (by decide)).1, ?_, hrow⟩
      rw [sentSince_of_append [⟨p.1.requestID, cmd⟩] rfl]
      simp [h.requestID]
    · refine .inr ⟨?_, hstate⟩
      rw [sentSince_of_append []]
      · rfl
      · simp [judge, hrefused]
  · by_cases hsent : outcome = .sent
    · exact ⟨[⟨p.1.requestID, cmd⟩], by simp [judge, hsent],
        by simp [h.requestID]⟩
    · exact ⟨[], by simp [judge, hsent], by simp⟩
  · intro requestID hnot
    exact hother requestID (by simpa using hnot)

theorem settled_settleAll {requests : List Request}
    {l : List (Request × Option Command)}
    (hresults : List.Forall₂ ResultOf requests l)
    (htype : ∀ r ∈ requests, r.requestType = .addSFCI)
    (hnodup : (requests.map Request.requestID).Nodup) (o : Orchestrator) :
    ∃ o', (l.forM fun p => settleRequest p.1 p.2).run o = .ok () o' ∧
      (∀ r ∈ requests, Settled o o' r.requestID) ∧
      OnlyFor o o' (requests.map Request.requestID) := by
  induction hresults generalizing o with
  | nil => exact ⟨o, rfl, by simp, .refl o⟩
  | @cons r p requests l hresult hresults ih =>
      obtain ⟨hnew, hnodup⟩ := List.nodup_cons.mp hnodup
      obtain ⟨o₁, hrun, hsettled, honly⟩ :=
        settled_settleRequest hresult (htype r List.mem_cons_self) o
      obtain ⟨o', hloop, hrest, honly'⟩ := ih
        (fun r' hr' => htype r' (List.mem_cons_of_mem r hr')) hnodup o₁
      refine ⟨o', ?_, ?_, honly.trans honly'⟩
      · show (settleRequest p.1 p.2 >>= fun _ => _).run o = _
        rw [PyM.run_bind_ok hrun]
        exact hloop
      · intro r' hr'
        obtain rfl | hr' := List.mem_cons.mp hr'
        · exact hsettled.then_onlyFor honly honly' hnew
        · refine (hrest r' hr').after_onlyFor honly honly' ?_
          rintro hmem
          rw [List.mem_singleton] at hmem
          exact hnew (hmem ▸ List.mem_map_of_mem hr')

def validBatch (o : Orchestrator) : List Request :=
  o.requestBatchQueue.filter isValidAddSFCIRequest

theorem named_of_valid {request : Request}
    (h : isValidAddSFCIRequest request = true) : OSFCAdder.Named request := by
  unfold isValidAddSFCIRequest at h
  cases hsfc : request.attributes.sfc with
  | none => simp [hsfc] at h
  | some sfc =>
      rw [hsfc, Bool.and_eq_true] at h
      obtain ⟨sfci, hsfci⟩ := Option.isSome_iff_exists.mp h.2
      exact ⟨sfc, sfci, hsfc, hsfci⟩

/-- The invalid requests are recorded as failed, but only those that have no row
yet. -/
theorem requestState_processInvalid (o : Orchestrator) (requestID : UUID) :
    (processInvalidAddSFCIRequests o).oib.requestState requestID =
      if (∃ r ∈ o.requestBatchQueue, isValidAddSFCIRequest r = false ∧
          r.requestID = requestID) ∧ o.oib.requestState requestID = none then
        some .failed
      else o.oib.requestState requestID := by
  have hfold : ∀ (l : List Request) (oib : OrchInfoBase),
      (l.foldl (fun oib request => oib.addRequest
          { request with requestState := .failed } none none none)
        oib).requestState requestID =
      if (∃ r ∈ l, r.requestID = requestID) ∧
          oib.requestState requestID = none then some .failed
      else oib.requestState requestID := by
    intro l
    induction l with
    | nil => simp
    | cons r l ih =>
        intro oib
        have hfirst : (oib.addRequest { r with requestState := .failed } none none
            none).requestState requestID =
            if r.requestID = requestID ∧ oib.requestState requestID = none then
              some .failed
            else oib.requestState requestID := by
          rw [OrchInfoBase.requestState, OrchInfoBase.requestRow_addRequest]
          cases hrow : oib.requestTable.get? requestID with
          | none =>
              have hhas : oib.hasRequest requestID = false := by
                simp [OrchInfoBase.hasRequest, Dict.contains, hrow]
              by_cases heq : r.requestID = requestID
              · simp [OrchInfoBase.requestState, hrow, hhas, heq]
              · simp [OrchInfoBase.requestState, hrow, heq, Ne.symm heq]
          | some row =>
              have hhas : oib.hasRequest requestID = true := by
                simp [OrchInfoBase.hasRequest, Dict.contains, hrow]
              simp [OrchInfoBase.requestState, hrow, hhas]
        rw [List.foldl_cons, ih, hfirst]
        by_cases heq : r.requestID = requestID
        · by_cases hnone : oib.requestState requestID = none
          · simp [heq, hnone]
          · simp [hnone]
        · simp [heq]
  rw [processInvalidAddSFCIRequests, hfold]
  simp only [List.mem_filter, Bool.not_eq_eq_eq_not, Bool.not_true, and_assoc]

theorem finalState_processAll (env : Env) (hrunning : o.runningState = true)
    (hbatch : o.requestBatchQueue ≠ []) :
    (processAllAddSFCIRequests env).finalState o =
      (do
        let reqCmdTupleList ←
          withGen (OSFCAdder.genABatchOfRequestAndAddSFCICmds env (validBatch o))
        reqCmdTupleList.forM fun (request, cmd) => settleRequest request cmd
        : PyM Orchestrator Unit).finalState
        { processInvalidAddSFCIRequests o with requestBatchQueue := [] } := by
  have hrun : (processAllAddSFCIRequests env).run o =
      (do
        let reqCmdTupleList ←
          withGen (OSFCAdder.genABatchOfRequestAndAddSFCICmds env (validBatch o))
        reqCmdTupleList.forM fun (request, cmd) => settleRequest request cmd
        : PyM Orchestrator Unit).run
        { processInvalidAddSFCIRequests o with requestBatchQueue := [] } := by
    rw [processAllAddSFCIRequests, PyM.run_bind_get, PyM.run_bind_get,
      if_pos ⟨hbatch, hrunning⟩]
    rfl
  rw [PyM.finalState, hrun, PyM.finalState]

theorem settled_iff_of_unsent {requestID : UUID}
    (h : sentSince o o' requestID = []) :
    Settled o o' requestID ↔ o'.oib.requestState requestID = some .failed := by
  simp [Settled, h]

theorem settled_of_mappable {env : Env} (hrunning : o.runningState = true)
    (hbatch : o.requestBatchQueue ≠ [])
    (htype : ∀ r ∈ o.requestBatchQueue, r.requestType = .addSFCI)
    (hnodup : (o.requestBatchQueue.map Request.requestID).Nodup)
    (hmappable : OSFCAdder.Mappable env (validBatch o)) :
    (∀ r ∈ validBatch o,
      Settled o ((processAllAddSFCIRequests env).finalState o) r.requestID) ∧
    OnlyFor (processInvalidAddSFCIRequests o)
      ((processAllAddSFCIRequests env).finalState o)
      ((validBatch o).map Request.requestID) := by
  have hreturns : PyM.Returns (OSFCAdder.genABatchOfRequestAndAddSFCICmds env
      (validBatch o)) :=
    OSFCAdder.returns_genABatch (fun r hr =>
      named_of_valid (List.mem_filter.mp hr).2) hmappable
  replace hreturns := hreturns o.gen trivial
  have hmeets := OSFCAdder.meets_genABatchOfRequestAndAddSFCICmds env
    (validBatch o) o.gen o.gen rfl
  cases hrun : (OSFCAdder.genABatchOfRequestAndAddSFCICmds env
      (validBatch o)).run o.gen with
  | error e gen =>
      rw [hrun] at hreturns
      exact hreturns.elim
  | ok l gen =>
      rw [hrun] at hmeets
      obtain ⟨requests, hperm, hresults⟩ := hmeets.results
      have hids : (requests.map Request.requestID).Perm
          ((validBatch o).map Request.requestID) := by
        simpa [Function.comp_def, OSFCAdder.withMappingType] using
          hperm.map Request.requestID
      have hvalid : ∀ r ∈ requests, r.requestType = .addSFCI := by
        intro r hr
        obtain ⟨r', hr', rfl⟩ := List.mem_map.mp (hperm.mem_iff.mp hr)
        exact htype r' (List.mem_filter.mp hr').1
      have hnodup' : (requests.map Request.requestID).Nodup :=
        hids.nodup_iff.mpr
          (hnodup.sublist (List.filter_sublist.map Request.requestID))
      obtain ⟨o', hloop, hsettled, honly⟩ := settled_settleAll hresults hvalid
        hnodup' { processInvalidAddSFCIRequests o with
          requestBatchQueue := [], gen := gen }
      have hfinal : (processAllAddSFCIRequests env).finalState o = o' := by
        rw [finalState_processAll env hrunning hbatch]
        refine PyM.finalState_of_ok (a := ()) ?_
        have hgen : (withGen (OSFCAdder.genABatchOfRequestAndAddSFCICmds env
            (validBatch o))).run
            { processInvalidAddSFCIRequests o with requestBatchQueue := [] } =
            .ok l { processInvalidAddSFCIRequests o with
              requestBatchQueue := [], gen := gen } := PyM.run_zoom_ok hrun
        rw [PyM.run_bind_ok hgen]
        exact hloop
      rw [hfinal]
      constructor
      · intro r hr
        have hmem : r.requestID ∈ requests.map Request.requestID :=
          hids.mem_iff.mpr (List.mem_map_of_mem hr)
        obtain ⟨r', hr', heq⟩ := List.mem_map.mp hmem
        rw [← heq]
        exact hsettled r' hr'
      · obtain ⟨sendings, hsent, hsendings⟩ := honly.sent
        refine ⟨⟨sendings, hsent, fun sending hmem => ?_⟩, fun requestID hnot => ?_⟩
        · exact hids.mem_iff.mp (hsendings sending hmem)
        · exact honly.row requestID fun hmem => hnot (hids.mem_iff.mp hmem)

/-- A batch that is not mapped is lost. -/
theorem lost_of_not_mappable {env : Env} (hrunning : o.runningState = true)
    (hbatch : o.requestBatchQueue ≠ [])
    (hmappable : ¬ OSFCAdder.Mappable env (validBatch o)) :
    OnlyFor (processInvalidAddSFCIRequests o)
      ((processAllAddSFCIRequests env).finalState o) [] := by
  have hraises : PyM.Raises (OSFCAdder.genABatchOfRequestAndAddSFCICmds env
      (validBatch o)) :=
    OSFCAdder.raises_genABatch (fun r hr =>
      named_of_valid (List.mem_filter.mp hr).2) hmappable
  replace hraises := hraises o.gen trivial
  cases hrun : (OSFCAdder.genABatchOfRequestAndAddSFCICmds env
      (validBatch o)).run o.gen with
  | ok l gen =>
      rw [hrun] at hraises
      exact hraises.elim
  | error e gen =>
      have hfinal : (processAllAddSFCIRequests env).finalState o =
          { processInvalidAddSFCIRequests o with
            requestBatchQueue := [], gen := gen } := by
        rw [finalState_processAll env hrunning hbatch]
        refine PyM.finalState_of_error (e := e) ?_
        have hgen : (withGen (OSFCAdder.genABatchOfRequestAndAddSFCICmds env
            (validBatch o))).run
            { processInvalidAddSFCIRequests o with requestBatchQueue := [] } =
            .error e { processInvalidAddSFCIRequests o with
              requestBatchQueue := [], gen := gen } := PyM.run_zoom_error hrun
        rw [PyM.run_bind_error hgen]
      rw [hfinal]
      exact ⟨⟨[], (List.append_nil _).symm, by simp⟩, fun _ _ => rfl⟩

/-- Outside of the mapped requests, a request counts as settled if it was stored
as failed, or was not stored and is invalid. -/
theorem settled_iff_of_onlyFor {l : List UUID} {requestID : UUID}
    (honly : OnlyFor (processInvalidAddSFCIRequests o) o' l)
    (hnot : requestID ∉ l) :
    Settled o o' requestID ↔
      (processInvalidAddSFCIRequests o).oib.requestState requestID =
        some .failed := by
  obtain ⟨sendings, hsent, hids⟩ := honly.sent
  have hunsent : sentSince o o' requestID = [] := by
    have hsame : sentSince o o' requestID =
        sentSince (processInvalidAddSFCIRequests o) o' requestID := rfl
    rw [hsame, sentSince_of_append sendings hsent,
      filter_eq_nil_of_not_mem hids hnot]
    rfl
  rw [settled_iff_of_unsent hunsent, OrchInfoBase.requestState,
    honly.row requestID hnot]
  rfl

/-- Each request of a batch is settled exactly if no invalid request has a row
that is not failed, and either all groups are mapped without an exception or all
other requests were stored as failed before. -/
theorem batch_settled_iff (env : Env) (o : Orchestrator)
    (hrunning : o.runningState = true)
    (htype : ∀ r ∈ o.requestBatchQueue, r.requestType = .addSFCI)
    (hnodup : (o.requestBatchQueue.map Request.requestID).Nodup) :
    (∀ r ∈ o.requestBatchQueue,
      Settled o ((processAllAddSFCIRequests env).finalState o) r.requestID) ↔
    (∀ r ∈ o.requestBatchQueue, isValidAddSFCIRequest r = false →
      o.oib.requestState r.requestID ∈ [none, some .failed]) ∧
    (OSFCAdder.Mappable env (validBatch o) ∨
      ∀ r ∈ validBatch o, o.oib.requestState r.requestID = some .failed) := by
  by_cases hbatch : o.requestBatchQueue = []
  · simp [hbatch, validBatch]
  have hinj := List.inj_on_of_nodup_map hnodup
  -- the state of a request before the batch is mapped
  have hinvalid : ∀ r ∈ o.requestBatchQueue, isValidAddSFCIRequest r = false →
      ((processInvalidAddSFCIRequests o).oib.requestState r.requestID =
        some .failed ↔
        o.oib.requestState r.requestID ∈ [none, some .failed]) := by
    intro r hr hvalid
    rw [requestState_processInvalid]
    by_cases hnone : o.oib.requestState r.requestID = none
    · simp only [hnone, and_true, if_pos (⟨r, hr, hvalid, rfl⟩ : ∃ r' ∈
        o.requestBatchQueue, isValidAddSFCIRequest r' = false ∧
          r'.requestID = r.requestID)]
      simp
    · simp [hnone]
  have hvalid : ∀ r ∈ validBatch o,
      (processInvalidAddSFCIRequests o).oib.requestState r.requestID =
        o.oib.requestState r.requestID := by
    intro r hr
    obtain ⟨hmem, hvalid⟩ := List.mem_filter.mp hr
    rw [requestState_processInvalid, if_neg]
    rintro ⟨⟨r', hr', hinvalid', heq⟩, -⟩
    rw [hinj hr' hmem heq, hvalid] at hinvalid'
    cases hinvalid'
  have hnotValid : ∀ r ∈ o.requestBatchQueue, isValidAddSFCIRequest r = false →
      r.requestID ∉ (validBatch o).map Request.requestID := by
    intro r hr hinvalid' hmem
    obtain ⟨r', hr', heq⟩ := List.mem_map.mp hmem
    obtain ⟨hr', hvalid'⟩ := List.mem_filter.mp hr'
    rw [hinj hr' hr heq, hinvalid'] at hvalid'
    cases hvalid'
  by_cases hmappable : OSFCAdder.Mappable env (validBatch o)
  · obtain ⟨hsettled, honly⟩ :=
      settled_of_mappable hrunning hbatch htype hnodup hmappable
    simp only [hmappable, true_or, and_true]
    constructor
    · intro h r hr hinvalid'
      exact (hinvalid r hr hinvalid').mp
        ((settled_iff_of_onlyFor honly (hnotValid r hr hinvalid')).mp (h r hr))
    · intro h r hr
      cases hr' : isValidAddSFCIRequest r with
      | true => exact hsettled r (List.mem_filter.mpr ⟨hr, hr'⟩)
      | false =>
          exact (settled_iff_of_onlyFor honly (hnotValid r hr hr')).mpr
            ((hinvalid r hr hr').mpr (h r hr hr'))
  · have honly := lost_of_not_mappable hrunning hbatch hmappable
    have hiff := fun r : Request =>
      settled_iff_of_onlyFor honly (List.not_mem_nil (a := r.requestID))
    simp only [hmappable, false_or]
    constructor
    · intro h
      refine ⟨fun r hr hinvalid' => ?_, fun r hr => ?_⟩
      · exact (hinvalid r hr hinvalid').mp ((hiff r).mp (h r hr))
      · rw [← hvalid r hr]
        exact (hiff r).mp (h r (List.mem_filter.mp hr).1)
    · rintro ⟨h, h'⟩ r hr
      cases hr' : isValidAddSFCIRequest r with
      | true =>
          have hmem := List.mem_filter.mpr ⟨hr, hr'⟩
          exact (hiff r).mpr ((hvalid r hmem).trans (h' r hmem))
      | false => exact (hiff r).mpr ((hinvalid r hr hr').mpr (h r hr hr'))

def mappedRequest (mappingType : MappingType) (tick sfciID : Nat) : Request :=
  { sampleRequest tick .addSFCI 0 (some sfciID) with
    attributes := ⟨some (sampleSFC 0), some ⟨sfciID, []⟩, some mappingType⟩ }

/-- NetPack rejects every request of a batch but the first. -/
def rejectingEnv : Env :=
  { sampleEnv with
    netPackPath := fun _ => .ok fun rIndex =>
      if rIndex = 0 then .path [[(0, 1)]] else .none }

def waiting (requests : List Request) : Orchestrator :=
  after (requests.map (.request rejectingEnv))

def waitingContent (requestID : UUID) : Content :=
  ⟨.addSFCI, some ⟨0, 0⟩, some requestID.tick⟩

def twoGroups : List Request :=
  [mappedRequest .netpack 1 1, mappedRequest .mmlpsfc 2 2,
    mappedRequest .mmlpsfc 3 3]

theorem convertible_of_plainFPSet {mappingType : MappingType}
    {fpSet : ForwardingPathSet} {sfc : SFC}
    (hfpSet : fpSet ∈ some (OSFCAdder.plainFPSet mappingType (.path [[(0, 1)]])))
    (hsfc : sfc ∈ some (sampleSFC 0)) :
    OSFCAdder.Convertible rejectingEnv sfc fpSet := by
  obtain rfl := Option.some.inj hfpSet
  obtain rfl := Option.some.inj hsfc
  intro e he
  obtain rfl := List.mem_singleton.mp he
  exact ⟨rfl, ⟨_, rfl⟩, 1, rfl⟩

theorem mappable_twoGroups :
    OSFCAdder.Mappable rejectingEnv (validBatch (waiting twoGroups)) := by
  have hitems : (OSFCAdder.divRequest (validBatch (waiting twoGroups))).items =
      [(.netpack, [mappedRequest .netpack 1 1]),
        (.mmlpsfc, [mappedRequest .mmlpsfc 2 2, mappedRequest .mmlpsfc 3 3])] := by
    decide
  intro group hgroup
  rw [hitems, List.mem_cons, List.mem_singleton] at hgroup
  obtain rfl | rfl := hgroup
  · refine ⟨_, rfl, fun e he => ?_⟩
    obtain rfl := List.mem_singleton.mp he
    exact ⟨_, rfl, fun _ hfpSet _ hsfc => convertible_of_plainFPSet hfpSet hsfc⟩
  · refine ⟨_, rfl, fun e he => ?_⟩
    obtain rfl | he := List.mem_cons.mp he
    · exact ⟨_, rfl, fun _ hfpSet _ hsfc => convertible_of_plainFPSet hfpSet hsfc⟩
    · obtain rfl := List.mem_singleton.mp he
      exact ⟨_, rfl, fun _ hfpSet _ hsfc => convertible_of_plainFPSet hfpSet hsfc⟩

def twoGroupsHandled : Orchestrator :=
  (processAllAddSFCIRequests rejectingEnv).finalState (waiting twoGroups)

theorem batch_settled_iff_waiting :
    Settled (waiting twoGroups) twoGroupsHandled ⟨0, 1⟩ ∧
      Settled (waiting twoGroups) twoGroupsHandled ⟨0, 2⟩ ∧
      Settled (waiting twoGroups) twoGroupsHandled ⟨0, 3⟩ := by
  have hsettled := (batch_settled_iff rejectingEnv (waiting twoGroups) rfl
    (by decide) (by decide)).mpr ⟨by decide, .inl mappable_twoGroups⟩
  exact ⟨hsettled (mappedRequest .netpack 1 1) (by decide),
    hsettled (mappedRequest .mmlpsfc 2 2) (by decide),
    hsettled (mappedRequest .mmlpsfc 3 3) (by decide)⟩

/-- A request that NetPack rejects loses the request before it in the batch. -/
theorem batch_lost :
    (machine waitingContent).Reachable
      (waiting [mappedRequest .netpack 1 1, mappedRequest .netpack 2 2]) ∧
    ¬ Settled (waiting [mappedRequest .netpack 1 1, mappedRequest .netpack 2 2])
      ((processAllAddSFCIRequests rejectingEnv).finalState
        (waiting [mappedRequest .netpack 1 1, mappedRequest .netpack 2 2])) ⟨0, 1⟩ := by
  refine ⟨reachable_after ⟨rfl, rfl, trivial⟩, ?_⟩
  have hsent : sentSince (waiting [mappedRequest .netpack 1 1, mappedRequest .netpack 2 2])
      ((processAllAddSFCIRequests rejectingEnv).finalState
        (waiting [mappedRequest .netpack 1 1, mappedRequest .netpack 2 2])) ⟨0, 1⟩ = [] := by
    rfl
  rw [settled_iff_of_unsent hsent]
  decide

end Orchestrator

end SelfAdaptiveMano

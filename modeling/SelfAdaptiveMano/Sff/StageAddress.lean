import SelfAdaptiveMano.Sff.SffController
import SelfAdaptiveMano.Library.Successors

/-!
# The destination addresses along a chain

In a UFRR chain the stage of a packet is in its destination address. Three
components compute it on their own: the classifier encapsulates packets with the
address of the first stage, each SFF writes the address of the next stage behind
a VNF, and the routing application installs the flow entries of a stage on its
address.

The SFFs look up the next stage by the type of the VNF, in the order of the
direction, while the classifier and the routing application take the VNFs in the
order of the first direction for both.
-/

namespace SelfAdaptiveMano.Sff

open Library Library.BitFields

def DIRECTION0_PATHID_OFFSET : Nat := 1
def DIRECTION1_PATHID_OFFSET : Nat := 128
def VNF_TYPE_MAX : Nat := 15

/-! ## The classifier -/

/-- `_genIP4SVPIDs` of the controllers that drive a BESS. -/
def genIP4SVPIDs (sfcID vnfID pathID : Nat) : Nat :=
  (10 <<< 24) + ((vnfID &&& 0xF) <<< 20) + ((sfcID &&& 0xFFF) <<< 8)
    + (pathID &&& 0xFF)

/-- The address that the SetMetadata module of `_addModules` gives packets. -/
def tunnelDstIP (vNFTypeSequence : List Nat) (sfciID directionID : Nat) :
    Except PyError Nat :=
  if directionID = 0 then do
    let vnfID ← itemAt vNFTypeSequence 0
    return genIP4SVPIDs sfciID vnfID DIRECTION0_PATHID_OFFSET
  else do
    let vnfID ← itemAt vNFTypeSequence 0
    return genIP4SVPIDs sfciID vnfID DIRECTION1_PATHID_OFFSET

/-! ## The routing application -/

def getPathID (directionID : Nat) : Nat :=
  if directionID = 0 then DIRECTION0_PATHID_OFFSET
  else DIRECTION1_PATHID_OFFSET

def SFCI.getVNFTypeByStageNum (sfci : SFCI) (stageNum : Nat) :
    Except PyError Nat :=
  if stageNum = sfci.vnfiSequence.length then .ok 0
  else if stageNum < sfci.vnfiSequence.length then do
    let vnf ← itemAt sfci.vnfiSequence stageNum
    let vnfi ← itemAt vnf 0
    return vnfi.vnfID
  else .error (.valueError ("Invalid stageNum:" ++ toString stageNum))

def getSFCIStageDstIP (sfci : SFCI) (stageCount pathID : Nat) :
    Except PyError Nat := do
  let vnfID ← if stageCount < sfci.vnfiSequence.length then
      sfci.getVNFTypeByStageNum stageCount
    else .ok VNF_TYPE_CLASSIFIER
  return (10 <<< 24) + ((vnfID &&& 0xF) <<< 20) + ((sfci.sfciID &&& 0xFFF) <<< 8)
    + (pathID &&& 0xFF)

/-! ## The SFFs -/

/-- The destination address, bytes 30 to 33 of a packet, after a field of an
Update module is written. -/
def writeField (address : Nat) : Nat × Nat × Nat → Nat
  | (offset, size, value) =>
      let byte i := if offset ≤ 30 + i ∧ 30 + i < offset + size then
          value >>> (8 * (offset + size - 31 - i))
        else address >>> (8 * (3 - i))
      pack [(8, byte 0), (8, byte 1), (8, byte 2), (8, byte 3)]

def ModuleArg.write (address : Nat) : ModuleArg → Nat
  | .update writes => writes.foldl writeField address
  | _ => address

/-- A rule of `wm2` matches the destination address. -/
def Match.Matches (rule : Match) (address : Nat) : Prop :=
  ∀ e ∈ rule.values.zip rule.masks, address &&& e.2 = e.1

/-- A packet of the direction can have the address in a stage: the classifier
gives it the first one, and the SFF of a VNFI that takes the packet gives it the
next one. -/
inductive Carries (vNFTypeSequence : List Nat) (sfci : SFCI) (directionID : Nat) :
    Nat → Nat → Prop
  | classifier {address : Nat}
      (h : tunnelDstIP vNFTypeSequence sfci.sfciID directionID = .ok address) :
      Carries vNFTypeSequence sfci directionID 0 address
  | sff {stage address vnfiIdx : Nat} {vnf : List VNFI} {vnfi : VNFI}
      {server : Server} {arg : ModuleArg}
      (h : Carries vNFTypeSequence sfci directionID stage address)
      (hvnf : sfci.vnfiSequence[vnfiIdx]? = some vnf) (hvnfi : vnfi ∈ vnf)
      (hserver : vnfi.node = .server server)
      (hrule : (ruleMatch .ufrr sfci vnfi vnfiIdx directionID).Matches address)
      (harg : updateArg .ufrr server sfci vnfi vnfiIdx directionID = .ok arg) :
      Carries vNFTypeSequence sfci directionID (stage + 1) (arg.write address)

structure IsStage (vnfType : Nat) (vnf : List VNFI) : Prop where
  ne_nil : vnf ≠ []
  vnfID : ∀ vnfi ∈ vnf, vnfi.vnfID = vnfType
  onServer : ∀ vnfi ∈ vnf, ∃ server, vnfi.node = .server server

/-- An SFC with one of its SFCIs, which has a stage for each VNF of the SFC. -/
structure Chain where
  vNFTypeSequence : List Nat
  sfci : SFCI
  stages : List.Forall₂ IsStage vNFTypeSequence sfci.vnfiSequence
  vnfTypes : ∀ vnfType ∈ vNFTypeSequence,
    VNF_TYPE_CLASSIFIER < vnfType ∧ vnfType ≤ VNF_TYPE_MAX

namespace Chain

variable (c : Chain) (directionID : Nat)

/-- Packets come to every stage, and have the address of its flow entries
there. -/
def Agrees : Prop :=
  ∀ stage ≤ c.sfci.vnfiSequence.length,
    (∃ address, Carries c.vNFTypeSequence c.sfci directionID stage address) ∧
      ∀ address, Carries c.vNFTypeSequence c.sfci directionID stage address →
        getSFCIStageDstIP c.sfci stage (getPathID directionID) = .ok address

def order : List Nat :=
  if directionID = 0 then c.vNFTypeSequence else c.vNFTypeSequence.reverse

end Chain

/-! ## The addresses -/

section Addresses

variable (sfciID vnfType pathID : Nat)

theorem genIP4SVPIDs_eq :
    genIP4SVPIDs sfciID vnfType pathID =
      pack [(8, 10), (4, vnfType), (12, sfciID), (8, pathID)] := by
  have hvnf : vnfType &&& 0xF = vnfType % 2 ^ 4 := land_mask vnfType 4
  have hsfci : sfciID &&& 0xFFF = sfciID % 2 ^ 12 := land_mask sfciID 12
  have hpath : pathID &&& 0xFF = pathID % 2 ^ 8 := land_mask pathID 8
  simp only [genIP4SVPIDs, hvnf, hsfci, hpath, Nat.shiftLeft_eq, pack_cons,
    pack_nil, width_cons, width_nil]
  omega

theorem genIP4SVPIDs_inj {vnfType' : Nat} :
    genIP4SVPIDs sfciID vnfType pathID = genIP4SVPIDs sfciID vnfType' pathID ↔
      vnfType % 2 ^ 4 = vnfType' % 2 ^ 4 := by
  rw [genIP4SVPIDs_eq, genIP4SVPIDs_eq, pack_cons_inj, pack_cons_inj]
  · simp
  · rfl
  · rfl

/-- The bytes of the source address are not those of the destination. -/
theorem writeField_srcIP (value : Nat) :
    writeField (genIP4SVPIDs sfciID vnfType pathID) (26, 4, value) =
      genIP4SVPIDs sfciID vnfType pathID := by
  have hbytes (address : Nat) : writeField address (26, 4, value) =
      pack [(8, address / 2 ^ 24), (8, address / 2 ^ 16), (8, address / 2 ^ 8),
        (8, address)] := by
    simp [writeField, Nat.shiftRight_eq_div_pow]
  have hlt : genIP4SVPIDs sfciID vnfType pathID < 2 ^ 32 := by
    rw [genIP4SVPIDs_eq]
    exact pack_lt _
  rw [hbytes]
  simp only [pack_cons, pack_nil, width_cons, width_nil]
  omega

theorem writeField_secondByte (address value : Nat) :
    writeField address (31, 1, value) =
      pack [(8, address / 2 ^ 24), (8, value), (16, address)] := by
  have hbytes : writeField address (31, 1, value) =
      pack [(8, address / 2 ^ 24), (8, value), (8, address / 2 ^ 8),
        (8, address)] := by
    simp [writeField, Nat.shiftRight_eq_div_pow]
  rw [hbytes]
  simp only [pack_cons, pack_nil, width_cons, width_nil]
  omega

theorem writeField_dstIP (nextVNFID : Nat) :
    writeField (genIP4SVPIDs sfciID vnfType pathID) (31, 1,
        ((((nextVNFID &&& 0xF) <<< 12) + (sfciID &&& 0xFFF)) >>> 8) &&& 0xFF) =
      genIP4SVPIDs sfciID nextVNFID pathID := by
  have hvnf : nextVNFID &&& 0xF = nextVNFID % 2 ^ 4 := land_mask nextVNFID 4
  have hsfci : sfciID &&& 0xFFF = sfciID % 2 ^ 12 := land_mask sfciID 12
  have hbyte (value : Nat) : value &&& 0xFF = value % 2 ^ 8 := land_mask value 8
  rw [writeField_secondByte, genIP4SVPIDs_eq, genIP4SVPIDs_eq, hvnf, hsfci,
    hbyte]
  simp only [pack_cons, pack_nil, width_cons, width_nil, Nat.shiftLeft_eq,
    Nat.shiftRight_eq_div_pow]
  omega

theorem write_update (srcIP nextVNFID : Nat) :
    (ModuleArg.update [(26, 4, srcIP), (31, 1,
        ((((nextVNFID &&& 0xF) <<< 12) + (sfciID &&& 0xFFF)) >>> 8)
          &&& 0xFF)]).write (genIP4SVPIDs sfciID vnfType pathID) =
      genIP4SVPIDs sfciID nextVNFID pathID := by
  rw [ModuleArg.write, List.foldl_cons, writeField_srcIP, List.foldl_cons,
    writeField_dstIP, List.foldl_nil]

end Addresses

theorem tunnelDstIP_eq_ok_iff {vNFTypeSequence : List Nat}
    {sfciID directionID address : Nat} :
    tunnelDstIP vNFTypeSequence sfciID directionID = .ok address ↔
      ∃ vnfType, vNFTypeSequence.head? = some vnfType ∧
        address = genIP4SVPIDs sfciID vnfType (getPathID directionID) := by
  cases vNFTypeSequence with
  | nil => by_cases h : directionID = 0 <;> simp [tunnelDstIP, h, itemAt]
  | cons vnfType types =>
      by_cases h : directionID = 0 <;>
        simp [tunnelDstIP, getPathID, h, itemAt, eq_comm]

theorem matches_genIP4SVPIDs {sfci : SFCI} {vnfi : VNFI}
    {vnfiIdx directionID vnfType : Nat} (hdirection : directionID < 2) :
    (ruleMatch .ufrr sfci vnfi vnfiIdx directionID).Matches
        (genIP4SVPIDs sfci.sfciID vnfType (getPathID directionID)) ↔
      vnfType % 2 ^ 4 = vnfi.vnfID % 2 ^ 4 := by
  have hmask (address : Nat) :
      address &&& 0xFFFFFF80 = address / 2 ^ 7 % 2 ^ 25 * 2 ^ 7 :=
    land_mask_shiftLeft address 25 7
  have hpath : getPathID directionID / 2 ^ 7 = directionID := by
    obtain rfl | rfl : directionID = 0 ∨ directionID = 1 := by omega
    · rfl
    · rfl
  have hsmall : getPathID directionID < 2 ^ 8 := by
    obtain rfl | rfl : directionID = 0 ∨ directionID = 1 := by omega
    · decide
    · decide
  simp only [Match.Matches, ruleMatch, List.zip_cons_cons, List.zip_nil_right,
    List.mem_singleton, forall_eq, hmask]
  rw [genIP4SVPIDs_eq, getSFFWM2MatchValue_eq]
  simp only [pack_cons, pack_nil, width_cons, width_nil]
  omega

/-! ## The stages of a chain -/

theorem nextVNFID_cons (vnfi : VNFI) (others : List VNFI)
    (stages : List (List VNFI)) (vnfType : Nat) :
    nextVNFID vnfType ((vnfi :: others) :: stages) =
      if vnfi.vnfID = vnfType then
        match stages with
        | [] => .ok (some VNF_TYPE_CLASSIFIER)
        | next :: _ => (itemAt next 0).map fun vnfi => some vnfi.vnfID
      else nextVNFID vnfType stages := by
  cases stages <;> rfl

def IsFirstType (vnfType : Nat) (vnf : List VNFI) : Prop :=
  vnf.head?.map VNFI.vnfID = some vnfType

theorem IsFirstType.exists_cons {vnfType : Nat} {vnf : List VNFI}
    (h : IsFirstType vnfType vnf) :
    ∃ vnfi others, vnf = vnfi :: others ∧ vnfi.vnfID = vnfType := by
  cases vnf with
  | nil => cases h
  | cons vnfi others => exact ⟨vnfi, others, rfl, Option.some.inj h⟩

theorem IsStage.isFirstType {vnfType : Nat} {vnf : List VNFI}
    (h : IsStage vnfType vnf) : IsFirstType vnfType vnf := by
  obtain ⟨vnfi, others, rfl⟩ := List.exists_cons_of_ne_nil h.ne_nil
  exact congrArg some (h.vnfID vnfi List.mem_cons_self)

theorem nextVNFID_eq {types : List Nat} {stages : List (List VNFI)}
    (h : List.Forall₂ IsFirstType types stages) (vnfType : Nat) :
    nextVNFID vnfType stages =
      .ok (Successors.next VNF_TYPE_CLASSIFIER types vnfType) := by
  induction h with
  | nil => rfl
  | @cons t vnf types stages hstage hstages ih =>
      obtain ⟨vnfi, others, rfl, rfl⟩ := hstage.exists_cons
      rw [nextVNFID_cons, Successors.next_cons]
      split
      · cases hstages with
        | nil => rfl
        | cons hnext _ =>
            obtain ⟨next, others', rfl, rfl⟩ := hnext.exists_cons
            rfl
      · exact ih

namespace Chain

variable (c : Chain) {directionID : Nat}

theorem length_stages :
    c.sfci.vnfiSequence.length = c.vNFTypeSequence.length :=
  c.stages.length_eq.symm

theorem classifier_notMem : VNF_TYPE_CLASSIFIER ∉ c.vNFTypeSequence :=
  fun h => Nat.lt_irrefl _ (c.vnfTypes _ h).1

theorem mem_order {vnfType : Nat} :
    vnfType ∈ c.order directionID ↔ vnfType ∈ c.vNFTypeSequence := by
  rw [order]
  split
  · rfl
  · exact List.mem_reverse

theorem getD_le (stage : Nat) :
    c.vNFTypeSequence.getD stage VNF_TYPE_CLASSIFIER ≤ VNF_TYPE_MAX := by
  by_cases h : stage < c.vNFTypeSequence.length
  · rw [List.getD_eq_getElem _ _ h]
    exact (c.vnfTypes _ (List.getElem_mem h)).2
  · rw [List.getD_eq_default _ _ (Nat.le_of_not_lt h)]
    exact Nat.zero_le _

theorem exists_vnfi {vnfType : Nat} (h : vnfType ∈ c.vNFTypeSequence) :
    ∃ (vnfiIdx : Nat) (vnf : List VNFI) (vnfi : VNFI) (server : Server),
      c.sfci.vnfiSequence[vnfiIdx]? = some vnf ∧ vnfi ∈ vnf ∧
        vnfi.vnfID = vnfType ∧ vnfi.node = .server server := by
  obtain ⟨i, hi, rfl⟩ := List.getElem_of_mem h
  have hi' : i < c.sfci.vnfiSequence.length := c.length_stages ▸ hi
  have hstage : IsStage c.vNFTypeSequence[i] c.sfci.vnfiSequence[i] :=
    c.stages.get hi hi'
  obtain ⟨vnfi, hvnfi⟩ := List.exists_mem_of_ne_nil _ hstage.ne_nil
  obtain ⟨server, hserver⟩ := hstage.onServer vnfi hvnfi
  exact ⟨i, _, vnfi, server, List.getElem?_eq_getElem hi', hvnfi,
    hstage.vnfID vnfi hvnfi, hserver⟩

theorem vnfID_mem {vnfiIdx : Nat} {vnf : List VNFI} {vnfi : VNFI}
    (hvnf : c.sfci.vnfiSequence[vnfiIdx]? = some vnf) (hvnfi : vnfi ∈ vnf) :
    vnfi.vnfID ∈ c.vNFTypeSequence := by
  obtain ⟨hi', rfl⟩ := List.getElem?_eq_some_iff.mp hvnf
  have hi : vnfiIdx < c.vNFTypeSequence.length := c.length_stages ▸ hi'
  have hstage : IsStage c.vNFTypeSequence[vnfiIdx] c.sfci.vnfiSequence[vnfiIdx] :=
    c.stages.get hi hi'
  rw [hstage.vnfID vnfi hvnfi]
  exact List.getElem_mem hi

theorem getSFCIStageDstIP_eq {stage : Nat} (pathID : Nat) :
    getSFCIStageDstIP c.sfci stage pathID =
      .ok (genIP4SVPIDs c.sfci.sfciID
        (c.vNFTypeSequence.getD stage VNF_TYPE_CLASSIFIER) pathID) := by
  rw [getSFCIStageDstIP]
  by_cases hi' : stage < c.sfci.vnfiSequence.length
  · have hi : stage < c.vNFTypeSequence.length := c.length_stages ▸ hi'
    have hstage : IsStage c.vNFTypeSequence[stage] c.sfci.vnfiSequence[stage] :=
      c.stages.get hi hi'
    obtain ⟨vnfi, others, hvnf⟩ := List.exists_cons_of_ne_nil hstage.ne_nil
    have htype : vnfi.vnfID = c.vNFTypeSequence[stage] :=
      hstage.vnfID vnfi (hvnf ▸ List.mem_cons_self)
    have hitem : itemAt c.sfci.vnfiSequence stage = .ok (vnfi :: others) :=
      itemAt_eq_ok_iff.mpr (hvnf ▸ List.getElem?_eq_getElem hi')
    rw [if_pos hi', SFCI.getVNFTypeByStageNum, if_neg hi'.ne, if_pos hi',
      hitem, List.getD_eq_getElem _ _ hi, ← htype]
    rfl
  · have hi : c.vNFTypeSequence.length ≤ stage :=
      c.length_stages ▸ Nat.le_of_not_lt hi'
    rw [if_neg hi', List.getD_eq_default _ _ hi]
    rfl

theorem getNextVNFID_eq (hdirection : directionID < 2) (vnfi : VNFI) :
    getNextVNFID c.sfci vnfi directionID =
      .ok (Successors.next VNF_TYPE_CLASSIFIER (c.order directionID)
        vnfi.vnfID) := by
  have htypes := c.stages.imp fun _ _ => IsStage.isFirstType
  rw [getNextVNFID, order]
  obtain rfl | rfl : directionID = 0 ∨ directionID = 1 := by omega
  · exact nextVNFID_eq htypes _
  · exact nextVNFID_eq (List.rel_reverse htypes) _

theorem updateArg_eq_ok_iff (hdirection : directionID < 2) {server : Server}
    {vnfi : VNFI} {vnfiIdx : Nat} {arg : ModuleArg} :
    updateArg .ufrr server c.sfci vnfi vnfiIdx directionID = .ok arg ↔
      ∃ vnfType, Successors.next VNF_TYPE_CLASSIFIER (c.order directionID)
          vnfi.vnfID = some vnfType ∧
        arg = .update [(26, 4, server.datapathNICIP), (31, 1,
          ((((vnfType &&& 0xF) <<< 12) + (c.sfci.sfciID &&& 0xFFF)) >>> 8)
            &&& 0xFF)] := by
  simp only [updateArg, c.getNextVNFID_eq hdirection]
  cases Successors.next VNF_TYPE_CLASSIFIER (c.order directionID)
      vnfi.vnfID with
  | none =>
      refine iff_of_false (fun h => ?_) (fun ⟨_, h, _⟩ => ?_)
      · cases h
      · cases h
  | some vnfType =>
      constructor
      · intro h
        exact ⟨vnfType, rfl, (Except.ok.inj h).symm⟩
      · rintro ⟨_, hnext, rfl⟩
        obtain rfl := Option.some.inj hnext
        rfl

def carriedType (directionID : Nat) : Nat → Option Nat :=
  Successors.walk VNF_TYPE_CLASSIFIER (c.order directionID)
    c.vNFTypeSequence.head?

theorem carriedType_le {stage vnfType : Nat}
    (h : c.carriedType directionID stage = some vnfType) :
    vnfType ≤ VNF_TYPE_MAX := by
  rw [carriedType] at h
  cases hhead : c.vNFTypeSequence.head? with
  | none =>
      rw [hhead, Successors.walk_none] at h
      cases h
  | some first =>
      have hfirst : first ∈ c.order directionID :=
        c.mem_order.mpr (List.mem_of_head? hhead)
      rw [hhead] at h
      obtain rfl | hmem := Successors.eq_last_or_mem_of_walk hfirst h
      · exact Nat.zero_le _
      · exact (c.vnfTypes _ (c.mem_order.mp hmem)).2

theorem carriedType_succ (stage : Nat) :
    c.carriedType directionID (stage + 1) =
      (c.carriedType directionID stage).bind
        (Successors.next VNF_TYPE_CLASSIFIER (c.order directionID)) := rfl

theorem eq_of_matches (hdirection : directionID < 2)
    {stage vnfType vnfiIdx : Nat} {vnfi : VNFI}
    (hcarried : c.carriedType directionID stage = some vnfType)
    (hmem : vnfi.vnfID ∈ c.vNFTypeSequence)
    (hrule : (ruleMatch .ufrr c.sfci vnfi vnfiIdx directionID).Matches
      (genIP4SVPIDs c.sfci.sfciID vnfType (getPathID directionID))) :
    vnfType = vnfi.vnfID := by
  have hmod := (matches_genIP4SVPIDs hdirection).mp hrule
  have hle : vnfType < 2 ^ 4 := Nat.lt_succ_of_le (c.carriedType_le hcarried)
  have hle' : vnfi.vnfID < 2 ^ 4 := Nat.lt_succ_of_le (c.vnfTypes _ hmem).2
  rwa [Nat.mod_eq_of_lt hle, Nat.mod_eq_of_lt hle'] at hmod

theorem carries_iff (hdirection : directionID < 2) {stage address : Nat} :
    Carries c.vNFTypeSequence c.sfci directionID stage address ↔
      ∃ vnfType, c.carriedType directionID stage = some vnfType ∧
        address = genIP4SVPIDs c.sfci.sfciID vnfType
          (getPathID directionID) := by
  constructor
  · intro h
    induction h with
    | classifier h => exact tunnelDstIP_eq_ok_iff.mp h
    | @sff stage address vnfiIdx vnf vnfi server arg h hvnf hvnfi hserver hrule
        harg ih =>
        obtain ⟨vnfType, hcarried, rfl⟩ := ih
        have htype : vnfType = vnfi.vnfID :=
          c.eq_of_matches hdirection hcarried (c.vnfID_mem hvnf hvnfi) hrule
        obtain ⟨next, hnext, rfl⟩ := (c.updateArg_eq_ok_iff hdirection).mp harg
        refine ⟨next, ?_, ?_⟩
        · rw [carriedType_succ, hcarried, Option.bind_some, htype]
          exact hnext
        · exact write_update _ _ _ _ _
  · rintro ⟨vnfType, hcarried, rfl⟩
    induction stage generalizing vnfType with
    | zero =>
        exact .classifier (tunnelDstIP_eq_ok_iff.mpr ⟨vnfType, hcarried, rfl⟩)
    | succ stage ih =>
        rw [carriedType_succ, Option.bind_eq_some_iff] at hcarried
        obtain ⟨before, hbefore, hnext⟩ := hcarried
        -- the VNFI of the stage before takes the packet
        obtain ⟨vnfiIdx, vnf, vnfi, server, hvnf, hvnfi, rfl, hserver⟩ :=
          c.exists_vnfi (c.mem_order.mp (Successors.mem_of_next hnext))
        have hcarries := Carries.sff (ih _ hbefore) hvnf hvnfi hserver
          ((matches_genIP4SVPIDs hdirection).mpr rfl)
          ((c.updateArg_eq_ok_iff hdirection).mpr ⟨vnfType, hnext, rfl⟩)
        rwa [write_update] at hcarries

theorem agrees_iff_follows (hdirection : directionID < 2) :
    c.Agrees directionID ↔ c.vNFTypeSequence ≠ [] ∧
      Successors.Follows VNF_TYPE_CLASSIFIER (c.order directionID)
        c.vNFTypeSequence := by
  rw [← Successors.walk_iff_follows, Agrees, c.length_stages]
  refine forall₂_congr fun stage _ => ?_
  simp only [c.carries_iff hdirection, c.getSFCIStageDstIP_eq]
  constructor
  · rintro ⟨⟨address, vnfType, hcarried, -⟩, hagree⟩
    have haddress := hagree _ ⟨vnfType, hcarried, rfl⟩
    have hstage : c.vNFTypeSequence.getD stage VNF_TYPE_CLASSIFIER < 2 ^ 4 :=
      Nat.lt_succ_of_le (c.getD_le stage)
    have hle : vnfType < 2 ^ 4 := Nat.lt_succ_of_le (c.carriedType_le hcarried)
    have hmod := (genIP4SVPIDs_inj _ _ _).mp (Except.ok.inj haddress)
    rw [Nat.mod_eq_of_lt hle, Nat.mod_eq_of_lt hstage] at hmod
    rw [hmod]
    exact hcarried
  · intro hcarried
    refine ⟨⟨_, _, hcarried, rfl⟩, ?_⟩
    rintro address ⟨vnfType, hcarried', rfl⟩
    obtain rfl := Option.some.inj (hcarried.symm.trans hcarried')
    rfl

theorem agrees_zero_iff :
    c.Agrees 0 ↔ c.vNFTypeSequence ≠ [] ∧ c.vNFTypeSequence.Nodup := by
  rw [c.agrees_iff_follows Nat.zero_lt_two]
  exact and_congr_right fun _ =>
    Successors.follows_iff_nodup fun h => c.classifier_notMem (List.mem_of_mem_tail h)

theorem agrees_one_iff : c.Agrees 1 ↔ c.vNFTypeSequence.length = 1 := by
  rw [c.agrees_iff_follows Nat.one_lt_two]
  constructor
  · rintro ⟨hne, hfollows⟩
    exact (Successors.follows_reverse_iff c.classifier_notMem hne).mp hfollows
  · intro h
    have hne : c.vNFTypeSequence ≠ [] := List.ne_nil_of_length_eq_add_one h
    exact ⟨hne, (Successors.follows_reverse_iff c.classifier_notMem hne).mpr h⟩

/-- In the first direction the addresses agree when the chain has a VNF and no
type of VNF twice, and in the second one only when it has a single VNF. -/
theorem addresses_agree_iff :
    (c.Agrees 0 ↔ c.vNFTypeSequence ≠ [] ∧ c.vNFTypeSequence.Nodup) ∧
      (c.Agrees 1 ↔ c.vNFTypeSequence.length = 1) :=
  ⟨c.agrees_zero_iff, c.agrees_one_iff⟩

def exampleOf (types : List Nat)
    (h : ∀ vnfType ∈ types,
      VNF_TYPE_CLASSIFIER < vnfType ∧ vnfType ≤ VNF_TYPE_MAX) : Chain where
  vNFTypeSequence := types
  sfci := ⟨1, types.map fun vnfType =>
    [⟨vnfType, ⟨0, vnfType⟩, .server ⟨0, 0, 0⟩⟩]⟩
  stages := List.forall₂_map_right_iff.mpr <| List.forall₂_same.mpr
    fun vnfType _ => ⟨List.cons_ne_nil _ _, by simp, by simp⟩
  vnfTypes := h

/-- The SFF of the first VNF of a chain with two sends the packets of the second
direction to the classifier. -/
theorem second_direction_left :
    ¬ ∀ (c : Chain) (directionID : Nat), directionID < 2 →
      c.Agrees directionID := by
  intro h
  have hagrees := h (exampleOf [2, 3] (by decide)) 1 Nat.one_lt_two
  have hlength := (agrees_one_iff _).mp hagrees
  exact absurd hlength (by decide)

end Chain

end SelfAdaptiveMano.Sff

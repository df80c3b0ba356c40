import SelfAdaptiveMano.Simulator.Installed

/-!
# What is entered under an id

Every entry of a switch, a link or a node bears the id of an SFCI. `Intact` says
that what is entered under the id of a stored SFCI is what a deletion of it goes
over, and `Cleared` that nothing is entered under some ids. `Kept` is the frame of
the deletions: the entries with all other ids are as they were.
-/

namespace SelfAdaptiveMano.Simulator

open Library

inductive Place where
  | switch (switchID : Nat)
  | serverLink (link : Nat × Nat)
  | link (link : Nat × Nat)
  deriving DecidableEq, Repr

namespace Sib

def Enters (sib : Sib) (key : HopKey) : Place → Prop
  | .switch w => ∃ info, sib.switches.get? w = some info ∧
      info.nextHop.contains key = true
  | .serverLink l => ∃ info, sib.serverLinks.get? l = some info ∧ key ∈ info.usedBy
  | .link l => ∃ info, sib.links.get? l = some info ∧ key ∈ info.usedBy

def PlaceOf (sib : Sib) (h : Hop) : Place → Prop
  | .switch w => h.src = w ∧ sib.switches.contains w = true
  | .serverLink l => (h.src, h.dst) = l ∧ sib.serverLinks.contains l = true
  | .link l => (h.src, h.dst) = l ∧ sib.serverLinks.contains l = false ∧
      sib.links.contains l = true

def entriesOf (sib : Sib) (sfciID w : Nat) : List (Nat × Nat) :=
  (((sib.vnfis.get? w).getD []).filter fun info => info.sfciID == sfciID).map
    fun info => (info.stage, info.vnfi.vnfType)

end Sib

def vnfisDue (sfci : SFCI) (stages : List (List (Nat × Nat) × Nat)) (w : Nat) :
    List (Nat × Nat) :=
  stages.filterMap fun e =>
    match vnfiAt sfci e.1 e.2 with
    | .ok v => if v.1 = w then some (e.2, v.2.vnfi.vnfType) else none
    | .error _ => none

structure Entered (sib : Sib) (sfciID : Nat) (hops : List Hop) : Prop where
  linked : ∀ h ∈ hops, Linked sib h.src h.dst
  enters_iff : ∀ key place, key.sfciID = sfciID →
    (sib.Enters key place ↔ ∃ h ∈ hops, h.key = key ∧ sib.PlaceOf h place)

def Backed (sib : Sib) (hops : List Hop) : Prop :=
  ∀ w info, sib.switches.get? w = some info → startsAt hops w ≤ info.tcamUsage

/-- The SFCI has a path for each direction of the SFC, and what is entered under
its id are its hops in these directions and its VNFIs. -/
structure Intact (sfc : SFC) (sib : Sib) (sfci : SFCI) : Prop where
  path : ∀ direction ∈ sfc.directions, ∃ pathlist,
    pathlistOf sfci direction.ID = .ok pathlist
  hops : Entered sib sfci.sfciID (sfciHops sfc sfci)
  vnfis : ∀ w, (sib.entriesOf sfci.sfciID w).Perm
    (vnfisDue sfci (vnfiStages sfci) w)

/-- Nothing is entered under the ids. -/
structure Cleared (ids : List Nat) (sib : Sib) : Prop where
  hops : ∀ key place, key.sfciID ∈ ids → ¬ sib.Enters key place
  vnfis : ∀ w, ∀ info ∈ (sib.vnfis.get? w).getD [], info.sfciID ∉ ids

/-- The data centre is the same, with the entries under all other ids, and the
usage of each TCAM changed with the number of its entries. -/
structure Kept (ids : List Nat) (sib sib' : Sib) : Prop where
  servers : sib'.servers = sib.servers
  torNum : sib'.torNum = sib.torNum
  switches : ∀ w, sib'.switches.contains w = sib.switches.contains w
  serverLinks : ∀ l, sib'.serverLinks.contains l = sib.serverLinks.contains l
  links : ∀ l, sib'.links.contains l = sib.links.contains l
  switch : ∀ w info info', sib.switches.get? w = some info →
    sib'.switches.get? w = some info' →
      info'.tcamSize = info.tcamSize ∧
      info'.tcamUsage + info.nextHop.items.length =
        info.tcamUsage + info'.nextHop.items.length ∧
      ∀ key, key.sfciID ∉ ids → info'.nextHop.get? key = info.nextHop.get? key
  enters : ∀ key place, key.sfciID ∉ ids →
    (sib'.Enters key place ↔ sib.Enters key place)
  vnfis : ∀ w, ((sib'.vnfis.get? w).getD []).filter (fun info => info.sfciID ∉ ids) =
    ((sib.vnfis.get? w).getD []).filter fun info => info.sfciID ∉ ids

section Kept

variable {ids ids' : List Nat} {sib sib' sib'' : Sib} {sfciID : Nat}

theorem Kept.refl (ids : List Nat) (sib : Sib) : Kept ids sib sib := by
  refine ⟨rfl, rfl, fun _ => rfl, fun _ => rfl, fun _ => rfl, ?_,
    fun _ _ _ => Iff.rfl, fun _ => rfl⟩
  intro w info info' hinfo hinfo'
  obtain rfl := Option.some.inj (hinfo.symm.trans hinfo')
  exact ⟨rfl, rfl, fun _ _ => rfl⟩

theorem Kept.trans (h₁ : Kept ids sib sib') (h₂ : Kept ids sib' sib'') :
    Kept ids sib sib'' where
  servers := h₂.servers.trans h₁.servers
  torNum := h₂.torNum.trans h₁.torNum
  switches w := (h₂.switches w).trans (h₁.switches w)
  serverLinks l := (h₂.serverLinks l).trans (h₁.serverLinks l)
  links l := (h₂.links l).trans (h₁.links l)
  switch w info info'' hinfo hinfo'' := by
    have hthere : sib'.switches.contains w = true := by
      rw [h₁.switches, Dict.contains, hinfo]
      rfl
    obtain ⟨info', hinfo'⟩ := Option.isSome_iff_exists.mp hthere
    obtain ⟨hsize₁, husage₁, hget₁⟩ := h₁.switch w info info' hinfo hinfo'
    obtain ⟨hsize₂, husage₂, hget₂⟩ := h₂.switch w info' info'' hinfo' hinfo''
    refine ⟨hsize₂.trans hsize₁, by omega, fun key hkey => ?_⟩
    rw [hget₂ key hkey, hget₁ key hkey]
  enters key place hkey := (h₂.enters key place hkey).trans (h₁.enters key place hkey)
  vnfis w := (h₂.vnfis w).trans (h₁.vnfis w)

theorem Kept.mono (h : Kept ids sib sib') (hsub : ids ⊆ ids') :
    Kept ids' sib sib' where
  servers := h.servers
  torNum := h.torNum
  switches := h.switches
  serverLinks := h.serverLinks
  links := h.links
  switch w info info' hinfo hinfo' := by
    obtain ⟨hsize, husage, hget⟩ := h.switch w info info' hinfo hinfo'
    exact ⟨hsize, husage, fun key hkey => hget key fun hin => hkey (hsub hin)⟩
  enters key place hkey := h.enters key place fun hin => hkey (hsub hin)
  vnfis w := by
    have hfilter : ∀ l : List VNFIInfo, l.filter (fun info => info.sfciID ∉ ids') =
        (l.filter fun info => info.sfciID ∉ ids).filter
          fun info => info.sfciID ∉ ids' := by
      intro l
      rw [List.filter_filter]
      refine List.filter_congr fun info _ => ?_
      by_cases hin : info.sfciID ∈ ids'
      · simp [hin]
      · have hnot : info.sfciID ∉ ids := fun hin' => hin (hsub hin')
        simp [hin, hnot]
    rw [hfilter, hfilter ((sib.vnfis.get? w).getD []), h.vnfis]

theorem Kept.placeOf_iff (h : Kept ids sib sib') {hop : Hop} {place : Place} :
    sib'.PlaceOf hop place ↔ sib.PlaceOf hop place := by
  cases place with
  | switch w => rw [Sib.PlaceOf, Sib.PlaceOf, h.switches]
  | serverLink l => rw [Sib.PlaceOf, Sib.PlaceOf, h.serverLinks]
  | link l => rw [Sib.PlaceOf, Sib.PlaceOf, h.serverLinks, h.links]

theorem Kept.linked_iff (h : Kept ids sib sib') {src dst : Nat} :
    Linked sib' src dst ↔ Linked sib src dst := by
  rw [Linked, Linked, h.serverLinks, h.links]

theorem Kept.entered_iff (h : Kept ids sib sib') (hnot : sfciID ∉ ids)
    {hops : List Hop} : Entered sib' sfciID hops ↔ Entered sib sfciID hops := by
  constructor
  · rintro ⟨hlinked, henters⟩
    refine ⟨fun hop hhop => h.linked_iff.mp (hlinked hop hhop), ?_⟩
    rintro key place rfl
    rw [← h.enters key place hnot, henters key place rfl]
    simp only [h.placeOf_iff]
  · rintro ⟨hlinked, henters⟩
    refine ⟨fun hop hhop => h.linked_iff.mpr (hlinked hop hhop), ?_⟩
    rintro key place rfl
    rw [h.enters key place hnot, henters key place rfl]
    simp only [h.placeOf_iff]

theorem Kept.entriesOf_eq (h : Kept ids sib sib') (hnot : sfciID ∉ ids) (w : Nat) :
    sib'.entriesOf sfciID w = sib.entriesOf sfciID w := by
  have hfilter : ∀ l : List VNFIInfo, l.filter (fun info => info.sfciID == sfciID) =
      (l.filter fun info => info.sfciID ∉ ids).filter
        fun info => info.sfciID == sfciID := by
    intro l
    rw [List.filter_filter]
    refine List.filter_congr fun info _ => ?_
    by_cases heq : info.sfciID = sfciID
    · simp [heq, hnot]
    · simp [heq]
  rw [Sib.entriesOf, Sib.entriesOf, hfilter, h.vnfis, ← hfilter]

theorem Kept.intact_iff (h : Kept ids sib sib') {sfc : SFC} {sfci : SFCI}
    (hnot : sfci.sfciID ∉ ids) : Intact sfc sib' sfci ↔ Intact sfc sib sfci := by
  constructor
  · rintro ⟨hpath, hhops, hvnfis⟩
    refine ⟨hpath, (h.entered_iff hnot).mp hhops, fun w => ?_⟩
    rw [← h.entriesOf_eq hnot]
    exact hvnfis w
  · rintro ⟨hpath, hhops, hvnfis⟩
    refine ⟨hpath, (h.entered_iff hnot).mpr hhops, fun w => ?_⟩
    rw [h.entriesOf_eq hnot]
    exact hvnfis w

theorem cleared_singleton_iff :
    Cleared [sfciID] sib ↔ Entered sib sfciID [] ∧ ∀ w, sib.entriesOf sfciID w = [] := by
  have hvnfis : ∀ w, sib.entriesOf sfciID w = [] ↔
      ∀ info ∈ (sib.vnfis.get? w).getD [], info.sfciID ∉ [sfciID] := by
    intro w
    simp [Sib.entriesOf, List.filter_eq_nil_iff]
  simp only [hvnfis]
  constructor
  · rintro ⟨hhops, hvnfis⟩
    refine ⟨⟨fun h hh => absurd hh List.not_mem_nil, ?_⟩, hvnfis⟩
    rintro key place rfl
    exact iff_of_false (hhops key place List.mem_cons_self) (by simp)
  · rintro ⟨⟨-, henters⟩, hvnfis⟩
    refine ⟨fun key place hkey hin => ?_, hvnfis⟩
    obtain ⟨h, hh, -⟩ := (henters key place (List.mem_singleton.mp hkey)).mp hin
    exact List.not_mem_nil hh

theorem Kept.cleared_iff (h : Kept ids sib sib') (hdisjoint : ∀ id ∈ ids', id ∉ ids) :
    Cleared ids' sib' ↔ Cleared ids' sib := by
  have hvnfis : ∀ w info, info.sfciID ∈ ids' →
      (info ∈ (sib'.vnfis.get? w).getD [] ↔ info ∈ (sib.vnfis.get? w).getD []) := by
    intro w info hin
    have hmem := congrArg (info ∈ ·) (h.vnfis w)
    simpa [List.mem_filter, hdisjoint _ hin] using hmem
  constructor
  · rintro ⟨hhops, hnone⟩
    refine ⟨fun key place hkey hin => ?_, fun w info hmem hin => ?_⟩
    · exact hhops key place hkey ((h.enters key place (hdisjoint _ hkey)).mpr hin)
    · exact hnone w info ((hvnfis w info hin).mpr hmem) hin
  · rintro ⟨hhops, hnone⟩
    refine ⟨fun key place hkey hin => ?_, fun w info hmem hin => ?_⟩
    · exact hhops key place hkey ((h.enters key place (hdisjoint _ hkey)).mp hin)
    · exact hnone w info ((hvnfis w info hin).mp hmem) hin

theorem cleared_append_iff :
    Cleared (ids ++ ids') sib ↔ Cleared ids sib ∧ Cleared ids' sib := by
  constructor
  · rintro ⟨hhops, hvnfis⟩
    refine ⟨⟨fun key place hkey => ?_, fun w info hmem hin => ?_⟩,
      ⟨fun key place hkey => ?_, fun w info hmem hin => ?_⟩⟩
    · exact hhops key place (List.mem_append_left _ hkey)
    · exact hvnfis w info hmem (List.mem_append_left _ hin)
    · exact hhops key place (List.mem_append_right _ hkey)
    · exact hvnfis w info hmem (List.mem_append_right _ hin)
  · rintro ⟨⟨hhops, hvnfis⟩, hhops', hvnfis'⟩
    refine ⟨fun key place hkey => ?_, fun w info hmem hin => ?_⟩
    · obtain hkey | hkey := List.mem_append.mp hkey
      · exact hhops key place hkey
      · exact hhops' key place hkey
    · obtain hin | hin := List.mem_append.mp hin
      · exact hvnfis w info hmem hin
      · exact hvnfis' w info hmem hin

end Kept

end SelfAdaptiveMano.Simulator

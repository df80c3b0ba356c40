import SelfAdaptiveMano.Library.Dict
import SelfAdaptiveMano.Library.Hoare
import SelfAdaptiveMano.Library.Machine
import SelfAdaptiveMano.Library.Register
import Mathlib.Data.Rat.Defs

/-!
# What a P4 monitor counts

A monitor on a P4 switch counts the packets and bytes of pairs of addresses.
`P4MonitorStatus` gives each pair that is added an id, keeps in a dictionary
whether the id is still in use, and keeps the pair and what was counted of it in
lists.

The first id is one, and the lists are read and written at the id, which is one
place behind that of the pair: the pair of the newest id is past the end. A
monitor is followed together with the register of what was asked of it.
-/

namespace SelfAdaptiveMano.P4Agent

open Library

/-! ## The status of a monitor -/

structure P4MonitorStat (α : Type) where
  src : α
  dst : α
  pktrate : ℚ
  byterate : ℚ

structure P4MonitorEntry (α : Type) where
  uuid : Nat
  src : α
  dst : α
  deriving DecidableEq

structure P4MonitorStatus (α : Type) where
  entries : Dict Nat Bool
  src : List α
  dst : List α
  cnt : Nat
  pkts : List ℤ
  bytes : List ℤ
  time : List ℚ
  pktrate : List ℚ
  byterate : List ℚ

/-- `a / b` -/
def divide (a b : ℚ) : Except PyError ℚ :=
  if b = 0 then .error .zeroDivisionError else .ok (a / b)

/-- `l[i] = a` -/
def assign {β : Type} (i : Nat) (a : β) : PyM (List β) Unit := do
  let l ← PyM.ofExcept (changeItem (← get) i fun _ => a)
  set l

namespace P4MonitorStatus

variable {α : Type}

def new : P4MonitorStatus α := ⟨.empty, [], [], 0, [], [], [], [], []⟩

def addEntry (srcAddr dstAddr : α) (now : ℚ) : PyM (P4MonitorStatus α) Unit :=
  modify fun s =>
    { entries := s.entries.set (s.cnt + 1) true
      src := s.src ++ [srcAddr]
      dst := s.dst ++ [dstAddr]
      cnt := s.cnt + 1
      pkts := s.pkts ++ [0]
      bytes := s.bytes ++ [0]
      time := s.time ++ [now]
      pktrate := s.pktrate ++ [0]
      byterate := s.byterate ++ [0] }

def removeEntry (uuid : Nat) : PyM (P4MonitorStatus α) Unit :=
  modify fun s => { s with entries := s.entries.set uuid false }

def rate (counts : List ℤ) (times : List ℚ) (uuid : Nat) (cnt : ℤ) (time : ℚ) :
    Except PyError ℚ := do
  let last ← itemAt counts uuid
  let lastTime ← itemAt times uuid
  divide (cnt - last) (time - lastTime)

def updateStat (uuid : Nat) (pktCnt byteCnt : ℤ) (time : ℚ) :
    PyM (P4MonitorStatus α) Unit := do
  let s ← get
  let newRate ← PyM.ofExcept (rate s.pkts s.time uuid pktCnt time)
  PyM.zoom pktrate (fun l s => { s with pktrate := l }) (assign uuid newRate)
  let s ← get
  let newRate ← PyM.ofExcept (rate s.bytes s.time uuid byteCnt time)
  PyM.zoom byterate (fun l s => { s with byterate := l }) (assign uuid newRate)
  PyM.zoom P4MonitorStatus.time (fun l s => { s with time := l }) (assign uuid time)
  PyM.zoom pkts (fun l s => { s with pkts := l }) (assign uuid pktCnt)
  PyM.zoom bytes (fun l s => { s with bytes := l }) (assign uuid byteCnt)

/-- `self._entries[i]` -/
def isLive (s : P4MonitorStatus α) (i : Nat) : Except PyError Bool :=
  match s.entries.get? i with
  | none => .error .keyError
  | some live => .ok live

/-- A turn of the loop of `getEntryList`. -/
def entryAt (s : P4MonitorStatus α) (i : Nat) :
    Except PyError (Option (P4MonitorEntry α)) := do
  if ← s.isLive i then
    let src ← itemAt s.src i
    let dst ← itemAt s.dst i
    return some ⟨i, src, dst⟩
  else return none

def getEntryList (s : P4MonitorStatus α) : Except PyError (List (P4MonitorEntry α)) :=
  collect s.entryAt s.entries.keys

/-- A turn of the loop of `getStat`. -/
def statAt (s : P4MonitorStatus α) (i : Nat) :
    Except PyError (Option (P4MonitorStat α)) := do
  if ← s.isLive i then
    let src ← itemAt s.src i
    let dst ← itemAt s.dst i
    let pktrate ← itemAt s.pktrate i
    let byterate ← itemAt s.byterate i
    return some ⟨src, dst, pktrate, byterate⟩
  else return none

def getStat (s : P4MonitorStatus α) : Except PyError (List (P4MonitorStat α)) :=
  collect s.statAt s.entries.keys

def hasEntry [DecidableEq α] (s : P4MonitorStatus α) (srcAddr dstAddr : α) : Except PyError Bool :=
  s.entries.keys.anyM fun i => do
    if ← s.isLive i then
      if srcAddr = (← itemAt s.src i) then return dstAddr = (← itemAt s.dst i)
      else return false
    else return false

end P4MonitorStatus

/-! ## What was asked of it -/

/-- A pair of addresses, whether it is still counted, and its last count. -/
structure Row (α : Type) where
  src : α
  dst : α
  live : Bool
  pkts : ℤ
  bytes : ℤ
  time : ℚ
  pktrate : ℚ
  byterate : ℚ

def Row.added {α : Type} (src dst : α) (now : ℚ) : Row α :=
  ⟨src, dst, true, 0, 0, now, 0, 0⟩

def Row.removed {α : Type} (r : Row α) : Row α := { r with live := false }

def Row.counted {α : Type} (pktCnt byteCnt : ℤ) (time : ℚ) (r : Row α) : Row α :=
  { r with
    pkts := pktCnt
    bytes := byteCnt
    time := time
    pktrate := (pktCnt - r.pkts) / (time - r.time)
    byterate := (byteCnt - r.bytes) / (time - r.time) }

def Row.stat {α : Type} (r : Row α) : P4MonitorStat α :=
  ⟨r.src, r.dst, r.pktrate, r.byterate⟩

inductive Call (α : Type) where
  | addEntry (src dst : α) (now : ℚ)
  | removeEntry (uuid : Nat)
  | updateStat (uuid : Nat) (pktCnt byteCnt : ℤ) (time : ℚ)

namespace Call

variable {α : Type}

def run : Call α → PyM (P4MonitorStatus α) Unit
  | addEntry src dst now => P4MonitorStatus.addEntry src dst now
  | removeEntry uuid => P4MonitorStatus.removeEntry uuid
  | updateStat uuid pktCnt byteCnt time =>
      P4MonitorStatus.updateStat uuid pktCnt byteCnt time

def record (rows : List (Row α)) : Call α → List (Row α)
  | addEntry src dst now => rows ++ [Row.added src dst now]
  | removeEntry uuid => Register.amend rows Row.removed uuid
  | updateStat uuid pktCnt byteCnt time =>
      Register.amend rows (Row.counted pktCnt byteCnt time) uuid

def uuid? : Call α → Option Nat
  | addEntry _ _ _ => none
  | removeEntry uuid => some uuid
  | updateStat uuid _ _ _ => some uuid

end Call

structure Monitor (α : Type) where
  status : P4MonitorStatus α
  rows : List (Row α)

namespace Monitor

variable {α : Type}

def start : Monitor α := ⟨.new, []⟩

def step (m : Monitor α) (call : Call α) : Monitor α :=
  ⟨call.run.finalState m.status, call.record m.rows⟩

def machine : Machine (Monitor α) (Call α) where
  init m := m = start
  admits m call := ∀ uuid ∈ call.uuid?, m.status.entries.get? uuid = some true
  step := step

def Lists (m : Monitor α) (e : P4MonitorEntry α) : Prop :=
  ∃ r, Register.row m.rows e.uuid = some r ∧ r.live = true ∧ e.src = r.src ∧ e.dst = r.dst

/-- The monitor answers with the live pairs, their ids and their rates. -/
structure Right [DecidableEq α] (m : Monitor α) : Prop where
  entryList : ∃ entries, m.status.getEntryList = .ok entries ∧
    ∀ e, e ∈ entries ↔ m.Lists e
  stat : ∃ stats, m.status.getStat = .ok stats ∧
    stats.Perm ((m.rows.filter Row.live).map Row.stat)
  hasEntry (src dst : α) : ∃ found, m.status.hasEntry src dst = .ok found ∧
    (found = true ↔ ∃ r ∈ m.rows, r.live = true ∧ r.src = src ∧ r.dst = dst)

end Monitor

/-! ## Where the pair of an id is looked for -/

section Kept

variable {α : Type} {s : P4MonitorStatus α} {rows : List (Row α)}

/-- The dictionary knows which ids are in use, and the lists have the pairs of the
register in its order. -/
structure Kept (s : P4MonitorStatus α) (rows : List (Row α)) : Prop where
  entries (uuid : Nat) : s.entries.get? uuid = (Register.row rows uuid).map Row.live
  src : s.src = rows.map Row.src
  dst : s.dst = rows.map Row.dst
  cnt : s.cnt = rows.length

theorem kept_new : Kept (P4MonitorStatus.new : P4MonitorStatus α) [] where
  entries uuid := by cases uuid <;> rfl
  src := rfl
  dst := rfl
  cnt := rfl

theorem Kept.keeps_addEntry (src dst : α) (now : ℚ) (h : Kept s rows) :
    Kept ((P4MonitorStatus.addEntry src dst now).finalState s)
      (rows ++ [Row.added src dst now]) where
  entries uuid := by
    change (s.entries.set (s.cnt + 1) true).get? uuid = _
    rw [Dict.get?_set, h.cnt]
    by_cases huuid : uuid = rows.length + 1
    · rw [huuid, if_pos rfl, Register.row_length_succ_append]
      rfl
    · rw [if_neg huuid, Register.row_append_of_ne huuid, h.entries]
  src := by
    change s.src ++ [src] = _
    rw [h.src, List.map_append]
    rfl
  dst := by
    change s.dst ++ [dst] = _
    rw [h.dst, List.map_append]
    rfl
  cnt := by
    change s.cnt + 1 = _
    rw [h.cnt, List.length_append]
    rfl

theorem Kept.keeps_removeEntry {uuid : Nat} (hlive : s.entries.get? uuid = some true)
    (h : Kept s rows) :
    Kept ((P4MonitorStatus.removeEntry uuid).finalState s)
      (Register.amend rows Row.removed uuid) where
  entries k := by
    change (s.entries.set uuid false).get? k = _
    rw [Dict.get?_set, Register.row_amend]
    by_cases hk : k = uuid
    · rw [if_pos hk, if_pos hk, hk]
      rw [h.entries] at hlive
      obtain ⟨r, hr, -⟩ := Option.map_eq_some_iff.mp hlive
      rw [hr]
      rfl
    · rw [if_neg hk, if_neg hk, h.entries]
  src := h.src.trans (Register.map_amend Row.src Row.removed (fun _ => rfl) rows uuid).symm
  dst := h.dst.trans (Register.map_amend Row.dst Row.removed (fun _ => rfl) rows uuid).symm
  cnt := h.cnt.trans (Register.length_amend rows _ uuid).symm

theorem keeps_zoom {β : Type} {part : P4MonitorStatus α → List β}
    {put : List β → P4MonitorStatus α → P4MonitorStatus α} (uuid : Nat) (a : β)
    (hput : ∀ l s, (put l s).entries = s.entries ∧ (put l s).src = s.src ∧
      (put l s).dst = s.dst ∧ (put l s).cnt = s.cnt) :
    PyM.Keeps (Kept · rows) (PyM.zoom part put (assign uuid a)) := by
  apply PyM.Keeps.zoom
  intro l s h
  obtain ⟨hentries, hsrc, hdst, hcnt⟩ := hput l s
  exact ⟨fun k => hentries ▸ h.entries k, hsrc.trans h.src, hdst.trans h.dst,
    hcnt.trans h.cnt⟩

/-- A count changes neither the pairs nor which of them are live, whether or not it
raises. -/
theorem keeps_updateStat (uuid : Nat) (pktCnt byteCnt : ℤ) (time : ℚ) :
    PyM.Keeps (Kept · rows)
      (P4MonitorStatus.updateStat (α := α) uuid pktCnt byteCnt time) := by
  have hput : ∀ s : P4MonitorStatus α,
      s.entries = s.entries ∧ s.src = s.src ∧ s.dst = s.dst ∧ s.cnt = s.cnt :=
    fun _ => ⟨rfl, rfl, rfl, rfl⟩
  rw [P4MonitorStatus.updateStat]
  refine PyM.Meets.bind_get_any fun s => ?_
  refine PyM.Meets.bind_ofExcept (fun newRate _ => ?_) fun _ h => h
  refine PyM.Keeps.bind (keeps_zoom uuid newRate fun _ s => hput s) fun _ => ?_
  refine PyM.Meets.bind_get_any fun s => ?_
  refine PyM.Meets.bind_ofExcept (fun newRate _ => ?_) fun _ h => h
  refine PyM.Keeps.bind (keeps_zoom uuid newRate fun _ s => hput s) fun _ => ?_
  refine PyM.Keeps.bind (keeps_zoom uuid time fun _ s => hput s) fun _ => ?_
  refine PyM.Keeps.bind (keeps_zoom uuid pktCnt fun _ s => hput s) fun _ => ?_
  exact keeps_zoom uuid byteCnt fun _ s => hput s

theorem Kept.counted (uuid : Nat) (pktCnt byteCnt : ℤ) (time : ℚ) (h : Kept s rows) :
    Kept s (Register.amend rows (Row.counted pktCnt byteCnt time) uuid) where
  entries k := by
    rw [h.entries, Register.row_amend]
    by_cases hk : k = uuid
    · rw [if_pos hk, Option.map_map]
      rfl
    · rw [if_neg hk]
  src := h.src.trans (Register.map_amend Row.src
    (Row.counted pktCnt byteCnt time) (fun _ => rfl) rows uuid).symm
  dst := h.dst.trans (Register.map_amend Row.dst
    (Row.counted pktCnt byteCnt time) (fun _ => rfl) rows uuid).symm
  cnt := h.cnt.trans (Register.length_amend rows _ uuid).symm

end Kept

namespace Monitor

variable {α : Type} {m : Monitor α}

theorem kept_step {call : Call α} (hadmits : machine.admits m call)
    (h : Kept m.status m.rows) : Kept (m.step call).status (m.step call).rows := by
  cases call with
  | addEntry src dst now => exact h.keeps_addEntry src dst now
  | removeEntry uuid => exact h.keeps_removeEntry (hadmits uuid rfl)
  | updateStat uuid pktCnt byteCnt time =>
      have hkept := PyM.Meets.finalState (keeps_updateStat uuid pktCnt byteCnt time) h
      exact hkept.counted uuid pktCnt byteCnt time

theorem kept_of_reachable (h : machine.Reachable m) : Kept m.status m.rows := by
  apply Machine.Reachable.invariant (P := fun m => Kept m.status m.rows) _ _ h
  · rintro _ rfl
    exact kept_new
  · intro m call hm hadmits
    exact kept_step hadmits hm

/-! ## When the entry list is right -/

section Turns

variable (h : Kept m.status m.rows) {i : Nat}

include h

theorem isLive_eq_ok_iff {live : Bool} : m.status.isLive i = .ok live ↔
    ∃ r, Register.row m.rows i = some r ∧ r.live = live := by
  rw [P4MonitorStatus.isLive, h.entries]
  cases Register.row m.rows i with
  | none => simp
  | some r => simp

theorem itemAt_src_eq_ok_iff {a : α} : itemAt m.status.src i = .ok a ↔
    ∃ next, Register.row m.rows (i + 1) = some next ∧ next.src = a := by
  rw [itemAt_eq_ok_iff, h.src, List.getElem?_map, Option.map_eq_some_iff]
  rfl

theorem itemAt_dst_eq_ok_iff {a : α} : itemAt m.status.dst i = .ok a ↔
    ∃ next, Register.row m.rows (i + 1) = some next ∧ next.dst = a := by
  rw [itemAt_eq_ok_iff, h.dst, List.getElem?_map, Option.map_eq_some_iff]
  rfl

theorem entryAt_eq_some_iff {e : P4MonitorEntry α} :
    m.status.entryAt i = .ok (some e) ↔
      ∃ r next, Register.row m.rows i = some r ∧ r.live = true ∧
        Register.row m.rows (i + 1) = some next ∧ e = ⟨i, next.src, next.dst⟩ := by
  rw [P4MonitorStatus.entryAt, except_bind_eq_ok_iff]
  constructor
  · rintro ⟨live, hlive, hturn⟩
    obtain ⟨r, hr, rfl⟩ := (isLive_eq_ok_iff h).mp hlive
    cases hb : r.live with
    | false =>
        rw [hb] at hturn
        cases hturn
    | true =>
        rw [hb] at hturn
        obtain ⟨src, hsrc, hturn⟩ := except_bind_eq_ok_iff.mp hturn
        obtain ⟨dst, hdst, hturn⟩ := except_bind_eq_ok_iff.mp hturn
        obtain ⟨next, hnext, rfl⟩ := (itemAt_src_eq_ok_iff h).mp hsrc
        obtain ⟨next', hnext', rfl⟩ := (itemAt_dst_eq_ok_iff h).mp hdst
        rw [hnext] at hnext'
        obtain rfl := Option.some.inj hnext'
        exact ⟨r, next, hr, hb, hnext, (Option.some.inj (Except.ok.inj hturn)).symm⟩
  · rintro ⟨r, next, hr, hlive, hnext, rfl⟩
    refine ⟨true, (isLive_eq_ok_iff h).mpr ⟨r, hr, hlive⟩, ?_⟩
    have hsrc := (itemAt_src_eq_ok_iff h).mpr ⟨next, hnext, rfl⟩
    have hdst := (itemAt_dst_eq_ok_iff h).mpr ⟨next, hnext, rfl⟩
    rw [if_pos rfl, hsrc, hdst]
    rfl

theorem mem_keys_iff : i ∈ m.status.entries.keys ↔
    ∃ r, Register.row m.rows i = some r := by
  rw [Dict.mem_keys_iff, h.entries]
  cases Register.row m.rows i with
  | none => simp
  | some r => simp

theorem entryAt_of_live_eq_false {r : Row α} (hr : Register.row m.rows i = some r)
    (hlive : r.live = false) : m.status.entryAt i = .ok none := by
  rw [P4MonitorStatus.entryAt, (isLive_eq_ok_iff h).mpr ⟨r, hr, hlive⟩]
  rfl

theorem entryList_right_iff :
    (∃ entries, m.status.getEntryList = .ok entries ∧ ∀ e, e ∈ entries ↔ m.Lists e) ↔
      ∀ i r, Register.row m.rows i = some r → r.live = true →
        ∃ next, Register.row m.rows (i + 1) = some next ∧ next.src = r.src ∧
          next.dst = r.dst := by
  constructor
  · rintro ⟨entries, hentries, hlists⟩ i r hr hlive
    have hmem := (hlists ⟨i, r.src, r.dst⟩).mpr ⟨r, hr, hlive, rfl, rfl⟩
    obtain ⟨k, -, hturn⟩ := (mem_of_collect hentries).mp hmem
    obtain ⟨-, next, -, -, hnext, heq⟩ := (entryAt_eq_some_iff h).mp hturn
    injection heq with hik hsrc hdst
    exact ⟨next, hik ▸ hnext, hsrc.symm, hdst.symm⟩
  · intro hright
    have hturns : ∀ k ∈ m.status.entries.keys, ∃ o, m.status.entryAt k = .ok o := by
      intro k hk
      obtain ⟨r, hr⟩ := (mem_keys_iff h).mp hk
      cases hlive : r.live with
      | false => exact ⟨none, entryAt_of_live_eq_false h hr hlive⟩
      | true =>
          obtain ⟨next, hnext, -⟩ := hright k r hr hlive
          exact ⟨_, (entryAt_eq_some_iff h).mpr ⟨r, next, hr, hlive, hnext, rfl⟩⟩
    obtain ⟨entries, hentries⟩ := collect_of_ok hturns
    refine ⟨entries, hentries, fun e => (mem_of_collect hentries).trans ?_⟩
    constructor
    · rintro ⟨k, -, hturn⟩
      obtain ⟨r, next, hr, hlive, hnext, rfl⟩ := (entryAt_eq_some_iff h).mp hturn
      obtain ⟨next', hnext', hsrc, hdst⟩ := hright k r hr hlive
      rw [hnext] at hnext'
      obtain rfl := Option.some.inj hnext'
      exact ⟨r, hr, hlive, hsrc, hdst⟩
    · rintro ⟨r, hr, hlive, hsrc, hdst⟩
      obtain ⟨next, hnext, hsrc', hdst'⟩ := hright e.uuid r hr hlive
      refine ⟨e.uuid, (mem_keys_iff h).mpr ⟨r, hr⟩, (entryAt_eq_some_iff h).mpr
        ⟨r, next, hr, hlive, hnext, ?_⟩⟩
      rw [hsrc', hdst', ← hsrc, ← hdst]

end Turns

/-! ## Runs -/

theorem eq_start_of_no_uuid {τ : List (Monitor α × Call α)} (h : machine.Run τ m)
    (hcalls : ∀ e ∈ τ, e.2.uuid? ≠ none) : τ = [] ∧ m = start := by
  induction h with
  | start hs => exact ⟨rfl, hs⟩
  | @step τ m call _ hadmits ih =>
      simp only [List.forall_mem_append, List.forall_mem_singleton] at hcalls
      obtain ⟨-, rfl⟩ := ih hcalls.1
      obtain ⟨uuid, huuid⟩ := Option.ne_none_iff_exists'.mp hcalls.2
      cases hadmits uuid huuid

section Answers

variable [DecidableEq α]

theorem right_start : (start : Monitor α).Right where
  entryList := by
    refine ⟨[], rfl, fun e => ?_⟩
    apply iff_of_false List.not_mem_nil
    rintro ⟨r, hr, -⟩
    cases huuid : e.uuid <;> rw [huuid] at hr <;> cases hr
  stat := ⟨[], rfl, .refl _⟩
  hasEntry _ _ := ⟨false, rfl, by simp [start]⟩

/-- The newest pair has no next one. -/
theorem not_right_addEntry (h : Kept m.status m.rows) (src dst : α) (now : ℚ) :
    ¬ (m.step (.addEntry src dst now)).Right := by
  intro hright
  have hkept : Kept (m.step (.addEntry src dst now)).status
      (m.step (.addEntry src dst now)).rows := h.keeps_addEntry src dst now
  obtain ⟨next, hnext, -⟩ := (entryList_right_iff hkept).mp hright.entryList
    (m.rows.length + 1) _ (Register.row_length_succ_append _ _) rfl
  have hnone : Register.row (m.rows ++ [Row.added src dst now])
      (m.rows.length + 1 + 1) = none := by
    apply Register.row_eq_none_of_length_lt
    rw [List.length_append, List.length_singleton]
    exact Nat.lt_succ_self _
  cases hnone.symm.trans hnext

/-- A monitor answers rightly, and no call raises, throughout the runs in which no
pair is added. The first pair that is added ends it. -/
theorem right_throughout_iff {τ : List (Monitor α × Call α)} (h : machine.Run τ m) :
    (m.Right ∧ ∀ e ∈ τ, e.2.run.raises e.1.status = false ∧ (e.1.step e.2).Right) ↔
      ∀ e ∈ τ, e.2.uuid? ≠ none := by
  constructor
  · rintro ⟨-, hright⟩ ⟨m', call⟩ he
    have hkept := kept_of_reachable (h.reachable_of_mem he)
    cases call with
    | addEntry src dst now => exact absurd (hright _ he).2 (not_right_addEntry hkept _ _ _)
    | removeEntry uuid => exact Option.some_ne_none uuid
    | updateStat uuid _ _ _ => exact Option.some_ne_none uuid
  · intro hcalls
    obtain ⟨rfl, rfl⟩ := eq_start_of_no_uuid h hcalls
    exact ⟨right_start, List.forall_mem_nil _⟩

end Answers

def onePair : List (Call Nat) := [.addEntry 1 2 0, .updateStat 1 10 1000 5]

theorem run_onePair : machine.Run (machine.trace start onePair)
    (onePair.foldl machine.step start) := by
  have hstart : machine.Run [] (start : Monitor Nat) := .start rfl
  have harrive : machine.Arrive start onePair := by
    refine ⟨nofun, ?_, trivial⟩
    rintro uuid ⟨⟩
    rfl
  exact hstart.arrive harrive

theorem not_right_throughout_onePair : ¬ ((onePair.foldl machine.step start).Right ∧
    ∀ e ∈ machine.trace start onePair,
      e.2.run.raises e.1.status = false ∧ (e.1.step e.2).Right) :=
  fun hright => (right_throughout_iff run_onePair).mp hright _ List.mem_cons_self rfl

/-- One pair is enough. -/
theorem not_right_onePair : ¬ ∀ τ (m : Monitor Nat), machine.Run τ m → m.Right := by
  intro h
  obtain ⟨entries, hentries, -⟩ := (h _ _ run_onePair).entryList
  have hraises : (onePair.foldl machine.step start).status.getEntryList =
      .error .indexError := rfl
  rw [hraises] at hentries
  cases hentries

end Monitor

end SelfAdaptiveMano.P4Agent

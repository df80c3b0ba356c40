import SelfAdaptiveMano.Mapping.InfoBase
import Mathlib.Tactic.MkIffOfInductiveProp

/-!
# What the network functions in a switch use of it

A P4 switch counts, for each kind of network function, what is in use of it, and
beside that the entries of all kinds together. A function that goes into the
switch adds to the counter of its kind and to the common one, and takes the same
off again when it leaves. A request is admitted by a test of these counters.

A firewall has rules of two kinds, and each of the two tests compares the common
counter plus its own rules with the bound, so both may pass while the rules of
the two kinds together are too many.
-/

namespace SelfAdaptiveMano.Mapping

open Library

namespace P4NFUsage

def SWITCH_MAX_NF_RATELIMITER : Nat := 500

section Counters

variable (usage : P4NFUsage) (num : Nat)

def reserveMonitor : P4NFUsage :=
  { usage with
    monitorNumUsage := usage.monitorNumUsage + num
    sfciUsage := usage.sfciUsage + num }

def reserveRatelimiter : P4NFUsage :=
  { usage with
    rateLimiterNumUsage := usage.rateLimiterNumUsage + num
    sfciUsage := usage.sfciUsage + num }

def reserveV4Firewall : P4NFUsage :=
  { usage with
    fwV4NumUsage := usage.fwV4NumUsage + num
    sfciUsage := usage.sfciUsage + num }

def reserveV6Firewall : P4NFUsage :=
  { usage with
    fwV6NumUsage := usage.fwV6NumUsage + num
    sfciUsage := usage.sfciUsage + num }

def releaseMonitor : P4NFUsage :=
  { usage with
    monitorNumUsage := usage.monitorNumUsage - num
    sfciUsage := usage.sfciUsage - num }

def releaseRatelimiter : P4NFUsage :=
  { usage with
    rateLimiterNumUsage := usage.rateLimiterNumUsage - num
    sfciUsage := usage.sfciUsage - num }

def releaseV4Firewall : P4NFUsage :=
  { usage with
    fwV4NumUsage := usage.fwV4NumUsage - num
    sfciUsage := usage.sfciUsage - num }

def releaseV6Firewall : P4NFUsage :=
  { usage with
    fwV6NumUsage := usage.fwV6NumUsage - num
    sfciUsage := usage.sfciUsage - num }

theorem releaseMonitor_reserveMonitor :
    (usage.reserveMonitor num).releaseMonitor num = usage := by
  simp [reserveMonitor, releaseMonitor]

theorem releaseRatelimiter_reserveRatelimiter :
    (usage.reserveRatelimiter num).releaseRatelimiter num = usage := by
  simp [reserveRatelimiter, releaseRatelimiter]

theorem releaseV6Firewall_reserveV6Firewall :
    (usage.reserveV6Firewall num).releaseV6Firewall num = usage := by
  simp [reserveV6Firewall, releaseV6Firewall]

theorem releaseV4Firewall_reserveV6Firewall (v4 v6 : Nat) :
    ((usage.reserveV4Firewall v4).reserveV6Firewall v6).releaseV4Firewall v4 =
      usage.reserveV6Firewall v6 := by
  simp only [reserveV4Firewall, reserveV6Firewall, releaseV4Firewall,
    P4NFUsage.mk.injEq, true_and, Nat.add_sub_cancel]
  omega

end Counters

@[mk_iff]
structure Within (usage : P4NFUsage) : Prop where
  monitor : usage.monitorNumUsage ≤ SWITCH_MAX_NF_MONITOR
  fwV4 : usage.fwV4NumUsage ≤ SWITCH_MAX_NF_FW_IPV4_ENTRIES
  fwV6 : usage.fwV6NumUsage ≤ SWITCH_MAX_NF_FW_IPV6_ENTRIES
  rateLimiter : usage.rateLimiterNumUsage ≤ SWITCH_MAX_NF_RATELIMITER
  sfci : usage.sfciUsage ≤ SWITCH_MAX_SFCI

instance (usage : P4NFUsage) : Decidable usage.Within :=
  decidable_of_iff' _ (within_iff usage)

/-! ## Requests -/

def rulesNum (vnf : VNF) : Nat × Nat :=
  match vnf.config with
  | some aclTable => (aclTable.ipv4RulesNum, aclTable.longRulesNum)
  | none => (0, 0)

/-- What a request takes when it goes into the switch. Kinds that have no counter
of their own have no reservation. -/
def reserve (usage : P4NFUsage) (vnf : VNF) : P4NFUsage :=
  if vnf.vnfType = VNF_TYPE_FW then
    (usage.reserveV4Firewall (rulesNum vnf).1).reserveV6Firewall (rulesNum vnf).2
  else if vnf.vnfType = VNF_TYPE_MONITOR then
    usage.reserveMonitor 1
  else if vnf.vnfType = VNF_TYPE_RATELIMITER then
    usage.reserveRatelimiter 1
  else
    usage

def release (usage : P4NFUsage) (vnf : VNF) : P4NFUsage :=
  if vnf.vnfType = VNF_TYPE_FW then
    (usage.releaseV4Firewall (rulesNum vnf).1).releaseV6Firewall (rulesNum vnf).2
  else if vnf.vnfType = VNF_TYPE_MONITOR then
    usage.releaseMonitor 1
  else if vnf.vnfType = VNF_TYPE_RATELIMITER then
    usage.releaseRatelimiter 1
  else
    usage

theorem release_reserve (usage : P4NFUsage) (vnf : VNF) :
    (usage.reserve vnf).release vnf = usage := by
  unfold reserve release
  split
  · rw [releaseV4Firewall_reserveV6Firewall, releaseV6Firewall_reserveV6Firewall]
  · split
    · exact releaseMonitor_reserveMonitor usage 1
    · split
      · exact releaseRatelimiter_reserveRatelimiter usage 1
      · rfl

/-- The counters that a request does not add to are within their bounds, and the
rules of a firewall fit together into what is left of the common one. -/
@[mk_iff]
structure Spares (usage : P4NFUsage) (vnf : VNF) : Prop where
  monitor : vnf.vnfType ≠ VNF_TYPE_MONITOR →
    usage.monitorNumUsage ≤ SWITCH_MAX_NF_MONITOR
  fwV4 : vnf.vnfType ≠ VNF_TYPE_FW →
    usage.fwV4NumUsage ≤ SWITCH_MAX_NF_FW_IPV4_ENTRIES
  fwV6 : vnf.vnfType ≠ VNF_TYPE_FW →
    usage.fwV6NumUsage ≤ SWITCH_MAX_NF_FW_IPV6_ENTRIES
  rateLimiter : vnf.vnfType ≠ VNF_TYPE_RATELIMITER →
    usage.rateLimiterNumUsage ≤ SWITCH_MAX_NF_RATELIMITER
  sfci : vnf.vnfType = VNF_TYPE_FW →
    usage.sfciUsage + (rulesNum vnf).1 + (rulesNum vnf).2 ≤ SWITCH_MAX_SFCI

/-- What the test of a request compares. -/
def Admits (usage : P4NFUsage) (vnf : VNF) : Prop :=
  if vnf.vnfType = VNF_TYPE_FW then
    usage.hasEnoughV4FirewallResource (rulesNum vnf).1 = true ∧
      usage.hasEnoughV6FirewallResource (rulesNum vnf).2 = true
  else if vnf.vnfType = VNF_TYPE_MONITOR then
    usage.hasEnoughMonitorResource 1 = true
  else if vnf.vnfType = VNF_TYPE_RATELIMITER then
    usage.hasEnoughRatelimiterResource 1 = true
  else
    usage.hasEnoughSFCINumResource 1 = true

section Admitted

variable {usage : P4NFUsage} {num : Nat}

theorem within_reserveMonitor_iff (h : usage.hasEnoughMonitorResource num = true) :
    (usage.reserveMonitor num).Within ↔
      usage.fwV4NumUsage ≤ SWITCH_MAX_NF_FW_IPV4_ENTRIES ∧
      usage.fwV6NumUsage ≤ SWITCH_MAX_NF_FW_IPV6_ENTRIES ∧
      usage.rateLimiterNumUsage ≤ SWITCH_MAX_NF_RATELIMITER := by
  simp only [hasEnoughMonitorResource, decide_eq_true_eq] at h
  obtain ⟨hmonitor, hsfci⟩ := h
  simp only [within_iff, reserveMonitor, hmonitor, hsfci, true_and, and_true]

theorem within_reserveRatelimiter_iff
    (h : usage.hasEnoughRatelimiterResource num = true) :
    (usage.reserveRatelimiter num).Within ↔
      usage.monitorNumUsage ≤ SWITCH_MAX_NF_MONITOR ∧
      usage.fwV4NumUsage ≤ SWITCH_MAX_NF_FW_IPV4_ENTRIES ∧
      usage.fwV6NumUsage ≤ SWITCH_MAX_NF_FW_IPV6_ENTRIES := by
  simp only [hasEnoughRatelimiterResource, decide_eq_true_eq] at h
  obtain ⟨hmonitor, hsfci⟩ := h
  have hbound : SWITCH_MAX_NF_MONITOR ≤ SWITCH_MAX_NF_RATELIMITER := by decide
  have hrateLimiter : usage.rateLimiterNumUsage + num ≤ SWITCH_MAX_NF_RATELIMITER :=
    hmonitor.trans hbound
  simp only [within_iff, reserveRatelimiter, hrateLimiter, hsfci, and_true]

theorem within_reserveFirewall_iff {v4 v6 : Nat}
    (h4 : usage.hasEnoughV4FirewallResource v4 = true)
    (h6 : usage.hasEnoughV6FirewallResource v6 = true) :
    ((usage.reserveV4Firewall v4).reserveV6Firewall v6).Within ↔
      usage.monitorNumUsage ≤ SWITCH_MAX_NF_MONITOR ∧
      usage.rateLimiterNumUsage ≤ SWITCH_MAX_NF_RATELIMITER ∧
      usage.sfciUsage + v4 + v6 ≤ SWITCH_MAX_SFCI := by
  simp only [hasEnoughV4FirewallResource, decide_eq_true_eq] at h4
  simp only [hasEnoughV6FirewallResource, decide_eq_true_eq] at h6
  simp only [within_iff, reserveV4Firewall, reserveV6Firewall, h4.1, h6.1, true_and]

variable {vnf : VNF}

theorem Admits.within_reserve_iff (h : usage.Admits vnf) :
    (usage.reserve vnf).Within ↔ usage.Spares vnf := by
  rw [spares_iff]
  unfold Admits at h
  unfold reserve
  by_cases hfw : vnf.vnfType = VNF_TYPE_FW
  · rw [if_pos hfw] at h ⊢
    rw [within_reserveFirewall_iff h.1 h.2]
    simp [hfw, VNF_TYPE_FW, VNF_TYPE_MONITOR, VNF_TYPE_RATELIMITER]
  rw [if_neg hfw] at h ⊢
  by_cases hmonitor : vnf.vnfType = VNF_TYPE_MONITOR
  · rw [if_pos hmonitor] at h ⊢
    rw [within_reserveMonitor_iff h]
    simp [hmonitor, VNF_TYPE_FW, VNF_TYPE_MONITOR, VNF_TYPE_RATELIMITER]
  rw [if_neg hmonitor] at h ⊢
  by_cases hrateLimiter : vnf.vnfType = VNF_TYPE_RATELIMITER
  · rw [if_pos hrateLimiter] at h ⊢
    rw [within_reserveRatelimiter_iff h]
    simp [hrateLimiter, VNF_TYPE_FW, VNF_TYPE_MONITOR, VNF_TYPE_RATELIMITER]
  rw [if_neg hrateLimiter] at h ⊢
  -- nothing is reserved, and the test leaves one entry more than that
  have hsfci : usage.sfciUsage ≤ SWITCH_MAX_SFCI := by
    simp only [hasEnoughSFCINumResource, decide_eq_true_eq] at h
    exact Nat.le_of_succ_le h
  simp [within_iff, hfw, hmonitor, hrateLimiter, hsfci]

end Admitted

end P4NFUsage

namespace DCNInfoBase

theorem admits_of_hasEnoughP4SwitchResources {dib : DCNInfoBase} {zoneName : Zone}
    {switchID : Nat} {vnf : VNF} {info : SwitchInfo}
    (hinfo : dib.switchInfo zoneName switchID = .ok info)
    (h : dib.hasEnoughP4SwitchResources zoneName switchID vnf = .ok true) :
    info.switch.p4NFUsage.Admits vnf := by
  simp only [hasEnoughP4SwitchResources, hinfo, bind, Except.bind, pure,
    Except.pure] at h
  unfold P4NFUsage.Admits P4NFUsage.rulesNum
  split at h
  case isTrue hfw =>
    cases hconfig : vnf.config with
    | none =>
      rw [hconfig] at h
      cases h
    | some aclTable =>
      rw [hconfig] at h
      rw [if_pos hfw]
      exact (Bool.and_eq_true _ _).mp (Except.ok.inj h)
  case isFalse hfw =>
    rw [if_neg hfw]
    split at h
    case isTrue hmonitor =>
      rw [if_pos hmonitor]
      exact Except.ok.inj h
    case isFalse hmonitor =>
      rw [if_neg hmonitor]
      split at h
      case isTrue hrateLimiter =>
        rw [if_pos hrateLimiter]
        exact Except.ok.inj h
      case isFalse hrateLimiter =>
        rw [if_neg hrateLimiter]
        exact Except.ok.inj h

/-- A request that is admitted leaves every counter within its bound, and leaves
no trace when it is released, just when it spares the counters of the others and
the rules of a firewall fit together. -/
theorem reserve_within_iff {dib : DCNInfoBase} {zoneName : Zone} {switchID : Nat}
    {vnf : VNF} {info : SwitchInfo}
    (hinfo : dib.switchInfo zoneName switchID = .ok info)
    (hadmitted : dib.hasEnoughP4SwitchResources zoneName switchID vnf = .ok true) :
    ((info.switch.p4NFUsage.reserve vnf).Within ∧
        (info.switch.p4NFUsage.reserve vnf).release vnf = info.switch.p4NFUsage) ↔
      info.switch.p4NFUsage.Spares vnf := by
  have hadmits := admits_of_hasEnoughP4SwitchResources hinfo hadmitted
  rw [hadmits.within_reserve_iff]
  exact and_iff_left (info.switch.p4NFUsage.release_reserve vnf)

def freshSwitch : SwitchInfo :=
  ⟨⟨1, ⟨32, 27⟩, 2000, [2], [2], ⟨0, 0, 0, 0, 0⟩⟩, true⟩

def oneSwitch : DCNInfoBase where
  servers := .empty
  switches := Dict.empty.set .simulator (Dict.empty.set 1 freshSwitch)
  links := .empty
  serversReservedResources := .empty
  switchesReservedResources := .empty
  linksReservedResources := .empty

def firewall (ipv4RulesNum longRulesNum : Nat) : VNF :=
  ⟨VNF_TYPE_FW, some ⟨ipv4RulesNum, longRulesNum⟩, .p4⟩

theorem reserve_within_firewall :
    (freshSwitch.switch.p4NFUsage.reserve (firewall 100 100)).Within ∧
      (freshSwitch.switch.p4NFUsage.reserve (firewall 100 100)).release
        (firewall 100 100) = freshSwitch.switch.p4NFUsage := by
  have hinfo : oneSwitch.switchInfo .simulator 1 = .ok freshSwitch := by decide
  have hadmitted : oneSwitch.hasEnoughP4SwitchResources .simulator 1
      (firewall 100 100) = .ok true := by
    decide
  apply (reserve_within_iff hinfo hadmitted).mpr
  rw [P4NFUsage.spares_iff]
  decide

/-- With 300 rules of each kind the firewall is admitted, and takes 600 entries of
500. -/
theorem not_reserve_within :
    ¬ ∀ (dib : DCNInfoBase) (zoneName : Zone) (switchID : Nat) (vnf : VNF)
      (info : SwitchInfo), dib.switchInfo zoneName switchID = .ok info →
      dib.hasEnoughP4SwitchResources zoneName switchID vnf = .ok true →
      (info.switch.p4NFUsage.reserve vnf).Within ∧
        (info.switch.p4NFUsage.reserve vnf).release vnf = info.switch.p4NFUsage := by
  intro h
  have hwithin := (h oneSwitch .simulator 1 (firewall 300 300) freshSwitch
    (by decide) (by decide)).1
  exact absurd hwithin.sfci (by decide)

end DCNInfoBase

end SelfAdaptiveMano.Mapping

import SelfAdaptiveMano.Mapping.InfoBase

/-!
# Reserving resources

Resources of servers and links are reserved by adding to what is reserved of them.
Those of servers cannot be released: the test for an unknown server looks for its
number among the names of the zones.
-/

namespace SelfAdaptiveMano.Mapping

open Library

namespace Resources

@[simp] theorem cores_add (a b : Resources) : (a.add b).cores = a.cores + b.cores :=
  rfl

@[simp] theorem memory_add (a b : Resources) :
    (a.add b).memory = a.memory + b.memory := rfl

@[simp] theorem bandwidth_add (a b : Resources) :
    (a.add b).bandwidth = a.bandwidth + b.bandwidth := rfl

theorem within_sub_iff {a b c : Resources} :
    a.Within (b.sub c) ↔ (c.add a).Within b := by
  simp only [Within, sub, cores_add, memory_add, bandwidth_add, le_sub_iff_add_le',
    add_comm]

theorem add_add (a b c : Resources) : (a.add b).add c = a.add (b.add c) := by
  simp only [add, add_assoc]

theorem add_zero (a : Resources) : a.add .zero = a := by
  simp [add, zero]

end Resources

namespace DCNInfoBase

variable (dib : DCNInfoBase) (zoneName : Zone)

def reserveServerResources (serverID : Nat) (reserved : Resources) : DCNInfoBase :=
  { dib with
    serversReservedResources := dib.serversReservedResources.set
      (zoneName, serverID)
      ((dib.getServerReservedResources zoneName serverID).add reserved) }

/-- The zones are not numbers, so that the server is never known. -/
def releaseServerResources (_dib : DCNInfoBase) (serverID : Nat)
    (_released : Resources) (_zoneName : Zone) : Except PyError DCNInfoBase :=
  .error (.valueError s!"Unknown serverID:{serverID}")

def reserveLinkResource (srcID dstID : Nat) (reservedBandwidth : ℚ) :
    DCNInfoBase :=
  { dib with
    linksReservedResources := dib.linksReservedResources.set
      (zoneName, (srcID, dstID))
      (dib.getLinkReservedResource zoneName srcID dstID + reservedBandwidth) }

def getLinkResidualResource (srcID dstID : Nat) : Except PyError ℚ := do
  let link := (← dib.linkInfo zoneName srcID dstID).link
  return link.bandwidth - dib.getLinkReservedResource zoneName srcID dstID

def getConnectedSwitch (serverID : Nat) : Except PyError (Option Switch) :=
  match dib.switches.get? zoneName with
  | none => .error .keyError
  | some switches =>
      if switches.values = [] then .ok none
      else do
        let server := (← dib.serverInfo zoneName serverID).server
        return (switches.values.map SwitchInfo.switch).find? fun switch =>
          isServerConnectSwitch switch server

/-! ## What is read after a reservation -/

variable {dib zoneName}

theorem getServerReservedResources_reserve (serverID serverID' : Nat)
    (reserved : Resources) :
    (dib.reserveServerResources zoneName serverID reserved).getServerReservedResources
      zoneName serverID' =
        if serverID' = serverID then
          (dib.getServerReservedResources zoneName serverID).add reserved
        else dib.getServerReservedResources zoneName serverID' := by
  by_cases h : serverID' = serverID
  · subst h
    simp [reserveServerResources, getServerReservedResources]
  · have hne : (zoneName, serverID') ≠ (zoneName, serverID) := by simpa using h
    simp [reserveServerResources, getServerReservedResources, h,
      Dict.get?_set_of_ne _ _ hne]

theorem getLinkReservedResource_reserve (srcID dstID srcID' dstID' : Nat)
    (reserved : ℚ) :
    (dib.reserveLinkResource zoneName srcID dstID reserved).getLinkReservedResource
      zoneName srcID' dstID' =
        if (srcID', dstID') = (srcID, dstID) then
          dib.getLinkReservedResource zoneName srcID dstID + reserved
        else dib.getLinkReservedResource zoneName srcID' dstID' := by
  by_cases h : (srcID', dstID') = (srcID, dstID)
  · obtain ⟨rfl, rfl⟩ := Prod.mk.inj h
    simp [reserveLinkResource, getLinkReservedResource]
  · have hne : (zoneName, (srcID', dstID')) ≠ (zoneName, (srcID, dstID)) := by
      simpa using h
    rw [if_neg h]
    simp [reserveLinkResource, getLinkReservedResource, Dict.get?_set_of_ne _ _ hne]

@[simp] theorem getServerReservedResources_reserveLinkResource
    (srcID dstID serverID : Nat) (reserved : ℚ) :
    (dib.reserveLinkResource zoneName srcID dstID
      reserved).getServerReservedResources zoneName serverID =
        dib.getServerReservedResources zoneName serverID := rfl

@[simp] theorem getLinkReservedResource_reserveServerResources
    (serverID srcID dstID : Nat) (reserved : Resources) :
    (dib.reserveServerResources zoneName serverID
      reserved).getLinkReservedResource zoneName srcID dstID =
        dib.getLinkReservedResource zoneName srcID dstID := rfl

theorem hasEnoughServerResources_eq_ok_true_iff {serverID : Nat}
    {expected : Resources} :
    dib.hasEnoughServerResources zoneName serverID expected = .ok true ↔
      ∃ info, dib.serverInfo zoneName serverID = .ok info ∧
        ((dib.getServerReservedResources zoneName serverID).add expected).Within
          (capacity info.server) := by
  rw [hasEnoughServerResources, except_bind_eq_ok_iff]
  constructor
  · rintro ⟨available, havailable, hwithin⟩
    obtain ⟨info, hinfo, hsub⟩ := except_bind_eq_ok_iff.mp havailable
    obtain rfl := Except.ok.inj hsub
    exact ⟨info, hinfo, Resources.within_sub_iff.mp
      (of_decide_eq_true (Except.ok.inj hwithin))⟩
  · rintro ⟨info, hinfo, hwithin⟩
    refine ⟨_, except_bind_eq_ok_iff.mpr ⟨info, hinfo, rfl⟩, ?_⟩
    exact congrArg Except.ok
      (decide_eq_true (Resources.within_sub_iff.mpr hwithin))

end DCNInfoBase

end SelfAdaptiveMano.Mapping

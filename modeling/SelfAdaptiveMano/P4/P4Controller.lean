import SelfAdaptiveMano.P4.P4Entries

/-!
# The P4 controller

An SFCI is added in two steps. The first sends its routes and classifier entries
to the Turbonet switches, direction by direction; the second writes the entries
of its network functions into the P4 switch that runs them. A deletion sends the
same routes and classifier entries again, to be deleted; its second step is
still to be written.

The commands are handled one after the other. An exception ends the controller.
-/

namespace SelfAdaptiveMano.P4

open Library

def P4CONTROLLER_P4_SWITCH_ID_1 : Nat := 20
def P4CONTROLLER_P4_SWITCH_ID_2 : Nat := 21
def DIRECTION_MASK_0 : Nat := 8388607
def DIRECTION_MASK_1 : Nat := 8388608
def SI_PORT_MAP : List Nat := [128, 136, 144, 152, 160, 168, 176, 184, 60, 52]

def PRI_MN : Nat := 1

structure P4Command where
  cmdType : CmdType
  cmdID : UUID
  sfc : SFC
  sfci : SFCI

structure P4MonitorStatus where
  service_path_index : Nat
  service_index : Nat
  proto : RouteProtocol
  p4id : Nat
  deriving DecidableEq

/-- The fields of the P4 controller, with the states of the Turbonet controller
and of the P4 switches it is connected to, and the replies it sent. -/
structure P4Controller (τ β : Type) where
  commandresults : Dict UUID CmdState
  sfcilist : Dict Nat SFCI
  sfcidir : Dict Nat (Bool × Bool)
  p4monitor : Dict (Nat × Nat) P4MonitorStatus
  p4agent : Dict Nat β
  turbonet : τ
  replies : List (UUID × CmdState)

/-- What the P4 controller runs on: the other controller, the runtime of a P4
switch, and `socket.inet_pton` for the two address families. -/
structure Platform (τ β : Type) where
  turbonet : Turbonet τ
  bfrt : Bfrt β
  inetPton : IPVersion → String → Option Nat

/-- Whether there is a direction 0 and whether there is another one; only the
first two directions are looked at. -/
def hasDirections : List Direction → Except PyError (Bool × Bool)
  | [] => throw .indexError
  | [d] => pure (d.ID == SFC_DIRECTION_0, d.ID != SFC_DIRECTION_0)
  | [d, d'] => pure (d.ID == SFC_DIRECTION_0 || d'.ID == SFC_DIRECTION_0,
      d.ID != SFC_DIRECTION_0 || d'.ID != SFC_DIRECTION_0)
  | d :: _ => pure (d.ID == SFC_DIRECTION_0, d.ID != SFC_DIRECTION_0)

def segmentHops (segpath : List (Nat × Nat)) : List (Nat × Nat) :=
  (segpath.zip segpath.tail).map fun hop => (hop.1.2, hop.2.2)

/-- The hops of a path that get a route: the first hop of the first segment is
left to the classifier, and a hop from a node to itself needs none. -/
def routeHops : List (List (Nat × Nat)) → List (Nat × Nat)
  | [] => []
  | segpath :: segpaths =>
      ((segmentHops segpath).tail ++ segpaths.flatMap segmentHops).filter
        fun hop => hop.1 != hop.2

def ignextnode (path : List (List (Nat × Nat))) : Option Nat :=
  path.head?.bind fun segpath => (segmentHops segpath).head?.map Prod.snd

section Handlers

variable {τ β : Type} (platform : Platform τ β)

/-- `getintvalfromstr`: the value of an address and a mask of all its bits. -/
def getintvalfromstr (addr : String) :
    Except PyError (Option Nat × Option Nat) :=
  if addr.toList.contains ':' then
    match platform.inetPton .v6 addr with
    | some val => pure (some val, some ((1 <<< 128) - 1))
    | none => throw (.exception "illegal IP address string passed to inet_pton")
  else if addr.toList.contains '.' then
    match platform.inetPton .v4 addr with
    | some val => pure (some val, some ((1 <<< 32) - 1))
    | none => throw (.exception "illegal IP address string passed to inet_pton")
  else pure (none, none)

/-- The value of the `i`-th group of `width` bits of a mask of length `msklen`. -/
def maskGroup (width : Nat) (msklen : Int) (i : Nat) : Nat :=
  (List.range width).foldl
    (fun value j => 2 * value + if ((i * width + j : Nat) : Int) < msklen then 1 else 0) 0

/-- `getmsk`: an address with its mask, both as texts. -/
def getmsk (morphic : RouteProtocol) :
    Option String → Except PyError (String × String)
  | none =>
      if morphic = .ipv4 then pure ("0.0.0.0", "0.0.0.0") else pure ("::", "::")
  | some addrstr => do
      let adrlst := addrstr.splitOn "/"
      let addr := adrlst.headD ""
      let length (default : Int) : Except PyError Int :=
        match adrlst with
        | [_, len] => match len.toInt? with
          | some n => pure n
          | none => throw (.valueError "invalid literal for int() with base 10")
        | _ => pure default
      if addr.toList.contains ':' then
        let msklen ← length 128
        pure (addr, ":".intercalate ((List.range 8).map fun i =>
          String.ofList (Nat.toDigits 16 (maskGroup 16 msklen i))))
      else
        let msklen ← length 32
        pure (addr, ".".intercalate ((List.range 4).map fun i =>
          toString (maskGroup 8 msklen i)))

/-- `sendMsgByRPC` to the Turbonet controller, repeated until it is stored
there. -/
def sendTurbonet (cmd : TurbonetCommand) : PyM (P4Controller τ β) Unit :=
  modify fun c => { c with turbonet := platform.turbonet.handle cmd c.turbonet }

/-- The routes of one direction are sent, and the node behind the first hop is
returned. -/
def sendRoutes (routecmd : P4Entry → TurbonetCommand) (sfci : SFCI)
    (pathID : Nat) : PyM (P4Controller τ β) (Option Nat) := do
  let lst ← PyM.ofOption .keyError (sfci.primaryForwardingPath.get? pathID)
  (routeHops lst).forM fun hop =>
    sendTurbonet platform (routecmd (p4RouteEntry hop))
  pure (ignextnode lst)

def sendDirection (routecmd : P4Entry → TurbonetCommand) (sfci : SFCI)
    (hasdir : Bool) (pathID : Nat) : PyM (P4Controller τ β) (Option Nat) :=
  if hasdir then sendRoutes platform routecmd sfci pathID else pure none

/-- A classifier entry is sent for a programmable switch, and for no other
node. -/
def sendAt (classifiercmd : P4Entry → TurbonetCommand) (node : Node)
    (entry : Nat → P4Entry) : PyM (P4Controller τ β) Unit :=
  match node with
  | .switch nodeID true => sendTurbonet platform (classifiercmd (entry nodeID))
  | _ => pure ()

def sendClassifier (classifiercmd : P4Entry → TurbonetCommand) (sfci : SFCI)
    (next : Nat → Option Nat) (diri : Direction) :
    PyM (P4Controller τ β) Unit := do
  let si := sfci.vnfiSequence.length
  let egnextnode := match diri.destination with
    | some node => node.getNodeID
    | none => 10000
  let src ← PyM.ofExcept (getintvalfromstr platform diri.srcIP)
  let dst ← PyM.ofExcept (getintvalfromstr platform diri.dstIP)
  let ignext ← PyM.ofOption .keyError (next diri.ID)
  sendAt platform classifiercmd diri.ingress fun ignode => ⟨ignode,
    ⟨ETH_TYPE_IPV4, src.1, src.2, dst.1, dst.2, none⟩,
    ⟨.encapsulationNSH, ignext, some [(.spi, sfci.sfciID), (.si, si),
      (.nextProtocol, ETH_TYPE_IPV4), (.mdType, 0x1)]⟩⟩
  sendAt platform classifiercmd diri.egress fun egnode => ⟨egnode,
    ⟨ETH_TYPE_NSH, none, none, none, none, some ((sfci.sfciID <<< 8) + si)⟩,
    ⟨.decapsulationNSH, egnextnode, some [(.etherType, ETH_TYPE_IPV4)]⟩⟩

/-- The routes and the classifier entries of an SFCI are sent with the given
commands. -/
def sendSFC (routecmd classifiercmd : P4Entry → TurbonetCommand) (sfc : SFC)
    (sfci : SFCI) : PyM (P4Controller τ β) Bool := do
  let (hasdir0, hasdir1) ← PyM.ofExcept (hasDirections sfc.directions)
  let next0 ← sendDirection platform routecmd sfci hasdir0
    DIRECTION0_PATHID_OFFSET
  let next1 ← sendDirection platform routecmd sfci hasdir1
    DIRECTION1_PATHID_OFFSET
  let next := fun directionID =>
    if directionID = SFC_DIRECTION_0 then next0
    else if directionID = SFC_DIRECTION_1 then next1
    else none
  sfc.directions.forM fun diri =>
    sendClassifier platform classifiercmd sfci next diri
  pure true

def addsfc (cmd : P4Command) : PyM (P4Controller τ β) Bool :=
  sendSFC platform .addNSHRoute .addClassifierEntry cmd.sfc cmd.sfci

def delsfc (cmd : P4Command) : PyM (P4Controller τ β) Bool :=
  sendSFC platform .delNSHRoute .delClassifierEntry cmd.sfc cmd.sfci

/-- A call of the agent of the P4 switch `p4id`. -/
def withAgent (p4id : Nat) (x : PyM β Unit) : PyM (P4Controller τ β) Unit := do
  let c ← get
  let agent ← PyM.ofOption .keyError (c.p4agent.get? p4id)
  PyM.zoom (fun _ => agent)
    (fun agent' c => { c with p4agent := c.p4agent.set p4id agent' }) x

def addIEGress (spi si outport : Nat) : PyM β Unit := do
  platform.bfrt.entryAdd (.counterIngress spi si) .hitIngress
  platform.bfrt.entryAdd (.counterEgress spi si) (.hitEgress outport)

def addRateLimiter (spi si : Nat) : PyM β Unit :=
  platform.bfrt.entryAdd (.rateLimiter spi si) (.hitRatelimiter none)

def editRateLimiter (spi si cir cbs pir pbs : Nat) : PyM β Unit :=
  platform.bfrt.entryMod (.rateLimiter spi si)
    (.hitRatelimiter (some (cir, cbs, pir, pbs)))

/-- `addv4FWentry` and `addv6FWentry`. -/
def addFWentry (version : IPVersion) (spi si : Nat)
    (src dst : String × String) (nxtHdr : Option Nat) (priority : Nat)
    (isDrop : Bool) : PyM β Unit :=
  platform.bfrt.entryAdd
    (.statelessFirewall version spi si src dst nxtHdr priority)
    (if isDrop then .hitDrop version else .hitPermit version)

def addMonitorv4 (spi si : Nat) : PyM β Unit :=
  platform.bfrt.entryAdd (.flowMonitor .v4 spi si ("0.0.0.0", "0.0.0.0")
    ("0.0.0.0", "0.0.0.0") PRI_MN) (.hitDigest .v4)

def addMonitorv6 (spi si : Nat) : PyM β Unit :=
  platform.bfrt.entryAdd (.flowMonitor .v6 spi si ("::", "::")
    ("::", "::") PRI_MN) (.hitDigest .v6)

def RouteProtocol.version (morphic : RouteProtocol) : IPVersion :=
  if morphic = .ipv4 then .v4 else .v6

def addFirewall (p4id : Nat) (morphic : RouteProtocol) (nfi : VNFI)
    (si eport spi : Nat) : PyM (P4Controller τ β) Unit := do
  withAgent p4id (addIEGress platform spi si eport)
  let fwlst ← PyM.ofExcept (nfi.config.getRulesList morphic)
  fwlst.forM fun aclins => do
    let src ← PyM.ofExcept (getmsk morphic aclins.srcAddr)
    let dst ← PyM.ofExcept (getmsk morphic aclins.dstAddr)
    withAgent p4id (addFWentry platform morphic.version spi si src dst
      aclins.proto 0 aclins.deny)

def addLimiter (p4id ratelim si eport spi : Nat) :
    PyM (P4Controller τ β) Unit := do
  withAgent p4id (addIEGress platform spi si eport)
  withAgent p4id (addRateLimiter platform spi si)
  withAgent p4id (editRateLimiter platform spi si ratelim ratelim ratelim
    ratelim)

def addMonitor (p4id : Nat) (morphic : RouteProtocol) (si eport spi : Nat) :
    PyM (P4Controller τ β) Unit := do
  withAgent p4id (addIEGress platform spi si eport)
  modify fun c => { c with
    p4monitor := c.p4monitor.set (spi, si) ⟨spi, si, morphic, p4id⟩ }
  withAgent p4id (if morphic = .ipv4 then addMonitorv4 platform spi si
    else addMonitorv6 platform spi si)

/-- The service path indices of the directions: the bit above the 23 bits of
the SFCI tells them apart. -/
def pathIndices (dirs : Bool × Bool) (spi : Nat) : List Nat :=
  (if dirs.1 then [spi &&& DIRECTION_MASK_0] else []) ++
    if dirs.2 then [spi ||| DIRECTION_MASK_1] else []

/-- The number of the P4 switch that a node is, `none` for any other node. -/
def p4idOf : Node → Option Nat
  | .switch switchID _ =>
      if switchID = P4CONTROLLER_P4_SWITCH_ID_1 then some 0
      else if switchID = P4CONTROLLER_P4_SWITCH_ID_2 then some 1
      else none
  | .server _ => none

/-- One VNFI is added in all directions; `false` when its type is not known. -/
def addNFI (morphic : RouteProtocol) (spis : List Nat) (si eport : Nat)
    (nfi : VNFI) : PyM (P4Controller τ β) Bool := do
  match p4idOf nfi.node with
  | none => pure true
  | some p4id =>
      if nfi.vnfType = VNF_TYPE_FW then
        spis.forM (addFirewall platform p4id morphic nfi si eport)
        pure true
      else if nfi.vnfType = VNF_TYPE_RATELIMITER then
        let maxMbps ← PyM.ofExcept nfi.config.maxMbps
        spis.forM (addLimiter platform p4id (maxMbps * 1024) si eport)
        pure true
      else if nfi.vnfType = VNF_TYPE_MONITOR then
        spis.forM (addMonitor platform p4id morphic si eport)
        pure true
      else pure false

def addStages (morphic : RouteProtocol) (spis : List Nat) :
    List (List VNFI) → PyM (P4Controller τ β) Bool
  | [] => pure true
  | nf :: nfs => do
      let si := (nf :: nfs).length
      let eport ← PyM.ofOption .indexError (SI_PORT_MAP[si - 1]?)
      -- the loop over the VNFIs is left by the `return False` in it
      let known ← nf.allM (addNFI platform morphic spis si eport)
      if known then addStages morphic spis nfs else pure false

def addsfci (cmd : P4Command) : PyM (P4Controller τ β) Bool := do
  let dirs ← PyM.ofExcept (hasDirections cmd.sfc.directions)
  let spi := cmd.sfci.sfciID
  modify fun c => { c with
    sfcidir := c.sfcidir.set spi dirs
    sfcilist := c.sfcilist.set spi cmd.sfci }
  addStages platform cmd.sfci.morphicName (pathIndices dirs spi)
    cmd.sfci.vnfiSequence

/-- `_delsfci`, which is still to be copied from `_addsfci`. -/
def delsfci (_cmd : P4Command) : PyM (P4Controller τ β) Bool :=
  pure true

/-- The branches of `run` for the command types; a command of another type is
not for this controller, but no failure either. -/
def dispatch (cmd : P4Command) : PyM (P4Controller τ β) Bool :=
  match cmd.cmdType with
  | .addSFCI => do
      let success1 ← addsfc platform cmd
      let success2 ← addsfci platform cmd
      pure (success1 && success2)
  | .delSFCI => do
      let success1 ← delsfc platform cmd
      let success2 ← delsfci cmd
      pure (success1 && success2)
  | _ => pure true

/-- One turn of `run` with a command from the Mediator, and whether the command
succeeded. -/
def handleCommand (cmd : P4Command) : PyM (P4Controller τ β) Bool := do
  modify fun c => { c with
    commandresults := c.commandresults.set cmd.cmdID .processing }
  let success ← dispatch platform cmd
  let state := if success then CmdState.successful else .fail
  modify fun c => { c with
    commandresults := c.commandresults.set cmd.cmdID state
    replies := c.replies ++ [(cmd.cmdID, state)] }
  pure success

end Handlers

end SelfAdaptiveMano.P4

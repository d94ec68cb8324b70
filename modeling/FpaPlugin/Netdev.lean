import FpaPlugin.DevSpec
import FpaPlugin.Lib.KeyedList
import FpaPlugin.Ofproto
import FpaPlugin.PortFeatures

/-! `ops-fpa-netdev.c`: the network devices of Open vSwitch that stand for the ports of the
switch, the TAP interface that each of them opens, and what they read and write of a port. -/

namespace FpaPlugin

def fpaInvalidSwitchId : Int := 0xffff

def fpaDevSwitchIdDefault : Int := 0

/-- `up` is `flags & NETDEV_UP`, the only flag there is, and `changeSeq` how often
`netdev_change_seq_changed` was called. -/
structure FpaNetdev extends Netdev where
  sid : Int
  inited : Bool
  linkStatus : Bool
  linkResets : Nat
  tapFd : BitVec 32
  up : Bool
  changeSeq : Nat

inductive NetdevRc
  | ok
  | einval
  | eperm
  | eopnotsupp
  deriving DecidableEq, Repr

/-- `FPA_PORT_PROPERTIES_*_FLAG`. -/
inductive PropertyFlag
  | config
  | features
  | advertised
  | supported
  | peer
  deriving DecidableEq, Repr

structure PortValues where
  config : BitVec 32
  featuresBmp : BitVec 32
  advertBmp : BitVec 32
  supportedBmp : BitVec 32
  peerBmp : BitVec 32
  deriving DecidableEq, Repr

/-- `FPA_PORT_PROPERTIES_STC`. -/
structure PortProperties extends PortValues where
  flags : PropertyFlag → Bool

abbrev PortTable := Int → Int → PortValues

/-- What a call of the library that reads a port answers: the flags of what it read, or an
error. -/
abbrev PortAnswer := Option (PropertyFlag → Bool)

def fpaLibPortPropertiesGet (ports : PortTable) (sid pid : Int) (answer : PortAnswer) :
    Option PortProperties :=
  answer.map fun flags => { ports sid pid with flags }

/-- Only what the flags name is written, and what a port supports cannot be. -/
def PortValues.write (port : PortValues) (props : PortProperties) : PortValues :=
  { port with
    config := if props.flags .config then props.config else port.config
    featuresBmp := if props.flags .features then props.featuresBmp else port.featuresBmp
    advertBmp := if props.flags .advertised then props.advertBmp else port.advertBmp }

def setPort (ports : PortTable) (sid pid : Int) (port : PortValues) : PortTable :=
  Function.update ports sid (Function.update (ports sid) pid port)

/-- `wrap_fpaLibPortPropertiesSet`; the library writes nothing when it fails. -/
def fpaLibPortPropertiesSet (ports : PortTable) (sid pid : Int) (props : PortProperties)
    (status : Status) : PortTable :=
  match status with
  | .ok => setPort ports sid pid ((ports sid pid).write props)
  | .fail => ports

/-- `strToMac` gives the address after `str_to_mac` and whether it took the text. -/
structure NetdevEnv where
  strToMac : EthAddr → CString → EthAddr × Bool
  etherAton : CString → Option EthAddr
  portConfigDown : BitVec 32
  portConfigDown_ne : portConfigDown ≠ 0
  bits : FeatureBits

structure HwIntfInfo where
  switchUnit : Option CString
  switchIntfId : Option CString
  macAddr : Option CString
  bridge : Bool

def newNetdev (name : CString) (type : NetdevType) (n : BitVec 32) : FpaNetdev where
  name := name
  type := type
  sid := fpaInvalidSwitchId
  pid := fpaInvalidIntfId
  mac := 0xaa55#16 ++ n
  inited := false
  linkStatus := false
  linkResets := 0
  tapFd := 0
  up := false
  changeSeq := 0

/-- A call of `ops-fpa-tap.c` for a switch: its assertions, then the mutex, then the device. -/
def ofSwitch {α : Type} (s : DevSys) (sid : Int) (asserted : Bool)
    (call : DevSys → Except DevFault α) : Except DevFault α :=
  if sid = fpaInvalidSwitchId ∨ asserted = false then .error (.crash .failedAssertion)
  else if sid = fpaDevSwitchIdDefault then call s
  else
    match opsFpaDevMutexLock s with
    | .error fault => .error fault
    | .ok _ => .error .notReached

def opsFpaNetdevDestruct (s : DevSys) (netdev : FpaNetdev) : Except DevFault DevSys :=
  if netdev.tapFd = 0 then .ok s
  else
    match ofSwitch s netdev.sid (decide (0 < netdev.tapFd.toInt))
        fun s => opsFpaTapIfDelete s netdev.tapFd with
    | .error fault => .error fault
    | .ok (_, s) => .ok s

section Calls

variable (env : NetdevEnv)

/-- What `ops_fpa_netdev_set_hw_intf_info` reads before it opens the TAP interface. What was read
stays when the rest cannot be. -/
def readHwIntfInfo (netdev : FpaNetdev) (args : HwIntfInfo) :
    Except Fault (FpaNetdev × Option EthAddr) :=
  match args.switchUnit.bind opsFpaStr2int with
  | none => .ok (netdev, none)
  | some sid =>
      if sid = fpaInvalidSwitchId then .error .failedAssertion
      else
        match args.switchIntfId.bind opsFpaStr2int with
        | none => .ok ({ netdev with sid }, none)
        | some pid =>
            if pid = fpaInvalidIntfId then .error .failedAssertion
            else
              match args.macAddr with
              | none => .error .nullPointer
              | some text =>
                  let (mac, accepted) := env.strToMac netdev.mac text
                  if accepted then
                    match env.etherAton text with
                    | none => .error .failedAssertion
                    | some tapMac => .ok ({ netdev with sid, pid, mac }, some tapMac)
                  else .ok ({ netdev with sid, pid, mac }, none)

def createdFd (netdev : FpaNetdev) (outcome : CreateOutcome) : BitVec 32 :=
  (outcome.tunAlloc (netdev.name.take (ifNameSize - 1))).1

def opsFpaNetdevSetHwIntfInfo (devEnv : Env) (s : DevSys) (netdev : FpaNetdev)
    (args : HwIntfInfo) (outcome : CreateOutcome) :
    Except DevFault (NetdevRc × FpaNetdev × DevSys) :=
  if netdev.inited then .ok (.ok, netdev, s)
  else if netdev.type = .system then
    match readHwIntfInfo env netdev args with
    | .error fault => .error (.crash fault)
    | .ok (netdev, none) => .ok (.einval, netdev, s)
    | .ok (netdev, some tapMac) =>
        match ofSwitch s netdev.sid true fun s =>
            opsFpaTapIfCreate devEnv s (BitVec.ofInt 32 netdev.pid) netdev.name tapMac outcome with
        | .error fault => .error fault
        | .ok (.ok, s) =>
            .ok (.ok, { netdev with tapFd := createdFd netdev outcome, inited := true }, s)
        | .ok (_, s) => .ok (.einval, netdev, s)
  else .ok (.ok, { netdev with inited := true }, s)

/-- `bridgeCreated` tells whether `ops_fpa_bridge_create` returned 0. -/
def internalNetdevSetHwIntfInfo (netdev : FpaNetdev) (args : HwIntfInfo) (bridgeCreated : Bool) :
    NetdevRc × FpaNetdev :=
  if netdev.inited then (.ok, netdev)
  else if args.bridge && !bridgeCreated then (.einval, netdev)
  else (.ok, { netdev with inited := true })

/-- What `ops_fpa_netdev_set_hw_intf_config` writes to a port that it read. -/
def configProperties (port : PortProperties) (args : HwIntfConfig) : PortProperties :=
  if args.enable then
    let featuresBmp := requestedFeatures env.bits args &&& port.supportedBmp
    { port with
      config := 0
      featuresBmp
      flags := fun flag => flag = .config || flag = .features && featuresBmp != 0 }
  else { port with config := env.portConfigDown, flags := fun flag => flag = .config }

def opsFpaNetdevSetHwIntfConfig (ports : PortTable) (netdev : FpaNetdev) (args : HwIntfConfig)
    (answer : PortAnswer) (status : Status) : NetdevRc × FpaNetdev × PortTable :=
  if !netdev.inited then (.eperm, netdev, ports)
  else
    match fpaLibPortPropertiesGet ports netdev.sid netdev.pid answer with
    | none => (.einval, netdev, ports)
    | some port =>
        let ports := fpaLibPortPropertiesSet ports netdev.sid netdev.pid
          (configProperties env port args) status
        let netdev := { netdev with up := args.enable }
        match status with
        | .fail => (.einval, netdev, ports)
        | .ok => (.ok, { netdev with changeSeq := netdev.changeSeq + 1 }, ports)

def internalNetdevSetHwIntfConfig (netdev : FpaNetdev) (args : HwIntfConfig) :
    NetdevRc × FpaNetdev :=
  if !netdev.inited then (.eperm, netdev)
  else (.ok, { netdev with up := args.enable, changeSeq := netdev.changeSeq + 1 })

/-- `ops_fpa_netdev_set_etheraddr` on the record of the netdev. -/
def FpaNetdev.setEtheraddr (netdev : FpaNetdev) (mac : EthAddr) : FpaNetdev :=
  if netdev.mac ≠ mac then { netdev with mac, changeSeq := netdev.changeSeq + 1 } else netdev

def opsFpaNetdevSetAdvertisements (ports : PortTable) (netdev : FpaNetdev)
    (advertise : BitVec 32) (status : Status) : NetdevRc × PortTable :=
  let props : PortProperties :=
    { config := 0, featuresBmp := 0, supportedBmp := 0, peerBmp := 0
      advertBmp := netdevToFpaFeatures env.bits advertise
      flags := fun flag => flag = .advertised }
  (if status = .ok then .ok else .einval,
    fpaLibPortPropertiesSet ports netdev.sid netdev.pid props status)

structure NetdevFeatures where
  current : BitVec 32
  advertised : BitVec 32
  supported : BitVec 32
  peer : BitVec 32
  deriving DecidableEq, Repr

def opsFpaNetdevGetFeatures (ports : PortTable) (netdev : FpaNetdev) (answer : PortAnswer) :
    Option NetdevFeatures :=
  (fpaLibPortPropertiesGet ports netdev.sid netdev.pid answer).map fun props =>
    let read (flag : PropertyFlag) (bmp : BitVec 32) : BitVec 32 :=
      if props.flags flag then fpaToNetdevFeatures env.bits bmp else 0
    { current := read .features props.featuresBmp
      advertised := read .advertised props.advertBmp
      supported := read .supported props.supportedBmp
      peer := read .peer props.peerBmp }

def isDown (config : BitVec 32) : Bool := config &&& env.portConfigDown != 0

/-- `off` and `on` are the `NETDEV_UP` bits of the two masks. The reply is the old flags. -/
def opsFpaNetdevUpdateFlags (ports : PortTable) (netdev : FpaNetdev) (off on : Bool)
    (answer : PortAnswer) (status : Status) : NetdevRc × Option Bool × PortTable :=
  if netdev.sid = fpaInvalidSwitchId then (.eopnotsupp, none, ports)
  else
    match fpaLibPortPropertiesGet ports netdev.sid netdev.pid answer with
    | none => (.einval, none, ports)
    | some port =>
        let old := some (!isDown env port.config)
        if on || off then
          let config :=
            if on then port.config &&& ~~~env.portConfigDown
            else port.config ||| env.portConfigDown
          let ports := fpaLibPortPropertiesSet ports netdev.sid netdev.pid { port with config }
            status
          (if status = .ok then .ok else .einval, old, ports)
        else (.ok, old, ports)

def internalNetdevUpdateFlags (netdev : FpaNetdev) : NetdevRc × Option Bool :=
  (.ok, some netdev.up)

/-- The body of the loop of `ops_fpa_netdev_run`. -/
def pollNetdev (ports : PortTable) (netdev : FpaNetdev) (answer : PortAnswer) : FpaNetdev :=
  match fpaLibPortPropertiesGet ports netdev.sid netdev.pid answer with
  | none => netdev
  | some props =>
      let linkStatus := !isDown env props.config
      if linkStatus ≠ netdev.linkStatus then
        { netdev with
          linkStatus
          linkResets := if linkStatus then netdev.linkResets + 1 else netdev.linkResets
          changeSeq := netdev.changeSeq + 1 }
      else netdev

end Calls

/-- `nextN` is the counter of `ops_fpa_netdev_construct`. Open vSwitch constructs a netdev only
under a name that no other has. -/
structure NetdevSys where
  dev : DevSys
  ports : PortTable
  netdevs : List FpaNetdev
  nextN : BitVec 32

def FpaNetdev.key (netdev : FpaNetdev) : CString := netdev.name

def NetdevSys.find (s : NetdevSys) (name : CString) : Option FpaNetdev :=
  KeyedList.find FpaNetdev.key s.netdevs name

def NetdevSys.put (s : NetdevSys) (netdev : FpaNetdev) : NetdevSys :=
  { s with netdevs := KeyedList.put FpaNetdev.key s.netdevs netdev }

inductive NetdevCall
  | construct (name : CString) (type : NetdevType)
  | destruct (name : CString)
  | setHwIntfInfo (name : CString) (args : HwIntfInfo) (outcome : CreateOutcome)
      (bridgeCreated : Bool)
  | setHwIntfConfig (name : CString) (args : HwIntfConfig) (answer : PortAnswer) (status : Status)
  | setEtheraddr (name : CString) (mac : EthAddr)
  | setAdvertisements (name : CString) (advertise : BitVec 32) (status : Status)
  | updateFlags (name : CString) (off on : Bool) (answer : PortAnswer) (status : Status)
  | run (answers : CString → PortAnswer)
  | devInit (outcome : InitOutcome)
  | devDeinit
  | portChanged (sid pid : Int) (port : PortValues)

/-- `flags` is set by a call that answers the old flags. -/
structure NetdevReply where
  rc : NetdevRc
  flags : Option Bool
  deriving DecidableEq, Repr

inductive NetdevFault
  | badName
  | dev (fault : DevFault)
  deriving DecidableEq, Repr

section Step

variable (env : NetdevEnv) (devEnv : Env) (portName : Nat → Option PortName) (maxEntries : Nat)

def setHwIntfInfoStep (s : NetdevSys) (netdev : FpaNetdev) (args : HwIntfInfo)
    (outcome : CreateOutcome) (bridgeCreated : Bool) : Except NetdevFault (NetdevReply × NetdevSys) :=
  match netdev.type with
  | .system | .vlansubint =>
      match opsFpaNetdevSetHwIntfInfo env devEnv s.dev netdev args outcome with
      | .error fault => .error (.dev fault)
      | .ok (rc, netdev, dev) => .ok (⟨rc, none⟩, { s with dev }.put netdev)
  | .internal =>
      let (rc, netdev) := internalNetdevSetHwIntfInfo netdev args bridgeCreated
      .ok (⟨rc, none⟩, s.put netdev)
  | .loopback => .ok (⟨.eopnotsupp, none⟩, s)

def setHwIntfConfigStep (s : NetdevSys) (netdev : FpaNetdev) (args : HwIntfConfig)
    (answer : PortAnswer) (status : Status) : NetdevReply × NetdevSys :=
  match netdev.type with
  | .system | .vlansubint =>
      let (rc, netdev, ports) :=
        opsFpaNetdevSetHwIntfConfig env s.ports netdev args answer status
      (⟨rc, none⟩, { s with ports }.put netdev)
  | .internal =>
      let (rc, netdev) := internalNetdevSetHwIntfConfig netdev args
      (⟨rc, none⟩, s.put netdev)
  | .loopback => (⟨.eopnotsupp, none⟩, s)

def updateFlagsStep (s : NetdevSys) (netdev : FpaNetdev) (off on : Bool) (answer : PortAnswer)
    (status : Status) : NetdevReply × NetdevSys :=
  match netdev.type with
  | .system | .vlansubint =>
      let (rc, flags, ports) := opsFpaNetdevUpdateFlags env s.ports netdev off on answer status
      (⟨rc, flags⟩, { s with ports })
  | .internal | .loopback =>
      let (rc, flags) := internalNetdevUpdateFlags netdev
      (⟨rc, flags⟩, s)

def setAdvertisementsStep (s : NetdevSys) (netdev : FpaNetdev) (advertise : BitVec 32)
    (status : Status) : NetdevReply × NetdevSys :=
  if netdev.type = .system then
    let (rc, ports) := opsFpaNetdevSetAdvertisements env s.ports netdev advertise status
    (⟨rc, none⟩, { s with ports })
  else (⟨.eopnotsupp, none⟩, s)

theorem updateFlagsStep_apart (s : NetdevSys) (netdev : FpaNetdev) (off on : Bool)
    (answer : PortAnswer) (status : Status) :
    ∃ ports, (updateFlagsStep env s netdev off on answer status).2 = { s with ports } := by
  rw [updateFlagsStep]
  split
  · exact ⟨_, rfl⟩
  · exact ⟨_, rfl⟩
  · exact ⟨s.ports, rfl⟩
  · exact ⟨s.ports, rfl⟩

theorem setAdvertisementsStep_apart (s : NetdevSys) (netdev : FpaNetdev) (advertise : BitVec 32)
    (status : Status) :
    ∃ ports, (setAdvertisementsStep env s netdev advertise status).2 = { s with ports } := by
  rw [setAdvertisementsStep]
  split
  · exact ⟨_, rfl⟩
  · exact ⟨s.ports, rfl⟩

def opsFpaNetdevRun (s : NetdevSys) (answers : CString → PortAnswer) : NetdevSys :=
  { s with
    netdevs := s.netdevs.map fun netdev =>
      if netdev.type = .system then pollNetdev env s.ports netdev (answers netdev.name)
      else netdev }

def onNetdev (s : NetdevSys) (name : CString)
    (call : FpaNetdev → Except NetdevFault (NetdevReply × NetdevSys)) :
    Except NetdevFault (NetdevReply × NetdevSys) :=
  match s.find name with
  | none => .error .badName
  | some netdev => call netdev

def netdevStep (s : NetdevSys) : NetdevCall → Except NetdevFault (NetdevReply × NetdevSys)
  | .construct name type =>
      match s.find name with
      | some _ => .error .badName
      | none =>
          .ok (⟨.ok, none⟩, { s with
            netdevs := newNetdev name type s.nextN :: s.netdevs
            nextN := s.nextN + 1 })
  | .destruct name =>
      onNetdev s name fun netdev =>
        match opsFpaNetdevDestruct s.dev netdev with
        | .error fault => .error (.dev fault)
        | .ok dev =>
            .ok (⟨.ok, none⟩, { s with
              dev, netdevs := KeyedList.remove FpaNetdev.key s.netdevs name })
  | .setHwIntfInfo name args outcome bridgeCreated =>
      onNetdev s name fun netdev =>
        setHwIntfInfoStep env devEnv s netdev args outcome bridgeCreated
  | .setHwIntfConfig name args answer status =>
      onNetdev s name fun netdev => .ok (setHwIntfConfigStep env s netdev args answer status)
  | .setEtheraddr name mac =>
      onNetdev s name fun netdev =>
        .ok (⟨.ok, none⟩, s.put (FpaNetdev.setEtheraddr netdev mac))
  | .setAdvertisements name advertise status =>
      onNetdev s name fun netdev => .ok (setAdvertisementsStep env s netdev advertise status)
  | .updateFlags name off on answer status =>
      onNetdev s name fun netdev => .ok (updateFlagsStep env s netdev off on answer status)
  | .run answers => .ok (⟨.ok, none⟩, opsFpaNetdevRun env s answers)
  | .devInit outcome =>
      match opsFpaDevInit devEnv maxEntries s.dev outcome with
      | .error fault => .error (.dev fault)
      | .ok (_, dev) => .ok (⟨.ok, none⟩, { s with dev })
  | .devDeinit =>
      match opsFpaDevDeinit devEnv portName s.dev with
      | .error fault => .error (.dev fault)
      | .ok (_, dev) => .ok (⟨.ok, none⟩, { s with dev })
  | .portChanged sid pid port => .ok (⟨.ok, none⟩, { s with ports := setPort s.ports sid pid port })

end Step

abbrev NetdevEvent := Runs.Event NetdevSys NetdevCall NetdevReply

abbrev NetdevRun (env : NetdevEnv) (devEnv : Env) (portName : Nat → Option PortName)
    (maxEntries : Nat) (start : NetdevSys) : List NetdevEvent → NetdevSys → Prop :=
  Runs.Run (netdevStep env devEnv portName maxEntries) start

theorem netdevRun_of_check (env : NetdevEnv) (devEnv : Env) (portName : Nat → Option PortName)
    (maxEntries : Nat) (start : NetdevSys) (calls : List NetdevCall)
    (check : List NetdevEvent → NetdevSys → Prop) [∀ trace s, Decidable (check trace s)]
    (passed : (Runs.replay (netdevStep env devEnv portName maxEntries) [] start calls).any
      (fun result => check result.1 result.2) = true) :
    ∃ trace s, NetdevRun env devEnv portName maxEntries start trace s ∧ check trace s :=
  Runs.Run.of_check calls check passed

def plainNetdevEnv : NetdevEnv where
  strToMac old text :=
    if text = "02:00:00:00:00:05".toList then (0x020000000005#48, true) else (old, false)
  etherAton text := if text = "02:00:00:00:00:05".toList then some 0x020000000005#48 else none
  portConfigDown := 1#32
  portConfigDown_ne := by decide
  bits := orderedBits

def portInfo (intfId : CString) : HwIntfInfo :=
  ⟨some "0".toList, some intfId, some "02:00:00:00:00:05".toList, false⟩

def opensFd (fd : BitVec 32) : CreateOutcome := ⟨fun name => (fd, name), true, true⟩

def noNetdevs (ports : PortTable) : NetdevSys := ⟨noDev, ports, [], 0xaa550000#32⟩

end FpaPlugin

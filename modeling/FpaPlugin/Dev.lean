import FpaPlugin.Lib.HmapCursor
import FpaPlugin.MacLearning
import FpaPlugin.Tap

/-! `ops-fpa-dev.c`: the one device of the plugin, its reference count and its mutex, with
the calls of `ops-fpa-tap.c` that take the mutex. Each call is one step; what the system
calls and the FPA library answer within it is part of the call. -/

namespace FpaPlugin

inductive DevFault
  | deadlock
  | endlessJoin
  | notReached
  | crash (fault : Fault)
  deriving DecidableEq, Repr

inductive DevRc
  | ok
  | eagain
  | efault
  | enoent
  deriving DecidableEq, Repr

structure FpaDev where
  refCnt : BitVec 32
  tapIfInfo : Option TapInfo
  ml : Option MacLearning

/-- `mutex` tells whether `fpa_dev_mutex` is held. -/
structure DevSys where
  mutex : Bool
  dev : Option FpaDev

/-- The answers to a first `ops_fpa_dev_init`: one for each end of each control pipe, whether
the MAC-learning extension is registered, and those of the FPA library. -/
structure InitOutcome where
  setNonblocking : Listener → Bool → Bool
  extensionFound : Bool
  agingTimeoutSet : Status
  srcMacLearningSet : Status

/-- The answers to `ops_fpa_tap_if_create`. `tunAlloc` takes the name that is asked for to the
fd or negative error, and the name of the device. -/
structure CreateOutcome where
  tunAlloc : CString → BitVec 32 × CString
  setNonblocking : Bool
  netIfSetup : Bool

def opsFpaDevMutexLock (s : DevSys) : Except DevFault DevSys :=
  if s.mutex then .error .deadlock else .ok { s with mutex := true }

def opsFpaDevMutexUnlock (s : DevSys) : DevSys := { s with mutex := false }

def opsFpaDevById (s : DevSys) : Except DevFault FpaDev :=
  match s.dev with
  | none => .error .notReached
  | some dev => .ok dev

def getTapInfoBySwitchId (s : DevSys) : Except DevFault (Option TapInfo) :=
  match opsFpaDevById s with
  | .error fault => .error fault
  | .ok dev => .ok dev.tapIfInfo

def DevSys.tapIfMap (s : DevSys) : Hmap TapIfEntry :=
  ((s.dev.bind FpaDev.tapIfInfo).map TapInfo.fdToTapIfMap).getD (Hmap.empty 0)

def setTapInfo (s : DevSys) (info : TapInfo) : DevSys :=
  { s with dev := s.dev.map fun dev => { dev with tapIfInfo := some info } }

def ifNameSize : Nat := 16

section Calls

variable (env : Env) (portName : Nat → Option PortName) (maxEntries : Nat)

/-- Every early return of the next two functions leaves the mutex held. -/
def opsFpaTapIfCreate (s : DevSys) (portNum : BitVec 32) (name : CString) (mac : EthAddr)
    (outcome : CreateOutcome) : Except DevFault (DevRc × DevSys) :=
  match opsFpaDevMutexLock s with
  | .error fault => .error fault
  | .ok s =>
      match getTapInfoBySwitchId s with
      | .error fault => .error fault
      | .ok none => .ok (.efault, s)
      | .ok (some info) =>
          let (fd, tapIfName) := outcome.tunAlloc (name.take (ifNameSize - 1))
          if fd.toInt ≤ 0 then .ok (.efault, s)
          else if !outcome.setNonblocking then .ok (.efault, s)
          else if !outcome.netIfSetup then .ok (.efault, s)
          else
            .ok (.ok, opsFpaDevMutexUnlock
              (setTapInfo s (addTapIf env.growth info ⟨tapIfName, fd, portNum, mac⟩)))

def opsFpaTapIfDelete (s : DevSys) (tapFd : BitVec 32) : Except DevFault (DevRc × DevSys) :=
  if ¬ 0 < tapFd.toInt then .error (.crash .failedAssertion)
  else
    match opsFpaDevMutexLock s with
    | .error fault => .error fault
    | .ok s =>
        match getTapInfoBySwitchId s with
        | .error fault => .error fault
        | .ok none => .ok (.efault, s)
        | .ok (some info) =>
            match getIfEntry info.fdToTapIfMap tapFd with
            | none => .ok (.enoent, s)
            | some entry =>
                .ok (.ok, opsFpaDevMutexUnlock (setTapInfo s
                  (deleteTapIf info ⟨entry.name, tapFd, entry.portNum, entry.mac⟩)))

/-- The threads of a control pipe that cannot be set up, and of those before it, are left
alone; the caller only sees that there is no `tap_info`. -/
def opsFpaTapInit (s : DevSys) (outcome : InitOutcome) : Except DevFault (Option TapInfo) :=
  match getTapInfoBySwitchId s with
  | .error fault => .error fault
  | .ok (some info) => .ok (some info)
  | .ok none =>
      .ok (if [Listener.tap, .asic].all fun listener =>
          outcome.setNonblocking listener false && outcome.setNonblocking listener true
        then some ⟨Hmap.empty 0, fun _ => []⟩ else none)

/-- The body of the loop of `ops_fpa_tap_deinit`, with the fds that have been closed. It reads the
union of the entry as an fd. -/
def deinitTapIf (node : Nat × TapIfEntry) (s : List (BitVec 32) × DevSys) :
    Except DevFault (List (BitVec 32) × DevSys) :=
  match opsFpaTapIfDelete s.2 node.2.fd with
  | .error fault => .error fault
  | .ok (rc, next) => .ok (if rc = .ok then s.1 ++ [node.2.fd] else s.1, next)

def deleteTapIfs (info : TapInfo) (s : DevSys) : Except DevFault (List (BitVec 32) × DevSys) :=
  Hmap.forEachSafe (fun s => s.2.tapIfMap) (.crash .freedMemory) (.crash .endlessLoop) deinitTapIf
    info.fdToTapIfMap.count info.fdToTapIfMap.nodes.head? ([], s)

/-- Each listener is told to exit and joined; the record is freed only then. -/
def stopListeners (s : DevSys) : DevSys :=
  { s with
    dev := s.dev.map fun dev =>
      { dev with tapIfInfo := dev.tapIfInfo.map fun info => notifyListeners info .threadExit } }

def opsFpaTapDeinit (s : DevSys) : Except DevFault (List (BitVec 32) × DevSys) :=
  match getTapInfoBySwitchId s with
  | .error fault => .error fault
  | .ok none => .ok ([], s)
  | .ok (some info) =>
      match deleteTapIfs info s with
      | .error fault => .error fault
      | .ok (closed, s) => .ok (closed, stopListeners s)

def macLearningCreated (outcome : InitOutcome) : Bool :=
  outcome.agingTimeoutSet = .ok && outcome.srcMacLearningSet = .ok

/-- Whether `mac_learning_asic_events_handler` ends once its latch is set: its loop is `while (1)`,
and the test of the latch is commented out. -/
def asicEventsHandlerEnds (_exitLatch : Bool) : Bool := false

def opsFpaMacLearningUnref (ml : Option MacLearning) : Except DevFault Unit :=
  match ml with
  | none => .ok ()
  | some ml =>
      if !asicEventsHandlerEnds true then .error .endlessJoin
      else
        match opsFpaMacLearningFlush env portName ml with
        | .error fault => .error (.crash fault)
        | .ok _ => .ok ()

/-- The static `dev` is set before anything can fail, and stays when something does. -/
def opsFpaDevInit (s : DevSys) (outcome : InitOutcome) : Except DevFault (DevRc × DevSys) :=
  match opsFpaDevMutexLock s with
  | .error fault => .error fault
  | .ok s =>
      match s.dev with
      | some dev =>
          .ok (.ok, opsFpaDevMutexUnlock
            { s with dev := some { dev with refCnt := dev.refCnt + 1 } })
      | none =>
          match opsFpaTapInit { s with dev := some ⟨1, none, none⟩ } outcome with
          | .error fault => .error fault
          | .ok tapIfInfo =>
              if macLearningCreated outcome then
                .ok (.ok, opsFpaDevMutexUnlock { s with
                  dev := some ⟨1, tapIfInfo,
                    some (opsFpaMacLearningCreate env maxEntries outcome.extensionFound)⟩ })
              else .ok (.eagain, opsFpaDevMutexUnlock { s with dev := some ⟨1, tapIfInfo, none⟩ })

def opsFpaDevDeinit (s : DevSys) : Except DevFault (DevRc × DevSys) :=
  match opsFpaDevMutexLock s with
  | .error fault => .error fault
  | .ok s =>
      match opsFpaDevById s with
      | .error fault => .error fault
      | .ok dev =>
          let dev := { dev with refCnt := dev.refCnt - 1 }
          let s := { s with dev := some dev }
          if dev.refCnt ≠ 0 then .ok (.ok, opsFpaDevMutexUnlock s)
          else
            match opsFpaMacLearningUnref env portName dev.ml with
            | .error fault => .error fault
            | .ok () =>
                match opsFpaTapDeinit s with
                | .error fault => .error fault
                | .ok (_, s) => .ok (.ok, opsFpaDevMutexUnlock { s with dev := none })

inductive DevCall
  | init (outcome : InitOutcome)
  | deinit
  | tapIfCreate (portNum : BitVec 32) (name : CString) (mac : EthAddr) (outcome : CreateOutcome)
  | tapIfDelete (tapFd : BitVec 32)

def devStep (s : DevSys) : DevCall → Except DevFault (DevRc × DevSys)
  | .init outcome => opsFpaDevInit env maxEntries s outcome
  | .deinit => opsFpaDevDeinit env portName s
  | .tapIfCreate portNum name mac outcome => opsFpaTapIfCreate env s portNum name mac outcome
  | .tapIfDelete tapFd => opsFpaTapIfDelete s tapFd

end Calls

abbrev DevEvent := Runs.Event DevSys DevCall DevRc

abbrev DevTrace := List DevEvent

abbrev DevRun (env : Env) (portName : Nat → Option PortName) (maxEntries : Nat) (start : DevSys) :
    DevTrace → DevSys → Prop :=
  Runs.Run (devStep env portName maxEntries) start

theorem devRun_of_check (env : Env) (portName : Nat → Option PortName) (maxEntries : Nat)
    (start : DevSys) (calls : List DevCall) (check : DevTrace → DevSys → Prop)
    [∀ trace state, Decidable (check trace state)]
    (passed : (Runs.replay (devStep env portName maxEntries) [] start calls).any
      (fun result => check result.1 result.2) = true) :
    ∃ trace state, DevRun env portName maxEntries start trace state ∧ check trace state :=
  Runs.Run.of_check calls check passed

def noDev : DevSys := ⟨false, none⟩

def accepted : InitOutcome := ⟨fun _ _ => true, true, .ok, .ok⟩

end FpaPlugin

import FpaPlugin.Lib.Runs
import FpaPlugin.Fpa

/-! `ops-fpa-tap.c`: the TAP interfaces of the device, the commands that tell the two
listener threads about them, and the threads' own maps. The main thread and
`asic_listener` advance in single steps, so that every interleaving is a run. An `int` and
a `uint32_t` are both 32 bits; what differs is how they widen to the `size_t` of a hash. -/

namespace FpaPlugin

def sizeOfInt (value : BitVec 32) : Nat := (value.toInt % 2 ^ 64).toNat

/-- `struct tap_if_entry`. The union is a port number in the maps keyed by fd, and an fd in
the map keyed by port number. -/
structure TapIfEntry where
  name : CString
  word : BitVec 32
  mac : EthAddr
  deriving DecidableEq, Repr

def TapIfEntry.fd (entry : TapIfEntry) : BitVec 32 := entry.word

def TapIfEntry.portNum (entry : TapIfEntry) : BitVec 32 := entry.word

inductive CtrlCmd
  | threadExit
  | addIf (tapIfName : CString) (fd portNum : BitVec 32) (mac : EthAddr)
  | delIf (fd portNum : BitVec 32)
  deriving DecidableEq, Repr

inductive Listener
  | tap
  | asic
  deriving DecidableEq, Repr

/-- `struct tap_info`: the map of the main thread, and what is in the control pipe of each
listener, next to be read first. -/
structure TapInfo where
  fdToTapIfMap : Hmap TapIfEntry
  ctrl : Listener → List CtrlCmd

def sendCtrlCmd (info : TapInfo) (listener : Listener) (cmd : CtrlCmd) : TapInfo :=
  { info with ctrl := Function.update info.ctrl listener (info.ctrl listener ++ [cmd]) }

def getIfEntry (map : Hmap TapIfEntry) (key : BitVec 32) : Option TapIfEntry :=
  map.firstWithHash (sizeOfInt key)

def dropIfEntry (map : Hmap TapIfEntry) (key : BitVec 32) : Hmap TapIfEntry :=
  match getIfEntry map key with
  | none => map
  | some entry => map.remove (sizeOfInt key) entry

/-- The listener's map after a command. `tap_listener` files an interface under its fd,
`asic_listener` under its port number; both look it up through an `int`. -/
def applyCmd (growth : HmapGrowth) (map : Hmap TapIfEntry) : Listener → CtrlCmd → Hmap TapIfEntry
  | _, .threadExit => map
  | .tap, .addIf name fd portNum mac => map.insert growth (sizeOfInt fd) ⟨name, portNum, mac⟩
  | .tap, .delIf fd _ => dropIfEntry map fd
  | .asic, .addIf name fd portNum mac => map.insert growth portNum.toNat ⟨name, fd, mac⟩
  | .asic, .delIf _ portNum => dropIfEntry map portNum

structure TapIf where
  name : CString
  fd : BitVec 32
  portNum : BitVec 32
  mac : EthAddr
  deriving DecidableEq, Repr

def TapIf.addCmd (tapIf : TapIf) : CtrlCmd :=
  .addIf tapIf.name tapIf.fd tapIf.portNum tapIf.mac

def TapIf.delCmd (tapIf : TapIf) : CtrlCmd := .delIf tapIf.fd tapIf.portNum

def TapIf.entry (tapIf : TapIf) : TapIfEntry := ⟨tapIf.name, tapIf.portNum, tapIf.mac⟩

def notifyListeners (info : TapInfo) (cmd : CtrlCmd) : TapInfo :=
  sendCtrlCmd (sendCtrlCmd info .tap cmd) .asic cmd

def addTapIf (growth : HmapGrowth) (info : TapInfo) (tapIf : TapIf) : TapInfo :=
  notifyListeners
    { info with
      fdToTapIfMap := info.fdToTapIfMap.insert growth (sizeOfInt tapIf.fd) tapIf.entry }
    tapIf.addCmd

def deleteTapIf (info : TapInfo) (tapIf : TapIf) : TapInfo :=
  let info := notifyListeners info tapIf.delCmd
  { info with fdToTapIfMap := info.fdToTapIfMap.remove (sizeOfInt tapIf.fd) tapIf.entry }

/-- Where a call of the main thread stands. `unsent` are the listeners that have not been
told yet. -/
inductive MainPhase
  | idle
  | opened (tapIf : TapIf)
  | adding (tapIf : TapIf) (unsent : List Listener)
  | deleting (tapIf : TapIf) (unsent : List Listener)
  | closing (fd : BitVec 32)
  deriving DecidableEq, Repr

/-- Where `asic_listener` stands in its loop. A receive that timed out or failed still
drains the control pipe. -/
inductive AsicPhase
  | receiving
  | draining (inPortNum : Option (BitVec 32))
  | drained (inPortNum : BitVec 32)
  | found (inPortNum fd : BitVec 32)
  deriving DecidableEq, Repr

/-- The threads around `struct tap_info`. `kernel` gives the port whose TAP device is open
under an fd. -/
structure TapSys where
  info : TapInfo
  kernel : BitVec 32 → Option (BitVec 32)
  main : MainPhase
  asic : AsicPhase
  exited : Listener → Bool
  maps : Listener → Hmap TapIfEntry

inductive TapStep
  | tunAlloc (tapIf : TapIf)
  | insertIf
  | sendCmd
  | findIf (fd : BitVec 32)
  | removeIf
  | closeFd
  | drainTap
  | receive (inPortNum : Option (BitVec 32))
  | drainAsic
  | pipeEmpty
  | findPort
  | writeFd
  deriving DecidableEq, Repr

inductive TapFault
  | notEnabled
  deriving DecidableEq, Repr

section Threads

variable (growth : HmapGrowth)

def recvCtrlCmd (s : TapSys) (listener : Listener) : Option TapSys :=
  match s.info.ctrl listener with
  | [] => none
  | cmd :: rest =>
      some { s with
        info := { s.info with ctrl := Function.update s.info.ctrl listener rest }
        exited := Function.update s.exited listener (cmd = .threadExit)
        maps := Function.update s.maps listener
          (applyCmd growth (s.maps listener) listener cmd) }

/-- `ops_fpa_tap_if_create` has got an fd. The kernel hands out none that is open. -/
def tunAllocStep (s : TapSys) (tapIf : TapIf) : Option TapSys :=
  if s.main = .idle ∧ 0 < tapIf.fd.toInt ∧ s.kernel tapIf.fd = none then
    some { s with
      kernel := Function.update s.kernel tapIf.fd (some tapIf.portNum)
      main := .opened tapIf }
  else none

def insertIfStep (s : TapSys) : Option TapSys :=
  match s.main with
  | .opened tapIf =>
      some { s with
        info := { s.info with
          fdToTapIfMap := s.info.fdToTapIfMap.insert growth (sizeOfInt tapIf.fd) tapIf.entry }
        main := .adding tapIf [.tap, .asic] }
  | _ => none

def sendCmdStep (s : TapSys) : Option TapSys :=
  match s.main with
  | .adding tapIf (listener :: unsent) =>
      some { s with
        info := sendCtrlCmd s.info listener tapIf.addCmd
        main := if unsent = [] then .idle else .adding tapIf unsent }
  | .deleting tapIf (listener :: unsent) =>
      some { s with
        info := sendCtrlCmd s.info listener tapIf.delCmd
        main := .deleting tapIf unsent }
  | _ => none

def findIfStep (s : TapSys) (fd : BitVec 32) : Option TapSys :=
  match getIfEntry s.info.fdToTapIfMap fd with
  | none => none
  | some entry =>
      if s.main = .idle ∧ 0 < fd.toInt then
        some { s with
          main := .deleting ⟨entry.name, fd, entry.portNum, entry.mac⟩ [.tap, .asic] }
      else none

def removeIfStep (s : TapSys) : Option TapSys :=
  match s.main with
  | .deleting tapIf [] =>
      some { s with
        info := { s.info with
          fdToTapIfMap := s.info.fdToTapIfMap.remove (sizeOfInt tapIf.fd) tapIf.entry }
        main := .closing tapIf.fd }
  | _ => none

def closeFdStep (s : TapSys) : Option TapSys :=
  match s.main with
  | .closing fd =>
      some { s with
        kernel := Function.update s.kernel fd none
        main := .idle }
  | _ => none

/-- `asic_listener`: it drains the pipe after every receive and looks the port up only once
it has seen the pipe empty. -/
def asicStep (s : TapSys) : TapStep → Option TapSys
  | .receive inPortNum =>
      if s.asic = .receiving then some { s with asic := .draining inPortNum } else none
  | .drainAsic =>
      match s.asic with
      | .draining _ => recvCtrlCmd growth s .asic
      | _ => none
  | .pipeEmpty =>
      match s.asic, s.info.ctrl .asic with
      | .draining none, [] => some { s with asic := .receiving }
      | .draining (some inPortNum), [] => some { s with asic := .drained inPortNum }
      | _, _ => none
  | .findPort =>
      match s.asic with
      | .drained inPortNum =>
          match getIfEntry (s.maps .asic) inPortNum with
          | none => some { s with asic := .receiving }
          | some entry => some { s with asic := .found inPortNum entry.fd }
      | _ => none
  | .writeFd =>
      match s.asic with
      | .found _ _ => some { s with asic := .receiving }
      | _ => none
  | _ => none

def tapStep (s : TapSys) (step : TapStep) : Except TapFault (Unit × TapSys) :=
  let next := match step with
    | .tunAlloc tapIf => tunAllocStep s tapIf
    | .insertIf => insertIfStep growth s
    | .sendCmd => sendCmdStep s
    | .findIf fd => findIfStep s fd
    | .removeIf => removeIfStep s
    | .closeFd => closeFdStep s
    | .drainTap => if s.exited .tap then none else recvCtrlCmd growth s .tap
    | .receive _ | .drainAsic | .pipeEmpty | .findPort | .writeFd =>
        if s.exited .asic then none else asicStep growth s step
  match next with
  | none => .error .notEnabled
  | some next => .ok ((), next)

end Threads

abbrev TapEvent := Runs.Event TapSys TapStep Unit

abbrev TapTrace := List TapEvent

abbrev TapRun (growth : HmapGrowth) (start : TapSys) : TapTrace → TapSys → Prop :=
  Runs.Run (tapStep growth) start

theorem tapRun_of_check (growth : HmapGrowth) (start : TapSys) (steps : List TapStep)
    (check : TapTrace → TapSys → Prop) [∀ trace state, Decidable (check trace state)]
    (passed : (Runs.replay (tapStep growth) [] start steps).any
      (fun result => check result.1 result.2) = true) :
    ∃ trace state, TapRun growth start trace state ∧ check trace state :=
  Runs.Run.of_check steps check passed

structure TapSys.Initial (s : TapSys) : Prop where
  map : s.info.fdToTapIfMap = Hmap.empty 0
  ctrl : ∀ listener, s.info.ctrl listener = []
  kernel : ∀ fd, s.kernel fd = none
  main : s.main = .idle
  asic : s.asic = .receiving
  exited : ∀ listener, s.exited listener = false
  maps : ∀ listener, s.maps listener = Hmap.empty 0

def idleTap : TapSys where
  info := ⟨Hmap.empty 0, fun _ => []⟩
  kernel := fun _ => none
  main := .idle
  asic := .receiving
  exited := fun _ => false
  maps := fun _ => Hmap.empty 0

theorem idleTap_initial : idleTap.Initial where
  map := rfl
  ctrl := fun _ => rfl
  kernel := fun _ => rfl
  main := rfl
  asic := rfl
  exited := fun _ => rfl
  maps := fun _ => rfl

end FpaPlugin

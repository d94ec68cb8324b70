import FpaPlugin.Fpa
import FpaPlugin.Lib.Runs

/-! `ops-fpa-mac-learning.c`: the software FDB, and the two tables in which learning
events wait for the MAC-learning plugin. Every operation here runs under
`ml->rwlock`, so each is one atomic step. -/

namespace FpaPlugin

inductive Fault
  | nullPointer
  | freedMemory
  | failedAssertion
  | endlessLoop
  | outOfBounds
  deriving DecidableEq, Repr

inductive AddressMsgType
  | updateNew
  | updateAged
  | other
  deriving DecidableEq, Repr

structure AddressMsg where
  type : AddressMsgType
  portNum : Nat
  vid : Nat
  address : EthAddr
  deriving DecidableEq, Repr

inductive MacEvent
  | mlearnAdd
  | mlearnDel
  deriving DecidableEq, Repr, Inhabited

structure MlearnHmapNode where
  mac : EthAddr
  port : Nat
  vlan : Nat
  oper : MacEvent
  portName : CString
  deriving DecidableEq, Repr, Inhabited

/-- The name of a port found by its number: a destroyed port stays findable. -/
inductive PortName
  | named (name : CString)
  | freed
  deriving DecidableEq, Repr

/-- The hash map links slots of the node buffer, so a node is its slot index. -/
structure MlearnHmap where
  table : Hmap Nat
  nodes : Nat → MlearnHmapNode
  actualSize : Nat
  size : Nat

inductive MlearnObservation
  | recorded (vlan : Nat) (mac : EthAddr)
  | swappedOut (table : Bool)
  | cleared (table : Bool) (nodes : List MlearnHmapNode)
  | returned (table : Option Bool)

/-- Index 0 and 1 of `mlearn_event_tables` are `false` and `true`. `history` is
most recent first and no function reads it. -/
structure MacLearning where
  table : Hmap AddressMsg
  maxEntries : Nat
  mlearnEventTables : Bool → MlearnHmap
  currMlearnTableInUse : Bool
  pluginInterface : Bool
  history : List MlearnObservation

inductive MlStatus
  | ok
  | eperm
  deriving DecidableEq, Repr

def emptyMlearnHmap (env : Env) : MlearnHmap where
  table := Hmap.empty (env.growth.calcMask env.bufferSize)
  nodes := fun _ => default
  actualSize := 0
  size := env.bufferSize

def opsFpaMacLearningCreate (env : Env) (maxEntries : Nat) (pluginInterface : Bool) :
    MacLearning where
  table := Hmap.empty 0
  maxEntries := maxEntries
  mlearnEventTables := fun _ => emptyMlearnHmap env
  currMlearnTableInUse := false
  pluginInterface := pluginInterface
  history := []

def fpaHashFdbEntry (env : Env) (entry : AddressMsg) : Nat := env.hashFdb entry.vid entry.address

namespace MlearnHmap

def isFull (mhmap : MlearnHmap) : Bool := mhmap.actualSize = mhmap.size

def contents (mhmap : MlearnHmap) : List MlearnHmapNode := mhmap.table.values.map mhmap.nodes

def clear (env : Env) (mhmap : MlearnHmap) : MlearnHmap where
  table := mhmap.table.clear
  nodes := fun _ => default
  actualSize := 0
  size := env.bufferSize

def fill (mhmap : MlearnHmap) (slot : Nat) (node : MlearnHmapNode) : MlearnHmap :=
  { mhmap with nodes := Function.update mhmap.nodes slot node }

def append (env : Env) (mhmap : MlearnHmap) (hash : Nat) (node : MlearnHmapNode) : MlearnHmap where
  table := mhmap.table.insert env.growth hash mhmap.actualSize
  nodes := Function.update mhmap.nodes mhmap.actualSize node
  actualSize := mhmap.actualSize + 1
  size := mhmap.size

end MlearnHmap

section Operations

variable (env : Env) (portName : Nat → Option PortName)

def mlearnEntryFillData (entry : AddressMsg) (event : MacEvent) : Except Fault MlearnHmapNode :=
  match portName entry.portNum with
  | none => .error .failedAssertion
  | some .freed => .error .freedMemory
  | some (.named name) =>
      .ok { mac := entry.address, port := entry.portNum, vlan := entry.vid, oper := event,
            portName := name }

def opsFpaMacLearningProcessMlearn (ml : MacLearning) : MacLearning :=
  if ml.pluginInterface then
    let used := ml.currMlearnTableInUse
    if (ml.mlearnEventTables used).table.count ≠ 0 then
      let other := !used
      { ml with
        currMlearnTableInUse := other
        mlearnEventTables := Function.update ml.mlearnEventTables other
          ((ml.mlearnEventTables other).clear env)
        history := .cleared other (ml.mlearnEventTables other).contents ::
          .swappedOut used :: ml.history }
    else ml
  else ml

/-- The table in use after an event: an equal hash is taken for the same address. -/
def recordEvent (mhmap : MlearnHmap) (hash : Nat) (node : MlearnHmapNode) : MlearnHmap :=
  match mhmap.table.firstWithHash hash with
  | some slot => mhmap.fill slot node
  | none => if mhmap.actualSize < mhmap.size then mhmap.append env hash node else mhmap

def opsFpaMacLearningMlearnActionAdd (ml : MacLearning) (entry : AddressMsg) (hash : Nat)
    (event : MacEvent) : Except Fault MacLearning :=
  let used := ml.currMlearnTableInUse
  let mhmap := ml.mlearnEventTables used
  -- a full table with no node for the hash logs an error and never fills a node
  let dropped := (mhmap.table.firstWithHash hash).isNone && mhmap.size ≤ mhmap.actualSize
  let after : Except Fault MacLearning :=
    if dropped then .ok ml
    else
      match mlearnEntryFillData portName entry event with
      | .error fault => .error fault
      | .ok node =>
          .ok { ml with
            mlearnEventTables := Function.update ml.mlearnEventTables used
              (recordEvent env mhmap hash node)
            history := .recorded entry.vid entry.address :: ml.history }
  match after with
  | .error fault => .error fault
  | .ok ml =>
      if (ml.mlearnEventTables used).isFull then .ok (opsFpaMacLearningProcessMlearn env ml)
      else .ok ml

def opsFpaMacLearningInsert (ml : MacLearning) (entry : AddressMsg) :
    Except Fault (MlStatus × MacLearning) :=
  if ml.maxEntries ≤ ml.table.count then .ok (.eperm, ml)
  else
    let hash := fpaHashFdbEntry env entry
    let ml := { ml with table := ml.table.insert env.growth hash entry }
    match opsFpaMacLearningMlearnActionAdd env portName ml entry hash .mlearnAdd with
    | .error fault => .error fault
    | .ok ml => .ok (.ok, ml)

def sameAddress (vid : Nat) (address : EthAddr) (entry : AddressMsg) : Bool :=
  entry.address = address && entry.vid = vid

def opsFpaMacLearningLookup (ml : MacLearning) (wanted : AddressMsg) : Option AddressMsg :=
  (ml.table.withHash (fpaHashFdbEntry env wanted)).find? (sameAddress wanted.vid wanted.address)

def opsFpaMacLearningLookupByVlanAndMac (ml : MacLearning) (vlanId : Nat) (mac : EthAddr) :
    Option AddressMsg :=
  ml.table.values.find? (sameAddress vlanId mac)

def opsFpaMacLearningExpire (ml : MacLearning) (hash : Nat) (entry : AddressMsg) :
    Except Fault MacLearning :=
  let ml := { ml with table := ml.table.remove hash entry }
  opsFpaMacLearningMlearnActionAdd env portName ml entry hash .mlearnDel

def expireAll : List (Nat × AddressMsg) → MacLearning → Except Fault MacLearning
  | [], ml => .ok ml
  | (hash, entry) :: rest, ml =>
      match opsFpaMacLearningExpire env portName ml hash entry with
      | .error fault => .error fault
      | .ok ml => expireAll rest ml

def opsFpaMacLearningFlush (ml : MacLearning) : Except Fault MacLearning :=
  expireAll env portName ml.table.nodes ml

/-- Learning is never disabled on a VLAN, so only the port is checked. -/
def opsFpaMacLearningLearn (ml : MacLearning) (data : AddressMsg) :
    Except Fault (MlStatus × MacLearning) :=
  match portName data.portNum with
  | none => .ok (.eperm, ml)
  | some _ => opsFpaMacLearningInsert env portName ml data

def opsFpaMacLearningAgeByEntry (ml : MacLearning) (wanted : AddressMsg) :
    Except Fault MacLearning :=
  match opsFpaMacLearningLookup env ml wanted with
  | none => .ok ml
  | some entry => opsFpaMacLearningExpire env portName ml (fpaHashFdbEntry env wanted) entry

/-- The node that the scan returns is expired under the hash it was filed with. -/
def opsFpaMacLearningAgeByVlanAndMac (ml : MacLearning) (vlan : Nat) (mac : EthAddr) :
    Except Fault (MlStatus × MacLearning) :=
  match ml.table.nodes.find? fun node => sameAddress vlan mac node.2 with
  | none => .ok (.eperm, ml)
  | some (hash, entry) =>
      match opsFpaMacLearningExpire env portName ml hash entry with
      | .error fault => .error fault
      | .ok ml => .ok (.ok, ml)

/-- One message of the `mac_learning_asic_events_handler` loop. -/
def macLearningAsicEvent (ml : MacLearning) (msg : AddressMsg) : Except Fault MacLearning :=
  match msg.type with
  | .updateNew =>
      match opsFpaMacLearningLearn env portName ml msg with
      | .error fault => .error fault
      | .ok (_, ml) => .ok ml
  | .updateAged => opsFpaMacLearningAgeByEntry env portName ml msg
  | .other => .ok ml

def opsFpaMacLearningOnMlearnTimerExpired (ml : MacLearning) : MacLearning :=
  opsFpaMacLearningProcessMlearn env ml

def opsFpaMlHmapGet (ml : MacLearning) : Option Bool × MacLearning :=
  let other := !ml.currMlearnTableInUse
  let reply := if (ml.mlearnEventTables other).table.count ≠ 0 then some other else none
  (reply, { ml with history := .returned reply :: ml.history })

inductive MlCall
  | actionAdd (entry : AddressMsg) (hash : Nat) (event : MacEvent)
  | asicEvent (msg : AddressMsg)
  | flush
  | timerExpired
  | hmapGet

def mlStep (ml : MacLearning) : MlCall → Except Fault (Option Bool × MacLearning)
  | .actionAdd entry hash event =>
      match opsFpaMacLearningMlearnActionAdd env portName ml entry hash event with
      | .error fault => .error fault
      | .ok ml => .ok (none, ml)
  | .asicEvent msg =>
      match macLearningAsicEvent env portName ml msg with
      | .error fault => .error fault
      | .ok ml => .ok (none, ml)
  | .flush =>
      match opsFpaMacLearningFlush env portName ml with
      | .error fault => .error fault
      | .ok ml => .ok (none, ml)
  | .timerExpired => .ok (none, opsFpaMacLearningOnMlearnTimerExpired env ml)
  | .hmapGet => .ok (opsFpaMlHmapGet ml)

end Operations

structure MlInput where
  portName : Nat → Option PortName
  call : MlCall

abbrev MlEvent := Runs.Event MacLearning MlInput (Option Bool)

abbrev MlRun (env : Env) (start : MacLearning) : List MlEvent → MacLearning → Prop :=
  Runs.Run (fun ml input => mlStep env input.portName ml input.call) start

theorem mlRun_of_check (env : Env) (start : MacLearning) (inputs : List MlInput)
    (check : List MlEvent → MacLearning → Prop) [∀ trace ml, Decidable (check trace ml)]
    (passed : (Runs.replay (fun ml input => mlStep env input.portName ml input.call) [] start
      inputs).any (fun result => check result.1 result.2) = true) :
    ∃ trace ml, MlRun env start trace ml ∧ check trace ml :=
  Runs.Run.of_check inputs check passed

end FpaPlugin

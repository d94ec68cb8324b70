import FpaPlugin.Lib.ChangeQueue
import FpaPlugin.TapMaps
import FpaPlugin.TapReads

/-! The loop of `tap_listener` among the other threads: `select`, the commands in the control pipe,
and one pass over the fds that were reported. -/

namespace FpaPlugin

open ChangeQueue

def fdSetSize : Nat := 1024

inductive SelectPhase
  | selecting
  | draining (rd : BitVec 32 → Bool)
  | scanning (rd : BitVec 32 → Bool) (i : Nat)
  | finished

structure SelectSys where
  threads : TapSys
  ctrlFd : BitVec 32
  readFdSet : BitVec 32 → Bool
  phase : SelectPhase
  pbuf : Nat → Byte
  initTime : Option Timeval

def SelectSys.map (s : SelectSys) : Hmap TapIfEntry := s.threads.maps .tap

def SelectSys.pipe (s : SelectSys) : List CtrlCmd := s.threads.info.ctrl .tap

inductive SelectOutcome
  | ready (fds : List (BitVec 32))
  | failed (errno : Errno)
  deriving DecidableEq

/-- `thread` is a step of the main thread or of `asic_listener`. -/
inductive SelectInput
  | thread (step : TapStep)
  | select (outcome : SelectOutcome)
  | drain
  | pipeEmpty
  | visit (input : TapReadable)
  | skip
  | scanned

inductive SelectFault
  | notEnabled
  | threads (fault : TapFault)
  /-- `FD_SET` of an fd that the set has no room for. -/
  | outsideFdSet
  deriving DecidableEq, Repr

section Loop

variable (env : Env)

def checkCtrl (s : SelectSys) (rd : BitVec 32 → Bool) : SelectSys :=
  { s with phase := if rd s.ctrlFd then .draining rd else .scanning rd 0 }

/-- The control pipe is readable when it holds a command. A `select` that fails leaves the copy of
the set as it is, so that every fd counts as readable. -/
def selectReturns (s : SelectSys) (outcome : SelectOutcome) : Option SelectSys :=
  match s.phase, outcome with
  | .selecting, .failed .eintr => some { s with phase := .finished }
  | .selecting, .failed _ => some (checkCtrl s s.readFdSet)
  | .selecting, .ready fds =>
      if fds.all s.readFdSet ∧ fds.contains s.ctrlFd = !s.pipe.isEmpty then
        some (checkCtrl s fds.contains)
      else none
  | _, _ => none

def fdSetAfter (map : Hmap TapIfEntry) (fds : BitVec 32 → Bool) : CtrlCmd → BitVec 32 → Bool
  | .threadExit => fds
  | .addIf _ fd _ _ => Function.update fds fd true
  | .delIf fd _ =>
      match getIfEntry map fd with
      | none => fds
      | some _ => Function.update fds fd false

def CtrlCmd.fitsFdSet : CtrlCmd → Bool
  | .addIf _ fd _ _ => fd.toNat < fdSetSize
  | _ => true

def drainCmd (s : SelectSys) : Except SelectFault SelectSys :=
  match s.phase, s.pipe with
  | .draining rd, cmd :: _ =>
      match recvCtrlCmd env.growth s.threads .tap with
      | none => .error .notEnabled
      | some threads =>
          if cmd.fitsFdSet then
            .ok { s with
              threads
              readFdSet := fdSetAfter s.map s.readFdSet cmd
              phase := if cmd = .threadExit then .finished else .draining rd }
          else .error .outsideFdSet
  | _, _ => .error .notEnabled

def scanStarts (s : SelectSys) : Option SelectSys :=
  match s.phase, s.pipe with
  | .draining rd, [] => some { s with phase := .scanning rd 0 }
  | _, _ => none

/-- The body of the `for` loop at an fd that was reported. -/
def visitFd (s : SelectSys) (input : TapReadable) : Option (Option SentPacket × SelectSys) :=
  match s.phase with
  | .scanning rd i =>
      if i < fdSetSize ∧ input.fd = BitVec.ofNat 32 i ∧ rd input.fd ∧ input.fd ≠ s.ctrlFd ∧
          readUninterrupted input.reads ≠ none then
        let (sent, listener) := tapReadable env ⟨s.pbuf, s.initTime, s.map⟩ input
        some (sent, { s with
          phase := .scanning rd (i + 1), pbuf := listener.pbuf, initTime := listener.initTime })
      else none
  | _ => none

def skipFd (s : SelectSys) : Option SelectSys :=
  match s.phase with
  | .scanning rd i =>
      if i < fdSetSize ∧ (rd (BitVec.ofNat 32 i) = false ∨ BitVec.ofNat 32 i = s.ctrlFd) then
        some { s with phase := .scanning rd (i + 1) }
      else none
  | _ => none

def scanEnds (s : SelectSys) : Option SelectSys :=
  match s.phase with
  | .scanning _ i => if i = fdSetSize then some { s with phase := .selecting } else none
  | _ => none

def silently (next : Option SelectSys) : Except SelectFault (Option SentPacket × SelectSys) :=
  match next with
  | none => .error .notEnabled
  | some next => .ok (none, next)

def TapStep.opens : TapStep → Option (BitVec 32)
  | .tunAlloc tapIf => some tapIf.fd
  | _ => none

/-- The kernel gives a TAP no fd that is open, the control pipe's among them. -/
def selectStep (s : SelectSys) : SelectInput → Except SelectFault (Option SentPacket × SelectSys)
  | .thread step =>
      if step = .drainTap ∨ step.opens = some s.ctrlFd then .error .notEnabled
      else
        match tapStep env.growth s.threads step with
        | .error fault => .error (.threads fault)
        | .ok (_, threads) => .ok (none, { s with threads })
  | .select outcome => silently (selectReturns s outcome)
  | .drain =>
      match drainCmd env s with
      | .error fault => .error fault
      | .ok next => .ok (none, next)
  | .pipeEmpty => silently (scanStarts s)
  | .visit input =>
      match visitFd env s input with
      | none => .error .notEnabled
      | some result => .ok result
  | .skip => silently (skipFd s)
  | .scanned => silently (scanEnds s)

end Loop

abbrev SelectEvent := Runs.Event SelectSys SelectInput (Option SentPacket)

abbrev SelectRun (env : Env) (start : SelectSys) : List SelectEvent → SelectSys → Prop :=
  Runs.Run (selectStep env) start

theorem selectRun_of_check (env : Env) (start : SelectSys) (inputs : List SelectInput)
    (check : List SelectEvent → SelectSys → Prop) [∀ trace state, Decidable (check trace state)]
    (passed : (Runs.replay (selectStep env) [] start inputs).any
      (fun result => check result.1 result.2) = true) :
    ∃ trace state, SelectRun env start trace state ∧ check trace state :=
  Runs.Run.of_check inputs check passed

structure SelectSys.Initial (s : SelectSys) : Prop where
  threads : s.threads.Initial
  readFdSet : ∀ fd, s.readFdSet fd = decide (fd = s.ctrlFd)
  phase : s.phase = .selecting

def idleSelect : SelectSys where
  threads := idleTap
  ctrlFd := 3
  readFdSet := fun fd => fd = 3
  phase := .selecting
  pbuf := fun _ => 0
  initTime := none

theorem idleSelect_initial : idleSelect.Initial where
  threads := idleTap_initial
  readFdSet := fun _ => rfl
  phase := rfl

/-! The fd sets and the map. -/

/-- The set of `select` is the control pipe and the fds of the listener's own map, no fd stays in it
for long after its TAP, and every TAP of the main thread is in it, unless a command about it is
under way. -/
structure WatchesTaps (s : SelectSys) : Prop where
  own : ∀ fd, s.readFdSet fd = true ↔ fd = s.ctrlFd ∨ getIfEntry s.map fd ≠ none
  opened : ∀ fd, s.readFdSet fd = true →
    fd = s.ctrlFd ∨ s.threads.kernel fd ≠ none ∨ ∃ portNum, .delIf fd portNum ∈ s.pipe
  covers : ∀ fd entry, getIfEntry s.threads.info.fdToTapIfMap fd = some entry →
    getIfEntry s.map fd = some entry ∨
      .addIf entry.name fd entry.portNum entry.mac ∈ s.threads.inFlight .tap ∨
      ∃ tapIf unsent, s.threads.main = .deleting tapIf unsent ∧ tapIf.fd = fd

/-- The fds that TAPs have got since the listener last saw its control pipe empty. -/
def handedOut : List SelectEvent → List (BitVec 32)
  | [] => []
  | event :: earlier =>
      match event.input with
      | .thread (.tunAlloc tapIf) => tapIf.fd :: handedOut earlier
      | .select _ | .pipeEmpty => []
      | _ => handedOut earlier

/-- Once a TAP's fd has been read, a whole frame is sent as it was read, and any packet leaves by
the port of that TAP, unless the TAP took the fd over while the pass was under way. -/
def SendsByOwnPort (earlier : List SelectEvent) (event : SelectEvent) : Prop :=
  ∀ input data asked sent portNum, event.input = .visit input →
    readUninterrupted input.reads = some (.got data asked) → event.reply = some sent →
    event.before.threads.kernel input.fd = some portNum →
    (WholeFrame data → SendsRead data sent) ∧
      (sent.outPortNum = portNum ∨ input.fd ∈ handedOut earlier)

section Maps

variable {growth : HmapGrowth} {map : Hmap TapIfEntry} {fd : BitVec 32} {entry : TapIfEntry}

def FdKeyed (map : Hmap TapIfEntry) : Prop := (map.nodes.map Prod.fst).Nodup

theorem getIfEntry_eq_some_iff (keyed : FdKeyed map) :
    getIfEntry map fd = some entry ↔ (sizeOfInt fd, entry) ∈ map.nodes := by
  constructor
  · exact Hmap.firstWithHash_some
  · intro member
    cases found : getIfEntry map fd with
    | none => exact (Hmap.firstWithHash_none found entry member).elim
    | some first =>
        have isFirst := Hmap.firstWithHash_some found
        have same := List.inj_on_of_nodup_map keyed isFirst member rfl
        rw [Prod.mk.injEq] at same
        rw [same.2]

theorem fdKeyed_insert (keyed : FdKeyed map) (free : getIfEntry map fd = none) :
    FdKeyed (map.insert growth (sizeOfInt fd) entry) := by
  have grown := (Hmap.nodes_insert_perm growth map (sizeOfInt fd) entry).map Prod.fst
  refine grown.nodup_iff.mpr (List.nodup_cons.mpr ⟨?_, keyed⟩)
  intro taken
  obtain ⟨⟨hash, other⟩, member, same⟩ := List.mem_map.mp taken
  obtain rfl : hash = sizeOfInt fd := same
  exact Hmap.firstWithHash_none free other member

theorem getIfEntry_insert (keyed : FdKeyed map) (free : getIfEntry map fd = none) :
    getIfEntry (map.insert growth (sizeOfInt fd) entry) =
      Function.update (getIfEntry map) fd (some entry) := by
  funext key
  refine Option.ext fun found => ?_
  rw [getIfEntry_eq_some_iff (fdKeyed_insert keyed free), Hmap.mem_nodes_insert, Prod.mk.injEq]
  by_cases here : key = fd
  · subst here
    have absent : (sizeOfInt key, found) ∉ map.nodes := Hmap.firstWithHash_none free found
    rw [Function.update_self, Option.some.injEq]
    simp [absent, eq_comm]
  · have apart : sizeOfInt key ≠ sizeOfInt fd := fun same => here (sizeOfInt_inj same)
    rw [Function.update_of_ne here, getIfEntry_eq_some_iff keyed]
    simp [apart]

theorem fdKeyed_remove (keyed : FdKeyed map) (entry : TapIfEntry) :
    FdKeyed (map.remove (sizeOfInt fd) entry) := by
  rw [FdKeyed, Hmap.nodes_remove]
  exact (List.erase_sublist.map Prod.fst).nodup keyed

theorem getIfEntry_remove (keyed : FdKeyed map) (isFiled : getIfEntry map fd = some entry) :
    getIfEntry (map.remove (sizeOfInt fd) entry) = Function.update (getIfEntry map) fd none := by
  funext key
  refine Option.ext fun found => ?_
  rw [getIfEntry_eq_some_iff (fdKeyed_remove keyed entry), Hmap.nodes_remove,
    List.Nodup.mem_erase_iff (List.Nodup.of_map Prod.fst keyed)]
  by_cases here : key = fd
  · subst here
    rw [Function.update_self, ← getIfEntry_eq_some_iff keyed, isFiled]
    simp [eq_comm]
  · have apart : sizeOfInt key ≠ sizeOfInt fd := fun same => here (sizeOfInt_inj same)
    rw [Function.update_of_ne here, getIfEntry_eq_some_iff keyed]
    simp [apart]

def CtrlCmd.change : CtrlCmd → Option (BitVec 32 × Option TapIfEntry)
  | .threadExit => none
  | .addIf name fd portNum mac => some (fd, some ⟨name, portNum, mac⟩)
  | .delIf fd _ => some (fd, none)

theorem applyCmd_change {cmd : CtrlCmd} {change : BitVec 32 × Option TapIfEntry}
    (keyed : FdKeyed map) (isChange : cmd.change = some change)
    (flips : Flips (getIfEntry map) change) :
    FdKeyed (applyCmd growth map .tap cmd) ∧
      getIfEntry (applyCmd growth map .tap cmd) =
        Function.update (getIfEntry map) change.1 change.2 := by
  cases cmd with
  | threadExit => cases isChange
  | addIf name fd portNum mac =>
      cases isChange
      have free : getIfEntry map fd = none := flips.mpr (Option.some_ne_none _)
      exact ⟨fdKeyed_insert keyed free, getIfEntry_insert keyed free⟩
  | delIf fd portNum =>
      cases isChange
      have known : getIfEntry map fd ≠ none := fun free => flips.mp free rfl
      obtain ⟨entry, isFiled⟩ := Option.ne_none_iff_exists'.mp known
      simp only [applyCmd, dropIfEntry, isFiled]
      exact ⟨fdKeyed_remove keyed entry, getIfEntry_remove keyed isFiled⟩

theorem fdSetAfter_change {cmd : CtrlCmd} {change : BitVec 32 × Option TapIfEntry}
    {fds : BitVec 32 → Bool} {ctrlFd : BitVec 32}
    (watched : ∀ fd, fds fd = (decide (fd = ctrlFd) || (getIfEntry map fd).isSome))
    (isChange : cmd.change = some change) (spared : change.1 ≠ ctrlFd) (fd : BitVec 32) :
    fdSetAfter map fds cmd fd = (decide (fd = ctrlFd) ||
      (Function.update (getIfEntry map) change.1 change.2 fd).isSome) := by
  cases cmd with
  | threadExit => cases isChange
  | addIf name added portNum mac =>
      cases isChange
      by_cases here : fd = added
      · simp [fdSetAfter, here]
      · simp [fdSetAfter, here, watched]
  | delIf gone portNum =>
      cases isChange
      by_cases here : fd = gone
      · subst here
        have apart : fd ≠ ctrlFd := spared
        cases isFiled : getIfEntry map fd with
        | none => simp [fdSetAfter, isFiled, watched]
        | some entry => simp [fdSetAfter, isFiled, apart]
      · cases isFiled : getIfEntry map gone with
        | none => simp [fdSetAfter, isFiled, here, watched]
        | some entry => simp [fdSetAfter, isFiled, here, watched]

end Maps

end FpaPlugin

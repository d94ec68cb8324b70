import FpaPlugin.NetdevTaps

/-! The link of each network device as `ops_fpa_netdev_run` finds it, against the counter that
Open vSwitch reads. A poll that the library refuses is skipped, and a netdev that is destroyed
takes its counter with it. -/

namespace FpaPlugin

section Definitions

variable (env : NetdevEnv)

def portUp (ports : PortTable) (sid pid : Int) : Bool := !isDown env (ports sid pid).config

def pollResult (s : NetdevSys) (name : CString) (answer : PortAnswer) : Option Bool :=
  match s.find name with
  | none => none
  | some netdev =>
      if netdev.type = .system ∧ answer ≠ none then some (portUp env s.ports netdev.sid netdev.pid)
      else none

/-- What the polls of a netdev have found since it was constructed, most recent first. -/
def polled (name : CString) : List NetdevEvent → List Bool
  | [] => []
  | event :: earlier =>
      match event.input with
      | .construct other _ => if other = name then [] else polled name earlier
      | .run answers =>
          (pollResult env event.before name (answers name)).toList ++ polled name earlier
      | _ => polled name earlier

end Definitions

/-- A link is down before it is first polled. -/
def lastPolled (results : List Bool) : Bool := results.headD false

def rises : List Bool → Nat
  | [] => 0
  | up :: earlier => rises earlier + if up && !lastPolled earlier then 1 else 0

def edges : List Bool → Nat
  | [] => 0
  | up :: earlier => edges earlier + if up ≠ lastPolled earlier then 1 else 0

structure LinkCounted (netdev : FpaNetdev) (results : List Bool) : Prop where
  status : netdev.linkStatus = lastPolled results
  resets : netdev.linkResets = rises results
  announced : edges results ≤ netdev.changeSeq

section Calls

variable {env : NetdevEnv} {devEnv : Env} {portName : Nat → Option PortName} {maxEntries : Nat}
  {s next : NetdevSys}

structure SameLink (netdev record : FpaNetdev) : Prop where
  key : record.key = netdev.key
  status : record.linkStatus = netdev.linkStatus
  resets : record.linkResets = netdev.linkResets
  announced : netdev.changeSeq ≤ record.changeSeq

theorem SameLink.refl (netdev : FpaNetdev) : SameLink netdev netdev := ⟨rfl, rfl, rfl, Nat.le_refl _⟩

def pollSystem (env : NetdevEnv) (s : NetdevSys) (answers : CString → PortAnswer)
    (netdev : FpaNetdev) : FpaNetdev :=
  if netdev.type = .system then pollNetdev env s.ports netdev (answers netdev.name) else netdev

def NetdevCall.isQuiet : NetdevCall → Bool
  | .construct _ _ | .run _ => false
  | _ => true

inductive LinkMove (env : NetdevEnv) (s next : NetdevSys) : NetdevCall → Prop
  | constructed {name : CString} {type : NetdevType} (free : s.find name = none)
      (isNext : next.netdevs = newNetdev name type s.nextN :: s.netdevs) :
      LinkMove env s next (.construct name type)
  | polled {answers : CString → PortAnswer}
      (isNext : next.netdevs = s.netdevs.map (pollSystem env s answers)) :
      LinkMove env s next (.run answers)
  | quiet {call : NetdevCall} (isQuiet : call.isQuiet = true)
      (keys : (next.netdevs.map FpaNetdev.key).Sublist (s.netdevs.map FpaNetdev.key))
      (same : ∀ record ∈ next.netdevs, ∃ netdev ∈ s.netdevs, SameLink netdev record) :
      LinkMove env s next call

theorem LinkMove.of_same {call : NetdevCall} (isQuiet : call.isQuiet = true)
    (isNext : next.netdevs = s.netdevs) : LinkMove env s next call := by
  refine .quiet isQuiet ?_ ?_
  · rw [isNext]
  · rw [isNext]
    exact fun record member => ⟨record, member, SameLink.refl record⟩

theorem LinkMove.of_put {call : NetdevCall} (isQuiet : call.isQuiet = true) {name : CString}
    {netdev record : FpaNetdev} (found : s.find name = some netdev) (same : SameLink netdev record)
    (isNext : next.netdevs = KeyedList.put FpaNetdev.key s.netdevs record) :
    LinkMove env s next call := by
  refine .quiet isQuiet ?_ ?_
  · rw [isNext, KeyedList.map_key_put]
  · rw [isNext]
    intro other member
    rcases KeyedList.mem_put member with rfl | ⟨old, _⟩
    · exact ⟨netdev, (KeyedList.find_mem found).1, same⟩
    · exact ⟨other, old, SameLink.refl other⟩

theorem LearnsPort.sameLink {netdev record : FpaNetdev} {outcome : CreateOutcome}
    {sys after : DevSys} (learns : LearnsPort devEnv outcome sys netdev record after) :
    SameLink netdev record := by
  cases learns <;> exact ⟨rfl, rfl, rfl, Nat.le_refl _⟩

theorem setHwIntfConfigStep_moves (env : NetdevEnv) {name : CString} {netdev : FpaNetdev}
    (found : s.find name = some netdev) (args : HwIntfConfig) (answer : PortAnswer)
    (status : Status) :
    LinkMove env s (setHwIntfConfigStep env s netdev args answer status).2
      (.setHwIntfConfig name args answer status) := by
  have same : SameLink netdev
      (opsFpaNetdevSetHwIntfConfig env s.ports netdev args answer status).2.1 := by
    rw [opsFpaNetdevSetHwIntfConfig]
    split_ifs
    · exact SameLink.refl netdev
    · split
      · exact SameLink.refl netdev
      · cases status
        · exact ⟨rfl, rfl, rfl, Nat.le_succ _⟩
        · exact ⟨rfl, rfl, rfl, Nat.le_refl _⟩
  rw [setHwIntfConfigStep]
  split
  · exact .of_put rfl found same rfl
  · exact .of_put rfl found same rfl
  · have sameInternal : SameLink netdev (internalNetdevSetHwIntfConfig netdev args).2 := by
      rw [internalNetdevSetHwIntfConfig]
      split_ifs
      · exact SameLink.refl netdev
      · exact ⟨rfl, rfl, rfl, Nat.le_succ _⟩
    exact .of_put rfl found sameInternal rfl
  · exact .of_same rfl rfl

theorem setHwIntfInfoStep_moves {name : CString} {netdev : FpaNetdev} {args : HwIntfInfo}
    {outcome : CreateOutcome} {bridgeCreated : Bool} {reply : NetdevReply}
    (found : s.find name = some netdev)
    (called : setHwIntfInfoStep env devEnv s netdev args outcome bridgeCreated = .ok (reply, next)) :
    LinkMove env s next (.setHwIntfInfo name args outcome bridgeCreated) := by
  rw [setHwIntfInfoStep] at called
  split at called
  · split at called
    · cases called
    · rename_i learned
      cases called
      exact .of_put rfl found (setHwIntfInfo_learns learned).sameLink rfl
  · split at called
    · cases called
    · rename_i learned
      cases called
      exact .of_put rfl found (setHwIntfInfo_learns learned).sameLink rfl
  · cases called
    have same : SameLink netdev (internalNetdevSetHwIntfInfo netdev args bridgeCreated).2 := by
      rw [internalNetdevSetHwIntfInfo]
      split_ifs
      · exact SameLink.refl netdev
      · exact SameLink.refl netdev
      · exact ⟨rfl, rfl, rfl, Nat.le_refl _⟩
    exact .of_put rfl found same rfl
  · cases called
    exact .of_same rfl rfl

theorem netdevStep_moves {call : NetdevCall} {reply : NetdevReply}
    (taken : netdevStep env devEnv portName maxEntries s call = .ok (reply, next)) :
    LinkMove env s next call := by
  cases call with
  | construct name type =>
      simp only [netdevStep] at taken
      split at taken
      · cases taken
      · rename_i free
        cases taken
        exact .constructed free rfl
  | destruct name =>
      obtain ⟨netdev, _, called⟩ := onNetdev_ok taken
      split at called
      · cases called
      · cases called
        refine .quiet rfl ((List.filter_sublist).map _) ?_
        exact fun record member => ⟨record, List.mem_of_mem_filter member, SameLink.refl record⟩
  | setHwIntfInfo name args outcome bridgeCreated =>
      obtain ⟨netdev, found, called⟩ := onNetdev_ok taken
      exact setHwIntfInfoStep_moves found called
  | setHwIntfConfig name args answer status =>
      obtain ⟨netdev, found, called⟩ := onNetdev_ok taken
      have moves := setHwIntfConfigStep_moves env found args answer status
      rw [Except.ok.inj called] at moves
      exact moves
  | setEtheraddr name mac =>
      obtain ⟨netdev, found, called⟩ := onNetdev_ok taken
      cases called
      have same : SameLink netdev (FpaNetdev.setEtheraddr netdev mac) := by
        rw [FpaNetdev.setEtheraddr]
        split_ifs
        · exact ⟨rfl, rfl, rfl, Nat.le_succ _⟩
        · exact SameLink.refl netdev
      exact .of_put rfl found same rfl
  | setAdvertisements name advertise status =>
      obtain ⟨netdev, _, called⟩ := onNetdev_ok taken
      obtain ⟨ports, onlyPorts⟩ := setAdvertisementsStep_apart env s netdev advertise status
      rw [Except.ok.inj called] at onlyPorts
      obtain rfl : next = { s with ports } := onlyPorts
      exact .of_same rfl rfl
  | updateFlags name off on answer status =>
      obtain ⟨netdev, _, called⟩ := onNetdev_ok taken
      obtain ⟨ports, onlyPorts⟩ := updateFlagsStep_apart env s netdev off on answer status
      rw [Except.ok.inj called] at onlyPorts
      obtain rfl : next = { s with ports } := onlyPorts
      exact .of_same rfl rfl
  | run answers =>
      cases taken
      exact .polled rfl
  | devInit outcome =>
      simp only [netdevStep] at taken
      split at taken
      · cases taken
      · cases taken
        exact .of_same rfl rfl
  | devDeinit =>
      simp only [netdevStep] at taken
      split at taken
      · cases taken
      · cases taken
        exact .of_same rfl rfl
  | portChanged sid pid port =>
      cases taken
      exact .of_same rfl rfl

theorem polled_quiet {name : CString} {trace : List NetdevEvent} {event : NetdevEvent}
    (isQuiet : event.input.isQuiet = true) :
    polled env name (event :: trace) = polled env name trace := by
  obtain ⟨before, input, reply, after⟩ := event
  cases input with
  | construct | run => cases isQuiet
  | _ => rfl

theorem polled_other {name other : CString} {type : NetdevType} {reply : NetdevReply}
    {trace : List NetdevEvent} (different : other ≠ name) :
    polled env name (⟨s, .construct other type, reply, next⟩ :: trace) = polled env name trace :=
  if_neg different

theorem polled_run {netdev : FpaNetdev} {answers : CString → PortAnswer} {reply : NetdevReply}
    {trace : List NetdevEvent} (found : s.find netdev.name = some netdev) :
    polled env netdev.name (⟨s, .run answers, reply, next⟩ :: trace) =
      (if netdev.type = .system ∧ answers netdev.name ≠ none
        then [portUp env s.ports netdev.sid netdev.pid] else []) ++
        polled env netdev.name trace := by
  simp only [polled, pollResult, found]
  split_ifs <;> rfl

theorem LinkCounted.of_same {netdev record : FpaNetdev} {results : List Bool}
    (counted : LinkCounted netdev results) (same : SameLink netdev record) :
    LinkCounted record results where
  status := same.status.trans counted.status
  resets := same.resets.trans counted.resets
  announced := counted.announced.trans same.announced

theorem pollNetdev_counted (env : NetdevEnv) (ports : PortTable) {netdev : FpaNetdev}
    {results : List Bool} (counted : LinkCounted netdev results) (answer : PortAnswer) :
    LinkCounted (pollNetdev env ports netdev answer)
      ((if answer ≠ none then [portUp env ports netdev.sid netdev.pid] else []) ++ results) := by
  cases answer with
  | none =>
      rw [if_neg (not_not.mpr rfl)]
      exact counted
  | some flags =>
      obtain ⟨status, resets, announced⟩ := counted
      simp only [ne_eq, reduceCtorEq, not_false_eq_true, if_true, List.singleton_append, pollNetdev,
        fpaLibPortPropertiesGet, Option.map_some]
      have isUp : (!isDown env (ports netdev.sid netdev.pid).config) =
          portUp env ports netdev.sid netdev.pid := rfl
      rw [isUp]
      by_cases changed : portUp env ports netdev.sid netdev.pid ≠ netdev.linkStatus
      · rw [if_pos changed]
        rw [status] at changed
        refine ⟨rfl, ?_, ?_⟩
        · cases up : portUp env ports netdev.sid netdev.pid with
          | true =>
              rw [up] at changed
              simp [rises, resets, Bool.eq_false_iff.mpr changed.symm]
          | false => simp [rises, resets]
        · rw [edges, if_pos changed]
          exact Nat.succ_le_succ announced
      · rw [if_neg changed]
        rw [status] at changed
        have same := not_not.mp changed
        refine ⟨?_, ?_, ?_⟩
        · rw [status]
          exact same.symm
        · rw [rises, same, resets]
          simp
        · rw [edges, if_neg changed]
          exact announced

structure LinksInvariant (env : NetdevEnv) (trace : List NetdevEvent) (s : NetdevSys) : Prop where
  names : (s.netdevs.map FpaNetdev.key).Nodup
  counted : ∀ netdev ∈ s.netdevs, LinkCounted netdev (polled env netdev.name trace)

theorem pollSystem_key (env : NetdevEnv) (s : NetdevSys) (answers : CString → PortAnswer) (netdev : FpaNetdev) :
    (pollSystem env s answers netdev).key = netdev.key := by
  rw [pollSystem]
  split
  · exact (pollNetdev_same s.ports netdev _).key
  · rfl

theorem LinksInvariant.step {trace : List NetdevEvent} (invariant : LinksInvariant env trace s)
    {call : NetdevCall} {reply : NetdevReply} (moves : LinkMove env s next call) :
    LinksInvariant env (⟨s, call, reply, next⟩ :: trace) next := by
  cases moves with
  | @constructed name type free isNext =>
      have isFree := KeyedList.find_none free
      constructor
      · rw [isNext]
        exact List.nodup_cons.mpr ⟨isFree, invariant.names⟩
      · rw [isNext]
        intro netdev member
        rcases List.mem_cons.mp member with rfl | old
        · have none : polled env name (⟨s, .construct name type, reply, next⟩ :: trace) = [] :=
            if_pos rfl
          rw [show (newNetdev name type s.nextN).name = name from rfl, none]
          exact ⟨rfl, rfl, Nat.zero_le _⟩
        · have different : name ≠ netdev.name := by
            rintro rfl
            exact isFree (List.mem_map_of_mem old)
          rw [polled_other different]
          exact invariant.counted netdev old
  | @polled answers isNext =>
      constructor
      · rw [isNext, List.map_map]
        have keys := List.map_congr_left fun netdev (_ : netdev ∈ s.netdevs) =>
          pollSystem_key env s answers netdev
        exact keys ▸ invariant.names
      · rw [isNext]
        intro record member
        obtain ⟨netdev, isNetdev, rfl⟩ := List.mem_map.mp member
        have sameName : (pollSystem env s answers netdev).name = netdev.name :=
          pollSystem_key env s answers netdev
        have found : s.find netdev.name = some netdev :=
          KeyedList.find_of_mem invariant.names isNetdev
        have counted := invariant.counted netdev isNetdev
        rw [sameName, polled_run found, pollSystem]
        by_cases isSystem : netdev.type = .system
        · simp only [isSystem, if_true, true_and]
          exact pollNetdev_counted env s.ports counted (answers netdev.name)
        · simp only [isSystem, if_false, false_and]
          exact counted
  | quiet isQuiet keys same =>
      refine ⟨keys.nodup invariant.names, ?_⟩
      intro record member
      obtain ⟨netdev, isNetdev, sameLink⟩ := same record member
      rw [polled_quiet isQuiet, show record.name = netdev.name from sameLink.key]
      exact (invariant.counted netdev isNetdev).of_same sameLink

end Calls

/-- In every run the link status of a network device is what its last poll found, the resets are
the polls that found the link up after it was down, and every change has been announced. -/
theorem link_resets_count_rises (env : NetdevEnv) (devEnv : Env)
    (portName : Nat → Option PortName) (maxEntries : Nat) (ports : PortTable)
    (trace : List NetdevEvent) (s : NetdevSys)
    (run : NetdevRun env devEnv portName maxEntries (noNetdevs ports) trace s) :
    ∀ netdev ∈ s.netdevs, LinkCounted netdev (polled env netdev.name trace) := by
  have invariant : LinksInvariant env trace s := by
    induction run with
    | nil => exact ⟨List.nodup_nil, fun _ absurdity => (List.not_mem_nil absurdity).elim⟩
    | cons _ taken ih => exact ih.step (netdevStep_moves taken)
  exact invariant.counted

theorem link_resets_count_two_rises :
    ∃ trace s, NetdevRun plainNetdevEnv idealEnv (fun _ => none) 16384
        (noNetdevs fun _ _ => ⟨1, 0, 0, 0, 0⟩) trace s ∧
      polled plainNetdevEnv "5".toList trace = [true, false, true, false] ∧
      s.netdevs.map FpaNetdev.linkResets = [2] ∧
      ∀ netdev ∈ s.netdevs, LinkCounted netdev (polled plainNetdevEnv netdev.name trace) := by
  obtain ⟨trace, s, run, polls, resets⟩ := netdevRun_of_check plainNetdevEnv idealEnv
    (fun _ => none) 16384 (noNetdevs fun _ _ => ⟨1, 0, 0, 0, 0⟩)
    [.devInit accepted, .construct "5".toList .system,
      .setHwIntfInfo "5".toList (portInfo "5".toList) (opensFd 7#32) true,
      .run fun _ => some fun _ => true,
      .setHwIntfConfig "5".toList ⟨true, true, none, false, .neither⟩ (some fun _ => true) .ok,
      .run fun _ => some fun _ => true,
      .updateFlags "5".toList true false (some fun _ => true) .ok,
      .run fun _ => none,
      .run fun _ => some fun _ => true,
      .updateFlags "5".toList false true (some fun _ => true) .ok,
      .run fun _ => some fun _ => true]
    (fun trace s => polled plainNetdevEnv "5".toList trace = [true, false, true, false] ∧
      s.netdevs.map FpaNetdev.linkResets = [2]) (by decide +kernel)
  exact ⟨trace, s, run, polls, resets,
    link_resets_count_rises plainNetdevEnv idealEnv (fun _ => none) 16384 _ trace s run⟩

end FpaPlugin

import FpaPlugin.System

/-! The software FDB as a finite map: what the address messages of a run say about
where each station is, and when the table agrees with it. -/

namespace FpaPlugin

abbrev FdbKey := Nat × EthAddr

def fdbKey (entry : AddressMsg) : FdbKey := (entry.vid, entry.address)

def hashFdbKey (env : Env) (key : FdbKey) : Nat := env.hashFdb key.1 key.2

/-- The port where the station was learned last, unless it aged or was flushed since. -/
def fdbSpec : List MlEvent → FdbKey → Option Nat
  | [], _ => none
  | event :: earlier, key =>
      match event.input.call with
      | .asicEvent msg =>
          match msg.type with
          | .updateNew => if fdbKey msg = key then some msg.portNum else fdbSpec earlier key
          | .updateAged => if fdbKey msg = key then none else fdbSpec earlier key
          | .other => fdbSpec earlier key
      | .flush => none
      | _ => fdbSpec earlier key

def learnsWithRoom (event : MlEvent) : Bool :=
  match event.input.call with
  | .asicEvent msg =>
      match msg.type with
      | .updateNew =>
          (event.input.portName msg.portNum).isSome &&
            decide (event.before.table.count < event.before.maxEntries)
      | _ => true
  | _ => true

def learnsUnknown (earlier : List MlEvent) (event : MlEvent) : Bool :=
  match event.input.call with
  | .asicEvent msg =>
      match msg.type with
      | .updateNew => (fdbSpec earlier (fdbKey msg)).isNone
      | _ => true
  | _ => true

structure FdbRefines (env : Env) (trace : List MlEvent) (ml : MacLearning) : Prop where
  once : (ml.table.values.map fdbKey).Nodup
  lookup : ∀ wanted, (opsFpaMacLearningLookup env ml wanted).map AddressMsg.portNum =
    fdbSpec trace (fdbKey wanted)
  gone : ∀ key, fdbSpec trace key = none → key ∉ ml.table.values.map fdbKey

section Table

variable {env : Env} {portName : Nat → Option PortName} {ml ml' : MacLearning}

theorem processMlearn_table (ml : MacLearning) :
    (opsFpaMacLearningProcessMlearn env ml).table = ml.table := by
  simp only [opsFpaMacLearningProcessMlearn]
  split
  · split
    · rfl
    · rfl
  · rfl

theorem actionAdd_table {entry : AddressMsg} {hash : Nat} {event : MacEvent}
    (added : opsFpaMacLearningMlearnActionAdd env portName ml entry hash event = .ok ml') :
    ml'.table = ml.table := by
  simp only [opsFpaMacLearningMlearnActionAdd] at added
  split at added
  · cases added
  · rename_i recorded isRecorded
    have kept : recorded.table = ml.table := by
      split at isRecorded
      · cases isRecorded
        rfl
      · split at isRecorded
        · cases isRecorded
        · cases isRecorded
          rfl
    split at added
    · cases added
      rw [processMlearn_table, kept]
    · cases added
      exact kept

theorem expire_table {hash : Nat} {entry : AddressMsg}
    (expired : opsFpaMacLearningExpire env portName ml hash entry = .ok ml') :
    ml'.table = ml.table.remove hash entry :=
  actionAdd_table expired

theorem expireAll_nodes {rest : List (Nat × AddressMsg)}
    (flushed : expireAll env portName rest ml = .ok ml') (whole : ml.table.nodes.Perm rest) :
    ml'.table.nodes = [] := by
  induction rest generalizing ml with
  | nil =>
      cases flushed
      exact whole.eq_nil
  | cons node rest ih =>
      obtain ⟨hash, entry⟩ := node
      simp only [expireAll] at flushed
      split at flushed
      · cases flushed
      · rename_i expired isExpired
        apply ih flushed
        rw [expire_table isExpired]
        have removed := (Hmap.nodes_remove_perm ml.table hash entry).trans
          (whole.erase (hash, entry))
        simpa using removed

theorem learn_table {msg : AddressMsg} {status : MlStatus}
    (learned : opsFpaMacLearningLearn env portName ml msg = .ok (status, ml')) :
    ((portName msg.portNum = none ∨ ml.maxEntries ≤ ml.table.count) ∧ ml'.table = ml.table) ∨
      ml'.table = ml.table.insert env.growth (fpaHashFdbEntry env msg) msg := by
  simp only [opsFpaMacLearningLearn] at learned
  cases port : portName msg.portNum with
  | none =>
      rw [port] at learned
      cases learned
      exact .inl ⟨.inl rfl, rfl⟩
  | some name =>
      rw [port] at learned
      simp only [opsFpaMacLearningInsert] at learned
      split at learned
      · rename_i full
        cases learned
        exact .inl ⟨.inr full, rfl⟩
      · split at learned
        · cases learned
        · rename_i added
          cases learned
          exact .inr (actionAdd_table added)

theorem ageByEntry_table {wanted : AddressMsg}
    (aged : opsFpaMacLearningAgeByEntry env portName ml wanted = .ok ml') :
    (opsFpaMacLearningLookup env ml wanted = none ∧ ml'.table = ml.table) ∨
      ∃ entry, opsFpaMacLearningLookup env ml wanted = some entry ∧
        ml'.table = ml.table.remove (fpaHashFdbEntry env wanted) entry := by
  simp only [opsFpaMacLearningAgeByEntry] at aged
  cases found : opsFpaMacLearningLookup env ml wanted with
  | none =>
      rw [found] at aged
      cases aged
      exact .inl ⟨rfl, rfl⟩
  | some entry =>
      rw [found] at aged
      exact .inr ⟨entry, rfl, expire_table aged⟩

inductive FdbStep (env : Env) (portName : Nat → Option PortName) (ml ml' : MacLearning) :
    MlCall → Prop
  | refused {msg : AddressMsg} : msg.type = .updateNew →
      (portName msg.portNum = none ∨ ml.maxEntries ≤ ml.table.count) →
      ml'.table = ml.table → FdbStep env portName ml ml' (.asicEvent msg)
  | learned {msg : AddressMsg} : msg.type = .updateNew →
      ml'.table = ml.table.insert env.growth (fpaHashFdbEntry env msg) msg →
      FdbStep env portName ml ml' (.asicEvent msg)
  | unknown {msg : AddressMsg} : msg.type = .updateAged →
      opsFpaMacLearningLookup env ml msg = none → ml'.table = ml.table →
      FdbStep env portName ml ml' (.asicEvent msg)
  | aged {msg entry : AddressMsg} : msg.type = .updateAged →
      opsFpaMacLearningLookup env ml msg = some entry →
      ml'.table = ml.table.remove (fpaHashFdbEntry env msg) entry →
      FdbStep env portName ml ml' (.asicEvent msg)
  | flushed : ml'.table.nodes = [] → FdbStep env portName ml ml' .flush
  | kept {call : MlCall} : call ≠ .flush → (∀ msg, call = .asicEvent msg → msg.type = .other) →
      ml'.table = ml.table → FdbStep env portName ml ml' call

theorem asicEvent_fdbStep {msg : AddressMsg}
    (handled : macLearningAsicEvent env portName ml msg = .ok ml') :
    FdbStep env portName ml ml' (.asicEvent msg) := by
  simp only [macLearningAsicEvent] at handled
  cases type : msg.type with
  | updateNew =>
      rw [type] at handled
      simp only at handled
      split at handled
      · cases handled
      · rename_i learned
        cases handled
        rcases learn_table learned with ⟨why, same⟩ | inserted
        · exact .refused type why same
        · exact .learned type inserted
  | updateAged =>
      rw [type] at handled
      rcases ageByEntry_table handled with ⟨missing, same⟩ | ⟨entry, found, removed⟩
      · exact .unknown type missing same
      · exact .aged type found removed
  | other =>
      rw [type] at handled
      cases handled
      exact .kept (by simp) (by rintro _ ⟨⟩; exact type) rfl

theorem mlStep_fdbStep {call : MlCall} {reply : Option Bool}
    (taken : mlStep env portName ml call = .ok (reply, ml')) :
    FdbStep env portName ml ml' call := by
  cases call with
  | actionAdd entry hash event =>
      simp only [mlStep] at taken
      split at taken
      · cases taken
      · rename_i added
        cases taken
        exact .kept (by simp) (by simp) (actionAdd_table added)
  | asicEvent msg =>
      simp only [mlStep] at taken
      split at taken
      · cases taken
      · rename_i handled
        cases taken
        exact asicEvent_fdbStep handled
  | flush =>
      simp only [mlStep] at taken
      split at taken
      · cases taken
      · rename_i flushed
        cases taken
        exact .flushed (expireAll_nodes flushed (List.Perm.refl _))
  | timerExpired =>
      cases taken
      exact .kept (by simp) (by simp) (processMlearn_table ml)
  | hmapGet =>
      cases taken
      exact .kept (by simp) (by simp) rfl

theorem mlStep_hashed {call : MlCall} {reply : Option Bool}
    (fdb : ml.table.Hashed (hashFdbKey env) fdbKey)
    (taken : mlStep env portName ml call = .ok (reply, ml')) :
    ml'.table.Hashed (hashFdbKey env) fdbKey := by
  cases mlStep_fdbStep taken with
  | refused _ _ same => rwa [same]
  | learned _ inserted =>
      rw [inserted]
      exact fdb.insert env.growth _
  | unknown _ _ same => rwa [same]
  | aged _ found removed =>
      rw [removed]
      intro node member
      exact fdb node (Hmap.mem_nodes_remove member)
  | flushed empty =>
      intro node member
      rw [empty] at member
      cases member
  | kept _ _ same => rwa [same]

end Table

section Refinement

variable {env : Env} {trace : List MlEvent} {ml ml' : MacLearning}

structure FdbInvariant (env : Env) (trace : List MlEvent) (ml : MacLearning) : Prop where
  keyed : ml.table.Keyed (hashFdbKey env) fdbKey
  agrees : ∀ key, (ml.table.lookup (hashFdbKey env) fdbKey key).map AddressMsg.portNum =
    fdbSpec trace key

theorem sameAddress_eq (wanted : AddressMsg) :
    sameAddress wanted.vid wanted.address = fun entry => decide (fdbKey entry = fdbKey wanted) := by
  funext entry
  simp [sameAddress, fdbKey, Bool.and_comm]

theorem lookup_eq (keyed : ml.table.Keyed (hashFdbKey env) fdbKey) (wanted : AddressMsg) :
    opsFpaMacLearningLookup env ml wanted =
      ml.table.lookup (hashFdbKey env) fdbKey (fdbKey wanted) := by
  rw [← keyed.hashed.find_withHash, opsFpaMacLearningLookup, sameAddress_eq]
  rfl

theorem FdbInvariant.refines (invariant : FdbInvariant env trace ml) :
    FdbRefines env trace ml where
  once := invariant.keyed.unique
  lookup := by
    intro wanted
    rw [lookup_eq invariant.keyed]
    exact invariant.agrees (fdbKey wanted)
  gone := by
    intro key unknown member
    obtain ⟨entry, inTable, same⟩ := List.mem_map.mp member
    have agreed := invariant.agrees key
    rw [unknown, Option.map_eq_none_iff] at agreed
    exact invariant.keyed.hashed.lookup_none agreed entry inTable same

theorem FdbInvariant.learned (invariant : FdbInvariant env trace ml) {msg : AddressMsg}
    (unknown : fdbSpec trace (fdbKey msg) = none) {event : MlEvent}
    (call : event.input.call = .asicEvent msg) (type : msg.type = .updateNew)
    (inserted : ml'.table = ml.table.insert env.growth (fpaHashFdbEntry env msg) msg) :
    FdbInvariant env (event :: trace) ml' := by
  have fresh : ml.table.lookup (hashFdbKey env) fdbKey (fdbKey msg) = none := by
    have agreed := invariant.agrees (fdbKey msg)
    rwa [unknown, Option.map_eq_none_iff] at agreed
  have filed : ml'.table = ml.table.insert env.growth (hashFdbKey env (fdbKey msg)) msg := inserted
  constructor
  · rw [filed]
    exact invariant.keyed.insert env.growth fresh
  · intro key
    rw [filed, invariant.keyed.lookup_insert env.growth fresh]
    simp only [fdbSpec, call, type]
    split
    · rfl
    · exact invariant.agrees key

theorem FdbInvariant.aged (invariant : FdbInvariant env trace ml) {msg entry : AddressMsg}
    {event : MlEvent} (call : event.input.call = .asicEvent msg) (type : msg.type = .updateAged)
    (found : opsFpaMacLearningLookup env ml msg = some entry)
    (removed : ml'.table = ml.table.remove (fpaHashFdbEntry env msg) entry) :
    FdbInvariant env (event :: trace) ml' := by
  rw [lookup_eq invariant.keyed] at found
  obtain ⟨member, same⟩ := Hmap.lookup_some found
  have filed : ml'.table = ml.table.remove (hashFdbKey env (fdbKey entry)) entry := by
    rw [same]
    exact removed
  constructor
  · rw [filed]
    exact invariant.keyed.remove member
  · intro key
    rw [filed, invariant.keyed.lookup_remove member, same]
    simp only [fdbSpec, call, type]
    split
    · rfl
    · exact invariant.agrees key

theorem FdbInvariant.emptied {event : MlEvent} (call : event.input.call = .flush)
    (flushed : ml'.table.nodes = []) : FdbInvariant env (event :: trace) ml' := by
  have none : ∀ hash, ml'.table.inBucket hash = [] := by
    intro hash
    apply List.eq_nil_iff_forall_not_mem.mpr
    intro entry member
    obtain ⟨_, inNodes, _⟩ := Hmap.mem_inBucket.mp member
    simp [flushed] at inNodes
  constructor
  · constructor
    · simp [Hmap.Hashed, flushed]
    · simp [Hmap.values, flushed]
  · intro key
    simp [Hmap.lookup, none, fdbSpec, call]

theorem FdbInvariant.kept (invariant : FdbInvariant env trace ml) {event : MlEvent}
    (same : ml'.table = ml.table) (spec : ∀ key, fdbSpec (event :: trace) key = fdbSpec trace key) :
    FdbInvariant env (event :: trace) ml' := by
  constructor
  · rw [same]
    exact invariant.keyed
  · intro key
    rw [same, spec]
    exact invariant.agrees key

theorem mlStep_fdbInvariant (event : MlEvent) (invariant : FdbInvariant env trace event.before)
    (taken : mlStep env event.input.portName event.before event.input.call =
      .ok (event.reply, event.after))
    (room : learnsWithRoom event) (unknown : learnsUnknown trace event) :
    FdbInvariant env (event :: trace) event.after := by
  have stepped := mlStep_fdbStep taken
  generalize isCall : event.input.call = call at stepped
  cases stepped with
  | refused type why same =>
      simp only [learnsWithRoom, isCall, type, Bool.and_eq_true, decide_eq_true_eq] at room
      rcases why with unregistered | full
      · simp [unregistered] at room
      · omega
  | learned type inserted =>
      simp only [learnsUnknown, isCall, type, Option.isNone_iff_eq_none] at unknown
      exact invariant.learned unknown isCall type inserted
  | unknown type missing same =>
      rename_i msg
      apply invariant.kept same
      intro key
      rw [lookup_eq invariant.keyed] at missing
      have agreed := invariant.agrees (fdbKey msg)
      rw [missing] at agreed
      simp only [fdbSpec, isCall, type]
      split
      · rename_i here
        rw [← here]
        exact agreed
      · rfl
  | aged type found removed => exact invariant.aged isCall type found removed
  | flushed nodes => exact .emptied isCall nodes
  | kept notFlush other same =>
      apply invariant.kept same
      intro key
      cases call with
      | asicEvent msg => simp only [fdbSpec, isCall, other msg rfl]
      | flush => exact (notFlush rfl).elim
      | actionAdd => simp only [fdbSpec, isCall]
      | timerExpired => simp only [fdbSpec, isCall]
      | hmapGet => simp only [fdbSpec, isCall]

theorem create_fdbInvariant (env : Env) (maxEntries : Nat) (pluginInterface : Bool) :
    FdbInvariant env [] (opsFpaMacLearningCreate env maxEntries pluginInterface) where
  keyed := Hmap.Keyed.empty 0
  agrees := fun _ => rfl

theorem learned_known_twice (event : MlEvent) (invariant : FdbInvariant env trace event.before)
    (taken : mlStep env event.input.portName event.before event.input.call =
      .ok (event.reply, event.after))
    (room : learnsWithRoom event) (known : ¬ learnsUnknown trace event) :
    ¬ (event.after.table.values.map fdbKey).Nodup := by
  have stepped := mlStep_fdbStep taken
  generalize isCall : event.input.call = call at stepped
  cases stepped with
  | refused type why same =>
      simp only [learnsWithRoom, isCall, type, Bool.and_eq_true, decide_eq_true_eq] at room
      rcases why with unregistered | full
      · simp [unregistered] at room
      · omega
  | learned type inserted =>
      rename_i msg
      simp only [learnsUnknown, isCall, type, Option.isNone_iff_eq_none] at known
      rw [← invariant.agrees, Option.map_eq_none_iff, ← ne_eq, Option.ne_none_iff_exists'] at known
      obtain ⟨entry, found⟩ := known
      obtain ⟨member, same⟩ := Hmap.lookup_some found
      have perm := (Hmap.values_insert_perm env.growth event.before.table
        (fpaHashFdbEntry env msg) msg).map fdbKey
      rw [inserted, perm.nodup_iff, List.map_cons, List.nodup_cons]
      exact fun unique => unique.1 (List.mem_map.mpr ⟨entry, member, same⟩)
  | unknown type => simp [learnsUnknown, isCall, type] at known
  | aged type => simp [learnsUnknown, isCall, type] at known
  | flushed => simp [learnsUnknown, isCall] at known
  | kept notFlush other =>
      cases call with
      | asicEvent msg => simp [learnsUnknown, isCall, other msg rfl] at known
      | _ => simp [learnsUnknown, isCall] at known

theorem run_fdbInvariant {maxEntries : Nat} {pluginInterface : Bool}
    (run : MlRun env (opsFpaMacLearningCreate env maxEntries pluginInterface) trace ml)
    (room : Runs.Along (fun _ event => learnsWithRoom event) trace)
    (unknown : Runs.Along (fun earlier event => learnsUnknown earlier event) trace) :
    FdbInvariant env trace ml := by
  refine Runs.Run.invariant (create_fdbInvariant env maxEntries pluginInterface) ?_ run
    (room.and unknown)
  intro earlier before input reply after invariant taken allowed
  exact mlStep_fdbInvariant ⟨before, input, reply, after⟩ invariant taken allowed.1 allowed.2

/-- The FDB is the map that the messages describe at every point of a run exactly when no
station is learned while it is still known. -/
theorem fdb_refines_iff_learns_unknown (env : Env) (maxEntries : Nat) (pluginInterface : Bool)
    (trace : List MlEvent) (ml : MacLearning)
    (run : MlRun env (opsFpaMacLearningCreate env maxEntries pluginInterface) trace ml)
    (room : Runs.Along (fun _ event => learnsWithRoom event) trace) :
    Runs.Along (fun earlier event => FdbRefines env (event :: earlier) event.after) trace ↔
      Runs.Along (fun earlier event => learnsUnknown earlier event) trace := by
  induction run with
  | nil => exact Iff.rfl
  | cons run taken ih =>
      rw [Runs.Along, Runs.Along, ih room.2]
      refine and_congr_left fun unknown => ?_
      have invariant := run_fdbInvariant run room.2 unknown
      constructor
      · intro refines
        by_contra known
        exact learned_known_twice ⟨_, _, _, _⟩ invariant taken room.1 known refines.once
      · intro fresh
        exact (mlStep_fdbInvariant ⟨_, _, _, _⟩ invariant taken room.1 fresh).refines

end Refinement

section Station

def twoPorts (pid : Nat) : Option PortName :=
  if pid = 1 then some (.named "1".toList) else if pid = 2 then some (.named "2".toList) else none

def stationMsg (type : AddressMsgType) (port : Nat) : MlInput :=
  ⟨twoPorts, .asicEvent ⟨type, port, 10, 5#48⟩⟩

theorem fdb_refines_station_aged_and_moved :
    ∃ trace ml, MlRun idealEnv (opsFpaMacLearningCreate idealEnv 16384 true) trace ml ∧
      fdbSpec trace (10, 5#48) = some 2 ∧
      Runs.Along (fun earlier event => FdbRefines idealEnv (event :: earlier) event.after)
        trace := by
  obtain ⟨trace, ml, run, now, room, unknown⟩ := mlRun_of_check idealEnv
    (opsFpaMacLearningCreate idealEnv 16384 true)
    [stationMsg .updateNew 1, stationMsg .updateAged 1, stationMsg .updateNew 2]
    (fun trace _ => fdbSpec trace (10, 5#48) = some 2 ∧
      Runs.Along (fun _ event => learnsWithRoom event) trace ∧
      Runs.Along (fun earlier event => learnsUnknown earlier event) trace) (by decide +kernel)
  exact ⟨trace, ml, run, now,
    (fdb_refines_iff_learns_unknown idealEnv 16384 true trace ml run room).mpr unknown⟩

theorem fdb_keeps_moved_station_after_aging :
    ∃ trace ml, MlRun idealEnv (opsFpaMacLearningCreate idealEnv 16384 true) trace ml ∧
      Runs.Along (fun _ event => learnsWithRoom event) trace ∧
      ¬ FdbRefines idealEnv trace ml := by
  obtain ⟨trace, ml, run, room, aged, left⟩ := mlRun_of_check idealEnv
    (opsFpaMacLearningCreate idealEnv 16384 true)
    [stationMsg .updateNew 1, stationMsg .updateNew 2, stationMsg .updateAged 2]
    (fun trace ml => Runs.Along (fun _ event => learnsWithRoom event) trace ∧
      fdbSpec trace (10, 5#48) = none ∧ (10, 5#48) ∈ ml.table.values.map fdbKey)
    (by decide +kernel)
  exact ⟨trace, ml, run, room, fun refines => refines.gone _ aged left⟩

end Station

end FpaPlugin

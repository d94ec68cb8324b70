import Mathlib.Data.List.Find
import FpaPlugin.MlearnBuffers

/-! What the event table in use says about the addresses touched since the tables last
changed roles. A node is found by its hash alone, so that two addresses with one hash share
a node and the later event takes the place of the earlier one. -/

namespace FpaPlugin

abbrev FdbEvent := AddressMsg × MacEvent

/-- The events that a call has to record, in the order they happen. -/
def fdbEvents (env : Env) (portName : Nat → Option PortName) (ml : MacLearning) :
    MlCall → List FdbEvent
  | .actionAdd entry _ event => [(entry, event)]
  | .asicEvent msg =>
      match msg.type with
      | .updateNew =>
          if (portName msg.portNum).isSome ∧ ml.table.count < ml.maxEntries then
            [(msg, .mlearnAdd)]
          else []
      | .updateAged =>
          match opsFpaMacLearningLookup env ml msg with
          | some entry => [(entry, .mlearnDel)]
          | none => []
      | .other => []
  | .flush => ml.table.values.map fun entry => (entry, .mlearnDel)
  | .timerExpired => []
  | .hmapGet => []

/-- The events of a run, most recent first. -/
def eventsAlong (env : Env) : List MlEvent → List FdbEvent
  | [] => []
  | event :: earlier =>
      (fdbEvents env event.input.portName event.before event.input.call).reverse ++
        eventsAlong env earlier

def recordedSince : List MlearnObservation → Nat
  | [] => 0
  | .swappedOut _ :: _ => 0
  | .recorded _ _ :: earlier => recordedSince earlier + 1
  | _ :: earlier => recordedSince earlier

/-- The events since the tables last changed roles, most recent first. -/
def touched (env : Env) (trace : List MlEvent) (ml : MacLearning) : List FdbEvent :=
  (eventsAlong env trace).take (recordedSince ml.history)

def MacLearning.inUse (ml : MacLearning) : MlearnHmap :=
  ml.mlearnEventTables ml.currMlearnTableInUse

/-- Each address that was touched has one node, with the operation and the port of the last
event for it. -/
def RecordsLast (events : List FdbEvent) (mhmap : MlearnHmap) : Prop :=
  ∀ key event, events.find? (fun event => fdbKey event.1 = key) = some event →
    ∃ node, mhmap.contents.filter (fun node => nodeKey node = key) = [node] ∧
      node.port = event.1.portNum ∧ node.oper = event.2

def ToldApart (env : Env) (events : List FdbEvent) : Prop :=
  ∀ event ∈ events, ∀ other ∈ events,
    fpaHashFdbEntry env event.1 = fpaHashFdbEntry env other.1 → fdbKey event.1 = fdbKey other.1

/-- A learn, an age, a flush, or a read or an exchange of the tables. -/
def MlCall.isOperation : MlCall → Bool
  | .actionAdd _ _ _ => false
  | _ => true

section Recorded

variable {env : Env} {portName : Nat → Option PortName} {ml ml' : MacLearning}
  {events : List FdbEvent}

structure IsNodeOf (node : MlearnHmapNode) (event : FdbEvent) : Prop where
  key : nodeKey node = fdbKey event.1
  port : node.port = event.1.portNum
  oper : node.oper = event.2

/-- Under each hash the table has the last event with that hash. -/
structure Recorded (env : Env) (ml : MacLearning) (events : List FdbEvent) : Prop where
  attached : ml.pluginInterface = true
  sound : TableSound ml.inUse
  room : ml.inUse.actualSize < ml.inUse.size
  last : ∀ record ∈ recordsIn ml.inUse, ∃ event,
    events.find? (fun event => fpaHashFdbEntry env event.1 = record.1) = some event ∧
      IsNodeOf record.2 event
  covers : ∀ event ∈ events, fpaHashFdbEntry env event.1 ∈ (recordsIn ml.inUse).map Prod.fst

theorem Recorded.of_empty (attached : ml.pluginInterface = true)
    (positive : 0 < env.bufferSize) (empty : ml.inUse.table.nodes = [])
    (unused : ml.inUse.actualSize = 0) (size : ml.inUse.size = env.bufferSize) :
    Recorded env ml [] where
  attached := attached
  sound := ⟨by simp [empty], by simp [Hmap.values, empty], by simp [Hmap.values, empty],
    by simp [Hmap.count, empty, unused]⟩
  room := by omega
  last := by simp [recordsIn, empty]
  covers := by simp

theorem Recorded.fill (recorded : Recorded env ml events) {event : FdbEvent}
    {node : MlearnHmapNode} (isNode : IsNodeOf node event) {mhmap : MlearnHmap}
    (sound : TableSound mhmap) (room : mhmap.actualSize < mhmap.size)
    (records : ∀ record, record ∈ recordsIn mhmap ↔
      record = (fpaHashFdbEntry env event.1, node) ∨
        record ∈ recordsIn ml.inUse ∧ record.1 ≠ fpaHashFdbEntry env event.1)
    (noted : ml'.inUse = mhmap) (attached : ml'.pluginInterface = ml.pluginInterface) :
    Recorded env ml' (event :: events) where
  attached := attached.trans recorded.attached
  sound := noted ▸ sound
  room := noted ▸ room
  last := by
    intro record member
    rw [noted, records] at member
    rcases member with rfl | ⟨old, different⟩
    · exact ⟨event, by simp, isNode⟩
    · obtain ⟨last, isLast, isNodeOfLast⟩ := recorded.last record old
      refine ⟨last, ?_, isNodeOfLast⟩
      rw [List.find?_cons_of_neg (by simpa using Ne.symm different)]
      exact isLast
  covers := by
    intro other member
    rw [noted, List.mem_map]
    by_cases here : fpaHashFdbEntry env other.1 = fpaHashFdbEntry env event.1
    · exact ⟨_, (records _).mpr (.inl rfl), here.symm⟩
    · rcases List.mem_cons.mp member with rfl | old
      · exact (here rfl).elim
      · obtain ⟨record, isRecord, isHash⟩ := List.mem_map.mp (recorded.covers other old)
        exact ⟨record, (records _).mpr (.inr ⟨isRecord, isHash ▸ here⟩), isHash⟩

theorem mem_recordEvent {mhmap : MlearnHmap} {hash : Nat} (node : MlearnHmapNode)
    (sound : TableSound mhmap)
    (taken : mhmap.table.firstWithHash hash ≠ none ∨ mhmap.actualSize < mhmap.size)
    (record : Nat × MlearnHmapNode) :
    record ∈ recordsIn (recordEvent env mhmap hash node) ↔
      record = (hash, node) ∨ record ∈ recordsIn mhmap ∧ record.1 ≠ hash := by
  obtain ⟨_, _, ⟨known, _, same⟩ | ⟨unknown, _, _, perm⟩⟩ := recordEvent_records node sound taken
  · rw [same, List.mem_map]
    constructor
    · rintro ⟨old, member, rfl⟩
      by_cases here : old.1 = hash
      · exact .inl (if_pos here)
      · rw [if_neg here]
        exact .inr ⟨member, here⟩
    · rintro (rfl | ⟨member, elsewhere⟩)
      · obtain ⟨old, member, here⟩ := List.mem_map.mp known
        exact ⟨old, member, if_pos here⟩
      · exact ⟨record, member, if_neg elsewhere⟩
  · rw [perm.mem_iff, List.mem_cons]
    refine or_congr Iff.rfl ⟨fun member => ⟨member, ?_⟩, fun member => member.1⟩
    rintro rfl
    exact unknown (List.mem_map_of_mem member)

theorem rolesExchanged_recorded (attached : ml.pluginInterface = true)
    (positive : 0 < env.bufferSize) : Recorded env (rolesExchanged env ml) [] := by
  have cleared : (rolesExchanged env ml).inUse =
      (ml.mlearnEventTables !ml.currMlearnTableInUse).clear env := by
    simp [MacLearning.inUse, rolesExchanged]
  exact Recorded.of_empty attached positive (by simp [cleared, MlearnHmap.clear])
    (by simp [cleared, MlearnHmap.clear]) (by simp [cleared, MlearnHmap.clear])

theorem Recorded.swap (recorded : Recorded env ml (events.take (recordedSince ml.history)))
    (positive : 0 < env.bufferSize) :
    Recorded env (opsFpaMacLearningProcessMlearn env ml)
      (events.take (recordedSince (opsFpaMacLearningProcessMlearn env ml).history)) := by
  rw [processMlearn_eq]
  split
  · have forgotten : recordedSince (rolesExchanged env ml).history = 0 := rfl
    rw [forgotten, List.take_zero]
    exact rolesExchanged_recorded recorded.attached positive
  · exact recorded

theorem Recorded.note (recorded : Recorded env ml (events.take (recordedSince ml.history)))
    (positive : 0 < env.bufferSize) {entry : AddressMsg} {event : MacEvent}
    (added : opsFpaMacLearningMlearnActionAdd env portName ml entry (fpaHashFdbEntry env entry)
      event = .ok ml') :
    Recorded env ml' (((entry, event) :: events).take (recordedSince ml'.history)) := by
  obtain ⟨noted, rfl, outcome⟩ := actionAdd_cases added
  have roomBefore := recorded.room
  rcases outcome with ⟨rfl, _, full⟩ | ⟨node, filled, isNoted, taken⟩
  · have noRoom : noted.inUse.size ≤ noted.inUse.actualSize := full
    omega
  · obtain ⟨isKey, isPort, isOper⟩ := fillData_node filled
    have inUse : noted.inUse = recordEvent env ml.inUse (fpaHashFdbEntry env entry) node := by
      rw [isNoted]
      simp [MacLearning.inUse, eventRecorded]
    have history : recordedSince noted.history = recordedSince ml.history + 1 := by
      rw [isNoted]
      rfl
    have attached : noted.pluginInterface = ml.pluginInterface := by rw [isNoted]; rfl
    have used : noted.mlearnEventTables ml.currMlearnTableInUse = noted.inUse := by
      rw [isNoted]
      rfl
    obtain ⟨sound, size, grown⟩ := @recordEvent_records env _ _ node recorded.sound taken
    have records := @mem_recordEvent env _ _ node recorded.sound taken
    rw [used]
    by_cases isFull : noted.inUse.isFull = true
    · rw [if_pos isFull]
      have exchanged : opsFpaMacLearningProcessMlearn env noted = rolesExchanged env noted := by
        rw [processMlearn_eq, if_pos]
        refine ⟨attached.trans recorded.attached, ?_⟩
        rw [MlearnHmap.isFull, decide_eq_true_eq] at isFull
        rw [← inUse] at sound size
        have filledUp := sound.filled
        have count : noted.inUse.table.count ≠ 0 := by omega
        exact count
      have forgotten : recordedSince (rolesExchanged env noted).history = 0 := rfl
      rw [exchanged, forgotten, List.take_zero]
      exact rolesExchanged_recorded (attached.trans recorded.attached) positive
    · rw [if_neg isFull, history, List.take_succ_cons]
      have room : (recordEvent env ml.inUse (fpaHashFdbEntry env entry) node).actualSize <
          (recordEvent env ml.inUse (fpaHashFdbEntry env entry) node).size := by
        rw [inUse, MlearnHmap.isFull, decide_eq_true_eq] at isFull
        rcases grown with ⟨_, sameSize, _⟩ | ⟨_, _, moreSize, _⟩
        · omega
        · omega
      exact recorded.fill ⟨isKey, isPort, isOper⟩ sound room records inUse attached

theorem Recorded.withTable {events : List FdbEvent} (recorded : Recorded env ml events)
    (table : Hmap AddressMsg) : Recorded env { ml with table } events :=
  ⟨recorded.attached, recorded.sound, recorded.room, recorded.last, recorded.covers⟩

theorem Recorded.expire (recorded : Recorded env ml (events.take (recordedSince ml.history)))
    (positive : 0 < env.bufferSize) {entry : AddressMsg}
    (expired : opsFpaMacLearningExpire env portName ml (fpaHashFdbEntry env entry) entry = .ok ml') :
    Recorded env ml' (((entry, .mlearnDel) :: events).take (recordedSince ml'.history)) := by
  have removed := recorded.withTable (ml.table.remove (fpaHashFdbEntry env entry) entry)
  exact Recorded.note removed positive expired

theorem Recorded.expireAll {rest : List (Nat × AddressMsg)}
    (recorded : Recorded env ml (events.take (recordedSince ml.history)))
    (positive : 0 < env.bufferSize)
    (hashed : ∀ node ∈ rest, node.1 = fpaHashFdbEntry env node.2)
    (expired : FpaPlugin.expireAll env portName rest ml = .ok ml') :
    Recorded env ml' (((rest.map fun node => (node.2, MacEvent.mlearnDel)).reverse ++ events).take
      (recordedSince ml'.history)) := by
  induction rest generalizing ml events with
  | nil =>
      cases expired
      exact recorded
  | cons node rest ih =>
      obtain ⟨hash, entry⟩ := node
      have isHash : hash = fpaHashFdbEntry env entry := hashed _ List.mem_cons_self
      simp only [FpaPlugin.expireAll] at expired
      split at expired
      · cases expired
      · rename_i next isExpired
        subst isHash
        have later := ih (recorded.expire positive isExpired) (fun node member => hashed node (List.mem_cons_of_mem _ member)) expired
        simpa using later

theorem Recorded.asicEvent (recorded : Recorded env ml (events.take (recordedSince ml.history)))
    (positive : 0 < env.bufferSize) {msg : AddressMsg}
    (handled : macLearningAsicEvent env portName ml msg = .ok ml') :
    Recorded env ml' (((fdbEvents env portName ml (.asicEvent msg)).reverse ++ events).take
      (recordedSince ml'.history)) := by
  simp only [macLearningAsicEvent] at handled
  simp only [fdbEvents]
  cases type : msg.type with
  | other =>
      rw [type] at handled
      cases handled
      exact recorded
  | updateAged =>
      simp only [type, opsFpaMacLearningAgeByEntry] at handled
      cases found : opsFpaMacLearningLookup env ml msg with
      | none =>
          rw [found] at handled
          cases handled
          exact recorded
      | some entry =>
          simp only [found] at handled
          have matched := List.find?_some found
          simp only [sameAddress, Bool.and_eq_true, decide_eq_true_eq] at matched
          have isHash : fpaHashFdbEntry env msg = fpaHashFdbEntry env entry := by
            rw [fpaHashFdbEntry, fpaHashFdbEntry, matched.1, matched.2]
          rw [isHash] at handled
          exact recorded.expire positive handled
  | updateNew =>
      simp only [type, opsFpaMacLearningLearn] at handled
      cases port : portName msg.portNum with
      | none =>
          simp only [port] at handled
          cases handled
          exact recorded
      | some name =>
          simp only [port, opsFpaMacLearningInsert] at handled
          by_cases full : ml.maxEntries ≤ ml.table.count
          · simp only [full, if_true] at handled
            cases handled
            have noRoom : ¬ ml.table.count < ml.maxEntries := by omega
            simpa [noRoom] using recorded
          · simp only [full, if_false] at handled
            have room : ml.table.count < ml.maxEntries := by omega
            generalize outcome : opsFpaMacLearningMlearnActionAdd env portName _ msg
              (fpaHashFdbEntry env msg) .mlearnAdd = result at handled
            cases result with
            | error fault => cases handled
            | ok noted =>
                cases handled
                have inserted := recorded.withTable
                  (ml.table.insert env.growth (fpaHashFdbEntry env msg) msg)
                simpa [room] using Recorded.note inserted positive outcome

theorem mlStep_recorded {call : MlCall} {reply : Option Bool}
    (recorded : Recorded env ml (events.take (recordedSince ml.history)))
    (positive : 0 < env.bufferSize) (fdb : ml.table.Hashed (hashFdbKey env) fdbKey)
    (operation : call.isOperation = true)
    (taken : mlStep env portName ml call = .ok (reply, ml')) :
    Recorded env ml' (((fdbEvents env portName ml call).reverse ++ events).take
      (recordedSince ml'.history)) := by
  cases call with
  | actionAdd => cases operation
  | asicEvent msg =>
      simp only [mlStep] at taken
      split at taken
      · cases taken
      · rename_i handled
        cases taken
        exact recorded.asicEvent positive handled
  | flush =>
      simp only [mlStep] at taken
      split at taken
      · cases taken
      · rename_i flushed
        cases taken
        have expired := recorded.expireAll positive fdb flushed
        rw [fdbEvents, Hmap.values, List.map_map]
        exact expired
  | timerExpired =>
      cases taken
      exact recorded.swap positive
  | hmapGet =>
      cases taken
      exact ⟨recorded.attached, recorded.sound, recorded.room, recorded.last, recorded.covers⟩

theorem Recorded.hash_of_key (recorded : Recorded env ml events) {record : Nat × MlearnHmapNode}
    (member : record ∈ recordsIn ml.inUse) :
    record.1 = hashFdbKey env (nodeKey record.2) := by
  obtain ⟨event, found, isNode⟩ := recorded.last record member
  have isHash := List.find?_some found
  rw [decide_eq_true_eq] at isHash
  rw [isNode.key, ← isHash]
  rfl

theorem Recorded.unique (recorded : Recorded env ml events) {record other : Nat × MlearnHmapNode}
    (member : record ∈ recordsIn ml.inUse) (otherMember : other ∈ recordsIn ml.inUse)
    (same : record.1 = other.1) : record = other := by
  have hashes : ((recordsIn ml.inUse).map Prod.fst).Nodup := by
    rw [hashes_recordsIn]
    exact recorded.sound.hashes
  exact List.inj_on_of_nodup_map hashes member otherMember same

theorem contents_eq (mhmap : MlearnHmap) : mhmap.contents = (recordsIn mhmap).map Prod.snd := by
  simp [MlearnHmap.contents, recordsIn, Hmap.values]

theorem Recorded.recordsLast (recorded : Recorded env ml events)
    (apart : ToldApart env events) : RecordsLast events ml.inUse := by
  intro key event found
  have member := List.mem_of_find?_eq_some found
  have isKey := List.find?_some found
  rw [decide_eq_true_eq] at isKey
  -- on these events, having the key and having its hash is the same
  have sameFind : events.find? (fun other => fpaHashFdbEntry env other.1 = hashFdbKey env key) =
      some event := by
    rw [← found]
    refine List.find?_congr fun other otherMember => ?_
    rw [Bool.eq_iff_iff, decide_eq_true_eq, decide_eq_true_eq, ← isKey]
    refine ⟨fun sameHash => apart other otherMember event member sameHash, fun sameKey => ?_⟩
    exact congrArg (hashFdbKey env) sameKey
  obtain ⟨record, isRecord, isHash⟩ := List.mem_map.mp (recorded.covers event member)
  have hashOfKey : record.1 = hashFdbKey env key := by
    rw [isHash, ← isKey]
    rfl
  obtain ⟨latest, isLatest, isNode⟩ := recorded.last record isRecord
  rw [hashOfKey, sameFind, Option.some.injEq] at isLatest
  subst isLatest
  refine ⟨record.2, ?_, isNode.port, isNode.oper⟩
  rw [contents_eq, List.filter_map]
  have only : (recordsIn ml.inUse).filter ((fun node => decide (nodeKey node = key)) ∘ Prod.snd) =
      [record] := by
    have nodup : (recordsIn ml.inUse).Nodup := by
      refine List.Nodup.of_map Prod.fst ?_
      rw [hashes_recordsIn]
      exact recorded.sound.hashes
    refine List.perm_singleton.mp ((List.perm_ext_iff_of_nodup (nodup.filter _)
      (List.nodup_singleton _)).mpr fun other => ?_)
    rw [List.mem_filter, List.mem_singleton, Function.comp_apply, decide_eq_true_eq]
    constructor
    · rintro ⟨isOther, otherKey⟩
      refine recorded.unique isOther isRecord ?_
      rw [recorded.hash_of_key isOther, otherKey, hashOfKey]
    · rintro rfl
      exact ⟨isRecord, isNode.key.trans isKey⟩
  rw [only]
  rfl

end Recorded

section TwoStations

def learnedAt (vid : Nat) (address : EthAddr) (port : Nat) : MlInput :=
  ⟨twoPorts, .asicEvent ⟨.updateNew, port, vid, address⟩⟩

instance (env : Env) (events : List FdbEvent) : Decidable (ToldApart env events) :=
  inferInstanceAs (Decidable (∀ event ∈ events, ∀ other ∈ events, _ → _))

end TwoStations

end FpaPlugin

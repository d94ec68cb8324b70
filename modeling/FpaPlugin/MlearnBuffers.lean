import FpaPlugin.FdbMap
import FpaPlugin.Lib.EventBuffers

/-! The two event tables under any interleaving of learning, flushing, the timer and the
plugin that reads them: which events are cleared before anyone has seen them. -/

namespace FpaPlugin

def nodeKey (node : MlearnHmapNode) : FdbKey := (node.vlan, node.mac)

/-- The table has been handed to the plugin since it was last taken out of use. -/
def readSince (table : Bool) : List MlearnObservation → Bool
  | [] => false
  | .swappedOut out :: earlier => out ≠ table && readSince table earlier
  | .returned reply :: earlier => reply = some table || readSince table earlier
  | _ :: earlier => readSince table earlier

def replacedSince (table : Bool) (key : FdbKey) : List MlearnObservation → Bool
  | [] => false
  | .swappedOut out :: earlier => out ≠ table && replacedSince table key earlier
  | .recorded vlan mac :: earlier => (vlan, mac) = key || replacedSince table key earlier
  | _ :: earlier => replacedSince table key earlier

/-- Whenever a table was cleared, each of its events had been read or replaced. -/
def noEventLost : List MlearnObservation → Bool
  | [] => true
  | .cleared table nodes :: earlier =>
      nodes.all (fun node => readSince table earlier || replacedSince table (nodeKey node) earlier) &&
        noEventLost earlier
  | _ :: earlier => noEventLost earlier

def recordsIn (mhmap : MlearnHmap) : List (Nat × MlearnHmapNode) :=
  mhmap.table.nodes.map fun node => (node.1, mhmap.nodes node.2)

def eventsIn (mhmap : MlearnHmap) : List (Nat × FdbKey) :=
  mhmap.table.nodes.map fun node => (node.1, nodeKey (mhmap.nodes node.2))

def buffersOf (ml : MacLearning) : EventBuffers FdbKey where
  size := (ml.mlearnEventTables ml.currMlearnTableInUse).size
  attached := ml.pluginInterface
  pending := eventsIn (ml.mlearnEventTables ml.currMlearnTableInUse)
  unread :=
    ((eventsIn (ml.mlearnEventTables !ml.currMlearnTableInUse)).map Prod.snd).filter fun key =>
      !readSince (!ml.currMlearnTableInUse) ml.history &&
        !replacedSince (!ml.currMlearnTableInUse) key ml.history

def eventsOf (env : Env) (portName : Nat → Option PortName) (ml : MacLearning) :
    MlCall → List (Nat × FdbKey)
  | .actionAdd entry hash _ => [(hash, fdbKey entry)]
  | .asicEvent msg =>
      match msg.type with
      | .updateNew =>
          if (portName msg.portNum).isSome ∧ ml.table.count < ml.maxEntries then
            [(fpaHashFdbEntry env msg, fdbKey msg)]
          else []
      | .updateAged =>
          match opsFpaMacLearningLookup env ml msg with
          | some entry => [(fpaHashFdbEntry env msg, fdbKey entry)]
          | none => []
      | .other => []
  | .flush => ml.table.nodes.map fun node => (node.1, fdbKey node.2)
  | .timerExpired => []
  | .hmapGet => []

/-- The tables change roles on this call, if they do, only when the other table's events
have been read or replaced. -/
def swapsSafely (env : Env) (event : MlEvent) : Bool :=
  match event.input.call with
  | .timerExpired => (buffersOf event.before).safeToSwap
  | call => (buffersOf event.before).safeToRecord
      (eventsOf env event.input.portName event.before call)

section Tables

structure TableSound (mhmap : MlearnHmap) : Prop where
  hashes : (mhmap.table.nodes.map Prod.fst).Nodup
  slots : mhmap.table.values.Nodup
  below : ∀ slot ∈ mhmap.table.values, slot < mhmap.actualSize
  filled : mhmap.table.count = mhmap.actualSize

variable {mhmap : MlearnHmap} {hash slot : Nat} {node : MlearnHmapNode}

theorem length_eventsIn (mhmap : MlearnHmap) : (eventsIn mhmap).length = mhmap.table.count := by
  simp [eventsIn, Hmap.count]

theorem keys_eventsIn (mhmap : MlearnHmap) :
    (eventsIn mhmap).map Prod.snd = mhmap.contents.map nodeKey := by
  simp [eventsIn, MlearnHmap.contents, Hmap.values]

theorem firstWithHash_eq_none_iff :
    mhmap.table.firstWithHash hash = none ↔ hash ∉ (eventsIn mhmap).map Prod.fst := by
  have hashesEq : (eventsIn mhmap).map Prod.fst = mhmap.table.nodes.map Prod.fst := by
    simp [eventsIn]
  rw [hashesEq, Hmap.firstWithHash, List.head?_eq_none_iff, List.eq_nil_iff_forall_not_mem]
  constructor
  · intro empty member
    obtain ⟨⟨_, slot⟩, inNodes, rfl⟩ := List.mem_map.mp member
    exact empty slot (Hmap.mem_withHash.mpr inNodes)
  · intro absent slot member
    exact absent (List.mem_map.mpr ⟨_, Hmap.mem_withHash.mp member, rfl⟩)

theorem firstWithHash_mem (found : mhmap.table.firstWithHash hash = some slot) :
    (hash, slot) ∈ mhmap.table.nodes :=
  Hmap.mem_withHash.mp (List.mem_of_mem_head? found)

theorem TableSound.empty (size mask : Nat) (nodes : Nat → MlearnHmapNode) :
    TableSound ⟨Hmap.empty mask, nodes, 0, size⟩ where
  hashes := by simp
  slots := by simp [Hmap.values]
  below := by simp [Hmap.values]
  filled := by simp [Hmap.count]

theorem TableSound.fill (sound : TableSound mhmap) : TableSound (mhmap.fill slot node) :=
  ⟨sound.hashes, sound.slots, sound.below, sound.filled⟩

theorem TableSound.append (sound : TableSound mhmap) (env : Env)
    (fresh : mhmap.table.firstWithHash hash = none) : TableSound (mhmap.append env hash node) := by
  have nodesPerm := Hmap.nodes_insert_perm env.growth mhmap.table hash mhmap.actualSize
  have valuesPerm := Hmap.values_insert_perm env.growth mhmap.table hash mhmap.actualSize
  constructor
  · apply (nodesPerm.map Prod.fst).nodup_iff.mpr
    rw [List.map_cons, List.nodup_cons]
    refine ⟨?_, sound.hashes⟩
    have absent := firstWithHash_eq_none_iff.mp fresh
    simpa [eventsIn] using absent
  · apply valuesPerm.nodup_iff.mpr
    rw [List.nodup_cons]
    refine ⟨?_, sound.slots⟩
    intro member
    have bound := sound.below _ member
    omega
  · intro slot member
    simp only [MlearnHmap.append] at member ⊢
    rcases List.mem_cons.mp (valuesPerm.mem_iff.mp member) with here | old
    · omega
    · have bound := sound.below slot old
      omega
  · simp only [MlearnHmap.append, Hmap.count_insert, sound.filled]

theorem eventsIn_eq (mhmap : MlearnHmap) :
    eventsIn mhmap = (recordsIn mhmap).map fun record => (record.1, nodeKey record.2) := by
  rw [eventsIn, recordsIn, List.map_map]
  rfl

theorem hashes_recordsIn (mhmap : MlearnHmap) :
    (recordsIn mhmap).map Prod.fst = mhmap.table.nodes.map Prod.fst := by
  rw [recordsIn, List.map_map]
  rfl

theorem recordsIn_fill (sound : TableSound mhmap)
    (found : mhmap.table.firstWithHash hash = some slot) :
    recordsIn (mhmap.fill slot node) =
      (recordsIn mhmap).map fun record => if record.1 = hash then (hash, node) else record := by
  have filed := firstWithHash_mem found
  simp only [recordsIn, MlearnHmap.fill, List.map_map]
  apply List.map_congr_left
  rintro ⟨otherHash, otherSlot⟩ member
  simp only [Function.comp_apply]
  by_cases same : otherSlot = slot
  · subst same
    have hashEq : (otherHash, otherSlot) = (hash, otherSlot) :=
      List.inj_on_of_nodup_map sound.slots member filed rfl
    simp only [Prod.mk.injEq, and_true] at hashEq
    simp [hashEq]
  · have hashNe : otherHash ≠ hash := by
      rintro rfl
      have slotEq : (otherHash, otherSlot) = (otherHash, slot) :=
        List.inj_on_of_nodup_map sound.hashes member filed rfl
      simp only [Prod.mk.injEq, true_and] at slotEq
      exact same slotEq
    simp [same, hashNe]

theorem recordsIn_append (sound : TableSound mhmap) (env : Env) (hash : Nat)
    (node : MlearnHmapNode) :
    (recordsIn (mhmap.append env hash node)).Perm ((hash, node) :: recordsIn mhmap) := by
  have nodesPerm := Hmap.nodes_insert_perm env.growth mhmap.table hash mhmap.actualSize
  refine (nodesPerm.map _).trans ?_
  rw [List.map_cons]
  have kept : (mhmap.table.nodes.map fun entry =>
      (entry.1, (mhmap.append env hash node).nodes entry.2)) = recordsIn mhmap := by
    apply List.map_congr_left
    intro entry member
    have bound := sound.below entry.2 (List.mem_map_of_mem member)
    have older : entry.2 ≠ mhmap.actualSize := by omega
    simp [MlearnHmap.append, older]
  rw [kept]
  simp [MlearnHmap.append]

end Tables

section Simulation

variable {env : Env} {portName : Nat → Option PortName} {ml ml' : MacLearning}
  {b : EventBuffers FdbKey}

/-- The two tables are the abstract buffers, up to the order of the events. -/
structure Models (env : Env) (ml : MacLearning) (b : EventBuffers FdbKey) : Prop where
  sound : ∀ table, TableSound (ml.mlearnEventTables table)
  sizes : ∀ table, (ml.mlearnEventTables table).size = env.bufferSize
  size : b.size = env.bufferSize
  attached : b.attached = ml.pluginInterface
  pending : (eventsIn (ml.mlearnEventTables ml.currMlearnTableInUse)).Perm b.pending
  unread : ∀ key, key ∈ b.unread ↔
    key ∈ (eventsIn (ml.mlearnEventTables !ml.currMlearnTableInUse)).map Prod.snd ∧
      readSince (!ml.currMlearnTableInUse) ml.history = false ∧
      replacedSince (!ml.currMlearnTableInUse) key ml.history = false

theorem Models.count (models : Models env ml b) :
    (ml.mlearnEventTables ml.currMlearnTableInUse).table.count = b.pending.length := by
  rw [← length_eventsIn]
  exact models.pending.length_eq

theorem Models.pending_eq_nil_iff (models : Models env ml b) :
    (ml.mlearnEventTables ml.currMlearnTableInUse).table.count = 0 ↔ b.pending = [] := by
  rw [models.count, List.length_eq_zero_iff]

theorem Models.unread_eq_nil_iff (models : Models env ml b) :
    b.unread = [] ↔
      ((ml.mlearnEventTables !ml.currMlearnTableInUse).contents.all fun node =>
        readSince (!ml.currMlearnTableInUse) ml.history ||
          replacedSince (!ml.currMlearnTableInUse) (nodeKey node) ml.history) = true := by
  rw [List.eq_nil_iff_forall_not_mem, List.all_eq_true]
  simp only [models.unread, keys_eventsIn, List.mem_map, not_and, Bool.or_eq_true,
    Bool.not_eq_false, forall_exists_index, and_imp]
  constructor
  · intro settled node member
    cases read : readSince (!ml.currMlearnTableInUse) ml.history with
    | true => exact .inl rfl
    | false => exact .inr (settled _ node member rfl read)
  · rintro settled _ node member rfl unread
    exact (settled node member).resolve_left (by simp [unread])

def rolesExchanged (env : Env) (ml : MacLearning) : MacLearning :=
  { ml with
    currMlearnTableInUse := !ml.currMlearnTableInUse
    mlearnEventTables := Function.update ml.mlearnEventTables (!ml.currMlearnTableInUse)
      ((ml.mlearnEventTables !ml.currMlearnTableInUse).clear env)
    history := .cleared (!ml.currMlearnTableInUse)
        (ml.mlearnEventTables !ml.currMlearnTableInUse).contents ::
      .swappedOut ml.currMlearnTableInUse :: ml.history }

theorem processMlearn_eq (env : Env) (ml : MacLearning) :
    opsFpaMacLearningProcessMlearn env ml =
      if ml.pluginInterface = true ∧
          (ml.mlearnEventTables ml.currMlearnTableInUse).table.count ≠ 0 then
        rolesExchanged env ml
      else ml := by
  simp only [opsFpaMacLearningProcessMlearn]
  split
  · rename_i plugin
    split
    · rename_i holds
      rw [if_pos ⟨plugin, holds⟩]
      rfl
    · rename_i empty
      rw [if_neg fun both => empty both.2]
  · rename_i noPlugin
    rw [if_neg fun both => noPlugin both.1]

theorem Models.exchange (models : Models env ml b) :
    Models env (rolesExchanged env ml) { b with pending := [], unread := b.pending.map Prod.snd } where
  sound := by
    intro table
    simp only [rolesExchanged]
    by_cases other : table = !ml.currMlearnTableInUse
    · rw [other, Function.update_self]
      exact .empty _ _ _
    · rw [Function.update_of_ne other]
      exact models.sound table
  sizes := by
    intro table
    simp only [rolesExchanged]
    by_cases other : table = !ml.currMlearnTableInUse
    · rw [other, Function.update_self]
      rfl
    · rw [Function.update_of_ne other]
      exact models.sizes table
  size := models.size
  attached := models.attached
  pending := by simp [rolesExchanged, eventsIn, MlearnHmap.clear]
  unread := by
    intro key
    simp only [rolesExchanged, Bool.not_not]
    rw [← (models.pending.map Prod.snd).mem_iff, Function.update_of_ne (by simp)]
    simp [readSince, replacedSince]

theorem Models.exchange_lossless (models : Models env ml b) :
    noEventLost (rolesExchanged env ml).history = (noEventLost ml.history && b.unread = []) := by
  have settled := models.unread_eq_nil_iff
  rw [Bool.eq_iff_iff]
  simp only [rolesExchanged, noEventLost, readSince, replacedSince, Bool.and_eq_true,
    decide_eq_true_eq, settled]
  simp [and_comm]

theorem Models.swap (models : Models env ml b) :
    Models env (opsFpaMacLearningProcessMlearn env ml) b.swap ∧
      noEventLost (opsFpaMacLearningProcessMlearn env ml).history =
        (noEventLost ml.history && b.safeToSwap) := by
  have sameGuard : (ml.pluginInterface = true ∧
      (ml.mlearnEventTables ml.currMlearnTableInUse).table.count ≠ 0) ↔
        b.attached = true ∧ b.pending ≠ [] := by
    rw [models.attached, ne_eq, models.pending_eq_nil_iff]
  rw [processMlearn_eq, EventBuffers.swap]
  by_cases swaps : b.attached = true ∧ b.pending ≠ []
  · rw [if_pos (sameGuard.mpr swaps), if_pos swaps]
    refine ⟨models.exchange, ?_⟩
    rw [models.exchange_lossless]
    simp [EventBuffers.safeToSwap, swaps.1, swaps.2]
  · rw [if_neg fun both => swaps (sameGuard.mp both), if_neg swaps]
    refine ⟨models, ?_⟩
    have safe : b.safeToSwap = true := by
      by_cases attached : b.attached
      · have empty : b.pending = [] := by_contra fun some => swaps ⟨attached, some⟩
        simp [EventBuffers.safeToSwap, empty]
      · simp [EventBuffers.safeToSwap, attached]
    rw [safe, Bool.and_true]

def eventRecorded (env : Env) (ml : MacLearning) (hash : Nat) (entry : AddressMsg)
    (node : MlearnHmapNode) : MacLearning :=
  { ml with
    mlearnEventTables := Function.update ml.mlearnEventTables ml.currMlearnTableInUse
      (recordEvent env (ml.mlearnEventTables ml.currMlearnTableInUse) hash node)
    history := .recorded entry.vid entry.address :: ml.history }

theorem actionAdd_cases {entry : AddressMsg} {hash : Nat} {event : MacEvent}
    (added : opsFpaMacLearningMlearnActionAdd env portName ml entry hash event = .ok ml') :
    ∃ noted, ml' = (if (noted.mlearnEventTables ml.currMlearnTableInUse).isFull then
        opsFpaMacLearningProcessMlearn env noted else noted) ∧
      ((noted = ml ∧
        (ml.mlearnEventTables ml.currMlearnTableInUse).table.firstWithHash hash = none ∧
        (ml.mlearnEventTables ml.currMlearnTableInUse).size ≤
          (ml.mlearnEventTables ml.currMlearnTableInUse).actualSize) ∨
      (∃ node, mlearnEntryFillData portName entry event = .ok node ∧
        noted = eventRecorded env ml hash entry node ∧
        ((ml.mlearnEventTables ml.currMlearnTableInUse).table.firstWithHash hash ≠ none ∨
          (ml.mlearnEventTables ml.currMlearnTableInUse).actualSize <
            (ml.mlearnEventTables ml.currMlearnTableInUse).size))) := by
  simp only [opsFpaMacLearningMlearnActionAdd] at added
  split at added
  · cases added
  · rename_i noted isNoted
    refine ⟨noted, ?_, ?_⟩
    · split at added
      · rename_i full
        cases added
        rw [if_pos full]
      · rename_i room
        cases added
        rw [if_neg room]
    · split at isNoted
      · rename_i dropped
        cases isNoted
        simp only [Bool.and_eq_true, Option.isNone_iff_eq_none, decide_eq_true_eq] at dropped
        exact .inl ⟨rfl, dropped⟩
      · rename_i kept
        simp only [Bool.and_eq_true, Option.isNone_iff_eq_none, decide_eq_true_eq] at kept
        split at isNoted
        · cases isNoted
        · rename_i node filled
          cases isNoted
          refine .inr ⟨node, filled, rfl, ?_⟩
          by_cases known :
            (ml.mlearnEventTables ml.currMlearnTableInUse).table.firstWithHash hash = none
          · exact .inr (by by_contra full; exact kept ⟨known, by omega⟩)
          · exact .inl known

theorem fillData_node {entry : AddressMsg} {event : MacEvent} {node : MlearnHmapNode}
    (filled : mlearnEntryFillData portName entry event = .ok node) :
    nodeKey node = fdbKey entry ∧ node.port = entry.portNum ∧ node.oper = event := by
  simp only [mlearnEntryFillData] at filled
  split at filled
  · cases filled
  · cases filled
  · cases filled
    exact ⟨rfl, rfl, rfl⟩

theorem Models.isFull_iff (models : Models env ml b) :
    (ml.mlearnEventTables ml.currMlearnTableInUse).isFull = true ↔
      b.pending.length = b.size := by
  rw [MlearnHmap.isFull, decide_eq_true_eq, ← (models.sound _).filled, models.count, models.sizes,
    models.size]

theorem recordEvent_records {mhmap : MlearnHmap} {hash : Nat} (node : MlearnHmapNode)
    (sound : TableSound mhmap)
    (taken : mhmap.table.firstWithHash hash ≠ none ∨ mhmap.actualSize < mhmap.size) :
    TableSound (recordEvent env mhmap hash node) ∧
      (recordEvent env mhmap hash node).size = mhmap.size ∧
      ((hash ∈ (recordsIn mhmap).map Prod.fst ∧
        (recordEvent env mhmap hash node).actualSize = mhmap.actualSize ∧
        recordsIn (recordEvent env mhmap hash node) =
          (recordsIn mhmap).map fun record => if record.1 = hash then (hash, node) else record) ∨
      (hash ∉ (recordsIn mhmap).map Prod.fst ∧ mhmap.actualSize < mhmap.size ∧
        (recordEvent env mhmap hash node).actualSize = mhmap.actualSize + 1 ∧
        (recordsIn (recordEvent env mhmap hash node)).Perm ((hash, node) :: recordsIn mhmap))) := by
  have unknown : mhmap.table.firstWithHash hash = none ↔ hash ∉ (recordsIn mhmap).map Prod.fst := by
    rw [firstWithHash_eq_none_iff, eventsIn_eq, List.map_map]
    rfl
  rw [recordEvent]
  cases found : mhmap.table.firstWithHash hash with
  | some slot =>
      refine ⟨sound.fill, rfl, .inl ⟨?_, rfl, recordsIn_fill sound found⟩⟩
      by_contra absent
      rw [← unknown, found] at absent
      cases absent
  | none =>
      have room : mhmap.actualSize < mhmap.size := taken.resolve_left (by simp [found])
      simp only [room, if_true]
      exact ⟨sound.append env found, rfl, .inr ⟨unknown.mp found, trivial, rfl,
        recordsIn_append sound env hash node⟩⟩

theorem recordEvent_cases {mhmap : MlearnHmap} {hash : Nat} (node : MlearnHmapNode)
    (sound : TableSound mhmap)
    (taken : mhmap.table.firstWithHash hash ≠ none ∨ mhmap.actualSize < mhmap.size) :
    TableSound (recordEvent env mhmap hash node) ∧
      (recordEvent env mhmap hash node).size = mhmap.size ∧
      ((hash ∈ (eventsIn mhmap).map Prod.fst ∧ eventsIn (recordEvent env mhmap hash node) =
        (eventsIn mhmap).map fun event => if event.1 = hash then (hash, nodeKey node) else event) ∨
      (hash ∉ (eventsIn mhmap).map Prod.fst ∧ (eventsIn mhmap).length < mhmap.size ∧
        (eventsIn (recordEvent env mhmap hash node)).Perm
          ((hash, nodeKey node) :: eventsIn mhmap))) := by
  have hashes : (eventsIn mhmap).map Prod.fst = (recordsIn mhmap).map Prod.fst := by
    rw [eventsIn_eq, List.map_map]
    rfl
  obtain ⟨sound', size, records⟩ := recordEvent_records node sound taken
  refine ⟨sound', size, ?_⟩
  rw [hashes, eventsIn_eq, eventsIn_eq]
  rcases records with ⟨known, _, same⟩ | ⟨unknown, room, _, perm⟩
  · refine .inl ⟨known, ?_⟩
    rw [same, List.map_map, List.map_map]
    apply List.map_congr_left
    intro record _
    by_cases here : record.1 = hash
    · simp [here]
    · simp [here]
  · refine .inr ⟨unknown, ?_, perm.map _⟩
    rwa [List.length_map, recordsIn, List.length_map, ← Hmap.count, sound.filled]

theorem Models.noted (models : Models env ml b) {hash : Nat} {entry : AddressMsg}
    {node : MlearnHmapNode} (keyEq : nodeKey node = fdbKey entry)
    (taken : (ml.mlearnEventTables ml.currMlearnTableInUse).table.firstWithHash hash ≠ none ∨
      (ml.mlearnEventTables ml.currMlearnTableInUse).actualSize <
        (ml.mlearnEventTables ml.currMlearnTableInUse).size) :
    Models env (eventRecorded env ml hash entry node) (b.note hash (fdbKey entry)) := by
  obtain ⟨sound, size, events⟩ := recordEvent_cases node (models.sound _) taken
  have hashes := (models.pending.map Prod.fst).mem_iff (a := hash)
  have noted : ∃ pending, b.note hash (fdbKey entry) =
        { b with pending, unread := b.unread.filter (· ≠ fdbKey entry) } ∧
      (eventsIn (recordEvent env (ml.mlearnEventTables ml.currMlearnTableInUse) hash node)).Perm
        pending := by
    rw [← keyEq]
    rcases events with ⟨known, same⟩ | ⟨unknown, room, perm⟩
    · rw [EventBuffers.note, if_pos (hashes.mp known)]
      refine ⟨_, rfl, ?_⟩
      rw [same]
      exact models.pending.map _
    · have space : b.pending.length < b.size := by
        rw [← models.pending.length_eq, models.size, ← models.sizes ml.currMlearnTableInUse]
        exact room
      rw [EventBuffers.note, if_neg fun known => unknown (hashes.mpr known), if_pos space]
      exact ⟨_, rfl, perm.trans (models.pending.cons _)⟩
  obtain ⟨pending, noteEq, perm⟩ := noted
  rw [noteEq]
  constructor
  · intro table
    simp only [eventRecorded]
    by_cases used : table = ml.currMlearnTableInUse
    · rw [used, Function.update_self]
      exact sound
    · rw [Function.update_of_ne used]
      exact models.sound table
  · intro table
    simp only [eventRecorded]
    by_cases used : table = ml.currMlearnTableInUse
    · rw [used, Function.update_self, size]
      exact models.sizes _
    · rw [Function.update_of_ne used]
      exact models.sizes table
  · exact models.size
  · exact models.attached
  · simpa only [eventRecorded, Function.update_self] using perm
  · intro key
    simp only [eventRecorded, List.mem_filter, models.unread, decide_eq_true_eq]
    rw [Function.update_of_ne (by simp)]
    simp only [readSince, replacedSince, Bool.or_eq_false_iff, decide_eq_false_iff_not, fdbKey]
    constructor
    · rintro ⟨⟨member, unread, unreplaced⟩, other⟩
      exact ⟨member, unread, Ne.symm other, unreplaced⟩
    · rintro ⟨member, unread, other, unreplaced⟩
      exact ⟨⟨member, unread, unreplaced⟩, Ne.symm other⟩

theorem Models.record (models : Models env ml b) {entry : AddressMsg} {hash : Nat}
    {event : MacEvent}
    (added : opsFpaMacLearningMlearnActionAdd env portName ml entry hash event = .ok ml') :
    Models env ml' (b.record hash (fdbKey entry)) ∧
      noEventLost ml'.history = (noEventLost ml.history && b.safeToNote hash (fdbKey entry)) := by
  obtain ⟨noted, rfl, outcome⟩ := actionAdd_cases added
  have models' : Models env noted (b.note hash (fdbKey entry)) ∧
      noted.currMlearnTableInUse = ml.currMlearnTableInUse ∧
      noEventLost noted.history = noEventLost ml.history := by
    rcases outcome with ⟨rfl, unknown, full⟩ | ⟨node, filled, rfl, taken⟩
    · have absent : hash ∉ b.pending.map Prod.fst := by
        rw [← (models.pending.map Prod.fst).mem_iff]
        exact firstWithHash_eq_none_iff.mp unknown
      have noRoom : ¬ b.pending.length < b.size := by
        rw [← models.count, (models.sound _).filled, models.size, ← models.sizes
          noted.currMlearnTableInUse]
        omega
      rw [EventBuffers.note, if_neg absent, if_neg noRoom]
      exact ⟨models, rfl, rfl⟩
    · exact ⟨models.noted (fillData_node filled).1 taken, rfl, rfl⟩
  obtain ⟨models', used, lossless⟩ := models'
  have sizeEq : (b.note hash (fdbKey entry)).size = b.size := models'.size.trans models.size.symm
  have isFull := models'.isFull_iff
  rw [used, sizeEq] at isFull
  rw [EventBuffers.record, EventBuffers.safeToNote]
  by_cases full : (b.note hash (fdbKey entry)).pending.length = b.size
  · rw [if_pos (isFull.mpr full), if_pos full]
    refine ⟨models'.swap.1, ?_⟩
    rw [models'.swap.2, lossless]
    simp [full]
  · rw [if_neg fun isFull' => full (isFull.mp isFull'), if_neg full]
    refine ⟨models', ?_⟩
    rw [lossless]
    simp [full]

theorem Models.withTable (models : Models env ml b) (table : Hmap AddressMsg) :
    Models env { ml with table } b :=
  ⟨models.sound, models.sizes, models.size, models.attached, models.pending, models.unread⟩

theorem Models.expireAll (models : Models env ml b) {rest : List (Nat × AddressMsg)}
    (expired : expireAll env portName rest ml = .ok ml') :
    (∃ after, Models env ml' after) ∧ noEventLost ml'.history =
      (noEventLost ml.history && b.safeToRecord (rest.map fun node => (node.1, fdbKey node.2))) := by
  induction rest generalizing ml b with
  | nil =>
      cases expired
      exact ⟨⟨b, models⟩, by simp [EventBuffers.safeToRecord]⟩
  | cons node rest ih =>
      obtain ⟨hash, entry⟩ := node
      simp only [FpaPlugin.expireAll] at expired
      split at expired
      · cases expired
      · rename_i next isExpired
        obtain ⟨models', lossless⟩ := (models.withTable _).record isExpired
        obtain ⟨after, rest'⟩ := ih models' expired
        refine ⟨after, ?_⟩
        rw [rest', lossless, List.map_cons, EventBuffers.safeToRecord, Bool.and_assoc]

theorem Models.hmapGet (models : Models env ml b) : Models env (opsFpaMlHmapGet ml).2 b.read where
  sound := models.sound
  sizes := models.sizes
  size := models.size
  attached := models.attached
  pending := models.pending
  unread := by
    intro key
    simp only [opsFpaMlHmapGet, EventBuffers.read, List.not_mem_nil, false_iff, not_and]
    intro member
    have holds : (ml.mlearnEventTables !ml.currMlearnTableInUse).table.count ≠ 0 := by
      rw [← length_eventsIn, ← List.length_map Prod.snd]
      exact Nat.ne_of_gt (List.length_pos_of_mem member)
    simp [holds, readSince]

theorem models_buffersOf (sound : ∀ table, TableSound (ml.mlearnEventTables table))
    (sizes : ∀ table, (ml.mlearnEventTables table).size = env.bufferSize) :
    Models env ml (buffersOf ml) where
  sound := sound
  sizes := sizes
  size := sizes _
  attached := rfl
  pending := List.Perm.refl _
  unread := by
    intro key
    simp [buffersOf]

theorem Models.asicEvent (models : Models env ml b) {msg : AddressMsg}
    (handled : macLearningAsicEvent env portName ml msg = .ok ml') :
    (∃ after, Models env ml' after) ∧ noEventLost ml'.history =
      (noEventLost ml.history &&
        b.safeToRecord (eventsOf env portName ml (.asicEvent msg))) := by
  simp only [macLearningAsicEvent] at handled
  cases type : msg.type with
  | updateNew =>
      rw [type] at handled
      simp only [opsFpaMacLearningLearn, opsFpaMacLearningInsert] at handled
      simp only [eventsOf, type]
      cases port : portName msg.portNum with
      | none =>
          rw [port] at handled
          cases handled
          exact ⟨⟨b, models⟩, by simp [EventBuffers.safeToRecord]⟩
      | some name =>
          rw [port] at handled
          by_cases full : ml.maxEntries ≤ ml.table.count
          · simp only [full, if_true] at handled
            cases handled
            have noRoom : ¬ ml.table.count < ml.maxEntries := by omega
            exact ⟨⟨b, models⟩, by simp [EventBuffers.safeToRecord, noRoom]⟩
          · simp only [full, if_false] at handled
            split at handled
            · cases handled
            · rename_i learned
              split at learned
              · cases learned
              · rename_i added
                cases learned
                cases handled
                obtain ⟨models', lossless⟩ := (models.withTable _).record added
                have room : ml.table.count < ml.maxEntries := by omega
                refine ⟨⟨_, models'⟩, ?_⟩
                rw [lossless]
                simp [EventBuffers.safeToRecord, room]
  | updateAged =>
      rw [type] at handled
      simp only [opsFpaMacLearningAgeByEntry] at handled
      simp only [eventsOf, type]
      cases found : opsFpaMacLearningLookup env ml msg with
      | none =>
          rw [found] at handled
          cases handled
          exact ⟨⟨b, models⟩, by simp [EventBuffers.safeToRecord]⟩
      | some entry =>
          rw [found] at handled
          obtain ⟨models', lossless⟩ := (models.withTable _).record handled
          refine ⟨⟨_, models'⟩, ?_⟩
          rw [lossless]
          simp [EventBuffers.safeToRecord]
  | other =>
      rw [type] at handled
      cases handled
      exact ⟨⟨b, models⟩, by simp [eventsOf, type, EventBuffers.safeToRecord]⟩

theorem mlStep_lossless (event : MlEvent) (models : Models env event.before (buffersOf event.before))
    (taken : mlStep env event.input.portName event.before event.input.call =
      .ok (event.reply, event.after)) :
    (∃ after, Models env event.after after) ∧ noEventLost event.after.history =
      (noEventLost event.before.history && swapsSafely env event) := by
  obtain ⟨before, ⟨portName, call⟩, reply, after⟩ := event
  cases call with
  | actionAdd entry hash action =>
      simp only [mlStep] at taken
      split at taken
      · cases taken
      · rename_i added
        cases taken
        obtain ⟨models', lossless⟩ := models.record added
        refine ⟨⟨_, models'⟩, ?_⟩
        rw [lossless]
        simp [swapsSafely, eventsOf, EventBuffers.safeToRecord]
  | asicEvent msg =>
      simp only [mlStep] at taken
      split at taken
      · cases taken
      · rename_i handled
        cases taken
        exact models.asicEvent handled
  | flush =>
      simp only [mlStep] at taken
      split at taken
      · cases taken
      · rename_i flushed
        cases taken
        exact models.expireAll flushed
  | timerExpired =>
      have afterEq : opsFpaMacLearningProcessMlearn env before = after :=
        congrArg Prod.snd (Except.ok.inj taken)
      rw [← afterEq]
      exact ⟨⟨_, models.swap.1⟩, models.swap.2⟩
  | hmapGet =>
      have afterEq : (opsFpaMlHmapGet before).2 = after :=
        congrArg Prod.snd (Except.ok.inj taken)
      rw [← afterEq]
      refine ⟨⟨_, models.hmapGet⟩, ?_⟩
      simp [swapsSafely, eventsOf, EventBuffers.safeToRecord, noEventLost, opsFpaMlHmapGet]

theorem run_models {maxEntries : Nat} {pluginInterface : Bool} {trace : List MlEvent}
    (run : MlRun env (opsFpaMacLearningCreate env maxEntries pluginInterface) trace ml) :
    Models env ml (buffersOf ml) := by
  induction run with
  | nil => exact models_buffersOf (fun _ => .empty _ _ _) (fun _ => rfl)
  | cons run taken ih =>
      obtain ⟨⟨after, models⟩, _⟩ := mlStep_lossless ⟨_, _, _, _⟩ ih taken
      exact models_buffersOf models.sound models.sizes

/-- Under any interleaving, no event is cleared unseen exactly when every exchange of the
tables finds the other one read or replaced. -/
theorem no_event_lost_iff_swaps_safely (env : Env) (maxEntries : Nat) (pluginInterface : Bool)
    (trace : List MlEvent) (ml : MacLearning)
    (run : MlRun env (opsFpaMacLearningCreate env maxEntries pluginInterface) trace ml) :
    noEventLost ml.history ↔ Runs.Along (fun _ event => swapsSafely env event) trace := by
  induction run with
  | nil => exact ⟨fun _ => trivial, fun _ => rfl⟩
  | cons run taken ih =>
      have lossless := (mlStep_lossless ⟨_, _, _, _⟩ (run_models run) taken).2
      rw [lossless, Bool.and_eq_true, ih, Runs.Along, and_comm]

end Simulation

section TwoStations

def stationEvent (vid : Nat) : MlInput :=
  ⟨twoPorts, .actionAdd ⟨.updateNew, 1, vid, 5#48⟩ vid .mlearnAdd⟩

theorem no_event_lost_read_between_timers :
    ∃ trace ml, MlRun idealEnv (opsFpaMacLearningCreate idealEnv 16384 true) trace ml ∧
      ml.history.length = 7 ∧ noEventLost ml.history = true := by
  obtain ⟨trace, ml, run, length, safe⟩ := mlRun_of_check idealEnv
    (opsFpaMacLearningCreate idealEnv 16384 true)
    [stationEvent 10, ⟨twoPorts, .timerExpired⟩, ⟨twoPorts, .hmapGet⟩, stationEvent 20,
      ⟨twoPorts, .timerExpired⟩]
    (fun trace ml => ml.history.length = 7 ∧
      Runs.Along (fun _ event => swapsSafely idealEnv event) trace) (by decide +kernel)
  exact ⟨trace, ml, run, length,
    (no_event_lost_iff_swaps_safely idealEnv 16384 true trace ml run).mpr safe⟩

theorem event_lost_between_timers :
    ∃ trace ml, MlRun idealEnv (opsFpaMacLearningCreate idealEnv 16384 true) trace ml ∧
      noEventLost ml.history = false :=
  mlRun_of_check idealEnv (opsFpaMacLearningCreate idealEnv 16384 true)
    [stationEvent 10, ⟨twoPorts, .timerExpired⟩, stationEvent 20, ⟨twoPorts, .timerExpired⟩]
    (fun _ ml => noEventLost ml.history = false) (by decide +kernel)

end TwoStations

end FpaPlugin

import FpaPlugin.Lib.HmapCursor
import FpaPlugin.FdbMap

/-! The two lookups of the software FDB. Ageing goes through the bucket of a hash, next-hop
resolution through the whole table, and the table may hold a station more than once: the records
they find are told apart by where their nodes stand, not by what is in them. -/

namespace FpaPlugin

inductive FdbCall
  | mlCall (call : MlCall)
  | ageByVlanAndMac (vlan : Nat) (mac : EthAddr)

structure FdbInput where
  portName : Nat → Option PortName
  call : FdbCall

abbrev FdbCallEvent := Runs.Event MacLearning FdbInput Unit

def fdbCallStep (env : Env) (ml : MacLearning) (input : FdbInput) :
    Except Fault (Unit × MacLearning) :=
  match input.call with
  | .mlCall call =>
      match mlStep env input.portName ml call with
      | .error fault => .error fault
      | .ok (_, ml) => .ok ((), ml)
  | .ageByVlanAndMac vlan mac =>
      match opsFpaMacLearningAgeByVlanAndMac env input.portName ml vlan mac with
      | .error fault => .error fault
      | .ok (_, ml) => .ok ((), ml)

abbrev FdbRun (env : Env) (start : MacLearning) : List FdbCallEvent → MacLearning → Prop :=
  Runs.Run (fdbCallStep env) start

theorem fdbRun_of_check (env : Env) (start : MacLearning) (inputs : List FdbInput)
    (check : List FdbCallEvent → MacLearning → Prop) [∀ trace ml, Decidable (check trace ml)]
    (passed : (Runs.replay (fdbCallStep env) [] start inputs).any
      (fun result => check result.1 result.2) = true) :
    ∃ trace ml, FdbRun env start trace ml ∧ check trace ml :=
  Runs.Run.of_check inputs check passed

def lookupPosition (env : Env) (ml : MacLearning) (wanted : AddressMsg) : Option Hmap.Position :=
  ml.table.findWithHash (fpaHashFdbEntry env wanted) (sameAddress wanted.vid wanted.address)

def scanPosition (ml : MacLearning) (vlanId : Nat) (mac : EthAddr) : Option Hmap.Position :=
  ml.table.find (sameAddress vlanId mac)

/-- Both lookups return the record at one position. Ageing frees that one, and next-hop
resolution takes its port. -/
structure SameRecord (env : Env) (ml : MacLearning) (wanted : AddressMsg) : Prop where
  position : lookupPosition env ml wanted = scanPosition ml wanted.vid wanted.address
  lookup : opsFpaMacLearningLookup env ml wanted =
    (lookupPosition env ml wanted).bind ml.table.valueAt
  scan : opsFpaMacLearningLookupByVlanAndMac ml wanted.vid wanted.address =
    (scanPosition ml wanted.vid wanted.address).bind ml.table.valueAt
  entry : opsFpaMacLearningLookup env ml wanted =
    opsFpaMacLearningLookupByVlanAndMac ml wanted.vid wanted.address
  aged : ∀ portName after, opsFpaMacLearningAgeByEntry env portName ml wanted = .ok after →
    after.table =
      (scanPosition ml wanted.vid wanted.address).elim ml.table ml.table.removeAt
  agedByVlanAndMac : ∀ portName status after,
    opsFpaMacLearningAgeByVlanAndMac env portName ml wanted.vid wanted.address =
      .ok (status, after) →
    after.table = (lookupPosition env ml wanted).elim ml.table ml.table.removeAt
  nextHop : ∀ s l3Intf, s.ml = ml → l3Intf.vlanId = wanted.vid →
    opsFpaVlanInternal s.hw l3Intf.vlanId = false →
    l3EgressId s l3Intf wanted.address =
      (opsFpaMacLearningLookup env ml wanted).elim (.error .nullPointer)
        fun entry => .ok entry.portNum

section Lookups

variable {env : Env} {ml ml' : MacLearning} {portName : Nat → Option PortName}

theorem lookupPosition_eq (hashed : ml.table.Hashed (hashFdbKey env) fdbKey)
    (wanted : AddressMsg) :
    lookupPosition env ml wanted = scanPosition ml wanted.vid wanted.address := by
  rw [lookupPosition, scanPosition, sameAddress_eq, hashed.find_eq]
  rfl

theorem lookup_valueAt (ml : MacLearning) (wanted : AddressMsg) :
    opsFpaMacLearningLookup env ml wanted =
      (lookupPosition env ml wanted).bind ml.table.valueAt :=
  ml.table.find?_withHash _ _

theorem lookupByVlanAndMac_valueAt (ml : MacLearning) (vlanId : Nat) (mac : EthAddr) :
    opsFpaMacLearningLookupByVlanAndMac ml vlanId mac =
      (scanPosition ml vlanId mac).bind ml.table.valueAt :=
  ml.table.find?_values _

theorem lookup_eq_scan (hashed : ml.table.Hashed (hashFdbKey env) fdbKey) (wanted : AddressMsg) :
    opsFpaMacLearningLookup env ml wanted =
      opsFpaMacLearningLookupByVlanAndMac ml wanted.vid wanted.address := by
  rw [lookup_valueAt, lookupByVlanAndMac_valueAt, lookupPosition_eq hashed]

theorem remove_lookup {wanted entry : AddressMsg}
    (found : opsFpaMacLearningLookup env ml wanted = some entry) :
    ml.table.remove (fpaHashFdbEntry env wanted) entry =
      (lookupPosition env ml wanted).elim ml.table ml.table.removeAt := by
  rw [lookup_valueAt] at found
  obtain ⟨position, isPosition, isEntry⟩ := Option.bind_eq_some_iff.mp found
  rw [isPosition]
  exact Hmap.remove_eq_removeAt isPosition isEntry

theorem find?_nodes_scan (hashed : ml.table.Hashed (hashFdbKey env) fdbKey) {wanted : AddressMsg}
    {node : Nat × AddressMsg}
    (found : ml.table.nodes.find?
      (fun node => sameAddress wanted.vid wanted.address node.2) = some node) :
    node.1 = fpaHashFdbEntry env wanted ∧
      opsFpaMacLearningLookup env ml wanted = some node.2 := by
  have isKey : fdbKey node.2 = fdbKey wanted := by
    have isSame := List.find?_some found
    rwa [sameAddress_eq, decide_eq_true_eq] at isSame
  constructor
  · rw [hashed node (List.mem_of_find?_eq_some found), isKey]
    rfl
  · rw [lookup_eq_scan hashed, opsFpaMacLearningLookupByVlanAndMac, Hmap.values, List.find?_map]
    exact congrArg (Option.map Prod.snd) found

theorem lookupPosition_none {wanted : AddressMsg}
    (missing : opsFpaMacLearningLookup env ml wanted = none) :
    lookupPosition env ml wanted = none := by
  rw [lookup_valueAt] at missing
  cases stopped : lookupPosition env ml wanted with
  | none => rfl
  | some position =>
      obtain ⟨value, isValue⟩ := Hmap.valueAt_some stopped
      rw [stopped, Option.bind_some, isValue] at missing
      cases missing

theorem ageByEntry_removeAt {wanted : AddressMsg}
    (aged : opsFpaMacLearningAgeByEntry env portName ml wanted = .ok ml') :
    ml'.table = (lookupPosition env ml wanted).elim ml.table ml.table.removeAt := by
  rcases ageByEntry_table aged with ⟨missing, same⟩ | ⟨entry, found, removed⟩
  · rw [same, lookupPosition_none missing]
    rfl
  · rw [removed, remove_lookup found]

theorem ageByVlanAndMac_table {vlan : Nat} {mac : EthAddr} {status : MlStatus}
    (aged : opsFpaMacLearningAgeByVlanAndMac env portName ml vlan mac = .ok (status, ml')) :
    (ml.table.nodes.find? (fun node => sameAddress vlan mac node.2) = none ∧
        ml'.table = ml.table) ∨
      ∃ node, ml.table.nodes.find? (fun node => sameAddress vlan mac node.2) = some node ∧
        ml'.table = ml.table.remove node.1 node.2 := by
  simp only [opsFpaMacLearningAgeByVlanAndMac] at aged
  split at aged
  · rename_i missing
    cases aged
    exact .inl ⟨missing, rfl⟩
  · rename_i hash entry found
    split at aged
    · cases aged
    · rename_i expired
      cases aged
      exact .inr ⟨(hash, entry), found, expire_table expired⟩

theorem ageByVlanAndMac_removeAt (hashed : ml.table.Hashed (hashFdbKey env) fdbKey)
    {wanted : AddressMsg} {status : MlStatus}
    (aged : opsFpaMacLearningAgeByVlanAndMac env portName ml wanted.vid wanted.address =
      .ok (status, ml')) :
    ml'.table = (lookupPosition env ml wanted).elim ml.table ml.table.removeAt := by
  rcases ageByVlanAndMac_table aged with ⟨missing, same⟩ | ⟨node, found, removed⟩
  · have absent : opsFpaMacLearningLookup env ml wanted = none := by
      rw [lookup_eq_scan hashed, opsFpaMacLearningLookupByVlanAndMac, Hmap.values, List.find?_map]
      exact congrArg (Option.map Prod.snd) missing
    rw [same, lookupPosition_none absent]
    rfl
  · obtain ⟨isHash, isEntry⟩ := find?_nodes_scan hashed found
    rw [removed, isHash, remove_lookup isEntry]

/-- All that the lookups need of the table is that every node is filed under the hash of its
own address. -/
theorem sameRecord_of_hashed (hashed : ml.table.Hashed (hashFdbKey env) fdbKey)
    (wanted : AddressMsg) : SameRecord env ml wanted where
  position := lookupPosition_eq hashed wanted
  lookup := lookup_valueAt ml wanted
  scan := lookupByVlanAndMac_valueAt ml wanted.vid wanted.address
  entry := lookup_eq_scan hashed wanted
  aged := by
    intro portName after aged
    rw [ageByEntry_removeAt aged, lookupPosition_eq hashed]
  agedByVlanAndMac := fun _ _ _ aged => ageByVlanAndMac_removeAt hashed aged
  nextHop := by
    intro s l3Intf isMl isVlan external
    rw [l3EgressId, external, isMl, isVlan, lookup_eq_scan hashed]
    cases opsFpaMacLearningLookupByVlanAndMac ml wanted.vid wanted.address with
    | none => rfl
    | some entry => rfl

theorem fdbCallStep_hashed {input : FdbInput} {reply : Unit}
    (hashed : ml.table.Hashed (hashFdbKey env) fdbKey)
    (taken : fdbCallStep env ml input = .ok (reply, ml')) :
    ml'.table.Hashed (hashFdbKey env) fdbKey := by
  obtain ⟨portName, call⟩ := input
  cases call with
  | mlCall call =>
      simp only [fdbCallStep] at taken
      split at taken
      · cases taken
      · rename_i stepped
        cases taken
        exact mlStep_hashed hashed stepped
  | ageByVlanAndMac vlan mac =>
      simp only [fdbCallStep] at taken
      split at taken
      · cases taken
      · rename_i aged
        cases taken
        rcases ageByVlanAndMac_table aged with ⟨_, same⟩ | ⟨node, _, removed⟩
        · rwa [same]
        · rw [removed]
          exact fun other member => hashed other (Hmap.mem_nodes_remove member)

theorem fdbRun_hashed {maxEntries : Nat} {pluginInterface : Bool} {trace : List FdbCallEvent}
    (run : FdbRun env (opsFpaMacLearningCreate env maxEntries pluginInterface) trace ml) :
    ml.table.Hashed (hashFdbKey env) fdbKey := by
  induction run with
  | nil => exact (Hmap.Keyed.empty 0).hashed
  | cons _ taken ih => exact fdbCallStep_hashed ih taken

end Lookups

/-- However the map has grown and however often a station is in it, ageing and next-hop
resolution act on one record. -/
theorem lookups_find_same_record (env : Env) (maxEntries : Nat) (pluginInterface : Bool)
    (trace : List FdbCallEvent) (ml : MacLearning)
    (run : FdbRun env (opsFpaMacLearningCreate env maxEntries pluginInterface) trace ml)
    (wanted : AddressMsg) : SameRecord env ml wanted :=
  sameRecord_of_hashed (fdbRun_hashed run) wanted

section Collisions

def fdbMsg (type : AddressMsgType) (port vid : Nat) (mac : EthAddr) : FdbInput :=
  ⟨twoPorts, .mlCall (.asicEvent ⟨type, port, vid, mac⟩)⟩

/-- Three stations with one hash, one of them learned again after the map has grown. -/
theorem lookups_find_same_record_collision :
    ∃ trace ml, FdbRun idealEnv (opsFpaMacLearningCreate idealEnv 16384 true) trace ml ∧
      ml.table.mask = 3 ∧
      (ml.table.values.filter (sameAddress 10 5#48)).map AddressMsg.portNum = [2, 1] ∧
      SameRecord idealEnv ml ⟨.updateAged, 0, 10, 5#48⟩ := by
  obtain ⟨trace, ml, run, grown, twice⟩ := fdbRun_of_check idealEnv
    (opsFpaMacLearningCreate idealEnv 16384 true)
    [fdbMsg .updateNew 1 8 7#48, fdbMsg .updateNew 1 10 5#48, fdbMsg .updateNew 2 9 6#48,
      fdbMsg .updateNew 2 10 5#48, fdbMsg .updateNew 1 10 5#48,
      ⟨twoPorts, .ageByVlanAndMac 10 5#48⟩, fdbMsg .updateAged 2 8 7#48]
    (fun _ ml => ml.table.mask = 3 ∧
      (ml.table.values.filter (sameAddress 10 5#48)).map AddressMsg.portNum = [2, 1])
    (by decide +kernel)
  exact ⟨trace, ml, run, grown, twice,
    lookups_find_same_record idealEnv 16384 true trace ml run ⟨.updateAged, 0, 10, 5#48⟩⟩

end Collisions

end FpaPlugin

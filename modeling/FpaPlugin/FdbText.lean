import FpaPlugin.Lib.PrefixCode
import FpaPlugin.FdbLookups
import FpaPlugin.TapFrames

/-! `ops_fpa_mac_learning_dump_table`: what an operator reads in `fdb/show` decides what the FDB
answers. The columns are only padded, so each is told from the next by the blank behind it. -/

namespace FpaPlugin

def hexByte (byte : Byte) : CString :=
  [Nat.digitChar (byte.toNat / 16), Nat.digitChar (byte.toNat % 16)]

/-- `FPA_ETH_ADDR_FMT`. -/
def ethAddrText (mac : EthAddr) : CString := [':'].intercalate ((ethAddrBytes mac).map hexByte)

/-- A node of the FDB as it is shown: port, VLAN, MAC address and hash. -/
abbrev FdbRow := Nat × Nat × EthAddr × Nat

def fdbRow (node : Nat × AddressMsg) : FdbRow :=
  (node.2.portNum, node.2.vid, node.2.address, node.1)

def stationRow (entry : AddressMsg) : Nat × Nat × EthAddr :=
  (entry.portNum, entry.vid, entry.address)

section Dump

variable (portNameSize : Nat)

/-- `snprintf` keeps room for the NUL. -/
def ifaceName (portNum : Nat) : CString := (Nat.toDigits 10 portNum).take (portNameSize - 1)

/-- One line, `"%-8s %4d  "FPA_ETH_ADDR_FMT"  0x%lx\n"`. -/
def fdbLine : FdbRow → CString
  | (portNum, vid, address, hash) =>
      (ifaceName portNameSize portNum).rightpad 8 ' ' ++ ' ' ::
        ((Nat.toDigits 10 vid).leftpad 4 ' ' ++ "  ".toList ++ ethAddrText address ++
          "  0x".toList ++ Nat.toDigits 16 hash ++ ['\n'])

def fdbHeader : CString := " port    VLAN  MAC                index\n".toList

def opsFpaMacLearningDumpTable (ml : MacLearning) : CString :=
  fdbHeader ++ ml.table.nodes.flatMap fun node => fdbLine portNameSize (fdbRow node)

end Dump

section Fields

open PrefixCode

theorem hexByte_inj {byte other : Byte} (same : hexByte byte = hexByte other) : byte = other := by
  have bound := byte.isLt
  have otherBound := other.isLt
  rw [hexByte, hexByte, List.cons.injEq, List.cons.injEq] at same
  obtain ⟨high, low, _⟩ := same
  have sameHigh := digitChar_inj (by omega) (by omega) high
  have sameLow := digitChar_inj (by omega) (by omega) low
  apply BitVec.eq_of_toNat_eq
  omega

theorem ethAddrBytes_inj {mac other : EthAddr} (same : ethAddrBytes mac = ethAddrBytes other) :
    mac = other := by
  have bytes : ∀ index < 6, mac.extractLsb' (8 * (5 - index)) 8 =
      other.extractLsb' (8 * (5 - index)) 8 := by
    intro index below
    have sameMap := List.map_inj_left.mp same index (List.mem_range.mpr below)
    exact sameMap
  apply BitVec.eq_of_getLsbD_eq
  intro bit below
  have sameByte := bytes (5 - bit / 8) (by omega)
  have sameBit := congrArg (fun byte : Byte => byte.getLsbD (bit % 8)) sameByte
  have place : 8 * (5 - (5 - bit / 8)) + bit % 8 = bit := by omega
  have inByte : bit % 8 < 8 := Nat.mod_lt bit (by omega)
  simpa only [BitVec.getLsbD_extractLsb', place, inByte, decide_true, Bool.true_and] using sameBit

theorem ethAddrText_eq (mac : EthAddr) : ∃ b₀ b₁ b₂ b₃ b₄ b₅,
    ethAddrBytes mac = [b₀, b₁, b₂, b₃, b₄, b₅] ∧
    ethAddrText mac = hexByte b₀ ++ ':' :: (hexByte b₁ ++ ':' :: (hexByte b₂ ++ ':' ::
      (hexByte b₃ ++ ':' :: (hexByte b₄ ++ ':' :: hexByte b₅)))) :=
  ⟨_, _, _, _, _, _, rfl, rfl⟩

theorem ethAddrText_inj {mac other : EthAddr} (same : ethAddrText mac = ethAddrText other) :
    mac = other := by
  obtain ⟨b₀, b₁, b₂, b₃, b₄, b₅, bytes, text⟩ := ethAddrText_eq mac
  obtain ⟨c₀, c₁, c₂, c₃, c₄, c₅, otherBytes, otherText⟩ := ethAddrText_eq other
  apply ethAddrBytes_inj
  rw [text, otherText] at same
  obtain ⟨first, same⟩ := List.append_inj same rfl
  obtain ⟨second, same⟩ := List.append_inj (List.cons.inj same).2 rfl
  obtain ⟨third, same⟩ := List.append_inj (List.cons.inj same).2 rfl
  obtain ⟨fourth, same⟩ := List.append_inj (List.cons.inj same).2 rfl
  obtain ⟨fifth, same⟩ := List.append_inj (List.cons.inj same).2 rfl
  rw [bytes, otherBytes, hexByte_inj first, hexByte_inj second, hexByte_inj third,
    hexByte_inj fourth, hexByte_inj fifth, hexByte_inj (List.cons.inj same).2]

theorem digit_ne_blank : ∀ d < 16, Nat.digitChar d ≠ ' ' := by decide

theorem toDigits_starts (n : Nat) (rest : CString) :
    ∃ first more, Nat.toDigits 10 n ++ rest = first :: more ∧ first ≠ ' ' := by
  cases digits : Nat.toDigits 10 n with
  | nil => exact (Nat.toDigits_ne_nil digits).elim
  | cons first more =>
      refine ⟨first, more ++ rest, rfl, fun isBlank => ?_⟩
      have absent := notMem_toDigits (b := 10) (by omega) (by omega) digit_ne_blank n
      rw [digits, isBlank] at absent
      exact absent List.mem_cons_self

theorem portField : Unambiguous (fun _ => True) fun portNum =>
    (Nat.toDigits 10 portNum ++ [' ']) ++
      List.replicate (8 - (Nat.toDigits 10 portNum).length) ' ' :=
  (numeral (by omega) (by omega) digit_ne_blank).followed _

theorem vidField : Unambiguous (fun _ => True) fun vid =>
    List.replicate (4 - (Nat.toDigits 10 vid).length) ' ' ++ (Nat.toDigits 10 vid ++ [' ']) :=
  (numeral (by omega) (by omega) digit_ne_blank).filled ' ' (fun vid => toDigits_starts vid _) _

theorem addressField : Unambiguous (fun _ => True) fun mac => [' '] ++ ethAddrText mac := by
  have length : ∀ mac, (ethAddrText mac).length = 17 := fun _ => rfl
  have text : Unambiguous (fun _ => True) ethAddrText :=
    .of_length length fun _ _ => ethAddrText_inj
  exact text.preceded [' ']

theorem hashField : Unambiguous (fun _ => True) fun hash =>
    "  0x".toList ++ (Nat.toDigits 16 hash ++ ['\n']) :=
  (numeral (by omega) (by omega) (by decide)).preceded _

variable {portNameSize : Nat}

def FitsIfaceName (portNameSize portNum : Nat) : Prop :=
  (Nat.toDigits 10 portNum).length < portNameSize

instance (portNameSize portNum : Nat) : Decidable (FitsIfaceName portNameSize portNum) :=
  inferInstanceAs (Decidable (_ < _))

theorem ifaceName_of_fits {portNum : Nat} (fits : FitsIfaceName portNameSize portNum) :
    ifaceName portNameSize portNum = Nat.toDigits 10 portNum :=
  List.take_of_length_le (Nat.le_sub_one_of_lt fits)

theorem fdbLine_fields (row : FdbRow) (fits : FitsIfaceName portNameSize row.1) :
    fdbLine portNameSize row =
      ((Nat.toDigits 10 row.1 ++ [' ']) ++
        List.replicate (8 - (Nat.toDigits 10 row.1).length) ' ') ++
      ((List.replicate (4 - (Nat.toDigits 10 row.2.1).length) ' ' ++
        (Nat.toDigits 10 row.2.1 ++ [' '])) ++
      (([' '] ++ ethAddrText row.2.2.1) ++
        ("  0x".toList ++ (Nat.toDigits 16 row.2.2.2 ++ ['\n'])))) := by
  obtain ⟨portNum, vid, address, hash⟩ := row
  have blanks : ∀ (k : Nat) (rest : CString),
      List.replicate k ' ' ++ ' ' :: rest = ' ' :: (List.replicate k ' ' ++ rest) := by
    intro k rest
    rw [← List.cons_append, ← List.replicate_succ, List.replicate_succ', List.append_assoc,
      List.singleton_append]
  have two : "  ".toList = [' '] ++ [' '] := rfl
  simp only [fdbLine, ifaceName_of_fits fits, List.rightpad, List.leftpad, two, List.append_assoc,
    List.cons_append, List.nil_append, blanks]

theorem fdbLine_unambiguous :
    Unambiguous (fun row => FitsIfaceName portNameSize row.1) (fdbLine portNameSize) := by
  intro row other fits otherFits s t same
  rw [fdbLine_fields row fits, fdbLine_fields other otherFits] at same
  have fields := portField.pair (vidField.pair (addressField.pair hashField))
  exact fields row other ⟨trivial, trivial, trivial, trivial⟩ ⟨trivial, trivial, trivial, trivial⟩
    s t same

theorem fdbLine_ne_nil (row : FdbRow) : fdbLine portNameSize row ≠ [] := by
  simp [fdbLine]

end Fields

/-- The FDB as far as it is shown: its rows in order, and the row that each lookup stops at. -/
structure ShowsSame (env : Env) (ml ml' : MacLearning) : Prop where
  rows : ml.table.nodes.map fdbRow = ml'.table.nodes.map fdbRow
  lookup : ∀ wanted, (opsFpaMacLearningLookup env ml wanted).map stationRow =
    (opsFpaMacLearningLookup env ml' wanted).map stationRow
  nextHop : ∀ vlanId mac, (opsFpaMacLearningLookupByVlanAndMac ml vlanId mac).map stationRow =
    (opsFpaMacLearningLookupByVlanAndMac ml' vlanId mac).map stationRow

section Shown

variable {env : Env} {portNameSize : Nat} {ml ml' : MacLearning}

theorem dumpTable_eq (ml : MacLearning) : opsFpaMacLearningDumpTable portNameSize ml =
    fdbHeader ++ (ml.table.nodes.map fdbRow).flatMap (fdbLine portNameSize) := by
  rw [List.flatMap_map, opsFpaMacLearningDumpTable]

def PortsFit (portNameSize : Nat) (ml : MacLearning) : Prop :=
  ∀ entry ∈ ml.table.values, FitsIfaceName portNameSize entry.portNum

instance (portNameSize : Nat) (ml : MacLearning) : Decidable (PortsFit portNameSize ml) :=
  inferInstanceAs (Decidable (∀ entry ∈ _, _))

theorem fdbRow_fits (fits : PortsFit portNameSize ml) :
    ∀ row ∈ ml.table.nodes.map fdbRow, FitsIfaceName portNameSize row.1 := by
  intro row member
  obtain ⟨node, inTable, isRow⟩ := List.mem_map.mp member
  rw [← isRow]
  exact fits node.2 (List.mem_map_of_mem inTable)

theorem dump_eq_iff_rows (fits : PortsFit portNameSize ml) (otherFits : PortsFit portNameSize ml') :
    opsFpaMacLearningDumpTable portNameSize ml = opsFpaMacLearningDumpTable portNameSize ml' ↔
      ml.table.nodes.map fdbRow = ml'.table.nodes.map fdbRow := by
  rw [dumpTable_eq, dumpTable_eq, List.append_right_inj]
  constructor
  · exact fdbLine_unambiguous.flatMap fdbLine_ne_nil (fdbRow_fits fits) (fdbRow_fits otherFits)
  · intro rows
    rw [rows]

theorem scan_row (ml : MacLearning) (vlanId : Nat) (mac : EthAddr) :
    (opsFpaMacLearningLookupByVlanAndMac ml vlanId mac).map stationRow =
      ((ml.table.nodes.map fdbRow).map fun row => (row.1, row.2.1, row.2.2.1)).find?
        fun station => station.2.2 = mac && station.2.1 = vlanId := by
  rw [opsFpaMacLearningLookupByVlanAndMac, Hmap.values, List.map_map, List.find?_map,
    List.find?_map, Option.map_map]
  rfl

theorem showsSame_of_rows (hashed : ml.table.Hashed (hashFdbKey env) fdbKey)
    (otherHashed : ml'.table.Hashed (hashFdbKey env) fdbKey)
    (rows : ml.table.nodes.map fdbRow = ml'.table.nodes.map fdbRow) : ShowsSame env ml ml' := by
  have scans : ∀ vlanId mac, (opsFpaMacLearningLookupByVlanAndMac ml vlanId mac).map stationRow =
      (opsFpaMacLearningLookupByVlanAndMac ml' vlanId mac).map stationRow := by
    intro vlanId mac
    rw [scan_row, scan_row, rows]
  refine ⟨rows, fun wanted => ?_, scans⟩
  rw [lookup_eq_scan hashed, lookup_eq_scan otherHashed, scans]

end Shown

/-- Two dumps are the same text only if the FDBs behind them answer the same. The histories that
led to the two may differ. -/
theorem fdb_dump_tells_tables_apart (env : Env) (portNameSize maxEntries maxEntries' : Nat)
    (pluginInterface pluginInterface' : Bool) (trace trace' : List FdbCallEvent)
    (ml ml' : MacLearning)
    (run : FdbRun env (opsFpaMacLearningCreate env maxEntries pluginInterface) trace ml)
    (otherRun : FdbRun env (opsFpaMacLearningCreate env maxEntries' pluginInterface') trace' ml')
    (fits : PortsFit portNameSize ml) (otherFits : PortsFit portNameSize ml') :
    opsFpaMacLearningDumpTable portNameSize ml = opsFpaMacLearningDumpTable portNameSize ml' ↔
      ShowsSame env ml ml' := by
  rw [dump_eq_iff_rows fits otherFits]
  constructor
  · exact showsSame_of_rows (fdbRun_hashed run) (fdbRun_hashed otherRun)
  · exact ShowsSame.rows

theorem fdb_dump_shows_aged_station_gone :
    ∃ trace ml trace' ml', FdbRun idealEnv (opsFpaMacLearningCreate idealEnv 16384 true) trace ml ∧
      FdbRun idealEnv (opsFpaMacLearningCreate idealEnv 8192 false) trace' ml' ∧
      opsFpaMacLearningDumpTable 16 ml =
        " port    VLAN  MAC                index\n1          10  00:00:00:00:00:05  0xf\n".toList ∧
      ShowsSame idealEnv ml ml' := by
  obtain ⟨trace, ml, run, dump, fits⟩ := fdbRun_of_check idealEnv
    (opsFpaMacLearningCreate idealEnv 16384 true)
    [fdbMsg .updateNew 2 8 7#48, fdbMsg .updateNew 1 10 5#48, fdbMsg .updateAged 2 8 7#48]
    (fun _ ml => opsFpaMacLearningDumpTable 16 ml =
        " port    VLAN  MAC                index\n1          10  00:00:00:00:00:05  0xf\n".toList ∧
      PortsFit 16 ml) (by decide +kernel)
  obtain ⟨trace', ml', otherRun, otherDump, otherFits⟩ := fdbRun_of_check idealEnv
    (opsFpaMacLearningCreate idealEnv 8192 false) [fdbMsg .updateNew 1 10 5#48]
    (fun _ ml => opsFpaMacLearningDumpTable 16 ml =
        " port    VLAN  MAC                index\n1          10  00:00:00:00:00:05  0xf\n".toList ∧
      PortsFit 16 ml) (by decide +kernel)
  exact ⟨trace, ml, trace', ml', run, otherRun, dump,
    (fdb_dump_tells_tables_apart idealEnv 16 16384 8192 true false trace trace' ml ml' run otherRun
      fits otherFits).mp (dump.trans otherDump.symm)⟩

end FpaPlugin

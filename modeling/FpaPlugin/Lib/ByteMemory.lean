import Mathlib.Data.List.Basic
import Mathlib.Data.BitVec

/-! Memory addressed by offset, with `memmove` and 16-bit accesses of a little-endian host.
Regions are read as lists; a region is split where a write or a move begins or ends, and
each part is either what was written there or what was there before. -/

namespace ByteMemory

variable {α : Type}

def slice (mem : Nat → α) (start length : Nat) : List α :=
  (List.range length).map fun index => mem (start + index)

/-- The source is read as it was before the call, also where the regions overlap. -/
def memmove (mem : Nat → α) (dst src count : Nat) : Nat → α :=
  fun address => if dst ≤ address ∧ address < dst + count then mem (src + (address - dst)) else mem address

def write (mem : Nat → α) (start : Nat) (values : List α) : Nat → α :=
  fun address => (if start ≤ address then values[address - start]? else none).getD (mem address)

@[simp] theorem length_slice (mem : Nat → α) (start length : Nat) :
    (slice mem start length).length = length := by
  simp [slice]

theorem slice_congr {mem other : Nat → α} {start otherStart length : Nat}
    (same : ∀ index, index < length → mem (start + index) = other (otherStart + index)) :
    slice mem start length = slice other otherStart length := by
  apply List.map_congr_left
  intro index member
  exact same index (List.mem_range.mp member)

theorem slice_add (mem : Nat → α) (start first second : Nat) :
    slice mem start (first + second) = slice mem start first ++ slice mem (start + first) second := by
  simp only [slice, List.range_add, List.map_append, List.map_map]
  congr 1
  apply List.map_congr_left
  intro index _
  simp only [Function.comp_apply]
  congr 1
  omega

theorem slice_split (mem : Nat → α) (start : Nat) {count length : Nat} (bound : count ≤ length) :
    slice mem start length =
      slice mem start count ++ slice mem (start + count) (length - count) := by
  rw [← slice_add]
  congr 1
  omega

theorem take_slice (mem : Nat → α) (start : Nat) {count length : Nat} (bound : count ≤ length) :
    (slice mem start length).take count = slice mem start count := by
  rw [slice_split mem start bound, List.take_left' (length_slice _ _ _)]

theorem drop_slice (mem : Nat → α) (start : Nat) {count length : Nat} (bound : count ≤ length) :
    (slice mem start length).drop count = slice mem (start + count) (length - count) := by
  rw [slice_split mem start bound, List.drop_left' (length_slice _ _ _)]

theorem slice_memmove (mem : Nat → α) (dst src count : Nat) :
    slice (memmove mem dst src count) dst count = slice mem src count := by
  apply slice_congr
  intro index bound
  rw [memmove, if_pos (by omega)]
  congr 1
  omega

theorem slice_memmove_apart (mem : Nat → α) {dst src count start length : Nat}
    (apart : start + length ≤ dst ∨ dst + count ≤ start) :
    slice (memmove mem dst src count) start length = slice mem start length := by
  apply slice_congr
  intro index bound
  rw [memmove, if_neg (by omega)]

theorem slice_write (mem : Nat → α) (start : Nat) (values : List α) :
    slice (write mem start values) start values.length = values := by
  apply List.ext_getElem
  · simp
  · intro index _ bound
    simp [slice, write, bound]

theorem slice_write_apart (mem : Nat → α) {start length position : Nat} {values : List α}
    (apart : position + length ≤ start ∨ start + values.length ≤ position) :
    slice (write mem start values) position length = slice mem position length := by
  apply slice_congr
  intro index bound
  rw [write]
  by_cases above : start ≤ position + index
  · rw [if_pos above, List.getElem?_eq_none (by omega), Option.getD_none]
  · rw [if_neg above, Option.getD_none]

section Halfwords

def load16 (mem : Nat → BitVec 8) (start : Nat) : BitVec 16 := mem (start + 1) ++ mem start

def store16 (mem : Nat → BitVec 8) (start : Nat) (value : BitVec 16) : Nat → BitVec 8 :=
  write mem start [value.extractLsb' 0 8, value.extractLsb' 8 8]

def swap16 (value : BitVec 16) : BitVec 16 := value.extractLsb' 0 8 ++ value.extractLsb' 8 8

def bytes16 (value : BitVec 16) : List (BitVec 8) := [value.extractLsb' 8 8, value.extractLsb' 0 8]

@[simp] theorem length_bytes16 (value : BitVec 16) : (bytes16 value).length = 2 := rfl

theorem swap16_append (high low : BitVec 8) : swap16 (low ++ high) = high ++ low := by
  rw [swap16, BitVec.extractLsb'_append_eq_right, BitVec.extractLsb'_append_eq_left]

theorem bytes16_append (high low : BitVec 8) : bytes16 (high ++ low) = [high, low] := by
  rw [bytes16, BitVec.extractLsb'_append_eq_left, BitVec.extractLsb'_append_eq_right]

theorem append_bytes16 (value : BitVec 16) : value.extractLsb' 8 8 ++ value.extractLsb' 0 8 = value :=
  BitVec.extractLsb'_append_extractLsb'

theorem slice_two (mem : Nat → α) (start : Nat) : slice mem start 2 = [mem start, mem (start + 1)] :=
  rfl

theorem bytes16_swap16_load16 (mem : Nat → BitVec 8) (start : Nat) :
    bytes16 (swap16 (load16 mem start)) = slice mem start 2 := by
  rw [load16, swap16_append, bytes16_append, slice_two]

theorem bytes16_inj {value other : BitVec 16} (same : bytes16 value = bytes16 other) : value = other := by
  simp only [bytes16, List.cons.injEq, and_true] at same
  rw [← append_bytes16 value, same.1, same.2, append_bytes16]

theorem store16_swap16 (mem : Nat → BitVec 8) (start : Nat) (value : BitVec 16) :
    store16 mem start (swap16 value) = write mem start (bytes16 value) := by
  rw [store16, swap16, BitVec.extractLsb'_append_eq_right, BitVec.extractLsb'_append_eq_left, bytes16]

end Halfwords

end ByteMemory

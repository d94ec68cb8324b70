import Mathlib.Logic.Function.Basic
import Mathlib.Data.List.Nodup
import Mathlib.Data.List.Range
import Mathlib.Data.Finset.Card
import Mathlib.Order.Interval.Finset.Nat

/-! A free list threaded through an array: cell 0 holds the head, every free cell
the next free one, and 0 ends the list. -/

namespace FreeList

/-- Following the array from `start` visits exactly these cells and then reads 0. -/
def Linked (cells : Nat → Nat) : Nat → List Nat → Prop
  | start, [] => cells start = 0
  | start, cell :: rest => cells start = cell ∧ cell ≠ 0 ∧ Linked cells cell rest

def full (size : Nat) : Nat → Nat := fun index => if index < size then index + 1 else 0

def pop (cells : Nat → Nat) : Nat → Nat :=
  Function.update (Function.update cells 0 (cells (cells 0))) (cells 0) 0

def push (cells : Nat → Nat) (cell : Nat) : Nat → Nat :=
  Function.update (Function.update cells cell (cells 0)) 0 cell

theorem pop_ne_self {cells : Nat → Nat} (available : cells 0 ≠ 0) : pop cells ≠ cells := by
  intro same
  have taken := congrFun same (cells 0)
  have head := congrFun same 0
  rw [pop, Function.update_self] at taken
  rw [pop, Function.update_of_ne available.symm, Function.update_self, ← taken] at head
  exact available head.symm

structure Holds (size : Nat) (cells : Nat → Nat) (free : List Nat) : Prop where
  linked : Linked cells 0 free
  inRange : ∀ cell ∈ free, 1 ≤ cell ∧ cell ≤ size
  unique : free.Nodup

theorem Linked.congr {cells other : Nat → Nat} : ∀ {start : Nat} {free : List Nat},
    Linked cells start free → other start = cells start →
      (∀ cell ∈ free, other cell = cells cell) → Linked other start free := by
  intro start free
  induction free generalizing start with
  | nil => exact fun linked agree _ => agree.trans linked
  | cons cell rest ih =>
      intro linked agree same
      refine ⟨agree.trans linked.1, linked.2.1, ?_⟩
      exact ih linked.2.2 (same cell (by simp)) fun later member =>
        same later (List.mem_cons_of_mem _ member)

theorem linked_full_from (size : Nat) : ∀ count start, start + count = size →
    Linked (full size) start (List.range' (start + 1) count) := by
  intro count
  induction count with
  | zero =>
      intro start total
      have last : ¬start < size := by omega
      simp [Linked, full, last]
  | succ count ih =>
      intro start total
      have inside : start < size := by omega
      rw [List.range'_succ]
      exact ⟨by simp [full, inside], by omega, ih (start + 1) (by omega)⟩

theorem Holds.full (size : Nat) : Holds size (full size) (List.range' 1 size) where
  linked := linked_full_from size size 0 (by omega)
  inRange := by
    intro cell member
    have bounds := List.mem_range'_1.mp member
    omega
  unique := List.nodup_range'

theorem Holds.zero_notMem {size : Nat} {cells : Nat → Nat} {free : List Nat}
    (holds : Holds size cells free) : 0 ∉ free :=
  fun member => absurd (holds.inRange 0 member).1 (by omega)

theorem Holds.pop {size : Nat} {cells : Nat → Nat} {free : List Nat}
    (holds : Holds size cells free) (available : cells 0 ≠ 0) :
    ∃ rest, free = cells 0 :: rest ∧ Holds size (FreeList.pop cells) rest := by
  cases free with
  | nil => exact (available holds.linked).elim
  | cons head rest =>
      have headEq : cells 0 = head := holds.linked.1
      have tail := holds.linked.2.2
      have unique := List.nodup_cons.mp holds.unique
      have noZero : 0 ∉ rest := fun member => holds.zero_notMem (List.mem_cons_of_mem _ member)
      refine ⟨rest, by rw [headEq], ?_, ?_, unique.2⟩
      · have elsewhere : ∀ cell ∈ rest, FreeList.pop cells cell = cells cell := by
          intro cell member
          have notHead : cell ≠ cells 0 := by rintro rfl; exact unique.1 (headEq ▸ member)
          have notZero : cell ≠ 0 := by rintro rfl; exact noZero member
          rw [FreeList.pop, Function.update_of_ne notHead, Function.update_of_ne notZero]
        have front : FreeList.pop cells 0 = cells head := by
          rw [FreeList.pop, Function.update_of_ne available.symm, Function.update_self, headEq]
        cases rest with
        | nil => exact front.trans tail
        | cons next later =>
            refine ⟨front.trans tail.1, tail.2.1, ?_⟩
            exact tail.2.2.congr (elsewhere next (by simp)) fun cell member =>
              elsewhere cell (List.mem_cons_of_mem _ member)
      · exact fun cell member => holds.inRange cell (List.mem_cons_of_mem _ member)

theorem Holds.push {size : Nat} {cells : Nat → Nat} {free : List Nat}
    (holds : Holds size cells free) {cell : Nat} (inRange : 1 ≤ cell ∧ cell ≤ size)
    (used : cell ∉ free) : Holds size (FreeList.push cells cell) (cell :: free) where
  linked := by
    have notZero : cell ≠ 0 := by omega
    have front : FreeList.push cells cell 0 = cell := by simp [FreeList.push]
    have pushed : FreeList.push cells cell cell = cells 0 := by
      rw [FreeList.push, Function.update_of_ne notZero, Function.update_self]
    have elsewhere : ∀ other ∈ free, FreeList.push cells cell other = cells other := by
      intro other member
      have notCell : other ≠ cell := by rintro rfl; exact used member
      have notHead : other ≠ 0 := by rintro rfl; exact holds.zero_notMem member
      rw [FreeList.push, Function.update_of_ne notHead, Function.update_of_ne notCell]
    refine ⟨front, notZero, ?_⟩
    cases free with
    | nil => exact pushed.trans holds.linked
    | cons head rest =>
        refine ⟨pushed.trans holds.linked.1, holds.linked.2.1, ?_⟩
        exact holds.linked.2.2.congr (elsewhere head (by simp)) fun other member =>
          elsewhere other (List.mem_cons_of_mem _ member)
  inRange := by
    intro other member
    rcases List.mem_cons.mp member with same | old
    · rw [same]
      exact inRange
    · exact holds.inRange other old
  unique := List.nodup_cons.mpr ⟨used, holds.unique⟩

theorem length_le_of_inRange {size : Nat} {cells : List Nat} (unique : cells.Nodup)
    (inRange : ∀ cell ∈ cells, 1 ≤ cell ∧ cell ≤ size) : cells.length ≤ size := by
  have inside : cells.toFinset ⊆ Finset.Icc 1 size := by
    intro cell member
    exact Finset.mem_Icc.mpr (inRange cell (List.mem_toFinset.mp member))
  have bound := Finset.card_le_card inside
  rw [List.toFinset_card_of_nodup unique, Nat.card_Icc] at bound
  omega

end FreeList

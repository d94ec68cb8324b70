import Mathlib.Data.List.Basic

/-! Two buffers of keyed events. Writers record into the one in use; when it is full, or
on demand, the two change roles and whatever the other still held is dropped. Only the
keys matter here: which events wait in the buffer in use, and which events of the other
have been neither read nor replaced by a later event of the same key. -/

structure EventBuffers (κ : Type) where
  size : Nat
  attached : Bool
  pending : List (Nat × κ)
  unread : List κ

namespace EventBuffers

variable {κ : Type}

def swap (b : EventBuffers κ) : EventBuffers κ :=
  if b.attached ∧ b.pending ≠ [] then
    { b with pending := [], unread := b.pending.map Prod.snd }
  else b

def read (b : EventBuffers κ) : EventBuffers κ := { b with unread := [] }

variable [DecidableEq κ]

/-- Events under one hash share a slot; a new hash needs a free one. -/
def note (b : EventBuffers κ) (hash : Nat) (key : κ) : EventBuffers κ :=
  if hash ∈ b.pending.map Prod.fst then
    { b with
      pending := b.pending.map fun event => if event.1 = hash then (hash, key) else event
      unread := b.unread.filter (· ≠ key) }
  else if b.pending.length < b.size then
    { b with
      pending := (hash, key) :: b.pending
      unread := b.unread.filter (· ≠ key) }
  else b

def record (b : EventBuffers κ) (hash : Nat) (key : κ) : EventBuffers κ :=
  if (b.note hash key).pending.length = b.size then (b.note hash key).swap else b.note hash key

/-- Changing roles now would drop nothing that is still wanted. -/
def safeToSwap (b : EventBuffers κ) : Bool := !b.attached || b.pending = [] || b.unread = []

def safeToNote (b : EventBuffers κ) (hash : Nat) (key : κ) : Bool :=
  (b.note hash key).pending.length ≠ b.size || (b.note hash key).safeToSwap

def safeToRecord : EventBuffers κ → List (Nat × κ) → Bool
  | _, [] => true
  | b, (hash, key) :: rest => b.safeToNote hash key && (b.record hash key).safeToRecord rest

end EventBuffers

import Mathlib.Logic.Function.Basic
import Mathlib.Data.List.Range

/-! Bitmaps, and loops over their set bits in ascending order. The loop reads the
bitmap again before every iteration, so its body may change the map it walks. -/

abbrev Bitmap := Nat → Bool

namespace Bitmap

variable {σ : Type}

def zero : Bitmap := fun _ => false

def set (bits : Bitmap) (index : Nat) (value : Bool) : Bitmap := Function.update bits index value

def set1 (bits : Bitmap) (index : Nat) : Bitmap := bits.set index true

def set0 (bits : Bitmap) (index : Nat) : Bitmap := bits.set index false

def forEach1 (size : Nat) (bits : σ → Bitmap) (body : Nat → σ → σ) (start : σ) : σ :=
  (List.range size).foldl (fun state index =>
    if bits state index then body index state else state) start

@[simp] theorem zero_apply (index : Nat) : zero index = false := rfl

theorem set_apply (bits : Bitmap) (index other : Nat) (value : Bool) :
    bits.set index value other = if other = index then value else bits other := by
  simp [set, Function.update_apply]

@[simp] theorem set1_apply (bits : Bitmap) (index other : Nat) :
    bits.set1 index other = (other == index || bits other) := by
  rw [set1, set_apply]
  by_cases same : other = index <;> simp [same]

@[simp] theorem set0_apply (bits : Bitmap) (index other : Nat) :
    bits.set0 index other = (other != index && bits other) := by
  rw [set0, set_apply]
  by_cases same : other = index <;> simp [same]

theorem forEach1_succ (size : Nat) (bits : σ → Bitmap) (body : Nat → σ → σ) (start : σ) :
    forEach1 (size + 1) bits body start =
      if bits (forEach1 size bits body start) size then body size (forEach1 size bits body start)
      else forEach1 size bits body start := by
  rw [forEach1, List.range_succ, List.foldl_append]
  rfl

/-- Loop rule: `holds k` is what is known once the indices below `k` are done. -/
theorem forEach1_invariant {bits : σ → Bitmap} {body : Nat → σ → σ} {holds : Nat → σ → Prop}
    {start : σ} (initial : holds 0 start) :
    ∀ size,
      (∀ index state, index < size → holds index state → bits state index = true →
        holds (index + 1) (body index state)) →
      (∀ index state, index < size → holds index state → bits state index = false →
        holds (index + 1) state) →
      holds size (forEach1 size bits body start) := by
  intro size
  induction size with
  | zero => exact fun _ _ => initial
  | succ size ih =>
      intro taken skipped
      have before := ih (fun index state bound => taken index state (by omega))
        (fun index state bound => skipped index state (by omega))
      rw [forEach1_succ]
      split
      · exact taken size _ (by omega) before (by assumption)
      · rename_i clear
        exact skipped size _ (by omega) before (by simpa using clear)

section OwnBit

variable {bits : σ → Bitmap} {body : Nat → σ → σ} {size index : Nat} {start : σ}

theorem forEach1_later (view : σ → Bitmap) (later : size ≤ index)
    (own : ∀ visited state, index ≠ visited → view (body visited state) index = view state index) :
    view (forEach1 size bits body start) index = view start index := by
  induction size with
  | zero => rfl
  | succ size ih =>
      have before := ih (by omega)
      rw [forEach1_succ]
      split
      · rw [own size _ (by omega), before]
      · exact before

/-- Where every visit leaves the other bits alone, the visit to a bit settles it. -/
theorem forEach1_bit (view : σ → Bitmap) {result : Bool} (inside : index < size)
    (own : ∀ visited state, index ≠ visited → view (body visited state) index = view state index)
    (taken : ∀ state, view state index = view start index → bits state index = true →
      view (body index state) index = result)
    (skipped : ∀ state, view state index = view start index → bits state index = false →
      view start index = result) :
    view (forEach1 size bits body start) index = result := by
  induction size with
  | zero => omega
  | succ size ih =>
      rw [forEach1_succ]
      by_cases last : index = size
      · subst last
        have untouched : view (forEach1 index bits body start) index = view start index :=
          forEach1_later view (Nat.le_refl _) own
        split
        · exact taken _ untouched (by assumption)
        · rename_i clear
          exact untouched.trans (skipped _ untouched (by simpa using clear))
      · have settled := ih (by omega)
        split
        · exact (own size _ last).trans settled
        · exact settled

end OwnBit

end Bitmap

import FpaPlugin.Lib.Bitmap

/-! Sets of indices in a table that knows its entries by a key, which several indices may
share. A pass turns one set into another: in ascending order, what is missing is added and
what is not wanted is deleted, and a deletion takes every entry with the key. -/

namespace KeyedDiff

variable {κ : Type} [DecidableEq κ] (key : Nat → κ)

def erase (bits : Bitmap) (index : Nat) : Bitmap := fun other =>
  bits other && decide (key other ≠ key index)

/-- The set once the pass has been over the indices below `count`. -/
def pass (bits desired : Bitmap) (count : Nat) : Bitmap :=
  Bitmap.forEach1 count (fun _ index => bits index ^^ desired index)
    (fun index state => if desired index then state.set1 index else erase key state index) bits

/-- An entry that goes has no key in common with one that stays, or that comes before it. -/
def Ordered (bits desired : Bitmap) (size : Nat) : Prop :=
  ∀ gone wanted, gone < size → wanted < size → bits gone = true → desired gone = false →
    desired wanted = true → key gone = key wanted → gone < wanted ∧ bits wanted = false

theorem pass_succ (bits desired : Bitmap) (count : Nat) :
    pass key bits desired (count + 1) =
      if bits count ^^ desired count then
        if desired count then (pass key bits desired count).set1 count
        else erase key (pass key bits desired count) count
      else pass key bits desired count := by
  rw [pass, Bitmap.forEach1_succ]
  rfl

variable {key} {bits desired : Bitmap}

theorem pass_skip {count : Nat} (same : desired count = bits count) :
    pass key bits desired (count + 1) = pass key bits desired count := by
  rw [pass_succ, same]
  simp

theorem pass_add {count : Nat} (missing : bits count = false) (wanted : desired count = true) :
    pass key bits desired (count + 1) = (pass key bits desired count).set1 count := by
  rw [pass_succ, missing, wanted]
  rfl

theorem pass_delete {count : Nat} (present : bits count = true) (unwanted : desired count = false) :
    pass key bits desired (count + 1) = erase key (pass key bits desired count) count := by
  rw [pass_succ, present, unwanted]
  rfl

theorem pass_subset {count index : Nat} (isSet : pass key bits desired count index = true) :
    bits index = true ∨ desired index = true := by
  induction count with
  | zero => exact .inl isSet
  | succ count ih =>
      rw [pass_succ] at isSet
      split at isSet
      · split at isSet
        · rename_i wanted
          rw [Bitmap.set1_apply, Bool.or_eq_true, beq_iff_eq] at isSet
          rcases isSet with here | before
          · rw [here]
            exact .inr wanted
          · exact ih before
        · rw [erase, Bool.and_eq_true] at isSet
          exact ih isSet.1
      · exact ih isSet

theorem pass_later {count index : Nat} (later : count ≤ index)
    (isSet : pass key bits desired count index = true) : bits index = true := by
  induction count with
  | zero => exact isSet
  | succ count ih =>
      rw [pass_succ] at isSet
      split at isSet
      · split at isSet
        · have different : index ≠ count := by omega
          rw [Bitmap.set1_apply, Bool.or_eq_true, beq_iff_eq] at isSet
          exact ih (by omega) (isSet.resolve_left different)
        · rw [erase, Bool.and_eq_true] at isSet
          exact ih (by omega) isSet.1
      · exact ih (by omega) isSet

theorem pass_ordered {size : Nat} (ordered : Ordered key bits desired size) :
    ∀ count, count ≤ size →
      (∀ index, index < count → pass key bits desired count index = desired index) ∧
      ∀ index, count ≤ index → index < size → bits index = true → desired index = true →
        pass key bits desired count index = true := by
  intro count
  induction count with
  | zero => exact fun _ => ⟨fun index bound => absurd bound (Nat.not_lt_zero index),
      fun index _ _ isSet _ => isSet⟩
  | succ count ih =>
      intro bound
      obtain ⟨done, kept⟩ := ih (by omega)
      rw [pass_succ]
      cases wanted : desired count with
      | true =>
          cases present : bits count with
          | true =>
              simp only [Bool.xor_true, Bool.not_true, Bool.false_eq_true, if_false]
              refine ⟨fun index below => ?_, fun index above => kept index (by omega)⟩
              by_cases here : index = count
              · rw [here, wanted]
                exact kept count (by omega) (by omega) present wanted
              · exact done index (by omega)
          | false =>
              simp only [Bool.false_bne, if_true, Bitmap.set1_apply]
              refine ⟨fun index below => ?_, fun index above inside isSet isWanted => ?_⟩
              · by_cases here : index = count
                · simp [here, wanted]
                · simp [here, done index (by omega)]
              · simp [kept index (by omega) inside isSet isWanted]
      | false =>
          cases present : bits count with
          | true =>
              simp only [Bool.true_bne, Bool.not_false, if_true, Bool.false_eq_true, if_false, erase]
              refine ⟨fun index below => ?_, fun index above inside isSet isWanted => ?_⟩
              · by_cases here : index = count
                · simp [here, wanted]
                · rw [done index (by omega)]
                  cases isWanted : desired index with
                  | false => rfl
                  | true =>
                      simp only [Bool.true_and, decide_eq_true_eq]
                      intro same
                      have order := (ordered count index (by omega) (by omega) present wanted
                        isWanted same.symm).1
                      omega
              · rw [kept index (by omega) inside isSet isWanted, Bool.true_and, decide_eq_true_eq]
                intro same
                have absent := (ordered count index (by omega) inside present wanted isWanted
                  same.symm).2
                rw [isSet] at absent
                cases absent
          | false =>
              simp only [Bool.false_bne, Bool.false_eq_true, if_false]
              refine ⟨fun index below => ?_, fun index above => kept index (by omega)⟩
              by_cases here : index = count
              · rw [here, wanted, Bool.eq_false_iff]
                intro isSet
                have was := pass_later (Nat.le_refl count) isSet
                rw [present] at was
                cases was
              · exact done index (by omega)

/-- A deletion out of order takes a wanted entry with it, and nothing brings it back. -/
theorem pass_lost {gone wanted : Nat} (present : bits gone = true) (unwanted : desired gone = false)
    (isWanted : desired wanted = true) (same : key gone = key wanted)
    (early : wanted ≤ gone ∨ bits wanted = true) :
    ∀ count, gone < count → pass key bits desired count wanted = false := by
  intro count
  induction count with
  | zero => exact fun absurdity => absurd absurdity (Nat.not_lt_zero gone)
  | succ count ih =>
      intro passed
      rw [pass_succ]
      by_cases here : gone = count
      · subst here
        simp [present, unwanted, erase, same]
      · have lost := ih (by omega)
        split
        · rename_i changes
          split
          · have different : wanted ≠ count := by
              rintro rfl
              rcases early with before | was
              · omega
              · simp [was, isWanted] at changes
            simp [lost, different]
          · simp [erase, lost]
        · exact lost

/-- The pass arrives at the set it was given exactly when its deletions are in order. -/
theorem pass_eq_iff {size : Nat} :
    (∀ index, index < size → pass key bits desired size index = desired index) ↔
      Ordered key bits desired size := by
  constructor
  · intro arrives gone wanted goneBound wantedBound present unwanted isWanted same
    by_contra disordered
    have early : wanted ≤ gone ∨ bits wanted = true := by
      by_cases before : gone < wanted
      · right
        simpa [before] using disordered
      · exact .inl (by omega)
    have lost := pass_lost present unwanted isWanted same early size goneBound
    rw [arrives wanted wantedBound, isWanted] at lost
    cases lost
  · exact fun ordered => (pass_ordered ordered size (Nat.le_refl size)).1

end KeyedDiff

import Mathlib.Logic.Function.Basic
import Mathlib.Data.List.Basic

/-! A replica of a map whose owner queues a change for every key that it adds or takes out. The
queue is kept oldest first, and each change of it undoes what stood before: no key is added
twice, and none is taken out that is not there. -/

namespace ChangeQueue

variable {κ ν : Type} [DecidableEq κ]

/-- The replica once it has taken in the queue. -/
def applied (queue : List (κ × Option ν)) (map : κ → Option ν) : κ → Option ν :=
  queue.foldl (fun map change => Function.update map change.1 change.2) map

/-- The change adds a key that is missing, or takes out one that is there. -/
def Flips (map : κ → Option ν) (change : κ × Option ν) : Prop :=
  map change.1 = none ↔ change.2 ≠ none

def Alternates : List (κ × Option ν) → (κ → Option ν) → Prop
  | [], _ => True
  | change :: rest, map => Flips map change ∧ Alternates rest (Function.update map change.1 change.2)

variable {queue : List (κ × Option ν)} {map : κ → Option ν} {key : κ}

@[simp] theorem applied_nil (map : κ → Option ν) : applied [] map = map := rfl

theorem applied_cons (change : κ × Option ν) (rest : List (κ × Option ν)) (map : κ → Option ν) :
    applied (change :: rest) map = applied rest (Function.update map change.1 change.2) := rfl

theorem applied_snoc (queue : List (κ × Option ν)) (change : κ × Option ν) (map : κ → Option ν) :
    applied (queue ++ [change]) map = Function.update (applied queue map) change.1 change.2 := by
  simp only [applied, List.foldl_append, List.foldl_cons, List.foldl_nil]

theorem alternates_snoc (change : κ × Option ν) :
    Alternates (queue ++ [change]) map ↔ Alternates queue map ∧ Flips (applied queue map) change := by
  induction queue generalizing map with
  | nil => simp [Alternates]
  | cons first rest ih =>
      rw [List.cons_append, Alternates, Alternates, applied_cons, ih, and_assoc]

theorem applied_eq_or_mem (queue : List (κ × Option ν)) (map : κ → Option ν) (key : κ) :
    applied queue map key = map key ∨ (key, applied queue map key) ∈ queue := by
  induction queue generalizing map with
  | nil => exact .inl rfl
  | cons change rest ih =>
      rw [applied_cons]
      rcases ih (Function.update map change.1 change.2) with same | later
      · by_cases here : key = change.1
        · subst here
          rw [Function.update_self] at same
          rw [same]
          exact .inr List.mem_cons_self
        · rw [Function.update_of_ne here] at same
          exact .inl same
      · exact .inr (List.mem_cons_of_mem change later)

end ChangeQueue

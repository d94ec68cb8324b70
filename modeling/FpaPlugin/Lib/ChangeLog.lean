import Mathlib.Data.List.Basic

/-! Maps that follow a log of changes. A log is kept most recent first, and a change gives a
key its value, or takes the key out. A table that keeps the last change of each key says as
much as the log. -/

namespace ChangeLog

variable {κ ν : Type} [DecidableEq κ]

def replay (changes : List (κ × Option ν)) (map : κ → Option ν) (key : κ) : Option ν :=
  match changes.find? fun change => change.1 = key with
  | some change => change.2
  | none => map key

variable {changes later earlier : List (κ × Option ν)} {map : κ → Option ν} {key : κ}

theorem replay_nil (map : κ → Option ν) : replay [] map = map := rfl

theorem replay_cons (change : κ × Option ν) (earlier : List (κ × Option ν)) (map : κ → Option ν)
    (key : κ) : replay (change :: earlier) map key =
      if change.1 = key then change.2 else replay earlier map key := by
  rw [replay, List.find?_cons]
  by_cases here : change.1 = key
  · simp [here]
  · simp [here, replay]

theorem replay_append (later earlier : List (κ × Option ν)) (map : κ → Option ν) :
    replay (later ++ earlier) map = replay later (replay earlier map) := by
  funext key
  induction later with
  | nil => rfl
  | cons change rest ih => rw [List.cons_append, replay_cons, replay_cons, ih]

theorem replay_of_notMem (absent : key ∉ changes.map Prod.fst) : replay changes map key = map key := by
  have missing : changes.find? (fun change => change.1 = key) = none := by
    rw [List.find?_eq_none]
    intro change member here
    exact absent (List.mem_map.mpr ⟨change, member, of_decide_eq_true here⟩)
  rw [replay, missing]

theorem replay_of_mem {other : κ → Option ν} (present : key ∈ changes.map Prod.fst) :
    replay changes map key = replay changes other key := by
  obtain ⟨change, member, isKey⟩ := List.mem_map.mp present
  have found : (changes.find? fun change => change.1 = key).isSome := by
    rw [List.find?_isSome]
    exact ⟨change, member, decide_eq_true isKey⟩
  obtain ⟨last, isLast⟩ := Option.isSome_iff_exists.mp found
  rw [replay, replay, isLast]

theorem replay_removed (removed : ∀ change ∈ changes, change.2 = none)
    (present : key ∈ changes.map Prod.fst) : replay changes map key = none := by
  rw [@replay_of_mem _ _ _ _ _ _ (fun _ => none) present, replay]
  split
  · rename_i change found
    exact removed change (List.mem_of_find?_eq_some found)
  · rfl

/-- What every key of an older log was changed to later does not matter. -/
theorem replay_covered (covers : ∀ key, key ∈ earlier.map Prod.fst → key ∈ later.map Prod.fst) :
    replay later (replay earlier map) = replay later map := by
  funext key
  by_cases present : key ∈ later.map Prod.fst
  · exact replay_of_mem present
  · rw [replay_of_notMem present, replay_of_notMem present,
      replay_of_notMem fun old => present (covers key old)]

theorem replay_twice (changes : List (κ × Option ν)) (map : κ → Option ν) :
    replay changes (replay changes map) = replay changes map :=
  replay_covered fun _ present => present

theorem mem_of_replay_eq [Inhabited ν] {other : List (κ × Option ν)}
    (same : replay changes = replay other) (present : key ∈ changes.map Prod.fst) :
    key ∈ other.map Prod.fst := by
  by_contra absent
  have kept : ∀ map : κ → Option ν, replay changes map key = map key := by
    intro map
    rw [same]
    exact replay_of_notMem absent
  have alike := @replay_of_mem _ _ _ changes (fun _ => none) key (fun _ => some default) present
  rw [kept, kept] at alike
  cases alike

theorem replay_congr {other : List (κ × Option ν)}
    (same : ∀ key, (changes.find? fun change => change.1 = key).map Prod.snd =
      (other.find? fun change => change.1 = key).map Prod.snd) : replay changes = replay other := by
  funext map key
  have here := same key
  rw [replay, replay]
  cases found : changes.find? fun change => change.1 = key with
  | none =>
      rw [found, Option.map_none, eq_comm, Option.map_eq_none_iff] at here
      rw [here]
  | some change =>
      rw [found, Option.map_some, eq_comm, Option.map_eq_some_iff] at here
      obtain ⟨last, isLast, isValue⟩ := here
      rw [isLast]
      exact isValue.symm

end ChangeLog

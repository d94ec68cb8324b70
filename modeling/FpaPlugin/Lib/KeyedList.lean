import Mathlib.Data.List.Nodup

/-! Lists of records under distinct keys. Every operation on a key touches the one place that
`find_split` names, so that what is said of a list is said of the rest and of one record. -/

namespace KeyedList

variable {α κ : Type} [DecidableEq κ] (key : α → κ)

def find (list : List α) (wanted : κ) : Option α := list.find? fun record => key record = wanted

/-- `record` in the place of the one that has its key. -/
def put (list : List α) (record : α) : List α :=
  list.map fun other => if key other = key record then record else other

def remove (list : List α) (gone : κ) : List α := list.filter fun record => key record ≠ gone

variable {key} {list : List α} {wanted : κ} {found : α}

theorem find_mem (isFound : find key list wanted = some found) :
    found ∈ list ∧ key found = wanted :=
  ⟨List.mem_of_find?_eq_some isFound, by simpa using List.find?_some isFound⟩

theorem find_none (isFree : find key list wanted = none) : wanted ∉ list.map key := by
  intro listed
  obtain ⟨record, member, hasKey⟩ := List.mem_map.mp listed
  have differs := List.find?_eq_none.mp isFree record member
  simp [hasKey] at differs

theorem find_of_mem (distinct : (list.map key).Nodup) (member : found ∈ list) :
    find key list (key found) = some found := by
  cases isFound : find key list (key found) with
  | none => exact (find_none isFound (List.mem_map_of_mem member)).elim
  | some other =>
      obtain ⟨isMember, hasKey⟩ := find_mem isFound
      rw [List.inj_on_of_nodup_map distinct isMember member hasKey]

theorem map_key_put (record : α) : (put key list record).map key = list.map key := by
  rw [put, List.map_map]
  refine List.map_congr_left fun other _ => ?_
  rw [Function.comp_apply]
  split
  · rename_i same
    exact same.symm
  · rfl

theorem mem_put {record other : α} (member : other ∈ put key list record) :
    other = record ∨ other ∈ list ∧ key other ≠ key record := by
  obtain ⟨old, isOld, rfl⟩ := List.mem_map.mp member
  split
  · exact .inl rfl
  · rename_i differs
    exact .inr ⟨isOld, differs⟩

theorem put_apart {record : α} (absent : key record ∉ list.map key) : put key list record = list := by
  refine (List.map_congr_left fun other member => ?_).trans (List.map_id' list)
  have differs : key other ≠ key record := by
    intro same
    exact absent (same ▸ List.mem_map_of_mem member)
  rw [if_neg differs]

theorem remove_apart (absent : wanted ∉ list.map key) : remove key list wanted = list := by
  refine List.filter_eq_self.mpr fun other member => decide_eq_true ?_
  rintro rfl
  exact absent (List.mem_map_of_mem member)

theorem find_split (distinct : (list.map key).Nodup)
    (isFound : find key list wanted = some found) :
    ∃ before after, list = before ++ found :: after ∧
      (∀ record, key record = wanted → put key list record = before ++ record :: after) ∧
      remove key list wanted = before ++ after := by
  obtain ⟨member, rfl⟩ := find_mem isFound
  obtain ⟨before, after, rfl⟩ := List.append_of_mem member
  rw [List.map_append, List.map_cons, List.nodup_middle, List.nodup_cons, List.mem_append,
    not_or] at distinct
  obtain ⟨⟨notBefore, notAfter⟩, _⟩ := distinct
  refine ⟨before, after, rfl, ?_, ?_⟩
  · intro record same
    have left : put key before record = before := by
      apply put_apart
      rwa [same]
    have right : put key after record = after := by
      apply put_apart
      rwa [same]
    rw [put] at left right
    rw [put, List.map_append, List.map_cons, left, right, if_pos same.symm]
  · have left := remove_apart notBefore
    have right := remove_apart notAfter
    rw [remove] at left right
    rw [remove, List.filter_append, List.filter_cons_of_neg (by simp), left, right]

end KeyedList

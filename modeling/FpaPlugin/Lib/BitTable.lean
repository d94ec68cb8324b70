import Mathlib.Data.Rel

/-! Bitmaps whose bits have names, and the translation of one bitmap into another by a table of
pairs of names. A translation takes the named set to its image under the table, read as a
relation, so that a translation there and back is the preimage of an image. -/

namespace BitTable

variable {α β : Type} {v w : Nat}

def mask (bit : α → Fin w) (name : α) : BitVec w := BitVec.twoPow w (bit name)

/-- For each line of the table, `if (bits & source) result |= target;`. -/
def translate (table : List (α × β)) (source : α → Fin v) (target : β → Fin w)
    (bits : BitVec v) : BitVec w :=
  table.foldl (fun result line =>
    if bits &&& mask source line.1 ≠ 0 then result ||| mask target line.2 else result) 0

def union (bit : α → Fin w) (names : List α) : BitVec w :=
  names.foldl (fun result name => result ||| mask bit name) 0

def named (bit : α → Fin w) (bits : BitVec w) : Set α :=
  {name | bits.getLsbD (bit name) = true}

def relation (table : List (α × β)) : SetRel α β := {line | line ∈ table}

/-! The relation alone: an image and a preimage, one after the other. -/

section Relations

variable {R : SetRel α β} {s : Set α} {t : Set β}

theorem image_preimage (functional : ∀ a b b', (a, b) ∈ R → (a, b') ∈ R → b = b') :
    R.image (R.preimage t) = t ∩ R.cod := by
  refine Set.Subset.antisymm ?_ SetRel.inter_cod_subset_image_preimage
  rintro b ⟨a, ⟨b', inside, related⟩, alsoRelated⟩
  rw [functional a b b' alsoRelated related]
  exact ⟨inside, a, related⟩

theorem preimage_image_iff :
    R.preimage (R.image s) = s ∩ R.dom ↔
      ∀ a a' b, (a, b) ∈ R → (a', b) ∈ R → a ∈ s → a' ∈ s := by
  constructor
  · intro exact a a' b related alsoRelated inside
    have back : a' ∈ R.preimage (R.image s) := ⟨b, ⟨a, inside, related⟩, alsoRelated⟩
    rw [exact] at back
    exact back.1
  · intro closed
    refine Set.Subset.antisymm ?_ SetRel.inter_dom_subset_preimage_image
    rintro a' ⟨b, ⟨a, inside, related⟩, alsoRelated⟩
    exact ⟨closed a a' b related alsoRelated inside, b, alsoRelated⟩

theorem relation_swap (table : List (α × β)) :
    relation (table.map Prod.swap) = (relation table).inv := by
  ext ⟨b, a⟩
  simp [relation, SetRel.inv]

end Relations

theorem and_mask_ne_zero {bit : α → Fin w} {bits : BitVec w} {name : α} :
    bits &&& mask bit name ≠ 0 ↔ bits.getLsbD (bit name) = true := by
  rw [mask, BitVec.and_twoPow]
  split
  · rename_i isSet
    refine iff_of_true ?_ isSet
    intro isZero
    have bitOf := congrArg (fun word => word.getLsbD (bit name)) isZero
    simp at bitOf
  · rename_i notSet
    exact iff_of_false (fun nonZero => nonZero rfl) notSet

theorem getLsbD_mask {bit : α → Fin w} {name : α} {j : Nat} :
    (mask bit name).getLsbD j = true ↔ j = bit name := by
  have inside := (bit name).isLt
  rw [mask, BitVec.getLsbD_twoPow]
  simp only [Bool.and_eq_true, decide_eq_true_eq]
  omega

theorem getLsbD_foldl (table : List (α × β)) (source : α → Fin v) (target : β → Fin w)
    (bits : BitVec v) (j : Nat) (start : BitVec w) :
    (table.foldl (fun result line =>
      if bits &&& mask source line.1 ≠ 0 then result ||| mask target line.2 else result)
        start).getLsbD j = true ↔
      start.getLsbD j = true ∨
        ∃ line ∈ table, bits.getLsbD (source line.1) = true ∧ j = target line.2 := by
  induction table generalizing start with
  | nil => simp
  | cons line rest ih =>
      rw [List.foldl_cons, ih]
      by_cases isSet : bits &&& mask source line.1 ≠ 0
      · rw [if_pos isSet, BitVec.getLsbD_or, Bool.or_eq_true, getLsbD_mask]
        simp [and_mask_ne_zero.mp isSet, or_assoc]
      · rw [if_neg isSet]
        rw [and_mask_ne_zero] at isSet
        simp only [List.mem_cons, exists_eq_or_imp, isSet, Bool.false_eq_true, false_and, false_or]

theorem getLsbD_translate {table : List (α × β)} {source : α → Fin v} {target : β → Fin w}
    {bits : BitVec v} {j : Nat} :
    (translate table source target bits).getLsbD j = true ↔
      ∃ line ∈ table, bits.getLsbD (source line.1) = true ∧ j = target line.2 := by
  rw [translate, getLsbD_foldl]
  simp

theorem getLsbD_union {bit : α → Fin w} {names : List α} {j : Nat} :
    (union bit names).getLsbD j = true ↔ ∃ name ∈ names, j = bit name := by
  suffices general : ∀ start : BitVec w,
      (names.foldl (fun result name => result ||| mask bit name) start).getLsbD j = true ↔
        start.getLsbD j = true ∨ ∃ name ∈ names, j = bit name by
    rw [union, general]
    simp
  induction names with
  | nil => simp
  | cons name rest ih =>
      intro start
      rw [List.foldl_cons, ih, BitVec.getLsbD_or, Bool.or_eq_true, getLsbD_mask]
      simp [or_assoc]

theorem named_translate {table : List (α × β)} {source : α → Fin v} {target : β → Fin w}
    (injective : Function.Injective target) (bits : BitVec v) :
    named target (translate table source target bits) =
      (relation table).image (named source bits) := by
  ext b
  rw [named, Set.mem_ofPred_eq, getLsbD_translate, SetRel.mem_image]
  constructor
  · rintro ⟨⟨a, b'⟩, listed, isSet, same⟩
    obtain rfl := injective (Fin.ext same)
    exact ⟨a, isSet, listed⟩
  · rintro ⟨a, isSet, listed⟩
    exact ⟨(a, b), listed, isSet, rfl⟩

theorem named_and_union {bit : α → Fin w} (injective : Function.Injective bit) (names : List α)
    (bits : BitVec w) :
    named bit (bits &&& union bit names) = named bit bits ∩ {name | name ∈ names} := by
  ext name
  rw [named, Set.mem_ofPred_eq, BitVec.getLsbD_and, Bool.and_eq_true, getLsbD_union]
  refine and_congr_right fun _ => ?_
  constructor
  · rintro ⟨other, listed, same⟩
    obtain rfl := injective (Fin.ext same)
    exact listed
  · exact fun listed => ⟨name, listed, rfl⟩

theorem eq_of_named {bit : α → Fin w} {left right : BitVec w}
    (onlyLeft : ∀ j, left.getLsbD j = true → ∃ name, j = bit name)
    (onlyRight : ∀ j, right.getLsbD j = true → ∃ name, j = bit name)
    (same : named bit left = named bit right) : left = right := by
  refine BitVec.eq_of_getLsbD_eq fun j _ => Bool.eq_iff_iff.mpr ?_
  constructor
  · intro isSet
    obtain ⟨name, rfl⟩ := onlyLeft j isSet
    exact (Set.ext_iff.mp same name).mp isSet
  · intro isSet
    obtain ⟨name, rfl⟩ := onlyRight j isSet
    exact (Set.ext_iff.mp same name).mpr isSet

theorem translate_only {table : List (α × β)} {source : α → Fin v} {target : β → Fin w}
    {bits : BitVec v} {j : Nat} (isSet : (translate table source target bits).getLsbD j = true) :
    ∃ name, j = target name := by
  obtain ⟨line, _, _, same⟩ := getLsbD_translate.mp isSet
  exact ⟨line.2, same⟩

theorem and_union_only {bit : α → Fin w} {names : List α} {bits : BitVec w} {j : Nat}
    (isSet : (bits &&& union bit names).getLsbD j = true) : ∃ name, j = bit name := by
  rw [BitVec.getLsbD_and, Bool.and_eq_true, getLsbD_union] at isSet
  obtain ⟨name, _, same⟩ := isSet.2
  exact ⟨name, same⟩

section RoundTrips

variable {table : List (α × β)} {source : α → Fin v} {target : β → Fin w}

/-- Where the table is a function of its sources, what comes from a target goes back to it. -/
theorem translate_back (sources : Function.Injective source) (targets : Function.Injective target)
    (functional : ∀ a b b', (a, b) ∈ table → (a, b') ∈ table → b = b') (bits : BitVec w) :
    translate table source target (translate (table.map Prod.swap) target source bits) =
      bits &&& union target (table.map Prod.snd) := by
  refine eq_of_named (fun _ => translate_only) (fun _ => and_union_only) ?_
  rw [named_translate targets, named_translate sources, relation_swap, SetRel.image_inv,
    image_preimage functional, named_and_union targets]
  congr 1
  ext b
  simp [relation]

/-- The other way, sources that share a target come back together. -/
theorem translate_forth_iff (sources : Function.Injective source)
    (targets : Function.Injective target) (bits : BitVec v) :
    translate (table.map Prod.swap) target source (translate table source target bits) =
        bits &&& union source (table.map Prod.fst) ↔
      ∀ a a' b, (a, b) ∈ table → (a', b) ∈ table →
        bits.getLsbD (source a) = true → bits.getLsbD (source a') = true := by
  have domain : ({name | name ∈ table.map Prod.fst} : Set α) = (relation table).dom := by
    ext a
    simp [relation]
  have back : named source (translate (table.map Prod.swap) target source
      (translate table source target bits)) =
      (relation table).preimage ((relation table).image (named source bits)) := by
    rw [named_translate sources, named_translate targets, relation_swap, SetRel.image_inv]
  refine Iff.trans ?_ (preimage_image_iff (R := relation table) (s := named source bits))
  rw [← back, ← domain, ← named_and_union sources]
  constructor
  · intro same
    rw [same]
  · exact eq_of_named (fun _ => translate_only) (fun _ => and_union_only)

end RoundTrips

end BitTable

import Mathlib.Data.List.Basic
import Mathlib.Data.Nat.Digits.Defs

/-! Texts that are made of fields. A field is unambiguous when what is written for one value can be
told from what is written for another, whatever follows it; fields in a row then are one field, and
a list of records is read off its text. -/

namespace PrefixCode

variable {α β γ : Type}

def Unambiguous (valid : α → Prop) (write : α → List γ) : Prop :=
  ∀ a b, valid a → valid b → ∀ s t, write a ++ s = write b ++ t → a = b

section Fields

variable {valid : α → Prop} {write : α → List γ}

theorem Unambiguous.rest (field : Unambiguous valid write) {a b : α} (isValid : valid a)
    (otherValid : valid b) {s t : List γ} (same : write a ++ s = write b ++ t) : a = b ∧ s = t := by
  obtain rfl := field a b isValid otherValid s t same
  exact ⟨rfl, List.append_cancel_left same⟩

/-- What follows a field may depend on its value: the padding of a column does. -/
theorem Unambiguous.followed (field : Unambiguous valid write) (pad : α → List γ) :
    Unambiguous valid fun a => write a ++ pad a := by
  intro a b isValid otherValid s t same
  rw [List.append_assoc, List.append_assoc] at same
  exact field a b isValid otherValid _ _ same

theorem Unambiguous.preceded (field : Unambiguous valid write) (text : List γ) :
    Unambiguous valid fun a => text ++ write a := by
  intro a b isValid otherValid s t same
  rw [List.append_assoc, List.append_assoc] at same
  exact field a b isValid otherValid s t (List.append_cancel_left same)

theorem Unambiguous.pair {validRight : β → Prop} {right : β → List γ}
    (field : Unambiguous valid write) (other : Unambiguous validRight right) :
    Unambiguous (fun p : α × β => valid p.1 ∧ validRight p.2) fun p => write p.1 ++ right p.2 := by
  rintro ⟨a, a'⟩ ⟨b, b'⟩ ⟨isValid, isRight⟩ ⟨otherValid, otherRight⟩ s t same
  rw [List.append_assoc, List.append_assoc] at same
  obtain ⟨isFirst, left⟩ := field.rest isValid otherValid same
  have isSecond := other a' b' isRight otherRight s t left
  rw [Prod.mk.injEq]
  exact ⟨isFirst, isSecond⟩

theorem Unambiguous.of_length {width : Nat} (length : ∀ a, (write a).length = width)
    (injective : ∀ a b, write a = write b → a = b) : Unambiguous valid write := by
  intro a b _ _ s t same
  exact injective a b (List.append_inj_left same ((length a).trans (length b).symm))

theorem Unambiguous.filled [DecidableEq γ] (field : Unambiguous valid write) (fill : γ)
    (starts : ∀ a, ∃ first rest, write a = first :: rest ∧ first ≠ fill) (count : α → Nat) :
    Unambiguous valid fun a => List.replicate (count a) fill ++ write a := by
  have dropped : ∀ a s, (List.replicate (count a) fill ++ write a ++ s).dropWhile (· = fill) =
      write a ++ s := by
    intro a s
    obtain ⟨first, rest, isText, differs⟩ := starts a
    rw [List.append_assoc, isText]
    induction count a with
    | zero => simp [differs]
    | succ more ih =>
        rw [List.replicate_succ, List.cons_append, List.dropWhile_cons_of_pos (by simp)]
        exact ih
  intro a b isValid otherValid s t same
  have left := dropped a s
  rw [same, dropped] at left
  exact field a b isValid otherValid s t left.symm

theorem Unambiguous.of_stop {stop : γ} (injective : ∀ a b, write a = write b → a = b)
    (stops : ∀ a, stop ∉ write a) : Unambiguous valid fun a => write a ++ [stop] := by
  have split : ∀ (u v s t : List γ), stop ∉ u → stop ∉ v → u ++ stop :: s = v ++ stop :: t → u = v := by
    intro u
    induction u with
    | nil =>
        intro v s t _ absent same
        cases v with
        | nil => rfl
        | cons first rest =>
            rw [List.nil_append, List.cons_append, List.cons.injEq] at same
            exact (absent (same.1 ▸ List.mem_cons_self)).elim
    | cons letter u ih =>
        intro v s t here absent same
        cases v with
        | nil =>
            rw [List.nil_append, List.cons_append, List.cons.injEq] at same
            exact (here (same.1 ▸ List.mem_cons_self)).elim
        | cons first rest =>
            rw [List.cons_append, List.cons_append, List.cons.injEq] at same
            rw [List.mem_cons, not_or] at here absent
            rw [same.1, ih rest s t here.2 absent.2 same.2]
  intro a b _ _ s t same
  simp only [List.append_assoc, List.singleton_append] at same
  exact injective a b (split _ _ s t (stops a) (stops b) same)

/-- A text of records, one behind the other, has only one reading. -/
theorem Unambiguous.flatMap (field : Unambiguous valid write) (nonempty : ∀ a, write a ≠ [])
    {l m : List α} (allValid : ∀ a ∈ l, valid a) (othersValid : ∀ a ∈ m, valid a)
    (same : l.flatMap write = m.flatMap write) : l = m := by
  induction l generalizing m with
  | nil =>
      cases m with
      | nil => rfl
      | cons b rest =>
          rw [List.flatMap_nil, List.flatMap_cons, eq_comm, List.append_eq_nil_iff] at same
          exact (nonempty b same.1).elim
  | cons a l ih =>
      cases m with
      | nil =>
          rw [List.flatMap_nil, List.flatMap_cons, List.append_eq_nil_iff] at same
          exact (nonempty a same.1).elim
      | cons b rest =>
          rw [List.flatMap_cons, List.flatMap_cons] at same
          rw [List.forall_mem_cons] at allValid othersValid
          obtain ⟨isFirst, left⟩ := field.rest allValid.1 othersValid.1 same
          rw [isFirst, ih allValid.2 othersValid.2 left]

end Fields

/-! The numerals of `printf`: base 10 for `%u`, base 16 for `%x`. -/

theorem digitChar_inj {c d : Nat} (small : c < 16) (otherSmall : d < 16)
    (same : Nat.digitChar c = Nat.digitChar d) : c = d := by
  have all : ∀ i j : Fin 16, Nat.digitChar i = Nat.digitChar j → i = j := by decide
  exact congrArg Fin.val (all ⟨c, small⟩ ⟨d, otherSmall⟩ same)

variable {b : Nat}

theorem toDigits_inj (large : 1 < b) (small : b ≤ 16) {n m : Nat}
    (same : Nat.toDigits b n = Nat.toDigits b m) : n = m := by
  induction n using Nat.strong_induction_on generalizing m with
  | _ n ih =>
      have digits := Nat.toDigits_eq_if large (n := n)
      have otherDigits := Nat.toDigits_eq_if large (n := m)
      rw [digits, otherDigits] at same
      have positive : 0 < b := by omega
      have below := Nat.mod_lt n positive
      have otherBelow := Nat.mod_lt m positive
      have length : ∀ k, 0 < (Nat.toDigits b k).length := fun k => Nat.length_toDigits_pos
      split_ifs at same with oneDigit otherOne otherOne
      · rw [List.cons.injEq] at same
        exact digitChar_inj (by omega) (by omega) same.1
      · have lengths := congrArg List.length same
        rw [List.length_append, List.length_singleton, List.length_singleton] at lengths
        have := length (m / b)
        omega
      · have lengths := congrArg List.length same
        rw [List.length_append, List.length_singleton, List.length_singleton] at lengths
        have := length (n / b)
        omega
      · obtain ⟨high, low⟩ := List.append_inj' same rfl
        rw [List.cons.injEq] at low
        have lowDigit := digitChar_inj (by omega) (by omega) low.1
        have highDigits := ih (n / b) (Nat.div_lt_self (by omega) large) high
        rw [← Nat.div_add_mod n b, ← Nat.div_add_mod m b, lowDigit, highDigits]

theorem mem_toDigits (large : 1 < b) {n : Nat} {c : Char} (member : c ∈ Nat.toDigits b n) :
    ∃ d < b, c = Nat.digitChar d := by
  induction n using Nat.strong_induction_on with
  | _ n ih =>
      rw [Nat.toDigits_eq_if large] at member
      split_ifs at member with oneDigit
      · exact ⟨n, oneDigit, List.mem_singleton.mp member⟩
      · rcases List.mem_append.mp member with high | low
        · exact ih (n / b) (Nat.div_lt_self (by omega) large) high
        · exact ⟨n % b, Nat.mod_lt n (by omega), List.mem_singleton.mp low⟩

theorem notMem_toDigits (large : 1 < b) (small : b ≤ 16) {stop : Char}
    (notDigit : ∀ d < 16, Nat.digitChar d ≠ stop) (n : Nat) : stop ∉ Nat.toDigits b n := by
  intro member
  obtain ⟨d, below, isDigit⟩ := mem_toDigits large member
  exact notDigit d (by omega) isDigit.symm

/-- A numeral up to the first character that is no digit. -/
theorem numeral (large : 1 < b) (small : b ≤ 16) {stop : Char}
    (notDigit : ∀ d < 16, Nat.digitChar d ≠ stop) :
    Unambiguous (fun _ => True) fun n => Nat.toDigits b n ++ [stop] :=
  .of_stop (fun _ _ => toDigits_inj large small) (notMem_toDigits large small notDigit)

end PrefixCode

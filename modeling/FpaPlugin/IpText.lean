import FpaPlugin.Lib.PrefixCode
import FpaPlugin.Str
import Mathlib.Data.List.TakeWhile

/-! `ops_fpa_ip2str`, against `ops_fpa_str2ip`. The numbers that it writes have no leading zero, so
that `inet_addr` takes none of them for octal. -/

namespace FpaPlugin

def ipAddrVec (ipAddr : InAddr) (index : Nat) : Nat := (ipAddr.extractLsb' (8 * index) 8).toNat

def opsFpaIp2str (ipAddr : InAddr) : CString :=
  Nat.toDigits 10 (ipAddrVec ipAddr 0) ++ '.' :: (Nat.toDigits 10 (ipAddrVec ipAddr 1) ++
    '.' :: (Nat.toDigits 10 (ipAddrVec ipAddr 2) ++ '.' :: Nat.toDigits 10 (ipAddrVec ipAddr 3)))

section Numbers

variable {n : Nat} {rest : CString}

theorem digitValue_digitChar {d : Nat} (small : d < 10) :
    digitValue (Nat.digitChar d) = some d := by
  have all : ∀ i : Fin 10, digitValue (Nat.digitChar i) = some i.val := by decide
  exact all ⟨d, small⟩

theorem isDigitOf_digitChar {d : Nat} (small : d < 10) : isDigitOf 10 (Nat.digitChar d) = true := by
  simp [isDigitOf, digitValue_digitChar small, small]

theorem readDigits_toDigits (n value : Nat)
    (stops : ∀ c ∈ rest.head?, isDigitOf 10 c = false) :
    readDigits 10 value (Nat.toDigits 10 n ++ rest) =
      (value * 10 ^ (Nat.toDigits 10 n).length + n, rest) := by
  have ended : ∀ value, readDigits 10 value rest = (value, rest) := by
    intro value
    cases rest with
    | nil => rfl
    | cons c more => simp [readDigits, stops c rfl]
  have onto : ∀ (n value : Nat) (more : CString),
      readDigits 10 value (Nat.toDigits 10 n ++ more) =
        readDigits 10 (value * 10 ^ (Nat.toDigits 10 n).length + n) more := by
    intro n
    induction n using Nat.strong_induction_on with
    | _ n ih =>
        intro value more
        have lastDigit : n % 10 < 10 := Nat.mod_lt n (by omega)
        rw [Nat.toDigits_eq_if (by omega)]
        split_ifs with oneDigit
        · simp [readDigits, isDigitOf_digitChar oneDigit, digitValue_digitChar oneDigit]
        · rw [List.append_assoc, ih (n / 10) (by omega), List.length_append, List.length_singleton,
            pow_succ]
          simp only [List.singleton_append, readDigits, isDigitOf_digitChar lastDigit,
            digitValue_digitChar lastDigit, Option.getD_some, if_true]
          congr 1
          rw [Nat.add_mul, Nat.mul_assoc]
          omega
  rw [onto, ended]

theorem toDigits_head (n : Nat) : ∃ d more, Nat.toDigits 10 n = Nat.digitChar d :: more ∧ d < 10 ∧
    (d = 0 → n = 0 ∧ more = []) := by
  induction n using Nat.strong_induction_on with
  | _ n ih =>
      rw [Nat.toDigits_eq_if (by omega)]
      split_ifs with oneDigit
      · exact ⟨n, [], rfl, oneDigit, fun isZero => ⟨isZero, rfl⟩⟩
      · obtain ⟨d, more, digits, small, zero⟩ := ih (n / 10) (by omega)
        refine ⟨d, more ++ [Nat.digitChar (n % 10)], ?_, small, fun isZero => ?_⟩
        · rw [digits, List.cons_append]
        · obtain ⟨noHigh, _⟩ := zero isZero
          omega

theorem inetNumber_nonzero {c : Char} {more : CString} (isDigit : isDigitOf 10 c = true)
    (nonzero : c ≠ '0') : inetNumber (c :: more) = some (readDigits 10 0 (c :: more)) := by
  unfold inetNumber
  simp only [isDigit, nonzero, Bool.not_true, Bool.false_eq_true, if_false]

theorem inetNumber_zero (stops : rest = [] ∨ ∃ more, rest = '.' :: more) :
    inetNumber ('0' :: rest) = some (0, rest) := by
  have noOctal : isDigitOf 8 '.' = false := by decide
  rcases stops with rfl | ⟨more, rfl⟩
  · rfl
  · cases more with
    | nil => rfl
    | cons c more =>
        unfold inetNumber
        simp [readDigits, noOctal, show isDigitOf 10 '0' = true from rfl]

theorem inetNumber_toDigits (n : Nat) (stops : rest = [] ∨ ∃ more, rest = '.' :: more) :
    inetNumber (Nat.toDigits 10 n ++ rest) = some (n, rest) := by
  have noDigit : ∀ c ∈ rest.head?, isDigitOf 10 c = false := by
    rcases stops with rfl | ⟨more, rfl⟩
    · simp
    · simp only [List.head?_cons, Option.mem_some_iff, forall_eq']
      decide
  obtain ⟨d, more, digits, small, zero⟩ := toDigits_head n
  have read := readDigits_toDigits n 0 noDigit
  rw [Nat.zero_mul, Nat.zero_add] at read
  rw [digits, List.cons_append] at read ⊢
  by_cases isZero : Nat.digitChar d = '0'
  · obtain ⟨rfl, rfl⟩ := zero (Nat.digitChar_eq_zero.mp isZero)
    rw [isZero]
    exact inetNumber_zero stops
  · rw [inetNumber_nonzero (isDigitOf_digitChar small) isZero, read]

end Numbers

theorem ipAddrVec_lt (ipAddr : InAddr) (index : Nat) : ipAddrVec ipAddr index < 256 :=
  (ipAddr.extractLsb' (8 * index) 8).isLt

theorem ipAddr_of_bytes (ipAddr : InAddr) :
    BitVec.ofNat 32 (ipAddrVec ipAddr 0 + (ipAddrVec ipAddr 1 * 256 +
      (ipAddrVec ipAddr 2 * 65536 + ipAddrVec ipAddr 3 * 16777216))) = ipAddr := by
  have bound := ipAddr.isLt
  apply BitVec.eq_of_toNat_eq
  simp only [ipAddrVec, BitVec.extractLsb'_toNat, BitVec.toNat_ofNat, Nat.shiftRight_eq_div_pow]
  omega

theorem inetParts_ip2str (ipAddr : InAddr) : inetParts 4 [] (opsFpaIp2str ipAddr) =
    some ([ipAddrVec ipAddr 0, ipAddrVec ipAddr 1, ipAddrVec ipAddr 2], ipAddrVec ipAddr 3, []) := by
  have small : ∀ index, ipAddrVec ipAddr index ≤ 0xff := by
    intro index
    have bound := ipAddrVec_lt ipAddr index
    omega
  have last := @inetNumber_toDigits [] (ipAddrVec ipAddr 3) (.inl rfl)
  rw [List.append_nil] at last
  simp only [opsFpaIp2str, inetParts, inetNumber_toDigits _ (.inr ⟨_, rfl⟩), last, small, if_true]
  rfl

theorem weighted_bytes (weight byteAt : Nat → Nat) (b₀ b₁ b₂ : Nat) :
    ((([b₀, b₁, b₂] ++ (List.range 1).map byteAt).zipIdx.map fun (byte, i) => byte * weight i).sum) =
      b₀ * weight 0 + (b₁ * weight 1 + (b₂ * weight 2 + byteAt 0 * weight 3)) := rfl

theorem inetAddr_of_parts {s : CString} {b₀ b₁ b₂ last : Nat} (small : last < 256)
    (parts : inetParts 4 [] s = some ([b₀, b₁, b₂], last, [])) : inetAddr s =
      some (BitVec.ofNat 32 (b₀ + (b₁ * 256 + (b₂ * 65536 + last * 16777216)))) := by
  have fits : last < 256 ^ (4 - [b₀, b₁, b₂].length) := by
    simp only [List.length_cons, List.length_nil]
    norm_num
    exact small
  have bytes := weighted_bytes (fun i => 256 ^ i)
    (fun i => last / 256 ^ (4 - [b₀, b₁, b₂].length - 1 - i) % 256) b₀ b₁ b₂
  have whole : last / 256 ^ (4 - [b₀, b₁, b₂].length - 1 - 0) % 256 = last := by
    simp only [List.length_cons, List.length_nil, Nat.reduceAdd, Nat.reduceSub, pow_zero,
      Nat.div_one, Nat.mod_eq_of_lt small]
  unfold inetAddr
  rw [parts]
  refine (if_pos ⟨rfl, fits⟩).trans (congrArg (fun n => some (BitVec.ofNat 32 n)) ?_)
  refine bytes.trans ?_
  simp only [whole, pow_succ, pow_zero, Nat.one_mul, Nat.mul_one]
  omega

theorem inetAddr_ip2str (ipAddr : InAddr) : inetAddr (opsFpaIp2str ipAddr) = some ipAddr := by
  rw [inetAddr_of_parts (ipAddrVec_lt ipAddr 3) (inetParts_ip2str ipAddr), ipAddr_of_bytes]

theorem slash_notMem_ip2str (ipAddr : InAddr) : '/' ∉ opsFpaIp2str ipAddr := by
  have noDigit : ∀ n, '/' ∉ Nat.toDigits 10 n :=
    PrefixCode.notMem_toDigits (by omega) (by omega) (by decide)
  simp [opsFpaIp2str, noDigit]

/-- Every address but 255.255.255.255 is read back from its text, as a host. -/
theorem ip_text_read_back_iff (ipAddr : InAddr) :
    opsFpaStr2ip (opsFpaIp2str ipAddr) = some (ipAddr, 32) ↔ ipAddr ≠ 0xffffffff#32 := by
  have noSlash := slash_notMem_ip2str ipAddr
  have before : (opsFpaIp2str ipAddr).takeWhile (· ≠ '/') = opsFpaIp2str ipAddr := by
    rw [List.takeWhile_eq_self_iff]
    intro c member
    exact decide_eq_true fun isSlash => noSlash (isSlash ▸ member)
  have after : (opsFpaIp2str ipAddr).dropWhile (· ≠ '/') = [] := by
    rw [List.dropWhile_eq_nil_iff]
    intro c member
    exact decide_eq_true fun isSlash => noSlash (isSlash ▸ member)
  simp only [opsFpaStr2ip, before, after, inetAddr_ip2str, opsFpaMaxIpPrefix]
  split_ifs with isNone
  · simp [isNone]
  · simp [isNone]

end FpaPlugin

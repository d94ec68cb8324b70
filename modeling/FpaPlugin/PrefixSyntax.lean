import FpaPlugin.RouteMask

/-! What `ops_fpa_str2ip` accepts. The length after the slash is bounded from above only: a
number with a minus sign passes, and its low byte in the route cookie is that of another length. -/

namespace FpaPlugin

/-- The text is an address, and `len` the number after the slash or 32 where there is none. -/
def PrefixSyntax (s : CString) (addr : InAddr) (len : Int) : Prop :=
  ∃ address, '/' ∉ address ∧ inetAddr address = some addr ∧
    (s = address ∧ len = opsFpaMaxIpPrefix ∨
      ∃ number, s = address ++ '/' :: number ∧ opsFpaStr2int number = some len)

/-- A decimal number below zero, as `strtol` takes it. -/
def MinusNumber (s : CString) : Prop :=
  ∃ blanks digits, s = blanks ++ '-' :: digits ∧ blanks.all isSpace = true ∧
    digits ≠ [] ∧ digits.all (isDigitOf 10) = true ∧
    0 < (readDigits 10 0 digits).1 ∧ (readDigits 10 0 digits).1 ≤ 2 ^ 31

def NegativeLength (s : CString) : Prop :=
  ∃ address number, s = address ++ '/' :: number ∧ '/' ∉ address ∧
    (∃ addr, inetAddr address = some addr ∧ addr ≠ 0xffffffff#32) ∧ MinusNumber number

/-- The text is read as its syntax says, with a length that the cookie and the mask can hold. -/
structure PrefixRead (s : CString) (addr : InAddr) (len : Int) : Prop where
  form : PrefixSyntax s addr len
  nonnegative : 0 ≤ len
  bounded : len ≤ opsFpaMaxIpPrefix
  cookie : (opsFpaRouteIpv4Cookie addr len : Int) = addr.toNat * 256 + len

def ReadsPrefix (s : CString) : Prop :=
  ∀ addr len, opsFpaStr2ip s = some (addr, len) → PrefixRead s addr len

def CookiesDiffer (s t : CString) : Prop :=
  ∀ addr len other, opsFpaStr2ip s = some (addr, len) → opsFpaStr2ip t = some (addr, other) →
    len ≠ other → opsFpaRouteIpv4Cookie addr len ≠ opsFpaRouteIpv4Cookie addr other

variable {s : CString} {addr : InAddr} {len : Int}

theorem routeIpv4Cookie_eq (addr : InAddr) (len : Int) :
    opsFpaRouteIpv4Cookie addr len = addr.toNat * 256 + (len % 256).toNat := by
  have low : (len % 256).toNat < 2 ^ 8 := by omega
  rw [opsFpaRouteIpv4Cookie, ← Nat.shiftLeft_add_eq_or_of_lt low, Nat.shiftLeft_eq]

theorem routeIpv4Cookie_inj {other : InAddr} {otherLen : Int}
    (same : opsFpaRouteIpv4Cookie addr len = opsFpaRouteIpv4Cookie other otherLen) :
    addr = other ∧ len % 256 = otherLen % 256 := by
  rw [routeIpv4Cookie_eq, routeIpv4Cookie_eq] at same
  exact ⟨BitVec.eq_of_toNat_eq (by omega), by omega⟩

theorem readDigits_rest (base value : Nat) (s : CString) :
    (readDigits base value s).2 = [] ↔ s.all (isDigitOf base) = true := by
  induction s generalizing value with
  | nil => simp [readDigits]
  | cons c rest ih =>
      by_cases digit : isDigitOf base c = true
      · simp [readDigits, digit, ih]
      · simp [readDigits, digit]

theorem dropWhile_blanks {blanks rest : CString} (spaces : blanks.all isSpace = true)
    (stops : ∀ c ∈ rest.head?, isSpace c = false) :
    (blanks ++ rest).dropWhile isSpace = rest := by
  induction blanks with
  | nil =>
      cases rest with
      | nil => rfl
      | cons c rest =>
          have stop : ¬ isSpace c = true := by simp [stops c rfl]
          exact List.dropWhile_cons_of_neg stop
  | cons c blanks ih =>
      simp only [List.all_cons, Bool.and_eq_true] at spaces
      simpa [spaces.1] using ih spaces.2

theorem strtol_minus {blanks digits : CString} (spaces : blanks.all isSpace = true)
    (someDigit : digits ≠ []) (decimal : digits.all (isDigitOf 10) = true) :
    strtol (blanks ++ '-' :: digits) = some (-((readDigits 10 0 digits).1 : Int), []) := by
  have rest := (readDigits_rest 10 0 digits).mpr decimal
  have skipped : (blanks ++ '-' :: digits).dropWhile isSpace = '-' :: digits :=
    dropWhile_blanks spaces (by simp [isSpace])
  rw [strtol, skipped]
  cases digits with
  | nil => exact (someDigit rfl).elim
  | cons c digits =>
      simp only [List.all_cons, Bool.and_eq_true] at decimal
      simp only [decimal.1, if_true, rest]

theorem strtol_negative {value : Int} (taken : strtol s = some (value, [])) (negative : value < 0) :
    ∃ blanks digits, s = blanks ++ '-' :: digits ∧ blanks.all isSpace = true ∧ digits ≠ [] ∧
      digits.all (isDigitOf 10) = true ∧ value = -((readDigits 10 0 digits).1 : Int) := by
  have blanks : (s.takeWhile isSpace).all isSpace = true := List.all_takeWhile
  have split : s = s.takeWhile isSpace ++ s.dropWhile isSpace := List.takeWhile_append_dropWhile.symm
  rw [strtol] at taken
  generalize s.dropWhile isSpace = number at taken split
  split at taken
  rename_i minus digits sign
  rcases digits with _ | ⟨c, digits⟩
  · cases taken
  · dsimp only at taken
    split at taken
    · simp only [Option.some.injEq, Prod.mk.injEq] at taken
      -- a number with a plus sign or none is not below zero
      cases minus with
      | false =>
          simp only [Bool.false_eq_true, if_false] at taken
          omega
      | true =>
          simp only [if_true] at taken
          have isMinus : number = '-' :: c :: digits := by
            split at sign
            · rw [(Prod.mk.inj sign).2]
            · cases sign
            · cases sign
          rw [isMinus] at split
          exact ⟨_, c :: digits, split, blanks, List.cons_ne_nil _ _,
            (readDigits_rest 10 0 _).mp taken.2, taken.1.symm⟩
    · cases taken

theorem str2int_negative_iff :
    (∃ n, opsFpaStr2int s = some n ∧ n < 0) ↔ MinusNumber s := by
  constructor
  · rintro ⟨n, taken, negative⟩
    rw [opsFpaStr2int] at taken
    split at taken
    · rename_i value isValue
      split at taken
      · rename_i inRange
        cases taken
        obtain ⟨blanks, digits, isText, spaces, someDigit, decimal, isN⟩ :=
          strtol_negative isValue negative
        exact ⟨blanks, digits, isText, spaces, someDigit, decimal, by omega, by omega⟩
      · cases taken
    · cases taken
  · rintro ⟨blanks, digits, rfl, spaces, someDigit, decimal, positive, bounded⟩
    refine ⟨-((readDigits 10 0 digits).1 : Int), ?_, by omega⟩
    rw [opsFpaStr2int, strtol_minus spaces someDigit decimal]
    exact if_pos (by omega)

theorem takeWhile_slash {address : CString} (rest : CString) (noSlash : '/' ∉ address)
    (starts : ∀ c ∈ rest.head?, c = '/') :
    (address ++ rest).takeWhile (· ≠ '/') = address ∧
      (address ++ rest).dropWhile (· ≠ '/') = rest := by
  induction address with
  | nil =>
      cases rest with
      | nil => exact ⟨rfl, rfl⟩
      | cons c rest =>
          obtain rfl := starts c rfl
          exact ⟨rfl, rfl⟩
  | cons c address ih =>
      simp only [List.mem_cons, not_or] at noSlash
      have ordinary : decide (c ≠ '/') = true := decide_eq_true (Ne.symm noSlash.1)
      obtain ⟨kept, dropped⟩ := ih noSlash.2
      rw [List.cons_append, List.takeWhile_cons, List.dropWhile_cons, if_pos ordinary, kept,
        if_pos ordinary]
      exact ⟨rfl, dropped⟩

theorem exists_slash (s : CString) : ∃ address rest : CString, s = address ++ rest ∧
    '/' ∉ address ∧ ∀ c ∈ rest.head?, c = '/' := by
  refine ⟨s.takeWhile (· ≠ '/'), s.dropWhile (· ≠ '/'),
    List.takeWhile_append_dropWhile.symm, fun member => ?_, fun c isHead => ?_⟩
  · have ordinary := List.all_eq_true.mp List.all_takeWhile _ member
    simp at ordinary
  · have stopped := List.head?_dropWhile_not (· ≠ '/') s
    rw [Option.mem_def.mp isHead] at stopped
    simpa using stopped

/-- All that `ops_fpa_str2ip` accepts, and what it returns. -/
theorem str2ip_iff : opsFpaStr2ip s = some (addr, len) ↔
    PrefixSyntax s addr len ∧ len ≤ opsFpaMaxIpPrefix ∧ addr ≠ 0xffffffff#32 := by
  constructor
  · intro taken
    obtain ⟨address, rest, split, noSlash, starts⟩ := exists_slash s
    obtain ⟨kept, dropped⟩ := takeWhile_slash rest noSlash starts
    rw [opsFpaStr2ip, split, kept, dropped] at taken
    cases found : inetAddr address with
    | none =>
        rw [found] at taken
        cases rest <;> simp at taken
    | some value =>
        rw [found] at taken
        cases rest with
        | nil =>
            simp only [Option.ite_none_left_eq_some, Option.some.injEq, Prod.mk.injEq] at taken
            obtain ⟨other, rfl, rfl⟩ := taken
            exact ⟨⟨address, noSlash, found, .inl ⟨by simpa using split, rfl⟩⟩, le_refl _, other⟩
        | cons c number =>
            obtain rfl := starts c rfl
            cases isNumber : opsFpaStr2int number with
            | none => simp [isNumber] at taken
            | some value =>
                simp only [isNumber] at taken
                by_cases bounded : value ≤ opsFpaMaxIpPrefix
                · simp only [bounded, if_true, Option.ite_none_left_eq_some, Option.some.injEq,
                    Prod.mk.injEq] at taken
                  obtain ⟨other, rfl, rfl⟩ := taken
                  exact ⟨⟨address, noSlash, found, .inr ⟨number, split, isNumber⟩⟩, bounded, other⟩
                · simp [bounded] at taken
  · rintro ⟨⟨address, noSlash, found, form⟩, bounded, other⟩
    rcases form with ⟨rfl, rfl⟩ | ⟨number, rfl, isNumber⟩
    · obtain ⟨kept, dropped⟩ := takeWhile_slash [] noSlash (by simp)
      rw [List.append_nil] at kept dropped
      rw [opsFpaStr2ip, kept, dropped, found]
      exact if_neg other
    · obtain ⟨kept, dropped⟩ := takeWhile_slash ('/' :: number) noSlash (by simp)
      rw [opsFpaStr2ip, kept, dropped, found]
      simp only [isNumber, if_pos bounded]
      exact if_neg other

theorem NegativeLength.accepted (negative : NegativeLength s) :
    ∃ addr len, opsFpaStr2ip s = some (addr, len) ∧ len < 0 := by
  obtain ⟨address, number, isText, noSlash, ⟨addr, found, other⟩, minus⟩ := negative
  obtain ⟨len, isNumber, below⟩ := str2int_negative_iff.mpr minus
  refine ⟨addr, len, str2ip_iff.mpr ⟨⟨address, noSlash, found, .inr ⟨number, isText, isNumber⟩⟩,
    ?_, other⟩, below⟩
  rw [opsFpaMaxIpPrefix]
  omega

theorem nonnegative_of_accepted (accepted : opsFpaStr2ip s = some (addr, len))
    (ordinary : ¬ NegativeLength s) : 0 ≤ len := by
  obtain ⟨⟨address, noSlash, found, form⟩, _, other⟩ := str2ip_iff.mp accepted
  rcases form with ⟨_, rfl⟩ | ⟨number, isText, isNumber⟩
  · decide
  · by_contra below
    exact ordinary ⟨address, number, isText, noSlash, ⟨addr, found, other⟩,
      str2int_negative_iff.mp ⟨len, isNumber, by omega⟩⟩

theorem readsPrefix_iff : ReadsPrefix s ↔ ¬ NegativeLength s := by
  constructor
  · intro reads negative
    obtain ⟨addr, len, accepted, below⟩ := negative.accepted
    have nonnegative := (reads addr len accepted).nonnegative
    omega
  · intro ordinary addr len accepted
    obtain ⟨form, bounded, _⟩ := str2ip_iff.mp accepted
    have nonnegative := nonnegative_of_accepted accepted ordinary
    refine ⟨form, nonnegative, bounded, ?_⟩
    rw [opsFpaMaxIpPrefix] at bounded
    rw [routeIpv4Cookie_eq]
    omega

/-- Two prefixes are read with lengths of 0 to 32, and with cookies apart where their lengths
are, exactly when neither has a length below zero. -/
theorem prefix_lengths_kept_iff (s t : CString) :
    ReadsPrefix s ∧ ReadsPrefix t ∧ CookiesDiffer s t ↔
      ¬ NegativeLength s ∧ ¬ NegativeLength t := by
  constructor
  · rintro ⟨first, second, _⟩
    exact ⟨readsPrefix_iff.mp first, readsPrefix_iff.mp second⟩
  · rintro ⟨first, second⟩
    have readsFirst := readsPrefix_iff.mpr first
    have readsSecond := readsPrefix_iff.mpr second
    refine ⟨readsFirst, readsSecond, fun addr len other isFirst isSecond apart same => apart ?_⟩
    have firstCookie := (readsFirst addr len isFirst).cookie
    have secondCookie := (readsSecond addr other isSecond).cookie
    rw [same] at firstCookie
    omega

/-- A length of -224 is accepted, and its cookie is the one of the same address with 32. -/
theorem negative_length_shares_cookie :
    opsFpaStr2ip "10.0.0.1/-224".toList = some (0x0100000a#32, -224) ∧
      opsFpaStr2ip "10.0.0.1/32".toList = some (0x0100000a#32, 32) ∧
      opsFpaRouteIpv4Cookie 0x0100000a#32 (-224) = opsFpaRouteIpv4Cookie 0x0100000a#32 32 ∧
      ¬ (ReadsPrefix "10.0.0.1/-224".toList ∧ ReadsPrefix "10.0.0.1/32".toList ∧
        CookiesDiffer "10.0.0.1/-224".toList "10.0.0.1/32".toList) := by
  refine ⟨by decide +kernel, by decide +kernel, by decide +kernel, ?_⟩
  rintro ⟨reads, _⟩
  exact absurd (reads 0x0100000a#32 (-224) (by decide +kernel)).nonnegative (by decide)

end FpaPlugin

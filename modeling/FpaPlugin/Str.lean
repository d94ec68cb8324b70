import FpaPlugin.Fpa

/-! The conversions of `ops-fpa.c`, over `strtol`, `inet_addr`, `htonl` and `ffs` as the C
library documents them. A string is the list of its characters before the NUL. -/

namespace FpaPlugin

def isSpace (c : Char) : Bool :=
  c = ' ' || c = '\t' || c = '\n' || c = '\x0b' || c = '\x0c' || c = '\r'

def digitValue (c : Char) : Option Nat :=
  if '0' ≤ c ∧ c ≤ '9' then some (c.toNat - '0'.toNat)
  else if 'a' ≤ c ∧ c ≤ 'f' then some (c.toNat - 'a'.toNat + 10)
  else if 'A' ≤ c ∧ c ≤ 'F' then some (c.toNat - 'A'.toNat + 10)
  else none

def isDigitOf (base : Nat) (c : Char) : Bool :=
  match digitValue c with
  | some value => value < base
  | none => false

def readDigits (base value : Nat) : CString → Nat × CString
  | [] => (value, [])
  | c :: rest =>
      if isDigitOf base c then readDigits base (value * base + (digitValue c).getD 0) rest
      else (value, c :: rest)

/-- `strtol (s, &e, 10)` for a string that has a number: its value and the rest at `e`. -/
def strtol (s : CString) : Option (Int × CString) :=
  let s := s.dropWhile isSpace
  let (negative, s) := match s with
    | '-' :: rest => (true, rest)
    | '+' :: rest => (false, rest)
    | _ => (false, s)
  match s with
  | [] => none
  | c :: _ =>
      if isDigitOf 10 c then
        let (value, rest) := readDigits 10 0 s
        some (if negative then -(value : Int) else value, rest)
      else none

def opsFpaStr2int (s : CString) : Option Int :=
  match strtol s with
  | some (value, []) => if -2 ^ 31 ≤ value ∧ value < 2 ^ 31 then some value else none
  | _ => none

/-- One number of an address as `strtoul (cp, &endp, 0)` reads it. -/
def inetNumber : CString → Option (Nat × CString)
  | [] => none
  | c :: rest =>
      if !isDigitOf 10 c then none
      else if c = '0' then
        match rest with
        | x :: d :: more =>
            if (x = 'x' || x = 'X') && isDigitOf 16 d then some (readDigits 16 0 (d :: more))
            else some (readDigits 8 0 rest)
        | _ => some (readDigits 8 0 rest)
      else some (readDigits 10 0 (c :: rest))

def inetParts : Nat → List Nat → CString → Option (List Nat × Nat × CString)
  | 0, _, _ => none
  | more + 1, parts, s =>
      match inetNumber s with
      | none => none
      | some (value, '.' :: rest) =>
          if value ≤ 0xff then inetParts more (parts ++ [value]) rest else none
      | some (value, rest) => some (parts, value, rest)

/-- `inet_addr` on a little-endian host; `none` is `INADDR_NONE`. The last part
fills all the bytes that the parts before it leave. -/
def inetAddr (s : CString) : Option InAddr :=
  match inetParts 4 [] s with
  | none => none
  | some (parts, last, rest) =>
      let width := 4 - parts.length
      if rest.head?.all isSpace ∧ last < 256 ^ width then
        let bytes := parts ++ (List.range width).map fun i => last / 256 ^ (width - 1 - i) % 256
        some (BitVec.ofNat 32 ((bytes.zipIdx.map fun (byte, i) => byte * 256 ^ i).sum))
      else none

def opsFpaMaxIpPrefix : Int := 32

def opsFpaStr2ip (ipAddress : CString) : Option (InAddr × Int) :=
  let address := ipAddress.takeWhile (· ≠ '/')
  let prefixlen := match ipAddress.dropWhile (· ≠ '/') with
    | [] => some opsFpaMaxIpPrefix
    | _ :: p =>
        match opsFpaStr2int p with
        | some value => if value ≤ opsFpaMaxIpPrefix then some value else none
        | none => none
  match prefixlen, inetAddr address with
  | some prefixlen, some addr => if addr = 0xffffffff#32 then none else some (addr, prefixlen)
  | _, _ => none

def htonl (value : BitVec 32) : BitVec 32 :=
  value.extractLsb' 0 8 ++ value.extractLsb' 8 8 ++ value.extractLsb' 16 8 ++
    value.extractLsb' 24 8

def ffs (value : BitVec 32) : Nat :=
  match (List.range 32).find? value.getLsbD with
  | some bit => bit + 1
  | none => 0

def opsFpaIp4maskToPrefixLen (ipMask : BitVec 32) : Nat :=
  let prefixLen := ffs (htonl ipMask)
  if prefixLen ≠ 0 then 32 + 1 - prefixLen else prefixLen

example : opsFpaStr2ip "10.0.0.1/24".toList = some (0x0100000a#32, 24) := by decide +kernel

example : opsFpaStr2ip "10.1".toList = some (0x0100000a#32, 32) := by decide +kernel

end FpaPlugin

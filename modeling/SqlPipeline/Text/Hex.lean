/-!
Hexadecimal text of bytes: two digits a byte, written in small letters and read in either case.
-/

namespace SqlPipeline

/-- Octets in the order in which they are stored or sent. -/
abbrev Bytes := List UInt8

/-- The hexadecimal digit of a number below sixteen, in small letters. -/
def hexChar (n : Nat) : Char :=
  if n < 10 then Char.ofNat ('0'.toNat + n) else Char.ofNat ('a'.toNat + (n - 10))

/-- The number that a hexadecimal digit stands for. -/
def hexValue? (c : Char) : Option Nat :=
  if '0' ≤ c && c ≤ '9' then some (c.toNat - '0'.toNat)
  else if 'a' ≤ c && c ≤ 'f' then some (c.toNat - 'a'.toNat + 10)
  else if 'A' ≤ c && c ≤ 'F' then some (c.toNat - 'A'.toNat + 10)
  else none

/-- The two hexadecimal digits of a byte. -/
def hexByte (b : UInt8) : List Char :=
  [hexChar (b.toNat / 16), hexChar (b.toNat % 16)]

/-- The hexadecimal digits of some bytes. -/
def hexDigits (bytes : Bytes) : List Char :=
  bytes.flatMap hexByte

/-- The bytes that a text of hexadecimal digits stands for. An odd count of digits stands for
none. -/
def hexBytes? : List Char → Option Bytes
  | [] => some []
  | [_] => none
  | high :: low :: rest => do
    let h ← hexValue? high
    let l ← hexValue? low
    let bytes ← hexBytes? rest
    return UInt8.ofNat (16 * h + l) :: bytes

/-- The hexadecimal digits of a number, without leading zeros. -/
def natHex (n : Nat) : List Char :=
  Nat.toDigits 16 n

theorem hexValue?_hexChar (n : Nat) (h : n < 16) : hexValue? (hexChar n) = some n := by
  revert n; decide

theorem length_hexDigits (bytes : Bytes) : (hexDigits bytes).length = 2 * bytes.length := by
  induction bytes with
  | nil => rfl
  | cons b rest ih =>
    change (hexChar _ :: hexChar _ :: hexDigits rest).length = _
    rw [List.length_cons, List.length_cons, ih, List.length_cons]
    omega

/-- Bytes are read back from their digits. -/
theorem hexBytes?_hexDigits (bytes : Bytes) : hexBytes? (hexDigits bytes) = some bytes := by
  induction bytes with
  | nil => rfl
  | cons b rest ih =>
    have hb := b.toNat_lt
    have value : 16 * (b.toNat / 16) + b.toNat % 16 = b.toNat := by omega
    have high := hexValue?_hexChar (b.toNat / 16) (by omega)
    have low := hexValue?_hexChar (b.toNat % 16) (by omega)
    change hexBytes? (hexChar (b.toNat / 16) :: hexChar (b.toNat % 16) :: hexDigits rest) = _
    rw [hexBytes?, high, low, ih]
    change some (UInt8.ofNat (16 * (b.toNat / 16) + b.toNat % 16) :: rest) = _
    rw [value, UInt8.ofNat_toNat]

example : hexDigits [0, 171] = ['0', '0', 'a', 'b'] := by decide

example : hexBytes? ['A', 'b'] = some [171] := by decide

end SqlPipeline

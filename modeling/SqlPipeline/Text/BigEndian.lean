import SqlPipeline.Number.Power
import SqlPipeline.Text.Hex

/-!
Numbers as bytes, most significant byte first, and two's complement integers of a width.

Main statements: the bytes of a number of a width stand for that number modulo a power of two, and
those of an integer for the integer where they hold its sign; bytes are the bytes of the integer
that they stand for.
-/

namespace SqlPipeline

/-- The last `width` bytes of a number, most significant first. -/
def bigEndian : Nat → Nat → Bytes
  | 0, _ => []
  | width + 1, n => bigEndian width (n / 256) ++ [UInt8.ofNat n]

/-- The number that some bytes stand for, most significant first. -/
def ofBigEndian (bytes : Bytes) : Nat :=
  bytes.foldl (fun n b => n * 256 + b.toNat) 0

/-- The two's complement bytes of an integer. -/
def signedBigEndian (width : Nat) (i : Int) : Bytes :=
  bigEndian width (i % twoTo (8 * width)).toNat

/-- The integer that some bytes stand for in two's complement. -/
def ofSignedBigEndian (bytes : Bytes) : Int :=
  let n := ofBigEndian bytes
  let modulus := twoTo (8 * bytes.length)
  if 2 * n < modulus then n else n - modulus

@[simp] theorem length_bigEndian (width n : Nat) : (bigEndian width n).length = width := by
  induction width generalizing n with
  | zero => rfl
  | succ width ih => simp [bigEndian, ih]

theorem ofBigEndian_concat (bytes : Bytes) (b : UInt8) :
    ofBigEndian (bytes ++ [b]) = ofBigEndian bytes * 256 + b.toNat := by
  simp [ofBigEndian]

theorem ofBigEndian_bigEndian (width n : Nat) :
    ofBigEndian (bigEndian width n) = n % twoTo (8 * width) := by
  induction width generalizing n with
  | zero => simp [bigEndian, ofBigEndian, twoTo, Nat.mod_one]
  | succ width ih =>
    have step : twoTo (8 * (width + 1)) = 256 * twoTo (8 * width) := by
      rw [show 8 * (width + 1) = 8 + 8 * width by omega, twoTo_add]; rfl
    rw [bigEndian, ofBigEndian_concat, ih, step, Nat.mod_mul, UInt8.toNat_ofNat']
    omega

theorem ofBigEndian_of_lt {width n : Nat} (h : n < twoTo (8 * width)) :
    ofBigEndian (bigEndian width n) = n := by
  rw [ofBigEndian_bigEndian, Nat.mod_eq_of_lt h]

@[simp] theorem length_signedBigEndian (width : Nat) (i : Int) :
    (signedBigEndian width i).length = width :=
  length_bigEndian width _

/-- An integer is read back from its bytes where they hold its sign. -/
theorem ofSignedBigEndian_signedBigEndian {width : Nat} {i : Int}
    (hlow : -(twoTo (8 * width) : Int) ≤ 2 * i) (hhigh : 2 * i < twoTo (8 * width)) :
    ofSignedBigEndian (signedBigEndian width i) = i := by
  rw [ofSignedBigEndian, signedBigEndian, length_bigEndian]
  have hpos := twoTo_pos (8 * width)
  generalize hmodulus : twoTo (8 * width) = modulus at *
  have hvalue : i % modulus = if 0 ≤ i then i else i + modulus := by
    split
    · exact Int.emod_eq_of_lt (by omega) (by omega)
    · rw [← Int.add_emod_right]
      exact Int.emod_eq_of_lt (by omega) (by omega)
  rw [hvalue, ofBigEndian_of_lt (by rw [hmodulus]; split <;> omega)]
  split <;> split <;> omega

/-- Bytes are the bytes of the number that they stand for. -/
theorem bigEndian_ofBigEndian {width : Nat} {bytes : Bytes} (h : bytes.length = width) :
    bigEndian width (ofBigEndian bytes) = bytes := by
  induction width generalizing bytes with
  | zero => rw [List.length_eq_zero_iff.1 h]; rfl
  | succ width ih =>
    have hsome : bytes ≠ [] := List.ne_nil_of_length_pos (by omega)
    obtain ⟨high, last, rfl⟩ : ∃ high last, bytes = high ++ [last] :=
      ⟨_, _, (List.dropLast_concat_getLast hsome).symm⟩
    have hlength : high.length = width := by simpa using h
    have hlast := last.toNat_lt
    have hquotient : (ofBigEndian high * 256 + last.toNat) / 256 = ofBigEndian high := by omega
    have hbyte : UInt8.ofNat (ofBigEndian high * 256 + last.toNat) = last := by
      rw [← UInt8.toNat_inj, UInt8.toNat_ofNat']
      omega
    rw [ofBigEndian_concat, bigEndian, hquotient, hbyte, ih hlength]

theorem ofBigEndian_lt (bytes : Bytes) : ofBigEndian bytes < twoTo (8 * bytes.length) := by
  have hvalue := ofBigEndian_bigEndian bytes.length (ofBigEndian bytes)
  rw [bigEndian_ofBigEndian rfl] at hvalue
  rw [hvalue]
  exact Nat.mod_lt _ (twoTo_pos _)

/-- Bytes stand for an integer that is held by as many bytes. -/
theorem ofSignedBigEndian_bounds {width : Nat} {bytes : Bytes} (h : bytes.length = width) :
    -(twoTo (8 * width) : Int) ≤ 2 * ofSignedBigEndian bytes ∧
      2 * ofSignedBigEndian bytes < twoTo (8 * width) := by
  subst h
  have hvalue := ofBigEndian_lt bytes
  rw [ofSignedBigEndian]
  split <;> omega

/-- Bytes are the bytes of the integer that they stand for. -/
theorem signedBigEndian_ofSignedBigEndian {width : Nat} {bytes : Bytes}
    (h : bytes.length = width) : signedBigEndian width (ofSignedBigEndian bytes) = bytes := by
  subst h
  have hvalue := ofBigEndian_lt bytes
  have hresidue : (ofSignedBigEndian bytes % twoTo (8 * bytes.length)).toNat =
      ofBigEndian bytes := by
    rw [ofSignedBigEndian]
    split
    · rw [Int.emod_eq_of_lt (by omega) (by omega), Int.toNat_natCast]
    · rw [Int.sub_emod_right, Int.emod_eq_of_lt (by omega) (by omega), Int.toNat_natCast]
  rw [signedBigEndian, hresidue, bigEndian_ofBigEndian rfl]

example : signedBigEndian 2 (-2) = [255, 254] := by decide

example : ofSignedBigEndian [255, 254] = -2 := by decide

end SqlPipeline

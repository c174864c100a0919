import Mathlib.Data.List.Basic
import Mathlib.Tactic.Common
import Mathlib.Tactic.Ring

/-!
# Byte strings

Byte strings are lists of bytes.  This module fixes the UTF-8 bytes of a text and the
big-endian form of a number in a given number of bytes.

Main results:

- Definitions `utf8` and `bigEndian`.
- Theorem `ofBigEndian_bigEndian`: a number that fits is read back from its big-endian
  form.
- Theorem `bigEndian_ofBigEndian`: a byte string is the big-endian form of its number.
-/

namespace Library

/-- A byte string. -/
abbrev Bytes := List UInt8

/-- The UTF-8 bytes of a text. -/
def utf8 (s : String) : Bytes := s.toList.flatMap String.utf8EncodeChar

theorem length_utf8 (s : String) : (utf8 s).length = s.utf8ByteSize := by
  have h : (utf8 s).toByteArray = s.toList.utf8Encode := rfl
  rw [← List.size_toByteArray, h, String.utf8Encode_toList, String.size_toByteArray]

variable (bytes : Bytes)

/-- The text whose UTF-8 bytes these are, if they are valid. -/
def ofUtf8? : Option String :=
  bytes.toByteArray.utf8Decode?.map fun chars => String.ofList chars.toList

theorem ofUtf8?_utf8 (s : String) : ofUtf8? (utf8 s) = some s := by
  have h : (utf8 s).toByteArray = s.toList.utf8Encode := rfl
  rw [ofUtf8?, h, List.utf8Decode?_utf8Encode]
  simp

/-- Texts with the same bytes are the same. -/
theorem utf8_injective {s t : String} (h : utf8 s = utf8 t) : s = t := by
  have hread := ofUtf8?_utf8 s
  rw [h, ofUtf8?_utf8] at hread
  exact (Option.some.inj hread).symm

/-- A character below 128 is its own byte. -/
theorem utf8EncodeChar_of_lt {c : Char} (h : c.toNat < 128) :
    String.utf8EncodeChar c = [UInt8.ofNat c.toNat] := by
  have hall : ∀ n : Fin 128,
      String.utf8EncodeChar (Char.ofNat n) = [UInt8.ofNat (Char.ofNat n).toNat] := by
    decide
  have hchar := hall ⟨c.toNat, h⟩
  rwa [Char.ofNat_toNat] at hchar

/-- The bytes of a text of characters below 128. -/
theorem utf8_of_lt {s : String} (h : ∀ c ∈ s.toList, c.toNat < 128) :
    utf8 s = s.toList.map fun c => UInt8.ofNat c.toNat := by
  unfold utf8
  generalize s.toList = chars at h
  induction chars with
  | nil => rfl
  | cons c chars ih =>
    obtain ⟨hc, hchars⟩ := List.forall_mem_cons.mp h
    rw [List.flatMap_cons, utf8EncodeChar_of_lt hc, ih hchars]
    rfl

/-- The lowest `width` bytes of `n`, most significant byte first. -/
def bigEndian : Nat → Nat → Bytes
  | 0, _ => []
  | width + 1, n => UInt8.ofNat (n / 256 ^ width) :: bigEndian width n

/-- The number a byte string denotes, most significant byte first. -/
def ofBigEndian : Bytes → Nat
  | [] => 0
  | b :: bs => b.toNat * 256 ^ bs.length + ofBigEndian bs

variable (width n : Nat)

@[simp]
theorem length_bigEndian : (bigEndian width n).length = width := by
  induction width with
  | zero => rfl
  | succ width ih => simp [bigEndian, ih]

theorem ofBigEndian_bigEndian_mod :
    ofBigEndian (bigEndian width n) = n % 256 ^ width := by
  induction width with
  | zero => simp [bigEndian, ofBigEndian, Nat.mod_one]
  | succ width ih =>
    have hbyte : (UInt8.ofNat (n / 256 ^ width)).toNat = n / 256 ^ width % 256 := by
      simp [UInt8.toNat_ofNat']
    rw [bigEndian, ofBigEndian, length_bigEndian, ih, hbyte, Nat.pow_succ, Nat.mod_mul,
      Nat.mul_comm, Nat.add_comm]

/-- A number that fits in `width` bytes is read back from its big-endian form. -/
theorem ofBigEndian_bigEndian {width n : Nat} (h : n < 256 ^ width) :
    ofBigEndian (bigEndian width n) = n := by
  rw [ofBigEndian_bigEndian_mod, Nat.mod_eq_of_lt h]

theorem ofBigEndian_lt : ofBigEndian bytes < 256 ^ bytes.length := by
  induction bytes with
  | nil => simp [ofBigEndian]
  | cons b bs ih =>
    have hb : b.toNat ≤ 255 := by
      have := b.toNat_lt
      omega
    have hmul : b.toNat * 256 ^ bs.length ≤ 255 * 256 ^ bs.length :=
      Nat.mul_le_mul_right _ hb
    rw [ofBigEndian, List.length_cons, Nat.pow_succ]
    omega

theorem bigEndian_add_mul (width n m : Nat) :
    bigEndian width (m * 256 ^ width + n) = bigEndian width n := by
  induction width generalizing m with
  | zero => rfl
  | succ width ih =>
    have hpos : 0 < 256 ^ width := Nat.pow_pos (by decide)
    have hsplit : m * 256 ^ (width + 1) + n = n + m * 256 * 256 ^ width := by
      rw [Nat.pow_succ]
      ring
    have hhead : UInt8.ofNat ((m * 256 ^ (width + 1) + n) / 256 ^ width) =
        UInt8.ofNat (n / 256 ^ width) := by
      rw [hsplit, Nat.add_mul_div_right _ _ hpos]
      apply UInt8.toNat.inj
      simp [UInt8.toNat_ofNat']
    rw [bigEndian, bigEndian, hhead]
    rw [show m * 256 ^ (width + 1) + n = m * 256 * 256 ^ width + n by rw [Nat.pow_succ]; ring]
    rw [ih]

/-- A byte string is the big-endian form of the number it denotes. -/
theorem bigEndian_ofBigEndian :
    bigEndian bytes.length (ofBigEndian bytes) = bytes := by
  induction bytes with
  | nil => rfl
  | cons b bs ih =>
    have hpos : 0 < 256 ^ bs.length := Nat.pow_pos (by decide)
    have hhead : (b.toNat * 256 ^ bs.length + ofBigEndian bs) / 256 ^ bs.length =
        b.toNat := by
      rw [Nat.add_comm, Nat.add_mul_div_right _ _ hpos,
        Nat.div_eq_of_lt (ofBigEndian_lt bs), Nat.zero_add]
    rw [ofBigEndian, List.length_cons, bigEndian, hhead, bigEndian_add_mul, ih]
    simp

/-! ## Digits in any base -/

section Digits

variable {b : Nat}

/-- Numbers with the same digits are the same. -/
theorem eq_of_digits {width n m : Nat} (hn : n < b ^ width) (hm : m < b ^ width)
    (h : ∀ i < width, n / b ^ i % b = m / b ^ i % b) : n = m := by
  induction width generalizing n m with
  | zero =>
    rw [Nat.pow_zero] at hn hm
    omega
  | succ width ih =>
    rw [Nat.pow_succ, Nat.mul_comm] at hn hm
    have hlast : n % b = m % b := by simpa using h 0 (Nat.succ_pos _)
    have hrest : n / b = m / b := by
      apply ih (Nat.div_lt_of_lt_mul hn) (Nat.div_lt_of_lt_mul hm)
      intro i hi
      rw [Nat.div_div_eq_div_mul, Nat.div_div_eq_div_mul, ← Nat.pow_succ']
      exact h (i + 1) (by omega)
    rw [← Nat.div_add_mod n b, ← Nat.div_add_mod m b, hlast, hrest]

/-- Any digits are those of a number. -/
theorem exists_of_digits (digit : Nat → Nat) (width : Nat) (h : ∀ i < width, digit i < b) :
    ∃ n < b ^ width, ∀ i < width, n / b ^ i % b = digit i := by
  induction width generalizing digit with
  | zero => exact ⟨0, Nat.one_pos, fun i hi => absurd hi (Nat.not_lt_zero i)⟩
  | succ width ih =>
    have hlast := h 0 (Nat.succ_pos _)
    obtain ⟨n, hn, hdigits⟩ := ih (fun i => digit (i + 1)) fun i hi => h (i + 1) (by omega)
    refine ⟨b * n + digit 0, ?_, fun i hi => ?_⟩
    · have hstep : b * (n + 1) ≤ b * b ^ width := Nat.mul_le_mul_left b hn
      rw [Nat.pow_succ, Nat.mul_comm (b ^ width)]
      rw [Nat.mul_add] at hstep
      omega
    · cases i with
      | zero => simp [Nat.mod_eq_of_lt hlast]
      | succ i =>
        have hfirst : (b * n + digit 0) / b = n := by
          rw [Nat.mul_add_div (by omega), Nat.div_eq_of_lt hlast, Nat.add_zero]
        rw [Nat.pow_succ', ← Nat.div_div_eq_div_mul, hfirst]
        exact hdigits i (by omega)

end Digits

end Library

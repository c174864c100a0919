import Mathlib.Data.List.Basic
import Mathlib.Tactic.Common
import Roammand.Library.Bytes

/-!
# Base 64 texts

Bytes are written as text in groups of three, as four digits of six bits each.  The last group may
be shorter, and is then filled up with `=`.  Two alphabets differ in their last two digits; texts
for addresses use `-` and `_`.  A decoder reads both, wants the filling, and refuses a last digit
with bits that no byte has.

Main results:

- Definitions `base64Digits`, `base64UrlEncode`, `base64Normalize` and `base64Decode`.
- Theorem `base64Decode_normalize_digits`: the digits of bytes, filled up again, yield them.
- Theorem `length_base64Digits`: how many digits there are.
-/

namespace Library

/-- The digits of texts for addresses. -/
def base64UrlAlphabet : List Char :=
  "ABCDEFGHIJKLMNOPQRSTUVWXYZabcdefghijklmnopqrstuvwxyz0123456789-_".toList

/-- The digit of a number below 64. -/
def base64UrlDigit (n : Nat) : Char := base64UrlAlphabet.getD n 'A'

/-- The number of a digit of either alphabet. -/
def base64Value (c : Char) : Option Nat :=
  if 'A' ≤ c ∧ c ≤ 'Z' then some (c.toNat - 65)
  else if 'a' ≤ c ∧ c ≤ 'z' then some (c.toNat - 71)
  else if '0' ≤ c ∧ c ≤ '9' then some (c.toNat + 4)
  else if c = '+' ∨ c = '-' then some 62
  else if c = '/' ∨ c = '_' then some 63
  else none

/-- A digit of texts for addresses. -/
def isBase64UrlDigit (c : Char) : Bool :=
  ('A' ≤ c ∧ c ≤ 'Z') ∨ ('a' ≤ c ∧ c ≤ 'z') ∨ ('0' ≤ c ∧ c ≤ '9') ∨ c = '-' ∨ c = '_'

/-- The digit in the alphabet that is not for addresses. -/
def base64NormalDigit (c : Char) : Char :=
  if c = '-' then '+' else if c = '_' then '/' else c

/-- The digits of bytes, without filling. -/
def base64Digits : Bytes → List Char
  | [] => []
  | [a] => [base64UrlDigit (a.toNat / 4), base64UrlDigit (a.toNat % 4 * 16)]
  | [a, b] =>
    [base64UrlDigit (a.toNat / 4), base64UrlDigit (a.toNat % 4 * 16 + b.toNat / 16),
      base64UrlDigit (b.toNat % 16 * 4)]
  | a :: b :: c :: rest =>
    base64UrlDigit (a.toNat / 4) :: base64UrlDigit (a.toNat % 4 * 16 + b.toNat / 16) ::
      base64UrlDigit (b.toNat % 16 * 4 + c.toNat / 64) :: base64UrlDigit (c.toNat % 64) ::
        base64Digits rest

/-- How many `=` fill up so many digits. -/
def base64Filling (digits : Nat) : List Char := List.replicate ((4 - digits % 4) % 4) '='

variable (bytes : Bytes)

/-- The text of bytes. -/
def base64UrlEncode : String :=
  String.ofList (base64Digits bytes ++ base64Filling (base64Digits bytes).length)

variable (text : String)

/-- Digits in the other alphabet and filled up, unless their number is that of no text. -/
def base64Normalize : Option String :=
  let digits := text.toList
  if digits.all isBase64UrlDigit ∧ digits.length % 4 ≠ 1 then
    some (String.ofList (digits.map base64NormalDigit ++ base64Filling digits.length))
  else none

/-- The one or two bytes of a last group that is filled up. -/
def base64LastGroup (a b c : Char) : Option Bytes :=
  match base64Value a, base64Value b with
  | some a, some b =>
    if c = '=' then if b % 16 = 0 then some [UInt8.ofNat (a * 4 + b / 16)] else none
    else
      match base64Value c with
      | some c =>
        if c % 4 = 0 then
          some [UInt8.ofNat (a * 4 + b / 16), UInt8.ofNat (b % 16 * 16 + c / 4)]
        else none
      | none => none
  | _, _ => none

/-- The three bytes of a full group. -/
def base64Group (a b c d : Char) : Option Bytes :=
  match base64Value a, base64Value b, base64Value c, base64Value d with
  | some a, some b, some c, some d =>
    some [UInt8.ofNat (a * 4 + b / 16), UInt8.ofNat (b % 16 * 16 + c / 4),
      UInt8.ofNat (c % 4 * 64 + d)]
  | _, _, _, _ => none

/-- The bytes of filled groups of digits. -/
def base64DecodeGroups : List Char → Option Bytes
  | [] => some []
  | a :: b :: c :: d :: rest =>
    if d = '=' then if rest = [] then base64LastGroup a b c else none
    else (base64Group a b c d).bind fun group => (base64DecodeGroups rest).map (group ++ ·)
  | _ => none

/-- The bytes of a filled text. -/
def base64Decode : Option Bytes := base64DecodeGroups text.toList

/-! ## Digits -/

theorem base64UrlDigit_spec {n : Nat} (h : n < 64) :
    isBase64UrlDigit (base64UrlDigit n) = true ∧
      base64Value (base64NormalDigit (base64UrlDigit n)) = some n ∧
      base64NormalDigit (base64UrlDigit n) ≠ '=' := by
  have hall : ∀ m : Fin 64, isBase64UrlDigit (base64UrlDigit m) = true ∧
      base64Value (base64NormalDigit (base64UrlDigit m)) = some m.val ∧
      base64NormalDigit (base64UrlDigit m) ≠ '=' := by decide +kernel
  exact hall ⟨n, h⟩

/-- The digits of bytes are digits of texts for addresses. -/
theorem isBase64UrlDigit_of_mem :
    ∀ c ∈ base64Digits bytes, isBase64UrlDigit c = true := by
  induction bytes using base64Digits.induct with
  | case1 => exact List.forall_mem_nil _
  | case2 a =>
    have ha := a.toNat_lt
    simp only [base64Digits, List.forall_mem_cons, List.not_mem_nil, false_implies,
      implies_true, and_true]
    exact ⟨(base64UrlDigit_spec (by omega)).1, (base64UrlDigit_spec (by omega)).1⟩
  | case3 a b =>
    have ha := a.toNat_lt
    have hb := b.toNat_lt
    simp only [base64Digits, List.forall_mem_cons, List.not_mem_nil, false_implies,
      implies_true, and_true]
    exact ⟨(base64UrlDigit_spec (by omega)).1, (base64UrlDigit_spec (by omega)).1,
      (base64UrlDigit_spec (by omega)).1⟩
  | case4 a b c rest ih =>
    have ha := a.toNat_lt
    have hb := b.toNat_lt
    have hc := c.toNat_lt
    simp only [base64Digits, List.forall_mem_cons]
    exact ⟨(base64UrlDigit_spec (by omega)).1, (base64UrlDigit_spec (by omega)).1,
      (base64UrlDigit_spec (by omega)).1, (base64UrlDigit_spec (by omega)).1, ih⟩

/-- Four digits for three bytes, and a part of four for the rest. -/
theorem length_base64Digits :
    (base64Digits bytes).length = (4 * bytes.length + 2) / 3 := by
  induction bytes using base64Digits.induct with
  | case1 => rfl
  | case2 a => simp [base64Digits]
  | case3 a b => simp [base64Digits]
  | case4 a b c rest ih =>
    simp only [base64Digits, List.length_cons, ih]
    omega

theorem base64Digits_ne_nil {bytes : Bytes} (h : bytes ≠ []) : base64Digits bytes ≠ [] := by
  have hlength := length_base64Digits bytes
  have hpositive := List.length_pos_iff.mpr h
  apply List.ne_nil_of_length_pos
  omega

/-! ## Reading digits again -/

theorem ofNat_toNat {a : UInt8} {n : Nat} (h : n = a.toNat) : UInt8.ofNat n = a := by
  rw [h, UInt8.ofNat_toNat]

/-- The digits of bytes, filled up, yield them. -/
theorem base64DecodeGroups_digits :
    base64DecodeGroups ((base64Digits bytes).map base64NormalDigit ++
      base64Filling (base64Digits bytes).length) = some bytes := by
  induction bytes using base64Digits.induct with
  | case1 => rfl
  | case2 a =>
    have ha := a.toNat_lt
    obtain ⟨-, h1, -⟩ := base64UrlDigit_spec (n := a.toNat / 4) (by omega)
    obtain ⟨-, h2, -⟩ := base64UrlDigit_spec (n := a.toNat % 4 * 16) (by omega)
    have hfirst : UInt8.ofNat (a.toNat / 4 * 4 + a.toNat % 4 * 16 / 16) = a :=
      ofNat_toNat (by omega)
    have hfilling : base64Filling 2 = ['=', '='] := rfl
    simp only [base64Digits, List.map_cons, List.map_nil, List.length_cons, List.length_nil,
      hfilling, List.cons_append, List.nil_append, base64DecodeGroups, if_true,
      base64LastGroup, h1, h2, hfirst]
    rw [if_pos (by omega)]
  | case3 a b =>
    have ha := a.toNat_lt
    have hb := b.toNat_lt
    obtain ⟨-, h1, -⟩ := base64UrlDigit_spec (n := a.toNat / 4) (by omega)
    obtain ⟨-, h2, -⟩ :=
      base64UrlDigit_spec (n := a.toNat % 4 * 16 + b.toNat / 16) (by omega)
    obtain ⟨-, h3, hdigit⟩ := base64UrlDigit_spec (n := b.toNat % 16 * 4) (by omega)
    have hfirst : UInt8.ofNat
        (a.toNat / 4 * 4 + (a.toNat % 4 * 16 + b.toNat / 16) / 16) = a :=
      ofNat_toNat (by omega)
    have hsecond : UInt8.ofNat
        ((a.toNat % 4 * 16 + b.toNat / 16) % 16 * 16 + b.toNat % 16 * 4 / 4) = b :=
      ofNat_toNat (by omega)
    have hfilling : base64Filling 3 = ['='] := rfl
    simp only [base64Digits, List.map_cons, List.map_nil, List.length_cons, List.length_nil,
      hfilling, List.cons_append, List.nil_append, base64DecodeGroups, if_true,
      base64LastGroup, h1, h2, h3, if_neg hdigit, hfirst, hsecond]
    rw [if_pos (by omega)]
  | case4 a b c rest ih =>
    have ha := a.toNat_lt
    have hb := b.toNat_lt
    have hc := c.toNat_lt
    obtain ⟨-, h1, -⟩ := base64UrlDigit_spec (n := a.toNat / 4) (by omega)
    obtain ⟨-, h2, -⟩ :=
      base64UrlDigit_spec (n := a.toNat % 4 * 16 + b.toNat / 16) (by omega)
    obtain ⟨-, h3, -⟩ :=
      base64UrlDigit_spec (n := b.toNat % 16 * 4 + c.toNat / 64) (by omega)
    obtain ⟨-, h4, hdigit⟩ := base64UrlDigit_spec (n := c.toNat % 64) (by omega)
    have hfirst : UInt8.ofNat
        (a.toNat / 4 * 4 + (a.toNat % 4 * 16 + b.toNat / 16) / 16) = a :=
      ofNat_toNat (by omega)
    have hsecond : UInt8.ofNat ((a.toNat % 4 * 16 + b.toNat / 16) % 16 * 16 +
        (b.toNat % 16 * 4 + c.toNat / 64) / 4) = b :=
      ofNat_toNat (by omega)
    have hthird : UInt8.ofNat
        ((b.toNat % 16 * 4 + c.toNat / 64) % 4 * 64 + c.toNat % 64) = c :=
      ofNat_toNat (by omega)
    have hfilling : ∀ n, base64Filling (n + 1 + 1 + 1 + 1) = base64Filling n := by
      intro n
      unfold base64Filling
      congr 1
      omega
    simp only [base64Digits, List.map_cons, List.length_cons, hfilling, List.cons_append,
      base64DecodeGroups, if_neg hdigit, base64Group, h1, h2, h3, h4, hfirst, hsecond, hthird,
      ih]
    rfl

/-- The digits of bytes, as they stand in an address, yield them. -/
theorem base64Decode_normalize_digits :
    (base64Normalize (String.ofList (base64Digits bytes))).bind base64Decode = some bytes := by
  have hdigits : (base64Digits bytes).all isBase64UrlDigit = true :=
    List.all_eq_true.mpr (isBase64UrlDigit_of_mem bytes)
  have hcount : (base64Digits bytes).length % 4 ≠ 1 := by
    rw [length_base64Digits]
    omega
  unfold base64Normalize
  dsimp only
  rw [String.toList_ofList, if_pos ⟨hdigits, hcount⟩, Option.bind_some, base64Decode,
    String.toList_ofList]
  exact base64DecodeGroups_digits bytes

/-- Without its filling the text of bytes is their digits. -/
theorem filter_base64UrlEncode :
    (base64UrlEncode bytes).toList.filter (· ≠ '=') = base64Digits bytes := by
  unfold base64UrlEncode
  rw [String.toList_ofList, List.filter_append]
  have hdigits : (base64Digits bytes).filter (· ≠ '=') = base64Digits bytes := by
    refine List.filter_eq_self.mpr fun c hc => decide_eq_true ?_
    rintro rfl
    exact absurd (isBase64UrlDigit_of_mem bytes '=' hc) (by decide)
  have hfilling : (base64Filling (base64Digits bytes).length).filter (· ≠ '=') = [] := by
    refine List.filter_eq_nil_iff.mpr fun c hc => ?_
    rw [List.eq_of_mem_replicate hc]
    decide
  rw [hdigits, hfilling, List.append_nil]

end Library

import Mathlib.Data.List.GetD
import Mathlib.Data.Set.Function
import Roammand.Client.TrustedHostStore
import Roammand.Host.Pairing
import Roammand.Server.Service

/-!
# Codes that are typed

A Host shows a code of eight letters, which stands for five random bytes.  The user types it at a
controller, which brings it into its normal form and asks the service for the Host with that code.
Four programs check codes, and each does it on its own.

Main results:

- Definition `IsPairingCode` and `normalizeDesktopPairingCode`.
- Theorem `bijOn_desktopCode`: five random bytes for each code.
- Theorem `utf8_isPairingCode`: the checks of bytes accept the codes and nothing else.
- Theorem `DesktopPairingCode.agreement`: all programs agree on the codes, and the service finds
  one code under another exactly if their normal forms are the same.
-/

namespace Roammand

namespace Client

open Library Protocol Host

/-! ## Codes -/

namespace DesktopPairingCode

/-- A letter of codes. -/
def isCodeCharacter (c : Char) : Bool := ('A' ≤ c ∧ c ≤ 'Z') ∨ ('2' ≤ c ∧ c ≤ '7')

/-- A text of eight letters. -/
def IsPairingCode (code : String) : Prop :=
  code.toList.length = desktopPairingCodeBytes ∧ ∀ c ∈ code.toList, isCodeCharacter c = true

/-- The number of a letter. -/
def codeDigit (c : Char) : Nat := if 'A' ≤ c then c.toNat - 65 else c.toNat - 24

theorem toNat_lt_of_isCodeCharacter {c : Char} (h : isCodeCharacter c = true) :
    c.toNat < 128 := by
  rcases of_decide_eq_true h with ⟨-, hc⟩ | ⟨-, hc⟩
  · exact Nat.lt_of_le_of_lt hc (by decide)
  · exact Nat.lt_of_le_of_lt hc (by decide)

/-- Every letter stands for its number. -/
theorem base32Alphabet_codeDigit {c : Char} (h : isCodeCharacter c = true) :
    codeDigit c < 32 ∧ base32Alphabet.getD (codeDigit c) 'A' = c := by
  have hall : ∀ n : Fin 128, isCodeCharacter (Char.ofNat n) = true →
      codeDigit (Char.ofNat n) < 32 ∧
        base32Alphabet.getD (codeDigit (Char.ofNat n)) 'A' = Char.ofNat n := by
    decide
  have hchar := hall ⟨c.toNat, toNat_lt_of_isCodeCharacter h⟩
  rw [Char.ofNat_toNat] at hchar
  exact hchar h

/-- Every number has its letter. -/
theorem codeDigit_base32Alphabet {n : Nat} (h : n < 32) :
    isCodeCharacter (base32Alphabet.getD n 'A') = true ∧
      codeDigit (base32Alphabet.getD n 'A') = n := by
  have hall : ∀ n : Fin 32, isCodeCharacter (base32Alphabet.getD n 'A') = true ∧
      codeDigit (base32Alphabet.getD n 'A') = n := by
    decide
  exact hall ⟨n, h⟩

/-! ## The code of random bytes -/

variable {code : String} (random : Vector UInt8 5)

/-- The letters of a code stand for the digits of a number in base 32. -/
theorem toList_desktopCode :
    (desktopCode random).toList = (List.range 8).map fun index =>
      base32Alphabet.getD (ofBigEndian random.toList / 32 ^ (7 - index) % 32) 'A' := by
  unfold desktopCode
  rw [String.toList_ofList]
  apply List.map_congr_left
  intro index _
  rw [Nat.mul_comm (7 - index), Nat.pow_mul]

theorem isPairingCode_desktopCode :
    IsPairingCode (desktopCode random) := by
  unfold IsPairingCode
  rw [toList_desktopCode]
  refine ⟨by simp [desktopPairingCodeBytes], fun c hc => ?_⟩
  obtain ⟨index, -, rfl⟩ := List.mem_map.mp hc
  exact (codeDigit_base32Alphabet (Nat.mod_lt _ (by decide))).1

theorem ofBigEndian_random_lt :
    ofBigEndian random.toList < 32 ^ 8 := by
  have hlt := ofBigEndian_lt random.toList
  rw [Vector.length_toList] at hlt
  exact Nat.lt_of_lt_of_le hlt (by decide)

/-- Different bytes have different codes. -/
theorem desktopCode_injective : Function.Injective desktopCode := by
  intro random random' h
  have hletters := congrArg String.toList h
  rw [toList_desktopCode, toList_desktopCode] at hletters
  have hnumber : ofBigEndian random.toList = ofBigEndian random'.toList := by
    apply eq_of_digits (ofBigEndian_random_lt random) (ofBigEndian_random_lt random')
    intro i hi
    have hletter := List.map_inj_left.mp hletters (7 - i) (List.mem_range.mpr (by omega))
    have hindex : 7 - (7 - i) = i := by omega
    rw [hindex] at hletter
    have hdigit := congrArg codeDigit hletter
    rwa [(codeDigit_base32Alphabet (Nat.mod_lt _ (by decide))).2,
      (codeDigit_base32Alphabet (Nat.mod_lt _ (by decide))).2] at hdigit
  apply Vector.toList_inj.mp
  rw [← bigEndian_ofBigEndian random.toList, ← bigEndian_ofBigEndian random'.toList, hnumber,
    Vector.length_toList, Vector.length_toList]

/-- Every code is that of some bytes. -/
theorem exists_desktopCode (h : IsPairingCode code) :
    ∃ random, desktopCode random = code := by
  obtain ⟨hlength, hletters⟩ := h
  have hlength : code.toList.length = 8 := hlength
  obtain ⟨n, hn, hdigits⟩ := exists_of_digits
    (fun i => codeDigit (code.toList.getD (7 - i) 'A')) 8 (b := 32) fun i hi => by
      have hmem : code.toList.getD (7 - i) 'A' ∈ code.toList := by
        rw [List.getD_eq_getElem _ _ (by omega)]
        exact List.getElem_mem _
      exact (base32Alphabet_codeDigit (hletters _ hmem)).1
  refine ⟨⟨(bigEndian 5 n).toArray, by simp⟩, ?_⟩
  apply String.toList_inj.mp
  have hnumber : ofBigEndian (bigEndian 5 n) = n :=
    ofBigEndian_bigEndian (Nat.lt_of_lt_of_le hn (by decide))
  rw [toList_desktopCode]
  apply List.ext_getElem
  · simp [hlength]
  · intro index hindex hindex'
    have hsmall : index < 8 := by omega
    have hmem := hletters _ (List.getElem_mem hindex')
    have hback : 7 - (7 - index) = index := by omega
    simp only [List.getElem_map, List.getElem_range, Vector.toList_mk, hnumber,
      hdigits (7 - index) (by omega), hback]
    rw [List.getD_eq_getElem _ _ hindex']
    exact (base32Alphabet_codeDigit hmem).2

/-- Five random bytes for each code. -/
theorem bijOn_desktopCode : Set.BijOn desktopCode Set.univ {code | IsPairingCode code} := by
  refine ⟨fun random _ => isPairingCode_desktopCode random, ?_, ?_⟩
  · intro random _ random' _ h
    exact desktopCode_injective h
  · intro code hcode
    obtain ⟨random, hrandom⟩ := exists_desktopCode hcode
    exact ⟨random, trivial, hrandom⟩

/-! ## The checks of bytes -/

/-- `validate_desktop_pairing_code`. -/
def validateDesktopPairingCode (code : String) : Except ValidationError Unit := do
  ensure ((utf8 code).length = desktopPairingCodeBytes) .invalidLength
  ensure ((utf8 code).all fun byte => (0x41 ≤ byte ∧ byte ≤ 0x5a) ∨ (0x32 ≤ byte ∧ byte ≤ 0x37))
    .invalidState

theorem utf8_code (h : IsPairingCode code) :
    utf8 code = code.toList.map fun c => UInt8.ofNat c.toNat :=
  utf8_of_lt fun c hc => toNat_lt_of_isCodeCharacter (h.2 c hc)

/-- The checks of bytes accept the codes and nothing else. -/
theorem utf8_isPairingCode :
    ((utf8 code).length = desktopPairingCodeBytes ∧
      (utf8 code).all (SignalingProtocol.isPairingCodeByte ·) = true) ↔ IsPairingCode code := by
  constructor
  · rintro ⟨hlength, hbytes⟩
    have hall : ∀ n : Fin 256, SignalingProtocol.isPairingCodeByte (UInt8.ofNat n) = true →
        (Char.ofNat n).toNat = n ∧ isCodeCharacter (Char.ofNat n) = true := by
      decide +kernel
    have hbyte : ∀ b ∈ utf8 code, (Char.ofNat b.toNat).toNat = b.toNat ∧
        isCodeCharacter (Char.ofNat b.toNat) = true := by
      intro b hb
      have hread := hall ⟨b.toNat, b.toNat_lt⟩
      rw [UInt8.ofNat_toNat] at hread
      exact hread (List.all_eq_true.mp hbytes b hb)
    have hcode : code = String.ofList ((utf8 code).map fun b => Char.ofNat b.toNat) := by
      apply utf8_injective
      generalize utf8 code = bytes at hbyte
      have hsmall : ∀ c ∈ (String.ofList (bytes.map fun b => Char.ofNat b.toNat)).toList,
          c.toNat < 128 := by
        rw [String.toList_ofList, List.forall_mem_map]
        exact fun b hb => toNat_lt_of_isCodeCharacter (hbyte b hb).2
      rw [utf8_of_lt hsmall, String.toList_ofList, List.map_map]
      refine (List.map_id _).symm.trans (List.map_congr_left fun b hb => ?_)
      simp only [Function.comp_apply, id_eq, (hbyte b hb).1, UInt8.ofNat_toNat]
    unfold IsPairingCode
    rw [hcode, String.toList_ofList, List.length_map, List.forall_mem_map]
    exact ⟨hlength, fun b hb => (hbyte b hb).2⟩
  · intro h
    rw [utf8_code h, List.length_map]
    refine ⟨h.1, List.all_eq_true.mpr ?_⟩
    rw [List.forall_mem_map]
    intro c hc
    have hall : ∀ n : Fin 128, isCodeCharacter (Char.ofNat n) = true →
        SignalingProtocol.isPairingCodeByte (UInt8.ofNat (Char.ofNat n).toNat) = true := by
      decide
    have hletter := h.2 c hc
    have hread := hall ⟨c.toNat, toNat_lt_of_isCodeCharacter hletter⟩
    rw [Char.ofNat_toNat] at hread
    exact hread hletter

theorem validateDesktopPairingCode_eq_ok :
    validateDesktopPairingCode code = .ok () ↔ IsPairingCode code := by
  unfold validateDesktopPairingCode
  simp only [bind_eq_ok, ensure_eq_ok, exists_and_left, exists_const]
  exact utf8_isPairingCode

theorem validPairingCode_eq_true :
    Server.validPairingCode code = true ↔ IsPairingCode code := by
  unfold Server.validPairingCode
  rw [decide_eq_true_eq]
  exact utf8_isPairingCode

/-! ## The normal form -/

/-- The UTF-16 units of a character. -/
def utf16Encode (c : Char) : List UInt16 :=
  if c.toNat < 0x10000 then [UInt16.ofNat c.toNat]
  else
    [UInt16.ofNat (0xd800 + (c.toNat - 0x10000) / 0x400),
      UInt16.ofNat (0xdc00 + (c.toNat - 0x10000) % 0x400)]

/-- The UTF-16 units of a text. -/
def utf16 (s : String) : List UInt16 := s.toList.flatMap utf16Encode

/-- A unit that is a letter of codes. -/
def isCodeUnit (unit : UInt16) : Bool := (0x41 ≤ unit ∧ unit ≤ 0x5a) ∨ (0x32 ≤ unit ∧ unit ≤ 0x37)

/-- The length of a code, and with a hyphen in its middle. -/
def desktopPairingCodeLength : Nat := 8

def formattedDesktopPairingCodeLength : Nat := 9

/-- `_removeFixedSeparator`. -/
def removeFixedSeparator (value : List UInt16) : Option (List UInt16) :=
  if value[4]? = some 0x2d then some (value.take 4 ++ value.drop 5) else none

/-- The normal form of what was typed, as the library writes it in upper case. -/
def normalizeDesktopPairingCode (toUpperCase : List UInt16 → List UInt16) (value : List UInt16) :
    Option (List UInt16) :=
  if value.length ≠ desktopPairingCodeLength ∧
      value.length ≠ formattedDesktopPairingCodeLength then none
  else do
    let raw ← if value.length = formattedDesktopPairingCodeLength then removeFixedSeparator value
      else some value
    let normalized := toUpperCase raw
    if normalized.length = 8 ∧ normalized.all isCodeUnit then some normalized else none

theorem utf16_of_lt {s : String} (h : ∀ c ∈ s.toList, c.toNat < 0x10000) :
    utf16 s = s.toList.map fun c => UInt16.ofNat c.toNat := by
  unfold utf16
  generalize s.toList = chars at h
  induction chars with
  | nil => rfl
  | cons c chars ih =>
    obtain ⟨hc, hchars⟩ := List.forall_mem_cons.mp h
    rw [List.flatMap_cons, ih hchars, utf16Encode, if_pos hc]
    rfl

theorem utf16_code (h : IsPairingCode code) :
    utf16 code = code.toList.map fun c => UInt16.ofNat c.toNat :=
  utf16_of_lt fun c hc =>
    Nat.lt_trans (toNat_lt_of_isCodeCharacter (h.2 c hc)) (by decide)

/-- The units of codes are eight letters. -/
theorem units_of_code (h : IsPairingCode code) :
    (utf16 code).length = 8 ∧ ∀ unit ∈ utf16 code, isCodeUnit unit = true := by
  rw [utf16_code h, List.length_map, List.forall_mem_map]
  refine ⟨h.1, fun c hc => ?_⟩
  have hall : ∀ n : Fin 128, isCodeCharacter (Char.ofNat n) = true →
      isCodeUnit (UInt16.ofNat (Char.ofNat n).toNat) = true := by
    decide
  have hletter := h.2 c hc
  have hread := hall ⟨c.toNat, toNat_lt_of_isCodeCharacter hletter⟩
  rw [Char.ofNat_toNat] at hread
  exact hread hletter

/-- Eight letters are the units of a code. -/
theorem exists_code {units : List UInt16} (hlength : units.length = 8)
    (hletters : ∀ unit ∈ units, isCodeUnit unit = true) :
    ∃ code, IsPairingCode code ∧ utf16 code = units := by
  have hunit : ∀ unit ∈ units, (Char.ofNat unit.toNat).toNat = unit.toNat ∧
      isCodeCharacter (Char.ofNat unit.toNat) = true := by
    intro unit hmem
    have hall : ∀ n : Fin 128, isCodeUnit (UInt16.ofNat n) = true →
        (Char.ofNat n).toNat = n ∧ isCodeCharacter (Char.ofNat n) = true := by
      decide
    have hletter := hletters unit hmem
    have hsmall : unit.toNat < 128 := by
      simp only [isCodeUnit, decide_eq_true_eq, UInt16.le_iff_toNat_le] at hletter
      have h5a : (0x5a : UInt16).toNat = 90 := rfl
      have h37 : (0x37 : UInt16).toNat = 55 := rfl
      omega
    have hread := hall ⟨unit.toNat, hsmall⟩
    rw [UInt16.ofNat_toNat] at hread
    exact hread hletter
  have hcode : IsPairingCode (String.ofList (units.map fun unit => Char.ofNat unit.toNat)) := by
    unfold IsPairingCode
    rw [String.toList_ofList, List.length_map, List.forall_mem_map]
    exact ⟨hlength, fun unit hmem => (hunit unit hmem).2⟩
  refine ⟨_, hcode, ?_⟩
  rw [utf16_code hcode, String.toList_ofList, List.map_map]
  refine (List.map_congr_left fun unit hmem => ?_).trans (List.map_id _)
  simp only [Function.comp_apply, id_eq, (hunit unit hmem).1, UInt16.ofNat_toNat]

/-- Different codes have different units. -/
theorem utf16_code_injective {code code' : String} (h : IsPairingCode code)
    (h' : IsPairingCode code') (hsame : utf16 code = utf16 code') : code = code' := by
  rw [utf16_code h, utf16_code h'] at hsame
  apply String.toList_inj.mp
  have hread : ∀ {s : String}, IsPairingCode s →
      (s.toList.map fun c => UInt16.ofNat c.toNat).map (fun unit => Char.ofNat unit.toNat) =
        s.toList := by
    intro s hs
    rw [List.map_map]
    refine (List.map_congr_left fun c hc => ?_).trans (List.map_id _)
    have hsmall := toNat_lt_of_isCodeCharacter (hs.2 c hc)
    have hsize : UInt16.toNat (UInt16.ofNat c.toNat) = c.toNat := by
      rw [UInt16.toNat_ofNat']
      exact Nat.mod_eq_of_lt (by omega)
    simp only [Function.comp_apply, id_eq, hsize, Char.ofNat_toNat]
  rw [← hread h, ← hread h', hsame]

section Normalize

variable {toUpperCase : List UInt16 → List UInt16}

/-- What is returned is a code. -/
theorem normalize_eq_some {value units : List UInt16}
    (h : normalizeDesktopPairingCode toUpperCase value = some units) :
    ∃ code, IsPairingCode code ∧ utf16 code = units := by
  unfold normalizeDesktopPairingCode at h
  split_ifs at h with hlength hformatted
  all_goals
    obtain ⟨raw, -, hraw⟩ := Option.bind_eq_some_iff.mp h
    dsimp only at hraw
    split_ifs at hraw with hcode
    obtain rfl := Option.some.inj hraw
    exact exists_code hcode.1 (List.all_eq_true.mp hcode.2)

/-- The library leaves upper case and digits as they are. -/
def KeepsUpperCase (toUpperCase : List UInt16 → List UInt16) : Prop :=
  ∀ units : List UInt16,
    (∀ unit ∈ units, (0x41 ≤ unit ∧ unit ≤ 0x5a) ∨ (0x30 ≤ unit ∧ unit ≤ 0x39)) →
    toUpperCase units = units

theorem toUpperCase_letters (hupper : KeepsUpperCase toUpperCase) {units : List UInt16}
    (hletters : ∀ unit ∈ units, isCodeUnit unit = true) : toUpperCase units = units := by
  apply hupper
  intro unit hmem
  have hletter := hletters unit hmem
  simp only [isCodeUnit, decide_eq_true_eq, UInt16.le_iff_toNat_le] at hletter ⊢
  have h30 : (0x30 : UInt16).toNat = 48 := rfl
  have h32 : (0x32 : UInt16).toNat = 50 := rfl
  have h37 : (0x37 : UInt16).toNat = 55 := rfl
  have h39 : (0x39 : UInt16).toNat = 57 := rfl
  omega

/-- A code is its own normal form. -/
theorem normalize_code (hupper : KeepsUpperCase toUpperCase) {code : String}
    (h : IsPairingCode code) :
    normalizeDesktopPairingCode toUpperCase (utf16 code) = some (utf16 code) := by
  obtain ⟨hlength, hletters⟩ := units_of_code h
  have hplain : ¬ (utf16 code).length = formattedDesktopPairingCodeLength := by
    rw [hlength]
    decide
  unfold normalizeDesktopPairingCode
  rw [if_neg (fun hwrong => hwrong.1 hlength), if_neg hplain, Option.bind_eq_bind, Option.bind_some]
  dsimp only
  rw [toUpperCase_letters hupper hletters, if_pos ⟨hlength, List.all_eq_true.mpr hletters⟩]

end Normalize

/-! ## The programs agree -/

/-- What is documented of the text operations of the service and of the controller, on upper case
letters and digits, and that the digest tells codes apart. -/
structure DocumentedText (text : Server.CodeText) (toUpperCase : List UInt16 → List UInt16) :
    Prop where
  toUpper : ∀ s : String,
    (∀ c ∈ s.toList, ('A' ≤ c ∧ c ≤ 'Z') ∨ ('0' ≤ c ∧ c ≤ '9')) → text.toUpper s = s
  trimSpace : ∀ s : String,
    (∀ c ∈ s.toList, ('A' ≤ c ∧ c ≤ 'Z') ∨ ('0' ≤ c ∧ c ≤ '9')) → text.trimSpace s = s
  toUpperCase : KeepsUpperCase toUpperCase
  sum256 : Set.InjOn text.sum256
    {message | ∃ code, IsPairingCode code ∧ message = "roammand-pairing-code:" ++ code}

theorem isUpperOrDigit_of_code {code : String} (h : IsPairingCode code) :
    ∀ c ∈ code.toList, ('A' ≤ c ∧ c ≤ 'Z') ∨ ('0' ≤ c ∧ c ≤ '9') := by
  intro c hc
  rcases of_decide_eq_true (h.2 c hc) with hletter | ⟨hlow, hhigh⟩
  · exact .inl hletter
  · exact .inr ⟨Char.le_trans (by decide) hlow, Char.le_trans hhigh (by decide)⟩

section Agreement

variable {text : Server.CodeText} {toUpperCase : List UInt16 → List UInt16}

/-- The key that the service keeps a code under tells it from others. -/
theorem pairingCodeHash_code (htext : DocumentedText text toUpperCase) {code code' : String}
    (h : IsPairingCode code) (h' : IsPairingCode code') :
    text.pairingCodeHash code = text.pairingCodeHash code' ↔ code = code' := by
  refine ⟨fun hsame => ?_, fun hsame => hsame ▸ rfl⟩
  unfold Server.CodeText.pairingCodeHash at hsame
  rw [htext.trimSpace code (isUpperOrDigit_of_code h),
    htext.trimSpace code' (isUpperOrDigit_of_code h'),
    htext.toUpper code (isUpperOrDigit_of_code h),
    htext.toUpper code' (isUpperOrDigit_of_code h')] at hsame
  have hmessages := htext.sum256 ⟨code, h, rfl⟩ ⟨code', h', rfl⟩ hsame
  apply String.toList_inj.mp
  have hlists := congrArg String.toList hmessages
  rw [String.toList_append, String.toList_append] at hlists
  exact List.append_cancel_left hlists

/-- Five random bytes stand for each code; every code passes the check of messages, that of a
rendezvous that is created and that of one that is joined, and it is its own normal form.  Whatever
is typed is refused or has a code as its normal form, which is its own normal form; and the service
looks for it under the key of a Host's code exactly if the normal forms of both are the same. -/
theorem agreement (htext : DocumentedText text toUpperCase) :
    Set.BijOn desktopCode Set.univ {code | IsPairingCode code} ∧
    (∀ code, IsPairingCode code →
      validateDesktopPairingCode code = .ok () ∧
      Server.validCreatePairingCode text .desktopCode code = true ∧
      text.toUpper (text.trimSpace code) = code ∧ Server.validPairingCode code = true ∧
      normalizeDesktopPairingCode toUpperCase (utf16 code) = some (utf16 code)) ∧
    (∀ value, normalizeDesktopPairingCode toUpperCase value = none ∨
      ∃ code, IsPairingCode code ∧
        normalizeDesktopPairingCode toUpperCase value = some (utf16 code) ∧
        normalizeDesktopPairingCode toUpperCase (utf16 code) = some (utf16 code) ∧
        ∀ hostCode, IsPairingCode hostCode →
          (text.pairingCodeHash (text.toUpper (text.trimSpace code)) =
              text.pairingCodeHash hostCode ↔
            normalizeDesktopPairingCode toUpperCase value =
              normalizeDesktopPairingCode toUpperCase (utf16 hostCode))) := by
  have hsent : ∀ code, IsPairingCode code → text.toUpper (text.trimSpace code) = code := by
    intro code hcode
    rw [htext.trimSpace code (isUpperOrDigit_of_code hcode),
      htext.toUpper code (isUpperOrDigit_of_code hcode)]
  refine ⟨bijOn_desktopCode, fun code hcode => ?_, fun value => ?_⟩
  · have hbytes := validPairingCode_eq_true.mpr hcode
    refine ⟨validateDesktopPairingCode_eq_ok.mpr hcode, ?_, hsent code hcode, hbytes,
      normalize_code htext.toUpperCase hcode⟩
    unfold Server.validCreatePairingCode
    rw [if_neg (by decide), hbytes, htext.toUpper code (isUpperOrDigit_of_code hcode)]
    simp
  · cases hvalue : normalizeDesktopPairingCode toUpperCase value with
    | none => exact .inl rfl
    | some units =>
      obtain ⟨code, hcode, rfl⟩ := normalize_eq_some hvalue
      refine .inr ⟨code, hcode, rfl, normalize_code htext.toUpperCase hcode, ?_⟩
      intro hostCode hhost
      rw [hsent code hcode, pairingCodeHash_code htext hcode hhost,
        normalize_code htext.toUpperCase hhost, Option.some.injEq]
      exact ⟨fun hsame => hsame ▸ rfl, utf16_code_injective hcode hhost⟩

end Agreement

/-! ## A code that is typed in lower case -/

/-- Letters of the Latin alphabet in upper case. -/
def upperUnits (units : List UInt16) : List UInt16 :=
  units.map fun unit => if 0x61 ≤ unit ∧ unit ≤ 0x7a then unit - 0x20 else unit

/-- The start of a message as its digest. -/
def startOf (message : String) : Server.CodeHash :=
  ⟨(utf8 message ++ List.replicate 32 0).take 32, by simp⟩

/-- Text operations on the Latin alphabet, and that digest. -/
def sampleText : Server.CodeText where
  toUpper s := String.ofList (s.toList.map Char.toUpper)
  trimSpace := trim
  sum256 := startOf

theorem keepsUpperCase_upperUnits : KeepsUpperCase upperUnits := by
  intro units hunits
  refine (List.map_congr_left fun unit hmem => ?_).trans (List.map_id units)
  have hunit := hunits unit hmem
  rw [id_eq, if_neg]
  simp only [UInt16.le_iff_toNat_le] at hunit ⊢
  have h5a : (0x5a : UInt16).toNat = 90 := rfl
  have h39 : (0x39 : UInt16).toNat = 57 := rfl
  have h61 : (0x61 : UInt16).toNat = 97 := rfl
  omega

theorem startOf_injOn : Set.InjOn startOf
    {message | ∃ code, IsPairingCode code ∧ message = "roammand-pairing-code:" ++ code} := by
  have hlength : ∀ code, IsPairingCode code →
      (utf8 ("roammand-pairing-code:" ++ code)).length = 30 := by
    intro code hcode
    have hletters := congrArg List.length (utf8_code hcode)
    have height : code.toList.length = 8 := hcode.1
    have hstart : ("roammand-pairing-code:".toList.flatMap String.utf8EncodeChar).length = 22 := by
      decide
    rw [List.length_map] at hletters
    unfold utf8 at hletters ⊢
    rw [String.toList_append, List.flatMap_append, List.length_append, hletters, hstart, height]
  rintro _ ⟨code, hcode, rfl⟩ _ ⟨code', hcode', rfl⟩ hsame
  have hbytes := congrArg Subtype.val hsame
  have h30 := hlength code hcode
  have h30' := hlength code' hcode'
  unfold startOf at hbytes
  dsimp only at hbytes
  apply utf8_injective
  generalize utf8 ("roammand-pairing-code:" ++ code) = bytes at *
  generalize utf8 ("roammand-pairing-code:" ++ code') = bytes' at *
  have htake := congrArg (List.take 30) hbytes
  have hmin : min 30 32 = 30 := rfl
  rw [List.take_take, List.take_take, hmin, List.take_left' h30, List.take_left' h30'] at htake
  exact htake

theorem upper_or_digit {c : Char} (h : ('A' ≤ c ∧ c ≤ 'Z') ∨ ('0' ≤ c ∧ c ≤ '9')) :
    c.toUpper = c ∧ isTrimmed c = false := by
  have hall : ∀ n : Fin 128, ('A' ≤ Char.ofNat n ∧ Char.ofNat n ≤ 'Z') ∨
      ('0' ≤ Char.ofNat n ∧ Char.ofNat n ≤ '9') →
      (Char.ofNat n).toUpper = Char.ofNat n ∧ isTrimmed (Char.ofNat n) = false := by
    decide
  have hsmall : c.toNat < 128 := by
    rcases h with ⟨-, hc⟩ | ⟨-, hc⟩
    · exact Nat.lt_of_le_of_lt hc (by decide)
    · exact Nat.lt_of_le_of_lt hc (by decide)
  have hchar := hall ⟨c.toNat, hsmall⟩
  rw [Char.ofNat_toNat] at hchar
  exact hchar h

theorem sampleText_documented : DocumentedText sampleText upperUnits where
  toUpper s hs := by
    apply String.toList_inj.mp
    refine String.toList_ofList.trans
      ((List.map_congr_left fun c hc => ?_).trans (List.map_id s.toList))
    exact (upper_or_digit (hs c hc)).1
  trimSpace s hs := by
    have hkept : ∀ chars : List Char, (∀ c ∈ chars, c ∈ s.toList) →
        chars.dropWhile isTrimmed = chars := by
      intro chars hchars
      cases chars with
      | nil => rfl
      | cons c chars =>
        have hc := (upper_or_digit (hs c (hchars c List.mem_cons_self))).2
        exact List.dropWhile_cons_of_neg (by rw [hc]; decide)
    change trim s = s
    unfold trim
    rw [hkept s.toList fun c hc => hc, hkept s.toList.reverse fun c hc => List.mem_reverse.mp hc,
      List.reverse_reverse, String.ofList_toList]
  toUpperCase := keepsUpperCase_upperUnits
  sum256 := startOf_injOn

theorem agreement_sample :
    normalizeDesktopPairingCode upperUnits (utf16 "mzxw-6ytb") = some (utf16 "MZXW6YTB") ∧
      ∀ hostCode, IsPairingCode hostCode →
        (sampleText.pairingCodeHash "MZXW6YTB" = sampleText.pairingCodeHash hostCode ↔
          normalizeDesktopPairingCode upperUnits (utf16 hostCode) =
            some (utf16 "MZXW6YTB")) := by
  have hcode : IsPairingCode "MZXW6YTB" := by
    have hletters : ("MZXW6YTB".toList.all isCodeCharacter) = true := by decide
    exact ⟨by decide, List.all_eq_true.mp hletters⟩
  have htyped : normalizeDesktopPairingCode upperUnits (utf16 "mzxw-6ytb") =
      some (utf16 "MZXW6YTB") := by
    decide
  refine ⟨htyped, fun hostCode hhost => ?_⟩
  obtain ⟨-, haccepted, hvalues⟩ := agreement sampleText_documented
  rcases hvalues (utf16 "mzxw-6ytb") with hrefused | ⟨code, hnormal, hvalue, -, hkey⟩
  · rw [htyped] at hrefused
    cases hrefused
  · rw [htyped] at hvalue
    have hsame := utf16_code_injective hcode hnormal (Option.some.inj hvalue)
    have hiff := hkey hostCode hhost
    rw [← hsame, (haccepted _ hcode).2.2.1, htyped] at hiff
    rw [hiff]
    exact eq_comm

end DesktopPairingCode

end Client

end Roammand

import Telima.Auth.Service

/-!
# Phone numbers

`normalizePhone` keeps the digits and signs of a number and completes the country code.  The result is
in normal form whatever was written (`normalizePhone_idem`).  A local number that begins with the digits
of the country code is taken for one with its code, and is the only one that is not recognized
(`phone_identified_iff`).
-/

namespace Telima.Auth

/-- The regular expression of the DTOs and of `isValidMaliPhone`: `+223`, and eight digits. -/
def isE164 (phone : String) : Bool :=
  let digits := phone.toList.drop 4
  decide (phone.toList.take 4 = ['+', '2', '2', '3']) && decide (digits.length = 8) &&
    digits.all Char.isDigit

def isValidMaliPhone (rawPhone : String) : Bool := isE164 (normalizePhone rawPhone)

/-! ### What `normalizePhone` computes -/

/-- The characters that are kept. -/
def isPhoneChar (c : Char) : Bool := c.isDigit || c == '+'

/-- The country code is put in front of what is kept, where it is missing. -/
def withCountryCode (digitsOnly : List Char) : List Char :=
  if ['+', '2', '2', '3'].isPrefixOf digitsOnly then digitsOnly
  else if ['2', '2', '3'].isPrefixOf digitsOnly then '+' :: digitsOnly
  else ['+', '2', '2', '3'] ++ digitsOnly

theorem normalizePhone_eq (rawPhone : String) :
    normalizePhone rawPhone = String.ofList (withCountryCode (rawPhone.toList.filter isPhoneChar)) := by
  show (if ['+', '2', '2', '3'].isPrefixOf (rawPhone.toList.filter isPhoneChar) then _
    else if ['2', '2', '3'].isPrefixOf (rawPhone.toList.filter isPhoneChar) then _ else _) = _
  unfold withCountryCode
  split_ifs
  · rfl
  · rfl
  · rfl

theorem toList_normalizePhone (rawPhone : String) : (normalizePhone rawPhone).toList =
    withCountryCode (rawPhone.toList.filter isPhoneChar) := by
  rw [normalizePhone_eq, String.toList_ofList]

section CountryCode

variable {digits : List Char}

theorem withCountryCode_of_plus (digits : List Char) :
    withCountryCode (['+', '2', '2', '3'] ++ digits) = ['+', '2', '2', '3'] ++ digits := by
  simp [withCountryCode]

theorem withCountryCode_of_code (digits : List Char) :
    withCountryCode (['2', '2', '3'] ++ digits) = ['+', '2', '2', '3'] ++ digits := by
  simp [withCountryCode]

/-- The result begins with the country code. -/
theorem exists_withCountryCode (digits : List Char) :
    ∃ rest, withCountryCode digits = ['+', '2', '2', '3'] ++ rest := by
  unfold withCountryCode
  split_ifs with hplus hcode
  · obtain ⟨rest, hrest⟩ := List.isPrefixOf_iff_prefix.mp hplus
    exact ⟨rest, hrest.symm⟩
  · obtain ⟨rest, hrest⟩ := List.isPrefixOf_iff_prefix.mp hcode
    refine ⟨rest, ?_⟩
    rw [← hrest]
    rfl
  · exact ⟨digits, rfl⟩

theorem isPhoneChar_code : ∀ c ∈ ['+', '2', '2', '3'], isPhoneChar c = true :=
  List.all_eq_true.mp (by decide)

theorem isPhoneChar_withCountryCode (h : ∀ c ∈ digits, isPhoneChar c = true) :
    ∀ c ∈ withCountryCode digits, isPhoneChar c = true := by
  unfold withCountryCode
  split_ifs
  · exact h
  · intro c hc
    rcases List.mem_cons.mp hc with rfl | hc
    · exact isPhoneChar_code '+' (by simp)
    · exact h c hc
  · intro c hc
    rcases List.mem_append.mp hc with hc | hc
    · exact isPhoneChar_code c hc
    · exact h c hc

end CountryCode

/-- What is in normal form is left as it is. -/
theorem normalizePhone_idem (rawPhone : String) :
    normalizePhone (normalizePhone rawPhone) = normalizePhone rawPhone := by
  rw [normalizePhone_eq (normalizePhone rawPhone), toList_normalizePhone]
  have hkept : (withCountryCode (rawPhone.toList.filter isPhoneChar)).filter isPhoneChar =
      withCountryCode (rawPhone.toList.filter isPhoneChar) := by
    rw [List.filter_eq_self]
    exact isPhoneChar_withCountryCode fun c hc => (List.mem_filter.mp hc).2
  obtain ⟨rest, hrest⟩ := exists_withCountryCode (rawPhone.toList.filter isPhoneChar)
  have hcode : withCountryCode (withCountryCode (rawPhone.toList.filter isPhoneChar)) =
      withCountryCode (rawPhone.toList.filter isPhoneChar) := by
    rw [hrest, withCountryCode_of_plus]
  rw [hkept, hcode, ← normalizePhone_eq]

/-- A number that matches the regular expression is in normal form. -/
theorem normalizePhone_of_isE164 {phone : String} (h : isE164 phone = true) :
    normalizePhone phone = phone := by
  simp only [isE164, Bool.and_eq_true, decide_eq_true_eq, List.all_eq_true] at h
  obtain ⟨⟨htake, -⟩, hdigits⟩ := h
  have hsplit : phone.toList = ['+', '2', '2', '3'] ++ phone.toList.drop 4 := by
    rw [← htake, List.take_append_drop]
  have hkept : phone.toList.filter isPhoneChar = phone.toList := by
    rw [List.filter_eq_self, hsplit]
    intro c hc
    rcases List.mem_append.mp hc with hc | hc
    · exact isPhoneChar_code c hc
    · rw [isPhoneChar, hdigits c hc, Bool.true_or]
  rw [normalizePhone_eq, hkept, hsplit, withCountryCode_of_plus, ← hsplit, String.ofList_toList]

/-! ### Local numbers -/

/-- The eight digits of a number of the country. -/
structure LocalNumber where
  digits : List Char
  length_digits : digits.length = 8
  isDigit : ∀ c ∈ digits, c.isDigit = true

/-- How the country code is written. -/
inductive CountryCode where
  /-- The number alone. -/
  | none
  /-- `223` -/
  | digits
  /-- `+223` -/
  | plus
  deriving DecidableEq, Repr

def CountryCode.text : CountryCode → List Char
  | none => []
  | digits => ['2', '2', '3']
  | plus => ['+', '2', '2', '3']

namespace LocalNumber

/-- The number with its country code. -/
def e164 (n : LocalNumber) : String := String.ofList (['+', '2', '2', '3'] ++ n.digits)

/-- The number begins with the digits of the country code. -/
def beginsWithCode (n : LocalNumber) : Bool := ['2', '2', '3'].isPrefixOf n.digits

/-- The text is the number, with or without its code, and with any characters in between but digits and
signs. -/
def WrittenAs (n : LocalNumber) (code : CountryCode) (rawPhone : String) : Prop :=
  rawPhone.toList.filter isPhoneChar = code.text ++ n.digits

/-- The text is recognized as the number. -/
structure Identified (n : LocalNumber) (rawPhone : String) : Prop where
  normalized : normalizePhone rawPhone = n.e164
  valid : isValidMaliPhone rawPhone = true

variable {n n' : LocalNumber} {code code' : CountryCode} {rawPhone rawPhone' : String}

@[ext]
theorem ext (h : n.digits = n'.digits) : n = n' := by
  cases n
  cases n'
  simp only [mk.injEq]
  exact h

theorem toList_e164 (n : LocalNumber) : n.e164.toList = ['+', '2', '2', '3'] ++ n.digits :=
  String.toList_ofList

theorem isE164_e164 (n : LocalNumber) : isE164 n.e164 = true := by
  simp only [isE164, toList_e164, Bool.and_eq_true, decide_eq_true_eq, List.all_eq_true]
  exact ⟨⟨rfl, n.length_digits⟩, n.isDigit⟩

/-- No number begins with a sign. -/
theorem not_plus_prefix (n : LocalNumber) :
    ¬ ['+', '2', '2', '3'].isPrefixOf n.digits = true := by
  intro h
  obtain ⟨rest, hrest⟩ := List.isPrefixOf_iff_prefix.mp h
  have hplus : '+' ∈ n.digits := by
    rw [← hrest]
    simp
  have hdigit := n.isDigit '+' hplus
  exact absurd hdigit (by decide)

/-- What is kept of a text of the number, with its country code. -/
theorem withCountryCode_text (n : LocalNumber) (code : CountryCode) :
    withCountryCode (code.text ++ n.digits) =
      if code = .none ∧ n.beginsWithCode = true then '+' :: n.digits
      else ['+', '2', '2', '3'] ++ n.digits := by
  cases code with
  | none =>
    show withCountryCode n.digits = _
    rw [withCountryCode, if_neg n.not_plus_prefix]
    show (if n.beginsWithCode = true then _ else _) = _
    by_cases hcode : n.beginsWithCode = true
    · rw [if_pos hcode, if_pos ⟨rfl, hcode⟩]
    · rw [if_neg hcode, if_neg fun h => hcode h.2]
  | digits => exact withCountryCode_of_code n.digits
  | plus => exact withCountryCode_of_plus n.digits

theorem WrittenAs.toList_normalizePhone (h : n.WrittenAs code rawPhone) :
    (normalizePhone rawPhone).toList =
      if code = .none ∧ n.beginsWithCode = true then '+' :: n.digits
      else ['+', '2', '2', '3'] ++ n.digits := by
  have hkept : rawPhone.toList.filter isPhoneChar = code.text ++ n.digits := h
  rw [Auth.toList_normalizePhone, hkept, withCountryCode_text]

/-- A text is recognized, unless it is a local number that begins with the code. -/
theorem WrittenAs.identified_iff (h : n.WrittenAs code rawPhone) :
    n.Identified rawPhone ↔ (code = .none → n.beginsWithCode = false) := by
  have hlist := h.toList_normalizePhone
  constructor
  · intro hidentified hnone
    by_contra hcode
    rw [Bool.not_eq_false] at hcode
    rw [if_pos ⟨hnone, hcode⟩, hidentified.normalized, toList_e164] at hlist
    have hlength := congrArg List.length hlist
    simp only [List.length_append, List.length_cons, List.length_nil] at hlength
    omega
  · intro hcode
    rw [if_neg fun hboth => by simp [hcode hboth.1] at hboth, ← toList_e164] at hlist
    have hnormalized : normalizePhone rawPhone = n.e164 := String.toList_inj.mp hlist
    refine ⟨hnormalized, ?_⟩
    rw [isValidMaliPhone, hnormalized]
    exact n.isE164_e164

/-- Texts of different numbers have different normal forms. -/
theorem WrittenAs.eq_of_normalizePhone (h : n.WrittenAs code rawPhone)
    (h' : n'.WrittenAs code' rawPhone') (hsame : normalizePhone rawPhone = normalizePhone rawPhone') :
    n = n' := by
  have hlist : (normalizePhone rawPhone).toList = (normalizePhone rawPhone').toList := by rw [hsame]
  rw [h.toList_normalizePhone, h'.toList_normalizePhone] at hlist
  have hlength : n.digits.length = 8 := n.length_digits
  have hlength' : n'.digits.length = 8 := n'.length_digits
  have hlengths := congrArg List.length hlist
  ext1
  split_ifs at hlist hlengths
  · exact (List.cons.inj hlist).2
  · simp only [List.length_append, List.length_cons, List.length_nil] at hlengths
    omega
  · simp only [List.length_append, List.length_cons, List.length_nil] at hlengths
    omega
  · exact List.append_cancel_left hlist

end LocalNumber

/-- A text of a number is recognized, that is normalized to `+223` and the number and accepted, unless
it is without the country code and the number begins with the digits of the code.  The normal forms of
different numbers are different, and a normal form is its own. -/
theorem phone_identified_iff {n : LocalNumber} {code : CountryCode} {rawPhone : String}
    (h : n.WrittenAs code rawPhone) :
    (n.Identified rawPhone ↔ (code = .none → n.beginsWithCode = false)) ∧
    (∀ (n' : LocalNumber) (code' : CountryCode) (rawPhone' : String), n'.WrittenAs code' rawPhone' →
      normalizePhone rawPhone = normalizePhone rawPhone' → n = n') ∧
    ∀ text : String, normalizePhone (normalizePhone text) = normalizePhone text :=
  ⟨h.identified_iff, fun _ _ _ h' hsame => h.eq_of_normalizePhone h' hsame, normalizePhone_idem⟩

namespace Phones

/-- The number 70 00 00 01. -/
def mobile : LocalNumber :=
  ⟨['7', '0', '0', '0', '0', '0', '0', '1'], by decide, List.all_eq_true.mp (by decide)⟩

/-- The number 22 31 23 45. -/
def unlucky : LocalNumber :=
  ⟨['2', '2', '3', '1', '2', '3', '4', '5'], by decide, List.all_eq_true.mp (by decide)⟩

end Phones

open Phones in
/-- A number that is written with spaces and without its code is recognized. -/
theorem phone_identified_spaces : mobile.Identified "70 00 00 01" := by
  have hwritten : mobile.WrittenAs .none "70 00 00 01" := by
    unfold LocalNumber.WrittenAs
    decide +kernel
  exact (phone_identified_iff hwritten).1.mpr fun _ => by decide

open Phones in
/-- The digits of a local number are taken for the country code, and what is left is too short. -/
theorem unlucky_not_identified : unlucky.WrittenAs .none "22312345" ∧
    normalizePhone "22312345" ≠ unlucky.e164 ∧ isValidMaliPhone "22312345" = false := by
  refine ⟨?_, ?_, ?_⟩
  · unfold LocalNumber.WrittenAs
    decide +kernel
  · decide +kernel
  · decide +kernel

end Telima.Auth

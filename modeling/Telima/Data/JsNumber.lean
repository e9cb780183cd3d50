import Mathlib.Algebra.Field.Rat
import Mathlib.Algebra.Order.Ring.Unbundled.Rat

/-!
# Numbers read from texts

The code reads `"18:00"` with `split(':').map(Number)`.  A number of the language is a finite value, an
infinity or `NaN`; finite values are exact here.  `Number` reads what `StringNumericLiteral` allows, and
anything else is `NaN`.
-/

namespace Telima

/-- A value of the type `number`. -/
inductive JsNumber where
  | nan
  | infinite (negative : Bool)
  | finite (q : ℚ)
  deriving DecidableEq, Repr

namespace JsNumber

/-- The value is below zero. -/
def isNegative : JsNumber → Bool
  | nan => false
  | infinite negative => negative
  | finite q => decide (q < 0)

/-- `x * y` -/
def mul : JsNumber → JsNumber → JsNumber
  | finite x, finite y => finite (x * y)
  | nan, _ => nan
  | _, nan => nan
  | x, y => if x = finite 0 ∨ y = finite 0 then nan else infinite (x.isNegative != y.isNegative)

/-- `x + y` -/
def add : JsNumber → JsNumber → JsNumber
  | finite x, finite y => finite (x + y)
  | infinite x, infinite y => if x = y then infinite x else nan
  | infinite x, finite _ => infinite x
  | finite _, infinite y => infinite y
  | nan, _ => nan
  | _, nan => nan

/-- `x < y` -/
def lt : JsNumber → JsNumber → Bool
  | finite x, finite y => decide (x < y)
  | infinite x, infinite y => x && !y
  | infinite x, finite _ => x
  | finite _, infinite y => !y
  | nan, _ => false
  | _, nan => false

/-- `x >= y` -/
def ge : JsNumber → JsNumber → Bool
  | nan, _ => false
  | _, nan => false
  | x, y => !x.lt y

/-- `Math.min(x, y)` -/
def min (x y : JsNumber) : JsNumber :=
  if x = nan ∨ y = nan then nan else if y.lt x then y else x

/-! ### Texts -/

/-- White space and line terminators. -/
def isSpace (c : Char) : Bool :=
  [9, 10, 11, 12, 13, 32, 160, 5760, 8192, 8193, 8194, 8195, 8196, 8197, 8198, 8199, 8200, 8201, 8202,
    8232, 8233, 8239, 8287, 12288, 65279].contains c.toNat

def trim (text : List Char) : List Char :=
  ((text.dropWhile isSpace).reverse.dropWhile isSpace).reverse

/-- The value of a digit. -/
def digit? (radix : ℕ) (c : Char) : Option ℕ :=
  let value :=
    if '0' ≤ c ∧ c ≤ '9' then c.toNat - 48
    else if 'a' ≤ c ∧ c ≤ 'f' then c.toNat - 87
    else if 'A' ≤ c ∧ c ≤ 'F' then c.toNat - 55
    else radix
  if value < radix then some value else none

/-- The value of digits; `none` if one of the characters is none. -/
def digits? (radix : ℕ) (text : List Char) : Option ℕ :=
  text.foldl (fun n c => n.bind fun n => (digit? radix c).map fun d => n * radix + d) (some 0)

/-- The digits of a decimal that a text starts with, and what follows them. -/
def takeDigits (text : List Char) : List Char × List Char := text.span fun c => (digit? 10 c).isSome

/-- `e10`, `E+10`, `e-10` or nothing. -/
def exponent? : List Char → Option ℤ
  | [] => some 0
  | e :: text =>
    if e = 'e' ∨ e = 'E' then
      match text with
      | [] => none
      | sign :: digits =>
        if sign = '-' then if digits = [] then none else (digits? 10 digits).map fun n => -(n : ℤ)
        else if sign = '+' then if digits = [] then none else (digits? 10 digits).map fun n => (n : ℤ)
        else (digits? 10 text).map fun n => (n : ℤ)
    else none

/-- `StrUnsignedDecimalLiteral` -/
def unsigned? (negative : Bool) (text : List Char) : Option JsNumber :=
  if text = "Infinity".toList then some (infinite negative)
  else
    let (whole, rest) := takeDigits text
    let (fraction, rest) := match rest with
      | '.' :: rest => takeDigits rest
      | _ => ([], rest)
    if whole = [] ∧ fraction = [] then none
    else (digits? 10 (whole ++ fraction)).bind fun n => (exponent? rest).map fun (e : ℤ) =>
      let value : ℚ := n * (10 : ℚ) ^ (e - (fraction.length : ℤ))
      finite (if negative then -value else value)

/-- The radix of `0x`, `0o` or `0b`. -/
def radix? (c : Char) : Option ℕ :=
  if c = 'x' ∨ c = 'X' then some 16
  else if c = 'o' ∨ c = 'O' then some 8
  else if c = 'b' ∨ c = 'B' then some 2
  else none

/-- `StringNumericLiteral`, without the white space around it. -/
def literal? (text : List Char) : Option JsNumber :=
  match text with
  | [] => some (finite 0)
  | '-' :: text => unsigned? true text
  | '+' :: text => unsigned? false text
  | '0' :: c :: digits =>
    match radix? c with
    | some radix =>
      if digits = [] then none else (digits? radix digits).map fun n => finite n
    | none => unsigned? false text
  | text => unsigned? false text

end JsNumber

open JsNumber in
/-- `Number(text)` -/
def Number (text : List Char) : JsNumber := (literal? (trim text)).getD nan

example : Number " 07 ".toList = .finite 7 ∧ Number "1.5e1".toList = .finite 15 ∧
    Number "0x10".toList = .finite 16 ∧ Number "7h".toList = .nan := by decide +kernel

open JsNumber in
/-- `const [hours, minutes] = text.split(':').map(Number)`, and `hours * 60 + minutes`. -/
def minutesOfDay (text : String) : JsNumber :=
  match text.toList.splitOn ':' with
  | hours :: minutes :: _ => ((Number hours).mul (finite 60)).add (Number minutes)
  -- `Number(undefined)`
  | _ => nan

/-- Two digits. -/
def twoDigits (n : ℕ) : List Char := [(n / 10).digitChar, (n % 10).digitChar]

/-- `"HH:mm"` -/
def clock (hours minutes : ℕ) : String :=
  String.ofList (twoDigits hours ++ ':' :: twoDigits minutes)

theorem number_twoDigits (n : Fin 60) : Number (twoDigits n) = .finite n := by
  revert n
  decide +kernel

theorem not_mem_twoDigits (n : Fin 60) : ':' ∉ twoDigits n := by
  revert n
  decide

/-- The minutes of a time of the day that is written as `"HH:mm"`. -/
theorem minutesOfDay_clock {hours minutes : ℕ} (hh : hours < 24) (hm : minutes < 60) :
    minutesOfDay (clock hours minutes) = .finite (hours * 60 + minutes) := by
  have hh' : hours < 60 := by omega
  have hsplit : (clock hours minutes).toList.splitOn ':' = [twoDigits hours, twoDigits minutes] := by
    have hnot : ':' ∉ twoDigits hours := not_mem_twoDigits ⟨hours, hh'⟩
    rw [clock, String.toList_ofList, List.splitOn_append_cons_self_of_not_mem hnot,
      List.splitOn_eq_singleton (not_mem_twoDigits ⟨minutes, hm⟩)]
  have hhours : Number (twoDigits hours) = .finite hours := number_twoDigits ⟨hours, hh'⟩
  have hminutes : Number (twoDigits minutes) = .finite minutes := number_twoDigits ⟨minutes, hm⟩
  rw [minutesOfDay, hsplit]
  show ((Number (twoDigits hours)).mul (.finite 60)).add (Number (twoDigits minutes)) = _
  rw [hhours, hminutes]
  rfl

end Telima

import Mathlib.Data.Rat.Defs

/-!
# JSON values

The body of a request is whatever `JSON.parse` returns, cast to `Record<string, unknown>`; the code
tests such a value for truthiness, calls `toUpperCase` on it, or hands it to Prisma.
-/

namespace Telima

/-- The result of `JSON.parse`. -/
inductive Json where
  | null
  | bool (b : Bool)
  | num (q : ℚ)
  | str (s : String)
  | arr (xs : List Json)
  | obj (fields : List (String × Json))

namespace Json

/-- A value counts as true in a condition. -/
def truthy : Json → Bool
  | null => false
  | bool b => b
  | num q => decide (q ≠ 0)
  | str s => decide (s ≠ "")
  | arr _ => true
  | obj _ => true

end Json

/-- `Record<string, unknown>`: the fields of a parsed object, in source order. -/
abbrev Record : Type := List (String × Json)

/-- The field of a parsed object; of duplicate fields the last one counts. -/
def Record.get? (r : Record) (name : String) : Option Json :=
  (r.reverse.find? fun field => field.1 == name).map Prod.snd

/-- `json.name`; only an object has the field. -/
def Json.field (name : String) : Json → Option Json
  | obj fields => Record.get? fields name
  | _ => none

/-- The upper case of a character, where that is ASCII.  A character whose upper case has other
characters stands for itself: it is not ASCII either way. -/
def upperCaseChar (c : Char) : List Char :=
  match c with
  | 'ß' => ['S', 'S']
  | 'ı' => ['I']
  | 'ſ' => ['S']
  | 'ﬀ' => ['F', 'F']
  | 'ﬁ' => ['F', 'I']
  | 'ﬂ' => ['F', 'L']
  | 'ﬃ' => ['F', 'F', 'I']
  | 'ﬄ' => ['F', 'F', 'L']
  | 'ﬅ' => ['S', 'T']
  | 'ﬆ' => ['S', 'T']
  | c => [c.toUpper]

/-- `s.toUpperCase() === t`, for an ASCII `t`. -/
def upperCaseIs (s t : String) : Bool := s.toList.flatMap upperCaseChar == t.toList

example : upperCaseIs "Success" "SUCCESS" = true := by decide

end Telima

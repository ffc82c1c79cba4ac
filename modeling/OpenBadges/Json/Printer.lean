import OpenBadges.Decimal.Layout
import OpenBadges.Json.Basic

/-!
# JSON text

Values as text, in one line without blanks or over several lines with two blanks
for each level. Inside a string only quotes, backslashes and the controls below
the blank are escaped.
-/

namespace OpenBadges.Json

/--
Doubles keep their point, have an exponent from `1e+16` up and below `1e-5`, and
go to the even decimal in a tie.
-/
def layout : Decimal.Layout := ⟨some (-4, 16), true, .toEven⟩

def numberText : Number → String
  | .int n => toString n
  | .float x => layout.render x

/-- One character as it stands in a string. -/
def escape (c : Char) : List Char :=
  if c = '"' then ['\\', '"']
  else if c = '\\' then ['\\', '\\']
  else if c = '\x08' then ['\\', 'b']
  else if c = '\x0c' then ['\\', 'f']
  else if c = '\n' then ['\\', 'n']
  else if c = '\r' then ['\\', 'r']
  else if c = '\t' then ['\\', 't']
  else if c.toNat < 0x20 then
    let hex := Nat.toDigits 16 c.toNat
    '\\' :: 'u' :: List.replicate (4 - hex.length) '0' ++ hex
  else [c]

/-- A string between double quotes. -/
def stringText (s : String) : String :=
  String.ofList ('"' :: s.toList.flatMap escape ++ ['"'])

mutual

def text : Json → String
  | null => "null"
  | bool b => if b then "true" else "false"
  | num n => numberText n
  | str s => stringText s
  | arr items => "[" ++ ",".intercalate (itemTexts items) ++ "]"
  | obj fields => "\x7b" ++ ",".intercalate (fieldTexts fields) ++ "\x7d"

def itemTexts : List Json → List String
  | [] => []
  | v :: vs => text v :: itemTexts vs

def fieldTexts : List (String × Json) → List String
  | [] => []
  | (k, v) :: fs => (stringText k ++ ":" ++ text v) :: fieldTexts fs

end

/-- A line break and the blanks that open a line of the given level. -/
def lineBreak (level : Nat) : String := String.ofList ('\n' :: List.replicate (2 * level) ' ')

/-- The lines of a list or an object between its two brackets. -/
def block (level : Nat) (first last : String) (lines : List String) : String :=
  if lines.isEmpty then first ++ last
  else
    let sep := lineBreak (level + 1)
    first ++ sep ++ ("," ++ sep).intercalate lines ++ lineBreak level ++ last

mutual

/-- A value over several lines, the first of which is already indented. -/
def prettyAt (level : Nat) : Json → String
  | arr items => block level "[" "]" (prettyItems (level + 1) items)
  | obj fields => block level "\x7b" "\x7d" (prettyFields (level + 1) fields)
  | null => "null"
  | bool b => if b then "true" else "false"
  | num n => numberText n
  | str s => stringText s

/-- Each item over several lines. -/
def prettyItems (level : Nat) : List Json → List String
  | [] => []
  | v :: vs => prettyAt level v :: prettyItems level vs

/-- Each field over several lines. -/
def prettyFields (level : Nat) : List (String × Json) → List String
  | [] => []
  | (k, v) :: fs => (stringText k ++ ": " ++ prettyAt level v) :: prettyFields level fs

end

/-- A value over several lines. -/
def pretty (v : Json) : String := prettyAt 0 v

end OpenBadges.Json

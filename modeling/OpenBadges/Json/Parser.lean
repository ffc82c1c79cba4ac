import OpenBadges.Json.Cursor
import OpenBadges.Json.Document

/-!
# Reading JSON text

A text is read in one of two ways. A *strict* reading gives up at the first part
that has no value and says why; it is for texts that must be a value as a whole.
A *lenient* reading checks the grammar alone and leaves `unreadable` where a part
has no value, so that a reader of a record can pass over the fields it does not
know.

Digits beyond 64 bits do not count towards a number's value, only towards its
magnitude; this, and one rounding for the significand and one for the power of
ten, make up the value of a number.
-/

namespace OpenBadges.Json

/-- Containers may be nested one level less deep than this. -/
def depthLimit : Nat := 128

/-- Whole numbers at and beyond this are doubles. -/
def wordLimit : Nat := UInt64.size

/-- Exponents at and beyond this are out of all proportion. -/
def exponentLimit : Nat := Nat.pow 2 31

/-- The value of a decimal digit. -/
def digitValue (ch : Char) : Nat := ch.toNat - '0'.toNat

/-! ## Numbers -/

/-- Reads digits into a significand while it stays below the limit; the result and their number. -/
def keptDigits (limit m : Nat) : List Char → Nat × Nat
  | [] => (m, 0)
  | ch :: rest =>
    if ch.isDigit ∧ m * 10 + digitValue ch < limit then
      let (m, n) := keptDigits limit (m * 10 + digitValue ch) rest
      (m, n + 1)
    else (m, 0)

/-- The number of digits at the front. -/
def digitRun (cs : List Char) : Nat := (cs.takeWhile Char.isDigit).length

/-- Reads the exponent, its mark included, behind `± m · 10 ^ e`. -/
def readExponent (strict negative : Bool) (m : Nat) (e : Int) (c : Cursor) :
    Except ReadError (Option Binary64 × Cursor) :=
  let c := c.next
  let (down, c) := match c.rest with
    | '+' :: _ => (false, c.next)
    | '-' :: _ => (true, c.next)
    | _ => (false, c)
  match c.rest with
  | [] => c.failHere .endOfValue
  | ch :: _ =>
    if ch.isDigit then
      let (power, kept) := keptDigits exponentLimit 0 c.rest
      let all := c.skip (digitRun c.rest)
      if kept = digitRun c.rest then
        match Binary64.ofDecimal? negative m (if down then e - power else e + power) with
        | some x => .ok (some x, all)
        | none => if strict then all.failHere .numberOutOfRange else .ok (none, all)
      else if down || m = 0 then .ok (some (.zero negative), all)
      else if strict then (c.skip (kept + 1)).failHere .numberOutOfRange
      else .ok (none, all)
    else c.failNext .invalidNumber

/-- Reads what may follow `± m · 10 ^ e` when it is known to be a double. -/
def readMagnitude (strict negative : Bool) (m : Nat) (e : Int) (c : Cursor) :
    Except ReadError (Option Binary64 × Cursor) :=
  match c.rest with
  | 'e' :: _ | 'E' :: _ => readExponent strict negative m e c
  | _ =>
    match Binary64.ofDecimal? negative m e with
    | some x => .ok (some x, c)
    | none => if strict then c.failHere .numberOutOfRange else .ok (none, c)

/-- Reads the point, the digits behind it and what follows. -/
def readFraction (strict negative : Bool) (m : Nat) (e : Int) (c : Cursor) :
    Except ReadError (Option Binary64 × Cursor) :=
  let c := c.next
  let run := digitRun c.rest
  if run = 0 then c.failNext (if c.rest.isEmpty then .endOfValue else .invalidNumber)
  else
    let (m, kept) := keptDigits wordLimit m c.rest
    readMagnitude strict negative m (e - kept) (c.skip run)

/-- The number of a whole significand below the limit: zero keeps its sign as a double. -/
def wholeNumber? (negative : Bool) (m : Nat) : Option Number :=
  if !negative then some (.int m)
  else if m ≠ 0 ∧ m ≤ Nat.pow 2 63 then some (.int (-m))
  else (Binary64.ofRatio? true m 1).map .float

/-- Reads a number, its sign included. -/
def readNumber (strict : Bool) (c : Cursor) : Except ReadError (Option Number × Cursor) :=
  let (negative, c) := match c.rest with
    | '-' :: _ => (true, c.next)
    | _ => (false, c)
  match c.rest with
  | [] => c.failHere .endOfValue
  | ch :: rest =>
    let run := digitRun c.rest
    if run = 0 then c.failNext .invalidNumber
    else if ch = '0' ∧ rest.head?.any Char.isDigit then c.next.failNext .invalidNumber
    else
      let (m, kept) := keptDigits wordLimit 0 c.rest
      let dropped := run - kept
      let c := c.skip run
      match c.rest with
      | '.' :: _ =>
        (readFraction strict negative m dropped c).map fun (x, c) => (x.map .float, c)
      | after =>
        if dropped = 0 ∧ after.head? ≠ some 'e' ∧ after.head? ≠ some 'E' then
          .ok (wholeNumber? negative m, c)
        else (readMagnitude strict negative m dropped c).map fun (x, c) => (x.map .float, c)

/-! ## Strings -/

/-- The value of a hexadecimal digit. -/
def hexValue? (ch : Char) : Option Nat :=
  if ch.isDigit then some (digitValue ch)
  else if 'a' ≤ ch ∧ ch ≤ 'f' then some (ch.toNat - 'a'.toNat + 10)
  else if 'A' ≤ ch ∧ ch ≤ 'F' then some (ch.toNat - 'A'.toNat + 10)
  else none

def byteCount (cs : List Char) : Nat := cs.foldr (fun ch n => ch.utf8Size + n) 0

/-- Moves to the place `n` bytes further. -/
def placeAfterBytes (p : Place) (n : Nat) : List Char → Place
  | [] => p
  | ch :: rest =>
    if n = 0 then p
    else if n < ch.utf8Size then { p with column := p.column + n }
    else placeAfterBytes (Cursor.placeAfter p ch) (n - ch.utf8Size) rest

/-- Reads the four hexadecimal digits of an escape. -/
def readHex (c : Cursor) : Except ReadError (Nat × Cursor) :=
  if byteCount c.rest < 4 then (c.skip c.rest.length).failHere .endOfString
  else
    match (c.rest.take 4).mapM hexValue? with
    | some ns => .ok (ns.foldl (fun n d => n * 16 + d) 0, c.skip 4)
    | none => .error ⟨.invalidEscape, placeAfterBytes c.place 4 c.rest⟩

/-- Whether a 16-bit unit opens a surrogate pair. -/
def isLead (n : Nat) : Bool := 0xD800 ≤ n && n ≤ 0xDBFF

/-- Whether a 16-bit unit closes a surrogate pair. -/
def isTrail (n : Nat) : Bool := 0xDC00 ≤ n && n ≤ 0xDFFF

/-- Reads the second escape of a surrogate pair, from its backslash on. -/
def readTrail (c : Cursor) : Except ReadError (Nat × Cursor) := do
  let expect (ch : Char) (c : Cursor) : Except ReadError Cursor :=
    match c.rest with
    | [] => c.failHere .endOfString
    | got :: _ => if got = ch then .ok c.next else c.failNext .endOfHexEscape
  let c ← expect 'u' (← expect '\\' c)
  let (n, c) ← readHex c
  if isTrail n then .ok (n, c) else c.failHere .loneSurrogate

/--
Reads an escape behind its backslash. A lenient reading takes half a surrogate
pair for a character it does not know.
-/
def readEscape (strict : Bool) (c : Cursor) : Except ReadError (Option Char × Cursor) :=
  let known (ch : Char) : Except ReadError (Option Char × Cursor) := .ok (some ch, c.next)
  match c.rest with
  | [] => c.failHere .endOfString
  | '"' :: _ => known '"'
  | '\\' :: _ => known '\\'
  | '/' :: _ => known '/'
  | 'b' :: _ => known '\x08'
  | 'f' :: _ => known '\x0c'
  | 'n' :: _ => known '\n'
  | 'r' :: _ => known '\r'
  | 't' :: _ => known '\t'
  | 'u' :: _ => do
    let (n, c) ← readHex c.next
    if isTrail n then
      if strict then c.failHere .loneSurrogate else .ok (none, c)
    else if isLead n then
      match readTrail c with
      | .ok (m, c) => .ok (some (Char.ofNat (0x10000 + (n - 0xD800) * 0x400 + (m - 0xDC00))), c)
      | .error e => if strict then .error e else .ok (none, c)
    else .ok (some (Char.ofNat n), c)
  | _ => c.failNext .invalidEscape

/-- Reads a string behind its opening quote; `seen` holds its characters, last first. -/
def readString (strict : Bool) :
    (fuel : Nat) → (seen : Option (List Char)) → Cursor → Except ReadError (Option String × Cursor)
  | 0, _, c => c.failHere .endOfString
  | fuel + 1, seen, c =>
    match c.rest with
    | [] => c.failHere .endOfString
    | '"' :: _ => .ok (seen.map fun cs => String.ofList cs.reverse, c.next)
    | '\\' :: _ => do
      let (ch, c) ← readEscape strict c.next
      readString strict fuel (do return (← ch) :: (← seen)) c
    | ch :: _ =>
      if ch.toNat < 0x20 then c.failNext .controlCharacter
      else readString strict fuel (seen.map (ch :: ·)) c.next

/-! ## Values -/

/-- Reads the letters of a word. -/
def readWord (word : List Char) (c : Cursor) : Except ReadError Cursor :=
  match word, c.rest with
  | [], _ => .ok c
  | _ :: _, [] => c.failHere .endOfValue
  | w :: word, ch :: _ => if w = ch then readWord word c.next else c.failNext .expectedIdent

/-- The document of a value that was read, or a part without one. -/
def orUnreadable {α : Type} (f : α → Document) : Option α → Document
  | some a => f a
  | none => .unreadable

mutual

/-- Reads a value inside `depth` containers. -/
def readValue (strict : Bool) :
    (fuel : Nat) → (depth : Nat) → Cursor → Except ReadError (Document × Cursor)
  | 0, _, c => c.failNext .endOfValue
  | fuel + 1, depth, c =>
    let c := c.skipBlanks
    let open? := depth + 1 < depthLimit
    match c.rest with
    | [] => c.failNext .endOfValue
    | 'n' :: _ => do return (.null, ← readWord "ull".toList c.next)
    | 't' :: _ => do return (.bool true, ← readWord "rue".toList c.next)
    | 'f' :: _ => do return (.bool false, ← readWord "alse".toList c.next)
    | '"' :: _ => do
      let (s, c) ← readString strict (c.rest.length + 1) (some []) c.next
      return (orUnreadable .str s, c)
    | '[' :: _ =>
      if strict && !open? then c.failNext .tooDeep
      else do
        let (items, c) ← readItems strict fuel (depth + 1) [] c.next
        return (if open? then .arr items else .unreadable, c)
    | '\x7b' :: _ =>
      if strict && !open? then c.failNext .tooDeep
      else do
        let (fields, c) ← readFields strict fuel (depth + 1) (some []) c.next
        return (if open? then orUnreadable .obj fields else .unreadable, c)
    | ch :: _ =>
      if ch = '-' || ch.isDigit then do
        let (n, c) ← readNumber strict c
        return (orUnreadable .num n, c)
      else c.failNext .expectedValue

/-- Reads the items of a list behind its bracket; `seen` holds those before, last first. -/
def readItems (strict : Bool) :
    (fuel : Nat) → (depth : Nat) → (seen : List Document) → Cursor →
      Except ReadError (List Document × Cursor)
  | 0, _, _, c => c.failNext .endOfList
  | fuel + 1, depth, seen, c =>
    let c := c.skipBlanks
    match c.rest with
    | [] => c.failNext .endOfList
    | ']' :: _ => .ok (seen.reverse, c.next)
    | ch :: _ => do
      let c ←
        if seen.isEmpty then .ok c
        else if ch ≠ ',' then c.failNext .expectedListCommaOrEnd
        else
          let c := c.next.skipBlanks
          match c.rest with
          | [] => c.failNext .endOfValue
          | ']' :: _ => c.failNext .trailingComma
          | _ => .ok c
      let (d, c) ← readValue strict fuel depth c
      readItems strict fuel depth (d :: seen) c

/--
Reads the fields of an object behind its brace; `seen` holds those before, last
first, or nothing once a name was unreadable.
-/
def readFields (strict : Bool) :
    (fuel : Nat) → (depth : Nat) → (seen : Option (List (String × Document))) → Cursor →
      Except ReadError (Option (List (String × Document)) × Cursor)
  | 0, _, _, c => c.failNext .endOfObject
  | fuel + 1, depth, seen, c =>
    let c := c.skipBlanks
    match c.rest with
    | [] => c.failNext .endOfObject
    | '\x7d' :: _ => .ok (seen.map List.reverse, c.next)
    | ch :: _ => do
      let c ←
        if seen.any List.isEmpty then .ok c
        else if ch ≠ ',' then c.failNext .expectedObjectCommaOrEnd
        else
          let c := c.next.skipBlanks
          match c.rest with
          | [] => c.failNext .endOfValue
          | '\x7d' :: _ => c.failNext .trailingComma
          | _ => .ok c
      if c.rest.head? ≠ some '"' then c.failNext .keyNotString
      let (key, c) ← readString strict (c.rest.length + 1) (some []) c.next
      let c := c.skipBlanks
      match c.rest with
      | [] => c.failNext .endOfObject
      | ':' :: _ =>
        let (d, c) ← readValue strict fuel depth c.next
        readFields strict fuel depth (do return (← key, d) :: (← seen)) c
      | _ => c.failNext .expectedColon

end

def readText (strict : Bool) (text : String) : Except ReadError Document := do
  -- every call but the first and those on the items of a list has read a character
  let (d, c) ← readValue strict (2 * text.length + 4) 0 (Cursor.start text)
  let c := c.skipBlanks
  if c.rest.isEmpty then .ok d else c.failNext .trailingCharacters

def parse (text : String) : Except ReadError Json := do
  let d ← readText true text
  match d.toJson? with
  | some v => .ok v
  | none => .error ⟨.numberOutOfRange, ⟨1, 0⟩⟩

def parseDocument? (text : String) : Option Document := (readText false text).toOption

end OpenBadges.Json

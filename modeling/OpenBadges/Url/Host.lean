import OpenBadges.Url.Domain
import OpenBadges.Url.Percent

/-!
# Hosts

The host of an address is a domain name or a number. A name that ends in a number
has to be an address of four bytes, in any of the ways in which these are
written; one between brackets has to be an address of eight groups. Both are
written out in one form. Where the scheme has no rules of its own, a host is any
text that cannot be taken for something else.
-/

namespace OpenBadges.Url

/-- Why a text is no address. -/
inductive UrlError where
  | relativeWithoutBase
  | baseWithoutPath
  | emptyHost
  | invalidPort
  | invalidIpv4
  | invalidIpv6
  | invalidDomain
  | invalidHostCharacter
deriving DecidableEq, Repr

def UrlError.message : UrlError → String
  | relativeWithoutBase => "relative URL without a base"
  | baseWithoutPath => "relative URL with a cannot-be-a-base base"
  | emptyHost => "empty host"
  | invalidPort => "invalid port number"
  | invalidIpv4 => "invalid IPv4 address"
  | invalidIpv6 => "invalid IPv6 address"
  | invalidDomain => "invalid international domain name"
  | invalidHostCharacter => "invalid domain character"

namespace Host

open Text

/-! ## Four bytes -/

/-- The value of a digit, which may be a letter. -/
def digitValue? (c : Char) : Option Nat :=
  if c.isDigit then some (c.toNat - '0'.toNat)
  else if c.isAlpha then some (c.toLower.toNat - 'a'.toNat + 10)
  else none

/-- The value of digits to some base. -/
def digitsValue? (base : Nat) (cs : List Char) : Option Nat :=
  cs.foldlM (fun n c => do
    let d ← digitValue? c
    if d < base then some (n * base + d) else none) 0

/-- The value of a number: hexadecimal behind `0x`, octal behind `0`, and else decimal. -/
def number? : List Char → Option Nat
  | [] => none
  | '0' :: 'x' :: cs => digitsValue? 16 cs
  | '0' :: 'X' :: cs => digitsValue? 16 cs
  | '0' :: c :: cs => digitsValue? 8 (c :: cs)
  | cs => digitsValue? 10 cs

/-- The labels of a name; the last one may be empty. -/
def labels (cs : List Char) : List (List Char) :=
  let all := segments '.' cs
  if 1 < all.length ∧ all.getLast? = some [] then all.dropLast else all

/-- Whether a name ends in a number. -/
def endsInNumber (cs : List Char) : Bool :=
  match (labels cs).getLast? with
  | none => false
  | some label =>
    (!label.isEmpty && label.all Char.isDigit) ||
      match label with
      | '0' :: x :: rest => (x = 'x' || x = 'X') && (digitsValue? 16 rest).isSome
      | _ => false

/-- The value of an address of four bytes; its last number fills what the others leave. -/
def ipv4Value? (cs : List Char) : Option Nat := do
  let ns ← (labels cs).mapM number?
  let last ← ns.getLast?
  let firsts := ns.dropLast
  if 4 < ns.length ∨ firsts.any (255 < ·) ∨ Nat.pow 256 (5 - ns.length) ≤ last then none
  else
    some (firsts.zipIdx.foldl (fun v (n, i) => v + n * Nat.pow 256 (3 - i)) last)

/-- The four bytes of a value. -/
def ipv4Text (n : Nat) : List Char :=
  joined '.' ([3, 2, 1, 0].map fun i => Nat.toDigits 10 (n / Nat.pow 256 i % 256))

/-! ## Eight groups -/

/-- A group of one to four hexadecimal digits. -/
def group? (cs : List Char) : Option Nat :=
  if cs.isEmpty ∨ 4 < cs.length then none else digitsValue? 16 cs

/-- A byte in decimal, without zeros in front. -/
def plainByte? (cs : List Char) : Option Nat :=
  if cs.isEmpty ∨ (1 < cs.length ∧ cs.head? = some '0') then none
  else (digitsValue? 10 cs).filter (· ≤ 255)

/-- Four bytes as two groups. -/
def embedded? (cs : List Char) : Option (List Nat) := do
  match ← (segments '.' cs).mapM plainByte? with
  | [a, b, c, d] => some [a * 256 + b, c * 256 + d]
  | _ => none

/-- Groups between colons, the last of which may be four bytes. -/
def groups? : List (List Char) → Option (List Nat)
  | [] => some []
  | [last] => if last.contains '.' then embedded? last else (group? last).map ([·])
  | g :: gs => do return (← group? g) :: (← groups? gs)

/-- What stands before and after the first two colons in a row. -/
def cutAtGap? : List Char → Option (List Char × List Char)
  | ':' :: ':' :: cs => some ([], cs)
  | c :: cs => (cutAtGap? cs).map fun (before, after) => (c :: before, after)
  | [] => none

/-- The groups of a text, which may be empty. -/
def sideGroups? (cs : List Char) : Option (List Nat) :=
  if cs.isEmpty then some [] else groups? (segments ':' cs)

/-- The eight groups of an address; two colons in a row stand for groups of zeros. -/
def ipv6Groups? (cs : List Char) : Option (List Nat) := do
  match cutAtGap? cs with
  | none =>
    let gs ← groups? (segments ':' cs)
    if gs.length = 8 then some gs else none
  | some (before, after) =>
    if before.contains '.' then none
    let front ← sideGroups? before
    let back ← sideGroups? after
    let known := front.length + back.length
    if 7 < known then none else some (front ++ List.replicate (8 - known) 0 ++ back)

/-- How many zeros a list starts with. -/
def zeroRun (gs : List Nat) : Nat := (gs.takeWhile (· = 0)).length

/-- The first longest run of at least two zeros: its place and its length. -/
def longestGap (gs : List Nat) : Nat × Nat :=
  (List.range gs.length).foldl (fun best i =>
    let run := zeroRun (gs.drop i)
    if 2 ≤ run ∧ best.2 < run then (i, run) else best) (0, 0)

def groupsText (gs : List Nat) : List Char := joined ':' (gs.map (Nat.toDigits 16))

/-- Eight groups as text between brackets, the longest run of zeros left out. -/
def ipv6Text (gs : List Nat) : List Char :=
  let (place, run) := longestGap gs
  let inner := if run = 0 then groupsText gs
    else groupsText (gs.take place) ++ "::".toList ++ groupsText (gs.drop (place + run))
  '[' :: inner ++ [']']

/-! ## Names -/

/-- Reads what stands between brackets, the first of which is the first character. -/
def bracketed (cs : List Char) : Except UrlError (List Char) :=
  let inner := cs.drop 1
  if inner.getLast? ≠ some ']' then .error .invalidIpv6
  else match ipv6Groups? inner.dropLast with
    | some gs => .ok (ipv6Text gs)
    | none => .error .invalidIpv6

/-- Reads the host of an address with a known scheme, which says what to make of it. -/
def ofSpecial (cs : List Char) : Except UrlError (List Char) :=
  match cs with
  | '[' :: _ => bracketed cs
  | _ =>
    match (Percent.decode? cs).bind Domain.toAscii? with
    | none => .error .invalidDomain
    | some [] => .error .emptyHost
    | some name =>
      if endsInNumber name then
        match ipv4Value? name with
        | some n => .ok (ipv4Text n)
        | none => .error .invalidIpv4
      else .ok name

/-- Whether a character would end a host or be left out of it. -/
def isForbidden (c : Char) : Bool := "\x00\t\n\r #/:<>?@[\\]^|".toList.contains c

/-- Reads the host of an address with some other scheme. -/
def ofOther (cs : List Char) : Except UrlError (List Char) :=
  match cs with
  | '[' :: _ => bracketed cs
  | _ =>
    if cs.any isForbidden then .error .invalidHostCharacter
    else .ok (Percent.encode Percent.controls cs)

end Host

end OpenBadges.Url

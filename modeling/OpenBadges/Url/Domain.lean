import OpenBadges.Url.Domain.Direction
import OpenBadges.Url.Domain.Joining
import OpenBadges.Url.Domain.Mapping
import OpenBadges.Url.Domain.Punycode

/-!
# Domain names

A domain name in any script has a form in ASCII. First the name is put into the
one form that it shares with all names that look alike. Then each label that is
more than ASCII is written in letters, digits and hyphens, behind four characters
that say so; a label that is written like that already has to be the form of some
label.

A label may not start with a mark, its joiners have to matter, and if anything in
the name runs from right to left, each label has to run one way.
-/

namespace OpenBadges.Url.Domain

open Text

/-- What a label in its form for ASCII starts with. -/
def encodedStart : List Char := "xn--".toList

/-- The longest label that is written in ASCII. -/
def longestLabel : Nat := 1000

/-- The longest label that is read from ASCII, without its start. -/
def longestCode : Nat := 2000

/-- Whether a character can stand in no name. -/
def isDenied (c : Char) : Bool :=
  c.toNat ≤ 0x20 || c.toNat = 0x7F || "#%/:<>?@[\\]^|".toList.contains c

def isAscii (cs : List Char) : Bool := cs.all fun c => c.toNat < 128

/-- A label as it reads, if it is a label. -/
def readLabel? (label : List Char) : Option (List Char) :=
  if !encodedStart.isPrefixOf label then some label
  else do
    let code := label.drop encodedStart.length
    guard (isAscii code ∧ code ≠ [] ∧ code.getLast? ≠ some '-' ∧ code.length ≤ longestCode)
    let name ← Punycode.decode? code
    guard (isMapped name)
    return name

/-- Whether a label is one, apart from its direction. -/
def isLabel (label : List Char) : Bool :=
  isAscii label ||
    (!label.head?.any isMark && joinersMatter [] label && label.length ≤ longestLabel)

def encodeLabel (label : List Char) : List Char :=
  if isAscii label then label else encodedStart ++ Punycode.encode label

/-- A name in ASCII, if it is a name. -/
def toAscii? (cs : List Char) : Option (List Char) := do
  let name ← mapped? cs
  guard (!name.any isDenied)
  let labels ← (segments '.' name).mapM readLabel?
  guard (labels.all isLabel)
  guard (!labels.any turns || labels.all runsOneWay)
  return joined '.' (labels.map encodeLabel)

end OpenBadges.Url.Domain

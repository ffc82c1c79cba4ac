/-!
# Percent-encoding

A byte that may not stand in some part of an address is written as a percent
sign and two hexadecimal digits. Every part has its own set of such bytes; those
outside of printable ASCII are in all of them.
-/

namespace OpenBadges.Url.Percent

/-- A set of characters to encode. -/
abbrev EncodeSet := Char → Bool

/-- Characters outside of printable ASCII. -/
def controls : EncodeSet := fun c => c.toNat < 0x20 || 0x7E < c.toNat

/-- What is encoded in a fragment. -/
def fragment : EncodeSet := fun c => controls c || " \"<>`".toList.contains c

/-- What is encoded in a query; an address with a known scheme encodes single quotes as well. -/
def query (special : Bool) : EncodeSet := fun c =>
  controls c || " \"#<>".toList.contains c || (special && c = '\'')

/-- What is encoded in a path. -/
def path : EncodeSet := fun c => fragment c || "#?\x7b\x7d".toList.contains c

/-- What is encoded in a user name or a password. -/
def userinfo : EncodeSet := fun c => path c || "/:;=@[\\]^|".toList.contains c

def hexDigit (n : Nat) : Char := (Nat.toDigits 16 (n % 16)).headD '0' |>.toUpper

/-- A byte between percent sign and digits. -/
def encodeByte (b : UInt8) : List Char := ['%', hexDigit (b.toNat / 16), hexDigit b.toNat]

/-- A character as it stands, or its bytes encoded. -/
def encodeChar (set : EncodeSet) (c : Char) : List Char :=
  if set c then (String.ofList [c]).toUTF8.toList.flatMap encodeByte else [c]

/-- A text with the characters of a set encoded. -/
def encode (set : EncodeSet) (cs : List Char) : List Char := cs.flatMap (encodeChar set)

/-- The value of a hexadecimal digit. -/
def hexValue? (b : UInt8) : Option Nat :=
  let n := b.toNat
  if 48 ≤ n ∧ n ≤ 57 then some (n - 48)
  else if 65 ≤ n ∧ n ≤ 70 then some (n - 55)
  else if 97 ≤ n ∧ n ≤ 102 then some (n - 87)
  else none

/-- Bytes with what was encoded put back; a percent sign without two digits stays. -/
def decodeBytes : List UInt8 → List UInt8
  | 37 :: h :: l :: rest =>
    match hexValue? h, hexValue? l with
    | some x, some y => UInt8.ofNat (x * 16 + y) :: decodeBytes rest
    | _, _ => 37 :: decodeBytes (h :: l :: rest)
  | b :: rest => b :: decodeBytes rest
  | [] => []

/-- A text with what was encoded put back, if that is a text again. -/
def decode? (cs : List Char) : Option (List Char) :=
  let bytes := decodeBytes (String.ofList cs).toUTF8.toList
  (String.fromUTF8? ⟨bytes.toArray⟩).map String.toList

end OpenBadges.Url.Percent

import OpenBadges.Text.Mark

/-!
# Direction

Some scripts run from right to left. A label that mixes directions could be read
in two ways, so a name with any such character may only have labels that run one
way: their first character decides which, and their last one confirms it.

The runs below are made for names: they pass over characters that can occur in no
name. What they do not list runs from left to right.
-/

namespace OpenBadges.Url.Domain

open Text

namespace DirectionTable

/-- Runs of letters that run from right to left. -/
def rightToLeft : List (List Nat) := readRows "
5BE,5F4 608,608 60B,60B 60D,60D 61B,64A 66D,6D5 6E5,6E6 6EE,6EF 6FA,7F5 7FA,8C9 FBB2,FBC2
FE73,FE73 10800,1091B 10920,10B35 10B40,10D23 10D40,10D4F 10D6F,10D8F 10E80,10EC7 10F00,10FF6
1E800,1ED3D"

def arabicDigits : List (List Nat) := readRows "
660,669 66B,66C 10D30,10D39 10E60,10E7E"

/-- Runs of digits that stand in texts of both directions. -/
def europeanDigits : List (List Nat) := readRows "
6F0,6F9 102E1,102FB"

/-- Runs of characters without a direction. -/
def neutral : List (List Nat) := readRows "
A1,D7 F7,F7 2B9,2BA 2C2,2CF 2D2,2ED 2EF,2FF 375,375 3F6,3F6 58A,58F 606,607 609,60A 60C,60C
60E,60F 66A,66A 6DE,6DE 6E9,6E9 7F6,7F9 9F2,9F3 9FB,9FB AF1,AF1 BF3,BFA C78,C7E E3F,E3F F3A,F3D
1390,1399 1400,1400 169B,169C 17DB,17DB 17F0,180A 1940,1945 19DE,19FF 200C,214D 218A,2335
237B,2394 2396,26AB 26AD,27FF 2900,2BFF 2CE5,2CEA 2CF9,2CFF 2E00,3004 3008,3020 3030,3030
3037,3037 303D,303F 30A0,30A0 30FB,30FB 31C0,31E5 4DC0,4DFF A490,A4C6 A60D,A60F A673,A67F
A700,A721 A788,A788 A828,A82B A838,A839 A874,A877 AB6A,AB6B FBC3,FE46 10101,10101 10140,1018C
10190,101A0 1091F,1091F 10B39,10B3F 10D6E,10D6E 10ED0,10ED8 11052,11065 11660,1166C 11FD5,11FF1
16FE2,16FE2 1CC00,1CEF0 1D1E9,1D245 1D300,1D356 1E2FF,1E2FF 1EEF0,1F12F 1F16D,1F16F 1F1AD,1F1AD
1F260,1FBFA"

/-- The marks that run from left to right on their own. -/
def strongMarks : List Nat := [0xCBF, 0xCC6, 0x11A07, 0x11A08, 0x11C3F]

end DirectionTable

/-- How a character takes part in the direction of a text. -/
inductive Direction where
  /-- A letter of a script that runs from left to right. -/
  | leftToRight
  /-- A letter of a script that runs from right to left. -/
  | rightToLeft
  /-- A digit for texts of both directions. -/
  | europeanDigit
  /-- A digit for texts that run from right to left. -/
  | arabicDigit
  /-- A mark, which goes with the character before it. -/
  | mark
  | neutral
deriving DecidableEq, Repr

namespace Direction

/-- The direction of a character outside of ASCII. -/
def ofOther (c : Char) : Direction :=
  if isNonspacingMark c then
    if DirectionTable.strongMarks.contains c.toNat then leftToRight else mark
  else if DirectionTable.rightToLeft.any (inRun c.toNat) then rightToLeft
  else if DirectionTable.arabicDigits.any (inRun c.toNat) then arabicDigit
  else if DirectionTable.europeanDigits.any (inRun c.toNat) then europeanDigit
  else if DirectionTable.neutral.any (inRun c.toNat) then neutral
  else leftToRight

/-- The direction of a character. -/
def ofChar (c : Char) : Direction :=
  if 128 ≤ c.toNat then ofOther c
  else if c.isAlpha then leftToRight
  else if c.isDigit then europeanDigit
  else neutral

/-- Whether a character makes a name one that runs from right to left somewhere. -/
def turns : Direction → Bool
  | rightToLeft | arabicDigit => true
  | _ => false

end Direction

/-- Whether some character of a text runs from right to left. -/
def turns (cs : List Char) : Bool := cs.any fun c => (Direction.ofChar c).turns

/-- Whether a label runs one way. Marks at its end go with the character before them. -/
def runsOneWay (label : List Char) : Bool :=
  match label.map Direction.ofChar with
  | [] => true
  | first :: others =>
    match first, others.reverse.dropWhile (· = .mark) with
    | .leftToRight, [] | .rightToLeft, [] => true
    | .leftToRight, last :: middle =>
      (last = .leftToRight || last = .europeanDigit) && !middle.any Direction.turns
    | .rightToLeft, last :: middle =>
      (last.turns || last = .europeanDigit) && !middle.contains .leftToRight &&
        !((last :: middle).contains .europeanDigit && (last :: middle).contains .arabicDigit)
    | _, _ => false

end OpenBadges.Url.Domain

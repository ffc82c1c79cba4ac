import OpenBadges.Text.Segments
import OpenBadges.Url.Percent

/-!
# Schemes and paths

What an address begins with, and the path that it leads to.
-/

namespace OpenBadges.Url

/-!
## Schemes

The scheme of an address says how the rest is read. A few schemes have rules of
their own: with them, a backslash is as good as a slash, and there is always a
host, which is a name or a number. Files have some more rules.
-/

/-- The schemes of hosts with rules of their own, and the ports that go without saying. -/
def defaultPort? (scheme : List Char) : Option Nat :=
  match String.ofList scheme with
  | "http" => some 80
  | "ws" => some 80
  | "https" => some 443
  | "wss" => some 443
  | "ftp" => some 21
  | _ => none

def fileScheme : List Char := "file".toList

/-- Whether the scheme names a file. -/
def isFile (scheme : List Char) : Bool := scheme = fileScheme

/-- Whether the scheme has rules of its own. -/
def isSpecial (scheme : List Char) : Bool := (defaultPort? scheme).isSome || isFile scheme

/-- Whether a character is as good as a slash where the scheme has rules of its own. -/
def isSlash (c : Char) : Bool := c = '/' || c = '\\'

end OpenBadges.Url

namespace OpenBadges.Url.Path

/-!
## Paths

A path is kept as text: every segment stands behind a slash, if there is any. It
is read segment by segment from a place, which is what has been read so far. A
segment of one dot stays in its place, and one of two dots goes up, as far as
there is something above.

In the path of a file a first segment of a letter and a colon is a drive. Nothing
goes up from there, and slashes at the start count as one.
-/

open Text

/-! ### Drives -/

/-- Whether a segment names a drive; a bar may stand for the colon. -/
def isDrive : List Char → Bool
  | [c, mark] => c.isAlpha && (mark = ':' || mark = '|')
  | _ => false

/-- Whether a segment is the name of a drive as it is written out. -/
def isPlainDrive (s : List Char) : Bool := isDrive s && s.getLast? = some ':'

/-- Whether a text starts with a segment that names a drive. -/
def startsWithDrive (cs : List Char) : Bool :=
  isDrive (cs.take 2) && (cs.drop 2).head?.all "/\\?#".toList.contains

/-! ### Places -/

/-- What has been read of a path, last character first. -/
abbrev Place := List Char

/-- What stands behind the last slash. -/
def lastSegment (place : Place) : List Char := (place.takeWhile (· ≠ '/')).reverse

/-- A place without its last segment; a file keeps its drive. -/
def withoutLast (file : Bool) (place : Place) : Place :=
  if file && isPlainDrive (lastSegment place) then place else place.dropWhile (· ≠ '/')

/-- A place without the slash at its end, unless that is its only one or stands behind a drive. -/
def withoutSlash : Place → Place
  | '/' :: front =>
    if front.contains '/' ∧ !startsWithDrive (lastSegment front ++ ['/']) then front
    else '/' :: front
  | place => place

def above (file : Bool) (place : Place) : Place := withoutLast file (withoutSlash place)

/-- A place with a slash at its end. -/
def closed (place : Place) : Place := if place.head? = some '/' then place else '/' :: place

/-- The place where a segment starts: a drive without a slash gets one first. -/
def opened (file : Bool) (place : Place) (s : List Char) : Place :=
  match place with
  | [':', c, '/'] => if file && c.isAlpha && !s.isEmpty then '/' :: place else place
  | _ => place

/-- Where a segment leads that is no dots; a first segment that names a drive gets its colon. -/
def enter (file : Bool) (place : Place) (s : List Char) : Place :=
  if file && place = ['/'] && isDrive s then ':' :: s.take 1 ++ place
  else (Percent.encode Percent.path s).reverse ++ place

/-! ### Reading -/

/-- Whether a segment stands for the place itself. -/
def isDot (s : List Char) : Bool :=
  [".", "%2e"].contains (String.ofList (s.map Char.toLower))

/-- Whether a segment stands for the place above. -/
def isDoubleDot (s : List Char) : Bool :=
  ["..", ".%2e", "%2e.", "%2e%2e"].contains (String.ofList (s.map Char.toLower))

/-- Goes along segments from a place. -/
def walk (file : Bool) (place : Place) : List (List Char) → Place
  | [] => place
  | s :: rest =>
    let isLast := rest.isEmpty
    let start := opened file place s
    let next :=
      if isDoubleDot s then
        if isLast then above file start else closed (above file start)
      else if isDot s then closed start
      else if isLast then enter file start s
      else '/' :: enter file start s
    walk file next rest

/-- Goes along a text from what is known of the path. -/
def follow (scheme known cs : List Char) : List Char :=
  let cs := if isSpecial scheme then cs.map fun c => if c = '\\' then '/' else c else cs
  (walk (isFile scheme) known.reverse (segments '/' cs)).reverse

/-- The path that a text leads to from what is known of it. -/
def read (scheme known cs : List Char) : List Char :=
  let path := follow scheme known cs
  if isFile scheme then '/' :: path.dropWhile (· = '/') else path

/-- A path up to its last slash; a file keeps its drive. -/
def directory (file : Bool) (path : List Char) : List Char := (withoutLast file path.reverse).reverse

end OpenBadges.Url.Path

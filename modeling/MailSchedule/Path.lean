import MailSchedule.Text.Octets

/-!
# Paths

File paths with slashes between their parts.  The parts are texts, and a part may hold lone
surrogates that stand for octets.

Results:

* `Path.ofText`, `Path.toText`: reading and the normal written form.
* `Path.parent`: the directory that a path lies in.
* `Path.route`: the names that a path leads along.
-/

namespace MailSchedule

/-- A path: the slashes it begins with, and its parts. -/
structure Path where
  slashes : Nat := 0
  parts : List Text := []
  deriving DecidableEq, Repr

/-- The name of a file within its directory. -/
abbrev FileName := Octets

/-- A way through directories: along names, from the working directory or, with slashes in front,
from the root. -/
structure Route where
  slashes : Nat := 0
  names : List FileName := []
  deriving DecidableEq, Repr

namespace Path

/-- The code point of a slash. -/
def slash : Nat := '/'.toNat

/-- The part that means the same directory. -/
def here : Text := "."

/-- How many slashes an absolute path keeps: two in front are kept apart from one and from more. -/
def slashesOf (t : Text) : Nat :=
  let n := (t.takeWhile (· = slash)).length
  if 2 < n then 1 else n

/-- Reads a path.  Empty parts and parts that mean the same directory are left out. -/
def ofText (t : Text) : Path :=
  { slashes := slashesOf t
    parts := (t.splitOn slash).filter fun p => p ≠ [] && p ≠ here }

/-- The written form of a path. -/
def toText (p : Path) : Text :=
  if p.slashes = 0 && p.parts.isEmpty then here
  else List.replicate p.slashes slash ++ Text.separated [slash] p.parts

/-- The directory that a path lies in. -/
def parent (p : Path) : Path := { p with parts := p.parts.dropLast }

/-- The path that ends after so many parts. -/
def upTo (p : Path) (parts : Nat) : Path := { p with parts := p.parts.take parts }

end Path

/-! ## Routes -/

namespace Route

/-- The octet of a slash. -/
def slash : UInt8 := 0x2F

/-- The name that means the same directory. -/
def here : FileName := [0x2E]

/-- The name that means the directory above. -/
def above : FileName := [0x2E, 0x2E]

/-- The route that octets name. -/
def ofOctets (bs : Octets) : Route :=
  { slashes := (bs.takeWhile (· = slash)).length
    names := (bs.splitOn slash).filter fun n => n ≠ [] && n ≠ here }

/-- How many octets the written form of a route has. -/
def length (r : Route) : Nat :=
  r.names.foldl (fun n name => n + name.length + 1) r.slashes - 1

/-- Whether a route begins at the root. -/
def isAbsolute (r : Route) : Bool := r.slashes ≠ 0

end Route

/-- The route of a path. -/
def Path.route (p : Path) : Except Text.NameFault Route := p.toText.nameOctets.map Route.ofOctets

end MailSchedule

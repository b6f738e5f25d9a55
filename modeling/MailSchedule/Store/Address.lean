import MailSchedule.Text.Octets

/-!
# Addresses of databases

The name of a database may be an address: a scheme, an escaped path, and options that say how the
database is opened.

Results:

* `Address.read?`: the path and the options of an address.
* `Opening.withOptions`: what the options ask for.
* `isImmutable`: whether they promise that nothing changes the file.
-/

namespace MailSchedule.Store

/-! ## Reading -/

/-- An address: a path, and options with their values. -/
structure Address where
  path : Octets
  options : List (Octets × Octets) := []
  deriving DecidableEq, Repr

namespace Address

/-- What an address begins with. -/
def scheme : Octets := "file:"

/-- The octet of a percent sign, with which escapes begin. -/
@[match_pattern]
abbrev percentSign : UInt8 := 0x25

/-- The octet before the options. -/
def questionMark : UInt8 := 0x3F

/-- The octet between options. -/
def ampersand : UInt8 := 0x26

/-- The octet between an option and its value. -/
def equalsSign : UInt8 := 0x3D

/-- The octet after which nothing counts. -/
def numberSign : UInt8 := 0x23

/-- The value of an octet that is a hexadecimal digit. -/
def hexDigit? (b : UInt8) : Option Nat := Text.hexValue? (Char.ofNat b.toNat)

/-- Replaces escapes of two hexadecimal digits.  What follows an escaped zero does not count. -/
def unescape : Octets → Octets
  | percentSign :: a :: b :: rest =>
    match hexDigit? a, hexDigit? b with
    | some x, some y =>
      if x = 0 && y = 0 then [] else UInt8.ofNat (x * 16 + y) :: unescape rest
    | _, _ => percentSign :: unescape (a :: b :: rest)
  | b :: rest => b :: unescape rest
  | [] => []
termination_by bs => bs.length

/-- An option: what stands before the first equals sign, and what stands after it. -/
def readOption (bs : Octets) : Octets × Octets :=
  (unescape (bs.takeWhile (· ≠ equalsSign)), unescape ((bs.dropWhile (· ≠ equalsSign)).drop 1))

/-- Reads what follows the scheme.  Options without a name are left out. -/
def readParts (bs : Octets) : Address :=
  let bs := bs.takeWhile (· ≠ numberSign)
  let options := ((bs.dropWhile (· ≠ questionMark)).drop 1).splitOn ampersand
  { path := unescape (bs.takeWhile (· ≠ questionMark))
    options := (options.map readOption).filter fun o => o.1 ≠ [] }

/-- Reads an address; other names are no address. -/
def read? (name : Octets) : Option Address :=
  if scheme.isPrefixOf name then some (readParts (name.drop scheme.length)) else none

end Address

/-! ## Options -/

/-- How a database is opened. -/
inductive Access
  | readOnly
  | readWrite
  | create
  | memory
  deriving DecidableEq, Repr

/-- The words for the ways to open a database. -/
def Access.words : List (Octets × Access) :=
  [("ro", .readOnly), ("rw", .readWrite), ("rwc", .create), ("memory", .memory)]

/-- Whether an option may ask for a way to open a database where another one is asked for already.
It may not ask for more. -/
def Access.permits : Access → Access → Bool
  | _, .memory => true
  | .memory, _ => true
  | .create, _ => true
  | .readWrite, wanted => wanted ≠ .create
  | .readOnly, wanted => wanted = .readOnly

/-- Why the options of an address are refused. -/
inductive OptionError
  /-- An option has a value that it cannot have. -/
  | noSuchMode (kind : String) (value : Octets)
  /-- An option asks for more than one before it. -/
  | modeNotAllowed (value : Octets)
  | noSuchSystem (name : Octets)
  deriving DecidableEq, Repr

/-- The message of a refusal, in octets that need not be text. -/
def OptionError.message : OptionError → Octets
  | .noSuchMode kind value => "no such " ++ kind ++ " mode: " ++ value
  | .modeNotAllowed value => "access mode not allowed: " ++ value
  | .noSuchSystem name => "no such vfs: " ++ name

/-- What the options of an address ask for. -/
structure Opening where
  access : Access := .create
  /-- The file system that is asked for. -/
  system : Option Octets := none
  deriving DecidableEq, Repr

/-- The values that the option for sharing can have. -/
def cacheWords : List Octets := ["shared", "private"]

/-- Takes options into account, in order. -/
def Opening.withOptions (o : Opening) : List (Octets × Octets) → Except OptionError Opening
  | [] => .ok o
  | (name, value) :: rest =>
    if name = "vfs" then Opening.withOptions { o with system := some value } rest
    else if name = "cache" then
      if cacheWords.contains value then Opening.withOptions o rest
      else .error (.noSuchMode "cache" value)
    else if name = "mode" then
      match Access.words.lookup value with
      | none => .error (.noSuchMode "access" value)
      | some wanted =>
        if o.access.permits wanted then Opening.withOptions { o with access := wanted } rest
        else .error (.modeNotAllowed value)
    else Opening.withOptions o rest

/-- The file system that keeps files in memory. -/
def memorySystem : Octets := "memdb"

/-- The file systems. -/
def systems : List Octets := ["unix", "unix-none", "unix-dotfile", "unix-excl", memorySystem]

/-- Fails unless the file system that is asked for exists. -/
def Opening.checkSystem (o : Opening) : Except OptionError Unit :=
  match o.system with
  | some name => if systems.contains name then .ok () else .error (.noSuchSystem name)
  | none => .ok ()

/-! ## Truth values -/

/-- Whether an octet is a decimal digit. -/
def isDigit (b : UInt8) : Bool := 0x30 ≤ b && b ≤ 0x39

/-- The number that digits in a base denote, if it lies below `2 ^ 31`, and zero otherwise. -/
def boundedNumber (base : Nat) (digits : List Nat) : Nat :=
  let n := digits.foldl (fun n d => n * base + d) 0
  if n < Nat.pow 2 31 then n else 0

/-- The values of the hexadecimal digits that octets begin with. -/
def leadingHexDigits (bs : Octets) : List Nat :=
  (bs.takeWhile fun b => (Address.hexDigit? b).isSome).filterMap Address.hexDigit?

/-- The values of the decimal digits that octets begin with. -/
def leadingDigits (bs : Octets) : List Nat := (bs.takeWhile isDigit).map fun b => b.toNat - 0x30

/-- Whether octets begin with a zero, the letter x and a hexadecimal digit. -/
def beginsHexadecimal (bs : Octets) : Bool :=
  bs.head? = some 0x30 && (bs[1]? = some 0x78 || bs[1]? = some 0x58) &&
    !(leadingHexDigits (bs.drop 2)).isEmpty

/-- The number that octets begin with. -/
def leadingNumber (bs : Octets) : Nat :=
  if beginsHexadecimal bs then boundedNumber 16 (leadingHexDigits (bs.drop 2))
  else boundedNumber 10 (leadingDigits bs)

/-- Whether the value of an option means yes: it is a number whose lowest octet is not zero, or a
word. -/
def isYes (value : Octets) : Bool :=
  if value.head?.any isDigit then leadingNumber value % 256 ≠ 0
  else (["on", "yes", "true"] : List Octets).contains
    (value.map fun b => if 0x41 ≤ b && b ≤ 0x5A then b + 0x20 else b)

/-- Whether options promise that nothing changes the file, so that it is not written either. -/
def isImmutable (options : List (Octets × Octets)) : Bool :=
  (options.lookup (Octets.ofString "immutable")).any isYes

end MailSchedule.Store

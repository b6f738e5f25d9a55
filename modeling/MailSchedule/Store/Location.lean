import MailSchedule.FileTree
import MailSchedule.Store.Address

/-!
# Where a store lies

The name of a database is a path, the word for a database in memory, or an address.

Results:

* `FullPath.ofOctets`: the path from the root on, which must be short and free of detours through
  files.
* `openNamed`: where the database of a name lies, whether it can be opened there, and the files
  afterwards: opening a database creates its file.
-/

namespace MailSchedule.Store

/-! ## Locations -/

/-- Why a database cannot be opened for use. -/
inductive OpenError
  /-- Its name is no name of a file. -/
  | badName (fault : Text.NameFault)
  | badOption (error : OptionError)
  | cannotOpen
  /-- It can be opened, but not read: it is a directory. -/
  | unreadable
  /-- It can be opened, but tables cannot be created in it. -/
  | unwritable
  deriving DecidableEq, Repr

/-- The fault that a message of the database in octets amounts to. -/
def faultOfOctets (message : Octets) : Fault :=
  match Text.Utf8.decode message with
  | .ok cs => ⟨.other "OperationalError", Text.ofCharacters cs⟩
  | .error f => ⟨.other "UnicodeDecodeError", f.message⟩

/-- The fault that a failure amounts to. -/
def OpenError.fault : OpenError → Fault
  | .badName f => .ofName f
  | .badOption e => faultOfOctets e.message
  | .cannotOpen => ⟨.other "OperationalError", "unable to open database file"⟩
  | .unreadable => ⟨.other "OperationalError", "disk I/O error"⟩
  | .unwritable => ⟨.other "OperationalError", "attempt to write a readonly database"⟩

/-- Where a store lies. -/
inductive Location
  /-- Nowhere: it is empty when it is opened, and is lost when it is closed. -/
  | memory
  | file (path : Octets)
  /-- It cannot be used where it lies. -/
  | refused (reason : OpenError)
  deriving DecidableEq, Repr

/-! ## Full paths -/

/-- The end of a path. -/
inductive PathEnd
  /-- It lies below the working directory, along names of which the last one stands first. -/
  | inside (names : List FileName)
  /-- It lies so many names below a directory above the working directory. -/
  | outside (names : Nat)
  deriving DecidableEq, Repr

/-- A path from the root on, without names that mean the directory above. -/
structure FullPath where
  /-- The lengths of its names, the last one first. -/
  lengths : List Nat
  target : PathEnd
  deriving DecidableEq, Repr

namespace FullPath

/-- The lengths of the names that lead to the working directory, which is taken to lie two levels
below the root. -/
def workingLengths : List Nat := [11, 3]

/-- The path at which a route begins. -/
def start (r : Route) : FullPath :=
  if r.isAbsolute then { lengths := [], target := .outside 0 }
  else { lengths := workingLengths, target := .inside [] }

/-- How many octets a path has. -/
def length (p : FullPath) : Nat := p.lengths.foldl (fun n l => n + l + 1) 0

/-- The path without its last name. -/
def up (p : FullPath) : FullPath :=
  { lengths := p.lengths.tail
    target := match p.target with
      | .inside (_ :: outer) => .inside outer
      | .inside [] => .outside 0
      | .outside n => .outside (n - 1) }

/-- The path with one more name. -/
def down (p : FullPath) (name : FileName) : FullPath :=
  { lengths := name.length :: p.lengths
    target := match p.target with
      | .inside outer => .inside (name :: outer)
      | .outside n => .outside (n + 1) }

/-- What lies at the end of a path.  The directories above the working directory are there. -/
def find (files : FileTree) (p : FullPath) : Except FileTrouble FileTree.Found :=
  match p.target with
  | .inside names => files.find { names := names.reverse }
  | .outside 0 => .ok .directory
  | .outside _ => .ok .unknown

/-- Whether something lies at the end of a path, or can. -/
def isClear (files : FileTree) (p : FullPath) : Bool :=
  match p.find files with
  | .ok _ => true
  | .error e => e = .missing

/-- The files with a new one at the end of a path. -/
def create (files : FileTree) (p : FullPath) : Except FileTrouble FileTree :=
  match p.target with
  | .inside names => files.make { names := names.reverse } .file
  | .outside _ => .ok files

/-- The bound of the length of a path. -/
def bound : Nat := 512

/-- How many octets more the longest name has that is made from the name of a database. -/
def extension : Nat := 8

/-- Goes along names. -/
def follow (files : FileTree) (p : FullPath) : List FileName → Option FullPath
  | [] => some p
  | name :: rest =>
    if name = Route.above then follow files p.up rest
    else
      let next := p.down name
      if name.length ≤ Place.maxName && next.length + 1 < bound && next.isClear files then
        follow files next rest
      else none

/-- The full path of a route.  It is not that of the root, and leaves room for longer names. -/
def ofRoute (files : FileTree) (r : Route) : Option FullPath := do
  let p ← follow files (start r) r.names
  guard (p.lengths ≠ [] && p.length + extension ≤ bound)
  return p

end FullPath

/-! ## Opening -/

/-- The word for a database in memory. -/
def memoryPath : Octets := ":memory:"

/-- A database that is empty when it is opened: it must be writable. -/
def freshLocation (unwritable : Bool) : Location :=
  if unwritable then .refused .unwritable else .memory

/-- Where a database lies in a file that is there or has been created, with the files.  The names of
the files that are made beside it may not be too long. -/
def locateFile (a : Address) (p : FullPath) : Location :=
  if isImmutable a.options then .refused .unwritable
  else if p.lengths.headD 0 + FullPath.extension ≤ Place.maxName then .file a.path
  else .refused .cannotOpen

/-- Opens the database at a full path. -/
def openAt (files : FileTree) (a : Address) (access : Access) (p : FullPath) :
    Location × FileTree :=
  match access, p.find files with
  | .readOnly, .ok .directory => (.refused .unreadable, files)
  | .readOnly, .ok .file => (.refused .unwritable, files)
  | .readOnly, _ => (.refused .cannotOpen, files)
  | _, .ok .file => (locateFile a p, files)
  | .create, .ok .unknown => (locateFile a p, files)
  | .create, .error .missing =>
    match p.create files with
    | .ok files => (locateFile a p, files)
    | .error _ => (.refused .cannotOpen, files)
  | _, _ => (.refused .cannotOpen, files)

/-- Opens the database of an address. -/
def Address.openIn (files : FileTree) (a : Address) : Location × FileTree :=
  match Opening.withOptions {} a.options with
  | .error e => (.refused (.badOption e), files)
  | .ok o =>
    match o.checkSystem with
    | .error e => (.refused (.badOption e), files)
    | .ok () =>
      if o.access = .memory then (.memory, files)
      else if a.path = [] || a.path = memoryPath then (freshLocation (o.access = .readOnly), files)
      else if o.system = some memorySystem then
        (freshLocation (o.access = .readOnly || isImmutable a.options), files)
      else
        match FullPath.ofRoute files (Route.ofOctets a.path) with
        | some p => openAt files a o.access p
        | none => (.refused .cannotOpen, files)

/-- Opens the database of a name. -/
def openNamed (files : FileTree) (name : Text) : Location × FileTree :=
  match name.nameOctets with
  | .error f => (.refused (.badName f), files)
  | .ok bs => ((Address.read? bs).getD { path := bs }).openIn files

end MailSchedule.Store

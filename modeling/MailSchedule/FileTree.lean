import MailSchedule.Fault
import MailSchedule.Path

/-!
# File trees

The files and directories below the working directory.  Of what lies outside it nothing is known,
and everything is taken to be there.

Results:

* `FileTree.find`: what lies at the end of a route.
* `FileTree.makeDirectory`, `FileTree.makeDirectories`: a directory, alone or with those above it
  that are missing.
* `FileTree.directories`: all directories.
-/

namespace MailSchedule

/-- What lies under a name. -/
inductive FileEntry
  | file
  | directory (entries : List (FileName × FileEntry))
  deriving Repr

/-- What lies below the working directory, by name. -/
abbrev FileTree := List (FileName × FileEntry)

/-- Why a route cannot be followed to its end, or nothing can be made there. -/
inductive FileTrouble
  | missing
  | taken
  | notDirectory
  | tooLong
  deriving DecidableEq, Repr

/-- The number of a trouble and the words for it. -/
def FileTrouble.words : FileTrouble → String
  | .missing => "[Errno 2] No such file or directory"
  | .taken => "[Errno 17] File exists"
  | .notDirectory => "[Errno 20] Not a directory"
  | .tooLong => "[Errno 36] File name too long"

/-- The kind of fault that a trouble is. -/
def FileTrouble.kind : FileTrouble → Fault.Kind
  | .missing => .other "FileNotFoundError"
  | .taken => .other "FileExistsError"
  | .notDirectory => .other "NotADirectoryError"
  | .tooLong => .other "OSError"

/-- The fault of a trouble with a path. -/
def FileTrouble.fault (e : FileTrouble) (p : Path) : Fault :=
  ⟨e.kind, e.words ++ ": " ++ Text.quoted p.toText⟩

/-! ## Places -/

/-- A place among the directories. -/
inductive Place
  /-- A directory of the tree: what it holds, and the directories above it, the nearest first, each
  with the name that leads down from it. -/
  | inside (here : FileTree) (outer : List (FileName × FileTree))
  | outside
  deriving Repr

/-- The place at which a route begins. -/
def FileTree.start (t : FileTree) (r : Route) : Place :=
  if r.isAbsolute then .outside else .inside t []

namespace Place

/-- The directory above a place. -/
def up : Place → Place
  | .inside _ ((_, t) :: outer) => .inside t outer
  | _ => .outside

/-- The longest name that a file can have, in octets. -/
def maxName : Nat := 255

/-- What lies under a name in the directory of a place, if anything is known of it. -/
def entry? (name : FileName) : Place → Except FileTrouble (Option FileEntry)
  | .outside => if maxName < name.length then .error .tooLong else .ok none
  | .inside here _ =>
    if maxName < name.length then .error .tooLong
    else
      match here.lookup name with
      | none => .error .missing
      | some e => .ok (some e)

/-- The directory under a name in the directory of a place. -/
def down (p : Place) (name : FileName) : Except FileTrouble Place := do
  if name = Route.above then return p.up
  match p, ← p.entry? name with
  | .inside here outer, some (.directory inner) => return .inside inner ((name, here) :: outer)
  | .inside _ _, _ => throw .notDirectory
  | .outside, _ => return .outside

/-- The directory at the end of names. -/
def follow (p : Place) (names : List FileName) : Except FileTrouble Place := names.foldlM down p

end Place

namespace FileTree

/-! ## Looking -/

/-- The longest route that can be followed, in octets. -/
def maxRoute : Nat := 4095

/-- The place of the directory in which a route ends. -/
def placeOf (t : FileTree) (r : Route) : Except FileTrouble Place :=
  if maxRoute < r.length then .error .tooLong else (t.start r).follow r.names.dropLast

/-- What lies at the end of a route. -/
inductive Found
  | file
  | directory
  /-- It lies outside the tree. -/
  | unknown
  deriving DecidableEq, Repr

/-- What lies at the end of a route. -/
def find (t : FileTree) (r : Route) : Except FileTrouble Found := do
  let p ← t.placeOf r
  match r.names.getLast? with
  | none => return .directory
  | some name =>
    if name = Route.above then return .directory
    match ← p.entry? name with
    | none => return .unknown
    | some .file => return .file
    | some (.directory _) => return .directory

/-- Whether a directory is known to lie at the end of a route. -/
def isDirectory (t : FileTree) (r : Route) : Bool :=
  match t.find r with
  | .ok found => found = .directory
  | .error _ => false

/-! ## Making -/

/-- Puts something under a name, which keeps its place if it has one. -/
def put (name : FileName) (e : FileEntry) : FileTree → FileTree
  | [] => [(name, e)]
  | a :: rest => if a.1 = name then (name, e) :: rest else a :: put name e rest

/-- The tree with a directory changed, from what it holds now and the directories above it. -/
def rebuild (here : FileTree) : List (FileName × FileTree) → FileTree
  | [] => here
  | (name, t) :: outer => rebuild (t.put name (.directory here)) outer

/-- Makes something at the end of a route, where nothing may lie yet. -/
def make (t : FileTree) (r : Route) (e : FileEntry) : Except FileTrouble FileTree := do
  let p ← t.placeOf r
  match r.names.getLast? with
  | none => throw .taken
  | some name =>
    if name = Route.above then throw .taken
    match p, p.entry? name with
    | .inside here outer, .error .missing => return rebuild (here.put name e) outer
    | _, .error trouble => throw trouble
    | .inside _ _, .ok _ => throw .taken
    | .outside, .ok _ => return t

/-- Makes the directory at the end of a route, unless it is there. -/
def makeDirectory (t : FileTree) (r : Route) : Except FileTrouble FileTree :=
  match t.make r (.directory []) with
  | .error .missing => .error .missing
  | .error e => if t.isDirectory r then .ok t else .error e
  | .ok t => .ok t

/-- A trouble on a route, after so many names. -/
structure Obstacle where
  depth : Nat
  trouble : FileTrouble
  deriving DecidableEq, Repr

/-- Makes a directory unless it is there, and before that the directories above it if one of them is
missing.  The names are given from the last one on.  What is made before a trouble stays. -/
def makeFrom (slashes : Nat) : List FileName → FileTree → Except Obstacle Unit × FileTree
  | [], t => (.ok (), t)
  | name :: outer, t =>
    let r : Route := { slashes, names := (name :: outer).reverse }
    let answer (t : FileTree) : Except FileTrouble FileTree → Except Obstacle Unit × FileTree
      | .ok t => (.ok (), t)
      | .error e => (.error ⟨outer.length + 1, e⟩, t)
    match t.makeDirectory r with
    | .error .missing =>
      match makeFrom slashes outer t with
      | (.ok _, t) => answer t (t.makeDirectory r)
      | failed => failed
    | result => answer t result

/-- Makes the directory of a path and those above it, unless they are there. -/
def makeDirectories (t : FileTree) (p : Path) : Except Fault Unit × FileTree :=
  match p.route with
  | .error e => (.error (.ofName e), t)
  | .ok r =>
    let (result, t) := makeFrom r.slashes r.names.reverse t
    (result.mapError fun o => o.trouble.fault (p.upTo o.depth), t)

/-! ## Listing -/

mutual

/-- The directories of an entry, with what leads to each; `way` leads to the entry. -/
def directoriesOf (way : List FileName) : FileEntry → List (List FileName)
  | .file => []
  | .directory entries => way :: directoriesIn way entries

/-- The directories among entries of a directory to which `way` leads. -/
def directoriesIn (way : List FileName) : List (FileName × FileEntry) → List (List FileName)
  | [] => []
  | (name, e) :: rest => directoriesOf (way ++ [name]) e ++ directoriesIn way rest

end

/-- The written form of a way from directory to directory. -/
def wayText (way : List FileName) : Text :=
  Text.separated [Path.slash] (way.map Text.ofNameOctets)

/-- The paths of all directories, sorted. -/
def directories (t : FileTree) : List Text :=
  ((directoriesIn [] t).map wayText).mergeSort Text.precedes

end FileTree

end MailSchedule

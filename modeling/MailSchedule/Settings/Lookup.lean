import MailSchedule.FileTree
import MailSchedule.Json.Value
import MailSchedule.Settings.Basic
import MailSchedule.Text.Encoding

/-!
# How variables are looked up

Variables are named after the settings, with a text in front.  Arguments whose names begin with an
underscore say how they are looked up, and in which files.

Results:

* `Lookup`: the rules for looking up variables.
* `Lookup.ofArguments`: the rules that arguments ask for.
* `readsFile`: whether the file of variables is read.
* `Arguments.encoding`: the encoding in which it is read.
-/

namespace MailSchedule.Settings

open MailSchedule.Json (Value)

/-- The rules for looking up variables. -/
structure Lookup where
  /-- What stands in front of the name of a setting in the name of its variable. -/
  start : Text := "MAIL_POLLER_"
  /-- Whether capital and small letters are told apart. -/
  exactCase : Bool := false
  /-- Whether variables without a value count as missing. -/
  ignoreEmpty : Bool := false
  /-- The value that stands for null. -/
  nullWord : Option Text := none
  /-- What follows the name of a variable in the names of its parts. -/
  delimiter : Option Text := none
  deriving DecidableEq, Repr

namespace Lookup

/-- A letter in lower case.  The sign for the unit kelvin is a capital letter too. -/
def lowerCase (c : Nat) : Nat :=
  if c = 0x212A then 'k'.toNat else if 'A'.toNat ≤ c && c ≤ 'Z'.toNat then c + 32 else c

/-- A name as it is compared. -/
def fold (rules : Lookup) (name : Text) : Text :=
  if rules.exactCase then name else name.map lowerCase

/-- The name of the variable of a setting. -/
def variableOf (rules : Lookup) (f : Field) : Text := rules.fold (rules.start ++ f.name)

/-- What the name of a part of the variable of a setting begins with, if there are parts. -/
def partStart? (rules : Lookup) (f : Field) : Option Text :=
  (rules.delimiter.filter (· ≠ [])).map fun d => rules.variableOf f ++ d

end Lookup

/-! ## Arguments -/

/-- Arguments by name. -/
abbrev Arguments := List (Text × Value)

/-- The value of an argument about looking up, unless it is absent or null. -/
def Arguments.option? (arguments : Arguments) (name : String) : Option Value :=
  match arguments.lookup (Text.ofString name) with
  | some .null => none
  | v => v

/-- A text, if that is what a value is. -/
def textOf? : Value → Option Text
  | .string t => some t
  | _ => none

/-- What stands in front of the names of settings.  Without a text there no variable has a name, and
the first setting that is asked for is told. -/
def Arguments.start (arguments : Arguments) : Except Error Text :=
  match arguments.option? "_env_prefix" with
  | none => .ok ({} : Lookup).start
  | some (.string t) => .ok t
  | some _ => .error (.unobtainable .databasePath .environment)

/-- The rules that arguments ask for. -/
def Lookup.ofArguments (arguments : Arguments) : Except Error Lookup := do
  return {
    start := ← arguments.start
    exactCase := (arguments.option? "_case_sensitive").any Value.holds
    ignoreEmpty := (arguments.option? "_env_ignore_empty").any Value.holds
    nullWord := (arguments.option? "_env_parse_none_str").bind textOf?
    delimiter := (arguments.option? "_env_nested_delimiter").bind textOf? }

/-! ## Files -/

/-- The name of the file of variables. -/
def variablesFile : String := ".env"

/-- The files of variables that a value names. -/
def namedFiles : Value → Except Fault (List Value)
  | .null => .ok []
  | .string t => .ok [.string t]
  | .array vs => .ok vs
  | .object ms => .ok (ms.map fun m => .string m.1)
  | v => .error ⟨.other "TypeError", v.noEntries⟩

/-- Whether there is a file where a value leads to. -/
def leadsToFile (files : FileTree) : Value → Except Fault Bool
  | .string t =>
    let p := Path.ofText t
    match p.route with
    | .error _ => .ok false
    | .ok r =>
      match files.find r with
      | .ok found => .ok (found = .file)
      | .error .tooLong => .error (FileTrouble.tooLong.fault p)
      | .error _ => .ok false
  | v => .error
    ⟨.other "TypeError", "expected str, bytes or os.PathLike object, not " ++ v.kind⟩

/-- Whether the file of variables is read: it is the only file there is, and is read unless the
arguments name others. -/
def readsFile (files : FileTree) (arguments : Arguments) : Except Fault Bool := do
  let named ← namedFiles ((arguments.lookup (Text.ofString "_env_file")).getD
    (.string variablesFile))
  return (← named.mapM (leadsToFile files)).any id

/-- The encoding in which the file of variables is read. -/
def Arguments.encoding (arguments : Arguments) : Except Fault Text.Encoding :=
  match (arguments.option? "_env_file_encoding").filter Value.holds with
  | none => .ok .utf8
  | some (.string t) =>
    match Text.Encoding.ofName? t.shown with
    | some e => .ok e
    | none => .error ⟨.other "LookupError", "unknown encoding: " ++ t⟩
  | some v => .error
    ⟨.other "TypeError", "open() argument 'encoding' must be str or None, not " ++ v.kind⟩

end MailSchedule.Settings

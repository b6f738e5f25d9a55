import MailSchedule.Json.Printer
import MailSchedule.Settings.EnvFile
import MailSchedule.Settings.Lookup
import MailSchedule.Settings.Values
import MailSchedule.Store.Location

/-!
# Loading settings

Settings come from the arguments given, from variables of the environment, from a file of
variables, and from the defaults; what comes earlier in this list wins.

Results:

* `Settings.load`: the settings, or why there are none.
* `Settings.makeDirectories`, `Settings.openStore`: the place of the account store.
-/

namespace MailSchedule.Settings

open MailSchedule.Json (Value)

/-- Values for settings. -/
abbrev Given := List (Field × Value)

/-! ## Sources -/

/-- The values that arguments give; of several with one name the first counts. -/
def givenByArguments (rules : Lookup) (arguments : Arguments) : Given :=
  Field.all.filterMap fun f =>
    (arguments.find? fun a => rules.fold a.1 = f.name).map fun a => (f, a.2)

/-- The variables of a source that count. -/
def Lookup.relevant (rules : Lookup) (vars : List EnvFile.Variable) :
    List EnvFile.Variable :=
  vars.filter fun v => !(rules.ignoreEmpty && v.2 = some [])

/-- The value of a variable for a setting; of several with one name the last counts. -/
def Lookup.valueOf (rules : Lookup) (vars : List EnvFile.Variable) (f : Field) :
    Option Text :=
  ((vars.reverse.find? fun v => rules.fold v.1 = rules.variableOf f).map (·.2)).join

/-- Whether the variable of a setting has parts. -/
def Lookup.hasParts (rules : Lookup) (vars : List EnvFile.Variable) (f : Field) : Bool :=
  (rules.partStart? f).any fun start => vars.any fun v => start.isPrefixOf (rules.fold v.1)

/-- The characters of a text for a reader of JSON, with lone surrogates escaped. -/
def escapedCharacters (t : Text) : List Char :=
  t.flatMap fun c => if Text.isSurrogate c then Json.numberedEscape c else [Char.ofNat c]

/-- The value that a text in a source stands for.  The protocols are written as a JSON array. -/
def valueOfText (source : Source) (f : Field) (t : Text) : Except Error (Option Value) :=
  match f with
  | .polledProtocols =>
    match Json.readDocument (escapedCharacters t) with
    | .ok .null => .ok none
    | .ok v => .ok (some v)
    | .error _ => .error (.unreadable f source)
  | _ => .ok (some (.string t))

/-- The value that a source gives for a setting.  Parts of the protocols are told by name, so that
together they are an object. -/
def givenFor (source : Source) (rules : Lookup) (vars : List EnvFile.Variable) (f : Field) :
    Except Error (Option Value) :=
  match rules.valueOf vars f with
  | some t => if rules.nullWord = some t then .ok (some .null) else valueOfText source f t
  | none =>
    .ok (if f = .polledProtocols && rules.hasParts vars f then some (.object []) else none)

/-- The values that a source gives. -/
def givenBy (source : Source) (rules : Lookup) (vars : List EnvFile.Variable) :
    List Field → Except Error Given
  | [] => .ok []
  | f :: rest => do
    let value ← givenFor source rules vars f
    let others ← givenBy source rules vars rest
    return (value.toList.map fun v => (f, v)) ++ others

/-! ## Values -/

/-- Reads the value given for a setting, if there is one. -/
def readField {α : Type} (given : Given) (f : Field) (default : α)
    (read : Value → Except Problem α) : List (String × Problem) × α :=
  match given.lookup f with
  | none => ([], default)
  | some v =>
    match read v with
    | .ok a => ([], a)
    | .error p => ([(f.name, p)], default)

/-- Reads the set of protocols.  What is wrong with a protocol is told by its place. -/
def readProtocols (given : Given) (default : List Text) :
    List (String × Problem) × List Text :=
  let f := Field.polledProtocols
  match given.lookup f with
  | none => ([], default)
  | some (.array vs) =>
    let (problems, names) := readNamesFrom 0 vs
    (problems.map fun p => (f.name ++ "." ++ toString p.1, p.2), nameSet names)
  | some _ => ([(f.name, .setType)], default)

/-- The settings with the given values; everything that is wrong with them is told, sorted. -/
def ofGiven (given : Given) : Except Error Settings :=
  let d : Settings := {}
  let (p1, databasePath) := readField given .databasePath d.databasePath readPath
  let (p2, watchdogDelaySeconds) :=
    readField given .watchdogDelaySeconds d.watchdogDelaySeconds readInt
  let (p3, forceOneMinuteRefresh) :=
    readField given .forceOneMinuteRefresh d.forceOneMinuteRefresh readBool
  let (p4, polledProtocols) := readProtocols given d.polledProtocols
  let (p5, backgroundDataEnabled) :=
    readField given .backgroundDataEnabled d.backgroundDataEnabled readBool
  let (p6, logLevel) := readField given .logLevel d.logLevel readText
  let problems := p1 ++ p2 ++ p3 ++ p4 ++ p5 ++ p6
  if problems.isEmpty then
    .ok { databasePath, watchdogDelaySeconds, forceOneMinuteRefresh, polledProtocols
          backgroundDataEnabled, logLevel }
  else .error (.invalid (problems.mergeSort fun a b => a.1 ≤ b.1))

/-! ## Loading -/

/-- What settings are loaded from. -/
structure Inputs where
  /-- Values by the names of settings; other names mean nothing. -/
  arguments : Arguments := []
  environment : Environment := []
  /-- The text of the file of variables, if there is one. -/
  file : Option String := none

/-- The files that are there. -/
def Inputs.files (inputs : Inputs) : FileTree :=
  if inputs.file.isSome then [(variablesFile, .file)] else []

/-- The names of variables that settings may come from, when names are known only in capitals or
only in small letters, and those that a file of variables refers to. -/
def variableNames (file : Option String) : List Text :=
  let rules : Lookup := {}
  Field.all.map (fun f => rules.start ++ (f.name.map Char.toUpper : String)) ++
    Field.all.map rules.variableOf ++
    (file.toList.flatMap fun text => EnvFile.referenceNames text.toList).map Text.ofCharacters

/-- The text of the file of variables, if there is one and it is read. -/
def Inputs.fileText (inputs : Inputs) : Except Fault (Option String) := do
  let reads ← readsFile inputs.files inputs.arguments
  match inputs.file.filter fun _ => reads with
  | none => return none
  | some text => return some (← (← inputs.arguments.encoding).reread text)

/-- Loads the settings. -/
def load (inputs : Inputs) : Except Error Settings := do
  let text ← inputs.fileText.mapError .fault
  let rules ← Lookup.ofArguments inputs.arguments
  let vars := EnvFile.ofEnvironment inputs.environment
  let fromEnvironment ← givenBy .environment rules (rules.relevant vars) Field.all
  let fromFile ← match text with
    | none => pure []
    | some text =>
      givenBy .file rules (rules.relevant (EnvFile.assignments inputs.environment text)) Field.all
  ofGiven (givenByArguments rules inputs.arguments ++ fromEnvironment ++ fromFile)

/-- The complaint about a setting and a source. -/
def complaint (problem : String) (f : Field) (source : Source) : String :=
  "error " ++ problem ++ " value for field \"" ++ f.name ++ "\" from source \"" ++
    source.name ++ "\""

/-- The fault that a failure amounts to, unless it tells of several problems. -/
def Error.fault? : Error → Option Fault
  | .unreadable f source => some ⟨.other "SettingsError", complaint "parsing" f source⟩
  | .unobtainable f source => some ⟨.other "SettingsError", complaint "getting" f source⟩
  | .fault f => some f
  | .invalid _ => none

/-! ## The account store -/

/-- The path of the account store. -/
def path (s : Settings) : Path := Path.ofText s.databasePath

/-- Makes the directories in which the account store lies. -/
def makeDirectories (s : Settings) (files : FileTree) : Except Fault Unit × FileTree :=
  files.makeDirectories s.path.parent

/-- Opens the account store. -/
def openStore (s : Settings) (files : FileTree) : Store.Location × FileTree :=
  Store.openNamed files s.databasePath

end MailSchedule.Settings

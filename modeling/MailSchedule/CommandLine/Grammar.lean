import MailSchedule.Text.Basic

/-!
# Grammars of command lines

What a program accepts on its command line: values in a fixed order, and switches, which may stand
anywhere among them.

Results:

* `Grammar`: the values and switches of one program or command.
* `Grammar.help`: the page that explains a grammar.
-/

namespace MailSchedule.CommandLine

/-- The kinds of value. -/
inductive Kind
  | text
  | integer
  deriving DecidableEq, Repr

/-- A value that is told from others by its place. -/
structure Positional where
  name : String
  kind : Kind := .text
  /-- The values allowed, if not all are. -/
  choices : List String := []
  help : String := ""
  deriving Repr

/-- How a value is called on the help page. -/
def Positional.heading (p : Positional) : String :=
  if p.choices.isEmpty then p.name else "\x7b" ++ ",".intercalate p.choices ++ "\x7d"

/-- What a switch does. -/
inductive Action
  /-- Shows the help page. -/
  | help
  /-- Is there or not. -/
  | flag
  /-- Takes a value. -/
  | value (kind : Kind)
  deriving DecidableEq, Repr

/-- A switch with its names. -/
structure Switch where
  names : List String
  action : Action
  /-- The name of its value on the help page. -/
  placeholder : String := ""
  help : String := ""
  deriving DecidableEq, Repr

/-- How many values a switch takes. -/
def Switch.arity (s : Switch) : Nat :=
  match s.action with
  | .value _ => 1
  | _ => 0

/-- How a switch is called in messages. -/
def Switch.title (s : Switch) : String := "/".intercalate s.names

/-- How a switch is called on the help page. -/
def Switch.heading (s : Switch) : String :=
  ", ".intercalate (s.names.map fun n =>
    if s.placeholder.isEmpty then n else n ++ " " ++ s.placeholder)

/-- The switch that shows the help page. -/
def helpSwitch : Switch :=
  { names := ["-h", "--help"], action := .help, help := "show this help message and exit" }

/-- What one program or command accepts. -/
structure Grammar where
  program : String
  /-- The lines of the summary after the name of the program. -/
  usage : List String
  positionals : List Positional := []
  switches : List Switch := [helpSwitch]
  deriving Repr

/-- The names of all switches, each with its switch. -/
def Grammar.namedSwitches (g : Grammar) : List (Text × Switch) :=
  g.switches.flatMap fun s => s.names.map fun n => (Text.ofString n, s)

/-! ## Help pages -/

/-- A row of a table on a help page. -/
structure Row where
  indent : Nat := 2
  heading : String
  help : String := ""
  deriving Repr

/-- Blanks. -/
def blanks (n : Nat) : Text := List.replicate n ' '.toNat

/-- A text filled up with blanks at the end. -/
def padRight (width : Nat) (t : Text) : Text := t ++ blanks (width - t.length)

/-- A text filled up with blanks in front. -/
def padLeft (width : Nat) (t : Text) : Text := blanks (width - t.length) ++ t

/-- The column of explanations: after the widest heading, but not too far right. -/
def helpColumn (rows : List Row) : Nat :=
  min ((rows.map (·.heading.length)).foldl max 0 + 4) 24

/-- One row: an explanation that finds no room beside its heading goes to a line of its own. -/
def Row.render (column : Nat) (r : Row) : Text :=
  let room := column - r.indent - 2
  let content : Text :=
    if r.help.isEmpty then r.heading
    else if r.heading.length ≤ room then padRight room r.heading ++ "  " ++ r.help
    else r.heading ++ "\n" ++ blanks column ++ r.help
  blanks r.indent ++ content ++ "\n"

/-- The summary of a grammar, with continuation lines below the first. -/
def Grammar.usageText (g : Grammar) : Text :=
  let start := "usage: " ++ g.program ++ " "
  start ++ Text.separated ("\n" ++ blanks start.length) (g.usage.map Text.ofString) ++ "\n"

/-- A help page: the summary, an introduction, and tables with their titles. -/
def helpPage (g : Grammar) (introduction : String) (tables : List (String × List Row)) : Text :=
  let column := helpColumn (tables.flatMap (·.2))
  let head : Text := if introduction.isEmpty then [] else "\n" ++ introduction ++ "\n"
  let render (t : String × List Row) : Text :=
    "\n" ++ t.1 ++ ":\n" ++ (t.2.flatMap (Row.render column) : Text)
  g.usageText ++ head ++ (tables.filter (!·.2.isEmpty)).flatMap render

/-- The rows of the values of a grammar. -/
def Grammar.positionalRows (g : Grammar) : List Row :=
  g.positionals.map fun p => { heading := p.heading, help := p.help }

/-- The rows of the switches of a grammar. -/
def Grammar.switchRows (g : Grammar) : List Row :=
  g.switches.map fun s => { heading := s.heading, help := s.help }

/-- The page that explains a grammar. -/
def Grammar.help (g : Grammar) : Text :=
  helpPage g "" [("positional arguments", g.positionalRows), ("options", g.switchRows)]

end MailSchedule.CommandLine

import MailSchedule.CommandLine.Token
import MailSchedule.Text.Quoted

/-!
# Parsing command lines

Values and switches are taken alternately: as many values as are due before the next switch, then
the switch with what it takes.  Words for which there is no use are left over.

Results:

* `parseWords`: the values, switches and left-over words of a command.
* `parseCommand`: the same for a program whose first value names a command, which takes all words
  that follow.
-/

namespace MailSchedule.CommandLine

/-- A value that was given. -/
inductive Value
  | text (t : Text)
  | integer (i : Int)
  | present
  /-- A place that is taken, but by no word. -/
  | nothing
  deriving DecidableEq, Repr

/-- Why parsing ends without a result. -/
inductive Stop
  /-- The help page was asked for. -/
  | help
  | wrong (message : Text)
  deriving DecidableEq, Repr

/-- What has been found: values by the names of what they are for, and words left over. -/
structure Findings where
  values : List (String × Value) := []
  extras : List Text := []
  deriving Repr

/-- Adds a value; of several for one purpose the last counts. -/
def Findings.add (f : Findings) (name : String) (v : Value) : Findings :=
  { f with values := (name, v) :: f.values }

/-- Adds words that are left over. -/
def Findings.leave (f : Findings) (words : List Text) : Findings :=
  { f with extras := f.extras ++ words }

/-- A message about what a word is for. -/
def about (title : String) (message : Text) : Stop :=
  .wrong ("argument " ++ title ++ ": " ++ message)

/-! ## Single values -/

/-- The value of a word. -/
def readValue (title : String) (word : Text) : Kind → Except Stop Value
  | .text => .ok (.text word)
  | .integer =>
    match word.characters?.bind Text.readInteger? with
    | some i => .ok (.integer i)
    | none => .error (about title ("invalid int value: " ++ Text.quoted word))

/-- Fails unless a word is among the choices. -/
def checkChoice (title : String) (word : Text) (choices : List String) : Except Stop Unit :=
  if choices.any fun c => word = c then .ok ()
  else .error (about title ("invalid choice: " ++ Text.quoted word ++ " (choose from " ++
    ", ".intercalate (choices.map fun (c : String) => Text.quoted c) ++ ")"))

/-- The value of a word for a place. -/
def readPositional (p : Positional) (word : Text) : Except Stop Value := do
  let v ← readValue p.name word p.kind
  if !p.choices.isEmpty then checkChoice p.name word p.choices
  return v

/-! ## Values by place -/

/-- Whether a word is `--`. -/
def Token.isSeparator (t : Token) : Bool :=
  match t.role with
  | .separator => true
  | _ => false

/-- The value for a place, where `afterSeparator` tells whether the word `--` stands before it.  A
word `--` in the place of a value is passed over as well, unless that has happened already, and
leaves nothing there. -/
def valueAt (p : Positional) (afterSeparator : Bool) (word : Text) : Except Stop Value :=
  if word = separatorWord && !afterSeparator then .ok .nothing else readPositional p word

/-- Takes values for places as long as there are any before the next switch.  The word `--` is
passed over beside a value.  The answer has the places still open and the words not taken. -/
def takeValues (f : Findings) : List Positional → List Token →
    Except Stop (Findings × List Positional × List Token)
  | [], ts => .ok (f, [], ts)
  | p :: ps, ts =>
    match ts.dropWhile Token.isSeparator with
    | [] => .ok (f, p :: ps, ts)
    | t :: rest =>
      if t.isSwitch then .ok (f, p :: ps, ts)
      else do
        let v ← valueAt p (ts.head?.any Token.isSeparator) t.word
        takeValues (f.add p.name v) ps (rest.dropWhile Token.isSeparator)

/-! ## Switches -/

/-- A switch that is to take effect, with its value if it takes one. -/
abbrev Effect := Switch × Option Text

/-- Lets a switch take effect.  A word `--` that is joined to it is passed over and leaves nothing
there. -/
def applyEffect (f : Findings) (e : Effect) : Except Stop Findings :=
  match e.1.action, e.2 with
  | .help, _ => .error .help
  | .flag, _ => .ok (f.add e.1.title .present)
  | .value kind, some word => do
    if word = separatorWord then return f.add e.1.title .nothing
    else return f.add e.1.title (← readValue e.1.title word kind)
  | .value _, none => .error (about e.1.title "expected one argument")

/-- Lets switches take effect one after the other. -/
def applyEffects (f : Findings) : List Effect → Except Stop Findings
  | [] => .ok f
  | e :: rest => do applyEffects (← applyEffect f e) rest

/-- What a switch with nothing joined to it does with the words after it. -/
def takeBare (s : Switch) (ts : List Token) : Except Stop (Effect × List Token) :=
  if s.arity = 0 then .ok ((s, none), ts)
  else
    match ts with
    | ⟨word, .value⟩ :: rest => .ok ((s, some word), rest)
    | _ => .error (about s.title "expected one argument")

/-- A complaint about what is joined to a switch that takes nothing. -/
def ignoredValue (s : Switch) (attached : Text) : Stop :=
  about s.title ("ignored explicit argument " ++ Text.quoted attached)

/-- What a switch with something joined to it does.  After a short switch that takes nothing, short
switches may follow in the same word.  The answer has the effects and the words not taken. -/
def takeJoined (g : Grammar) (s : Switch) (short : Bool) :
    Text → List Token → Except Stop (List Effect × List Token)
  | [], ts => if s.arity = 1 then .ok ([(s, some [])], ts) else .error (ignoredValue s [])
  | c :: cs, ts =>
    if s.arity = 1 then .ok ([(s, some (c :: cs))], ts)
    else
      match if short then g.namedSwitches.lookup [hyphen, c] else none with
      | none => .error (ignoredValue s (c :: cs))
      | some next =>
        match cs with
        | [] => do
          let (e, rest) ← takeBare next ts
          return ([(s, none), e], rest)
        | cs => do
          let (es, rest) ← takeJoined g next true cs ts
          return ((s, none) :: es, rest)

/-- Whether a name of a switch is short. -/
def isShort (name : Text) : Bool := name[1]? ≠ some hyphen

/-- Takes a switch with what it takes. -/
def takeSwitch (g : Grammar) (f : Findings) (h : Hit) (ts : List Token) :
    Except Stop (Findings × List Token) :=
  match h.attached with
  | none => do
    let (e, rest) ← takeBare h.switch ts
    return (← applyEffect f e, rest)
  | some attached => do
    let (es, rest) ← takeJoined g h.switch (isShort h.name) attached ts
    return ((← applyEffects f es), rest)

/-! ## Commands -/

/-- The words before the next switch. -/
def wordsBefore (ts : List Token) : List Text :=
  (ts.takeWhile (!·.isSwitch)).map (·.word)

/-- Takes values and switches alternately.  Every step takes a word at least. -/
def parseTokens (g : Grammar) : Nat → Findings → List Positional → List Token →
    Except Stop (Findings × List Positional)
  | 0, f, ps, _ => .ok (f, ps)
  | steps + 1, f, ps, ts => do
    let (f, ps, rest) ← takeValues f ps ts
    let f := f.leave (wordsBefore rest)
    match rest.dropWhile (!·.isSwitch) with
    | [] => return (f, ps)
    | t :: rest =>
      match t.role with
      | .switch h => do
        let (f, rest) ← takeSwitch g f h rest
        parseTokens g steps f ps rest
      | _ => parseTokens g steps (f.leave [t.word]) ps rest

/-- Parses the words of a command. -/
def parseWords (g : Grammar) (words : List Text) : Except Stop Findings := do
  let ts ← (tokens g words).mapError .wrong
  let (f, missing) ← parseTokens g (ts.length + 1) {} g.positionals ts
  if missing.isEmpty then return f
  else throw (.wrong ("the following arguments are required: " ++
    ", ".intercalate (missing.map (·.name))))

/-! ## Programs with commands -/

/-- What the words of a program amount to. -/
inductive Program
  /-- No command was named. -/
  | bare (extras : List Text)
  /-- A command with the words that follow its name. -/
  | command (name : Text) (words extras : List Text)
  deriving Repr

/-- Finds the command among the words of a program.  It takes all words after it. -/
def findCommand (g : Grammar) (name : String) (commands : List String) : Nat → Findings →
    List Token → Except Stop Program
  | 0, f, _ => .ok (.bare f.extras)
  | steps + 1, f, ts =>
    match ts.dropWhile Token.isSeparator with
    | [] => .ok (.bare (f.extras ++ ts.map (·.word)))
    | t :: rest =>
      match t.role with
      | .switch h => do
        let (f, rest) ← takeSwitch g (f.leave (wordsBefore ts)) h rest
        findCommand g name commands steps f rest
      | .unknownSwitch =>
        findCommand g name commands steps (f.leave (wordsBefore ts ++ [t.word])) rest
      | _ => do
        let word := (ts.head?.map (·.word)).getD t.word
        checkChoice name word commands
        return .command word (rest.map (·.word)) f.extras

/-- Parses the words of a program that has commands. -/
def parseCommand (g : Grammar) (name : String) (commands : List String) (words : List Text) :
    Except Stop Program := do
  let ts ← (tokens g words).mapError .wrong
  findCommand g name commands (ts.length + 1) {} ts

end MailSchedule.CommandLine

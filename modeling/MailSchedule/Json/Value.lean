import MailSchedule.Decimal.Shortest
import MailSchedule.Text.Quoted

/-!
# JSON values

The values of JSON documents.  Integers are unbounded and kept apart from numbers with a fraction
or an exponent; strings are texts, because an escape may name a lone surrogate; an
object holds its members in the order in which their names first occur.

Results:

* `Value.ofMembers`: the object of a list of members, the last of several with one name winning.
* `Value.holds`: whether a value counts as true.
* `Value.text`: the form in which a value stands inside a message.
* `Value.kind`: the word for the kind of a value inside a message.
-/

namespace MailSchedule.Json

open MailSchedule.Decimal (Binary64)

/-- A JSON value. -/
inductive Value
  | null
  | bool (b : Bool)
  | int (i : Int)
  | real (x : Binary64)
  | string (cs : Text)
  | array (vs : List Value)
  | object (members : List (Text × Value))
  deriving Repr, Inhabited

namespace Value

/-! ## Members of objects -/

/-- Puts a member into a list of members: the name keeps its place if it has one. -/
def putMember (name : Text) (v : Value) : List (Text × Value) → List (Text × Value)
  | [] => [(name, v)]
  | (n, w) :: rest => if n = name then (n, v) :: rest else (n, w) :: putMember name v rest

/-- The object with the given members; of several with one name the last wins. -/
def ofMembers (members : List (Text × Value)) : Value :=
  .object (members.foldl (fun acc m => putMember m.1 m.2 acc) [])

/-- The value of the member with the given name. -/
def member? (name : String) (members : List (Text × Value)) : Option Value :=
  (members.find? fun m => m.1 = Text.ofString name).map (·.2)

/-! ## Truth -/

/-- Whether a value counts as true: `null`, zero, and everything empty do not. -/
def holds : Value → Bool
  | null => false
  | bool b => b
  | int i => i != 0
  | real x => !x.isZero
  | string cs => !cs.isEmpty
  | array vs => !vs.isEmpty
  | object ms => !ms.isEmpty

/-! ## Inside messages -/

/-- The word for the kind of a value. -/
def kind : Value → String
  | null => "NoneType"
  | bool _ => "bool"
  | int _ => "int"
  | real _ => "float"
  | string _ => "str"
  | array _ => "list"
  | object _ => "dict"

/-- The complaint about a value that has no entries where some are wanted. -/
def noEntries (v : Value) : String := "'" ++ v.kind ++ "' object is not iterable"

/-- Items between commas. -/
def separated (items : List String) : String := ", ".intercalate items

mutual

/-- The form in which a value stands inside a message. -/
def text : Value → String
  | null => "None"
  | bool true => "True"
  | bool false => "False"
  | int i => toString i
  | real x => x.text
  | string cs => Text.quoted cs
  | array vs => "[" ++ separated (texts vs) ++ "]"
  | object ms => "\x7b" ++ separated (memberTexts ms) ++ "\x7d"

/-- The items of an array. -/
def texts : List Value → List String
  | [] => []
  | v :: vs => text v :: texts vs

/-- The members of an object. -/
def memberTexts : List (Text × Value) → List String
  | [] => []
  | (n, v) :: ms => (Text.quoted n ++ ": " ++ text v) :: memberTexts ms

end

end Value

end MailSchedule.Json

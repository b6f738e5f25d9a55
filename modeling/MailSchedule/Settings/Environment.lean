import MailSchedule.Fault

/-!
# The environment

Variables with their values, as whoever starts the program gives them.  Names and values are kept
as octets, so that text comes back as what its octets stand for.

Results:

* `Environment.ofTexts`: the environment of given variables, or why there is none.
-/

namespace MailSchedule

/-- Variables with their values. -/
abbrev Environment := List (Text × Text)

/-- The octet between a variable and its value, which no name holds. -/
def Environment.equalsSign : UInt8 := 0x3D

/-- A variable as it is found in the environment: surrogates that stand for octets of a character
are found as that character. -/
def Environment.binding (name value : Text) : Except Fault (Text × Text) := do
  let octets ← name.escapedOctets.mapError .ofUnencodable
  let valueOctets ← value.escapedOctets.mapError .ofUnencodable
  if octets.contains 0 || valueOctets.contains 0 then throw (.ofName .containsZero)
  if octets.contains equalsSign then
    throw ⟨.other "ValueError", "illegal environment variable name"⟩
  if octets.isEmpty then throw ⟨.other "OSError", "[Errno 22] Invalid argument"⟩
  return (Text.ofNameOctets octets, Text.ofNameOctets valueOctets)

/-- The environment of given variables. -/
def Environment.ofTexts (given : List (Text × Text)) : Except Fault Environment :=
  given.mapM fun v => Environment.binding v.1 v.2

end MailSchedule

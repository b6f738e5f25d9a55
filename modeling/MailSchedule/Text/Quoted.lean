import MailSchedule.Text.Basic
import MailSchedule.Text.Hexadecimal
import MailSchedule.Text.Printable

/-!
# Quoted text

The form in which text stands inside a message: between quotes, with the code points escaped that
would not show, so that it is an ordinary string.

Results:

* `quoted`: the written form of a text.
-/

namespace MailSchedule.Text

/-- Code point of the single quote. -/
def singleQuote : Nat := 39

/-- Code point of the double quote. -/
def doubleQuote : Nat := 34

/-- Text stands between single quotes, unless it has a single quote and no double quote. -/
def quoteFor (cs : Text) : Nat :=
  if cs.contains singleQuote && !cs.contains doubleQuote then doubleQuote else singleQuote

/-- One code point between quotes `quote`: the quote and the backslash are preceded by a backslash,
tab and line ends have letters, and what is not printable is given by its number. -/
def quotedPoint (quote c : Nat) : List Char :=
  if c = quote || c = 92 then ['\\', Char.ofNat c]
  else if c = 9 then ['\\', 't']
  else if c = 10 then ['\\', 'n']
  else if c = 13 then ['\\', 'r']
  else if isPrintable c then [Char.ofNat c]
  else if c < 0x100 then '\\' :: 'x' :: hexDigits 2 c
  else if c < 0x10000 then '\\' :: 'u' :: hexDigits 4 c
  else '\\' :: 'U' :: hexDigits 8 c

/-- The written form of a text. -/
def quoted (cs : Text) : String :=
  let quote := quoteFor cs
  String.ofList (Char.ofNat quote :: cs.flatMap (quotedPoint quote) ++ [Char.ofNat quote])

end MailSchedule.Text

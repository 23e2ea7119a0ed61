/-
**Quoted texts.**

A quoted text stands between double quotes, and what could not be read back from the page is
written as an escape: the quote, the backslash, the usual controls, and as a code point in
hexadecimal every character that is not printable or that would join the character before it.

* `quote`: the quoted form used in messages.
* `quoteSource`: the form used in source text. It differs in one place: a zero byte that an octal
  digit follows is written with two hexadecimal digits.
-/

import KeyedRecord.Text.Property.GraphemeExtend
import KeyedRecord.Text.Property.Unprintable

namespace KeyedRecord.Text

/-- Whether the character is printed as itself. -/
def isPrintable (c : Char) : Bool :=
  if c.toNat < 0x80 then 0x20 ≤ c.toNat && c.toNat < 0x7F
  else !unprintableRanges.contains c && !graphemeExtendRanges.contains c

/-- A code point as a hexadecimal escape. -/
def escapeCode (c : Char) : List Char :=
  ['\\', 'u', '\x7b'] ++ Nat.toDigits 16 c.toNat ++ ['\x7d']

/-- One character inside a quoted text. -/
def escapeChar (c : Char) : List Char :=
  match c with
  | '\x00' => ['\\', '0']
  | '\t' => ['\\', 't']
  | '\r' => ['\\', 'r']
  | '\n' => ['\\', 'n']
  | '"' => ['\\', '"']
  | '\\' => ['\\', '\\']
  | c => if isPrintable c then [c] else escapeCode c

/-- The text in double quotes, as messages show it. -/
def quote (text : String) : String :=
  String.ofList (['"'] ++ text.toList.flatMap escapeChar ++ ['"'])

/-- Whether the text opens with an octal digit. -/
def startsOctal : List Char → Bool
  | [] => false
  | c :: _ => '0' ≤ c && c ≤ '7'

/-- The inside of a quoted text in source. -/
def escapeSource : List Char → List Char
  | [] => []
  | c :: rest =>
    (if c == '\x00' && startsOctal rest then ['\\', 'x', '0', '0'] else escapeChar c) ++
      escapeSource rest

/-- The text in double quotes, as source shows it. -/
def quoteSource (text : String) : String :=
  String.ofList (['"'] ++ escapeSource text.toList ++ ['"'])

end KeyedRecord.Text

/-
**Texts in JSON.**

A text stands between double quotes. The quote, the backslash and the controls below the space are
written as escapes, and all else as it is. On reading, any escape of the standard is understood;
two escapes of surrogates make one character, and a surrogate that stands alone is an error.

* `Json.writeText`: the written form of a text.
* `Json.readText?`: the text after its opening quote, and what follows its closing one.
-/

import KeyedRecord.Text.Digit

namespace KeyedRecord.Json

/-- One character inside a written text. -/
def escape (c : Char) : List Char :=
  match c with
  | '"' => ['\\', '"']
  | '\\' => ['\\', '\\']
  | '\x08' => ['\\', 'b']
  | '\t' => ['\\', 't']
  | '\n' => ['\\', 'n']
  | '\x0c' => ['\\', 'f']
  | '\r' => ['\\', 'r']
  | c =>
    if c.toNat < 0x20 then
      ['\\', 'u', '0', '0', Nat.digitChar (c.toNat / 16), Nat.digitChar (c.toNat % 16)]
    else [c]

/-- The written form of a text. -/
def writeText (text : String) : List Char :=
  ['"'] ++ text.toList.flatMap escape ++ ['"']

/-- The character that the letter of a short escape stands for. -/
def shortEscape? : Char → Option Char
  | '"' => some '"'
  | '\\' => some '\\'
  | '/' => some '/'
  | 'b' => some '\x08'
  | 'f' => some '\x0c'
  | 'n' => some '\n'
  | 'r' => some '\r'
  | 't' => some '\t'
  | _ => none

/-- The character of a code point that is no surrogate. -/
def character? (code : Nat) : Option Char :=
  if valid : code.isValidChar then some (Char.ofNatAux code valid) else none

/-- The character of two surrogates, the high one first. -/
def joinSurrogates? (high low : Nat) : Option Char :=
  if 0xD800 ≤ high && high < 0xDC00 && 0xDC00 ≤ low && low < 0xE000 then
    character? (0x10000 + (high - 0xD800) * 0x400 + (low - 0xDC00))
  else none

/-- Reads a text from behind its opening quote, and gives what follows its closing one. -/
def readText? : List Char → Option (List Char × List Char)
  | '"' :: rest => some ([], rest)
  | '\\' :: 'u' :: a :: b :: c :: d :: rest => do
    let code ← Text.hexValue? [a, b, c, d]
    match character? code with
    | some c =>
      let (text, after) ← readText? rest
      return (c :: text, after)
    | none =>
      match rest with
      | '\\' :: 'u' :: e :: f :: g :: h :: rest =>
        let c ← joinSurrogates? code (← Text.hexValue? [e, f, g, h])
        let (text, after) ← readText? rest
        return (c :: text, after)
      | _ => none
  | '\\' :: letter :: rest => do
    let c ← shortEscape? letter
    let (text, after) ← readText? rest
    return (c :: text, after)
  | c :: rest => do
    if c == '\\' || c.toNat < 0x20 then none
    let (text, after) ← readText? rest
    return (c :: text, after)
  | [] => none

end KeyedRecord.Json

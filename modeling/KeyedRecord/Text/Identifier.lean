/-
**Identifiers.**

An identifier is a letter or an underscore, followed by letters, marks, digits and connectors of
any script. The reserved words have the shape of identifiers but name nothing (`isReserved`), and
a lone underscore counts among them.

* `isPlainIdentifier`: the text can name something as it stands.
-/

import KeyedRecord.Text.Property.IdentifierStart
import KeyedRecord.Text.Property.IdentifierContinue

namespace KeyedRecord.Text

/-- Whether the character may open an identifier. -/
def isIdentifierStart (c : Char) : Bool :=
  c.isAlpha || c == '_' || (0x80 ≤ c.toNat && identifierStartRanges.contains c)

/-- Whether the character may stand inside an identifier. -/
def isIdentifierContinue (c : Char) : Bool :=
  isIdentifierStart c || c.isDigit ||
    (0x80 ≤ c.toNat && identifierContinueRanges.contains c)

/-- The words that have the shape of an identifier but cannot name anything. -/
def reservedWords : List String :=
  ["_", "abstract", "as", "async", "await", "become", "box", "break", "const", "continue",
   "crate", "do", "dyn", "else", "enum", "extern", "false", "final", "fn", "for", "if", "impl",
   "in", "let", "loop", "macro", "match", "mod", "move", "mut", "override", "priv", "pub", "ref",
   "return", "Self", "self", "static", "struct", "super", "trait", "true", "try", "type",
   "typeof", "unsafe", "unsized", "use", "virtual", "where", "while", "yield"]

/-- Whether the text is a reserved word. -/
def isReserved (text : String) : Bool :=
  reservedWords.contains text

/-- Whether the characters form one identifier, reserved or not. -/
def isIdentifierText : List Char → Bool
  | [] => false
  | first :: rest => isIdentifierStart first && rest.all isIdentifierContinue

/-- Whether the text is an identifier that can name something. -/
def isPlainIdentifier (text : String) : Bool :=
  isIdentifierText text.toList && !isReserved text

/-- The longest identifier at the front of the input, and what follows it. -/
def takeIdentifier? : List Char → Option (List Char × List Char)
  | [] => none
  | first :: rest =>
    if isIdentifierStart first then
      some (first :: rest.takeWhile isIdentifierContinue, rest.dropWhile isIdentifierContinue)
    else
      none

end KeyedRecord.Text

/-
**Token trees of a source text.**

Blanks and comments separate tokens. A documentation comment is not a comment but an attribute,
and becomes one (`documentation`). Brackets must match. `Phrase.ofSource?` reads a whole text and
is `none` when some part of it is no token.
-/

import KeyedRecord.Text.Quoted
import KeyedRecord.Token.Basic
import KeyedRecord.Token.Literal

namespace KeyedRecord.Lexer

open Text

/-- Whether the character separates tokens. The two direction marks count as blanks. -/
def isBlank (c : Char) : Bool :=
  c == ' ' || (0x09 ≤ c.toNat && c.toNat ≤ 0x0D) || c.toNat == 0x85 || c.toNat == 0xA0 ||
    c.toNat == 0x1680 || (0x2000 ≤ c.toNat && c.toNat ≤ 0x200A) || c.toNat == 0x200E ||
    c.toNat == 0x200F || c.toNat == 0x2028 || c.toNat == 0x2029 || c.toNat == 0x202F ||
    c.toNat == 0x205F || c.toNat == 0x3000

/-- The rest of the line, and what follows it from the line feed on. -/
def takeLine : List Char → List Char × List Char
  | [] => ([], [])
  | '\n' :: rest => ([], '\n' :: rest)
  | '\r' :: '\n' :: rest => ([], '\n' :: rest)
  | c :: rest =>
    let (line, rest) := takeLine rest
    (c :: line, rest)

/-- The text up to the end of a block comment in which `depth` further ones are open, and what
follows it. -/
def takeBlock? (depth : Nat) : List Char → Option (List Char × List Char)
  | [] => none
  | '/' :: '*' :: rest => do
    let (comment, rest) ← takeBlock? (depth + 1) rest
    return ('/' :: '*' :: comment, rest)
  | '*' :: '/' :: rest =>
    match depth with
    | 0 => some ([], rest)
    | depth + 1 => do
      let (comment, rest) ← takeBlock? depth rest
      return ('*' :: '/' :: comment, rest)
  | c :: rest => do
    let (comment, rest) ← takeBlock? depth rest
    return (c :: comment, rest)

/-- A documentation comment: whether it belongs to what holds it, and its text. -/
structure Documentation where
  inner : Bool
  content : List Char

/-- A carriage return in a documentation comment must stand before a line feed. -/
def hasBareReturn : List Char → Bool
  | [] => false
  | c :: rest => (c == '\r' && rest.head? != some '\n') || hasBareReturn rest

/-- The documentation comment at the front of the input, and what follows it. -/
def takeDocumentation? (input : List Char) : Option (Documentation × List Char) := do
  let (inner, content, rest) ← match input with
    | '/' :: '/' :: '!' :: rest => some (true, takeLine rest)
    | '/' :: '*' :: '!' :: rest => (takeBlock? 0 rest).map (true, ·)
    | '/' :: '/' :: '/' :: '/' :: _ => none
    | '/' :: '/' :: '/' :: rest => some (false, takeLine rest)
    | '/' :: '*' :: '*' :: '*' :: _ => none
    | '/' :: '*' :: '*' :: rest => (takeBlock? 0 rest).map (false, ·)
    | _ => none
  if hasBareReturn content then none else return (⟨inner, content⟩, rest)

/-- The input after the comment at its front, documentation excepted. -/
def skipComment? (input : List Char) : Option (List Char) :=
  match input with
  | '/' :: '*' :: '*' :: '/' :: rest => some rest
  | '/' :: '/' :: rest =>
    match rest with
    | '!' :: _ => none
    | '/' :: '/' :: _ => some (takeLine rest).2
    | '/' :: _ => none
    | _ => some (takeLine rest).2
  | '/' :: '*' :: rest =>
    match rest with
    | '!' :: _ => none
    | '*' :: '*' :: _ => (takeBlock? 0 rest).map Prod.snd
    | '*' :: _ => none
    | _ => (takeBlock? 0 rest).map Prod.snd
  | _ => none

/-- A documentation comment as the attribute it stands for. -/
def documentation (comment : Documentation) : Phrase :=
  let text := quoteSource (String.ofList comment.content)
  .punct '#' .alone :: (if comment.inner then [.punct '!' .alone] else []) ++
    Phrase.bracketed (Phrase.ofWords ["doc", "="] ++ [.literal text])

/-- The punctuation character at the front of the input. A comment does not begin with one. -/
def punctuation? : List Char → Option Char
  | '/' :: '/' :: _ => none
  | '/' :: '*' :: _ => none
  | c :: _ => if "~!@#$%^&*-=+|;:,<.>/?'".toList.contains c then some c else none
  | [] => none

/-- The marks that open a quoted literal and so no identifier. -/
def opensQuoted (input : List Char) : Bool :=
  ["r\"", "r#\"", "r##", "b\"", "b'", "br\"", "br#", "c\"", "cr\"", "cr#"].any
    fun mark => mark.toList.isPrefixOf input

/-- The identifier at the front of the input. Of the reserved words, five have no raw form. -/
def takeIdent? (input : List Char) : Option (Ident × List Char) :=
  match input with
  | 'r' :: '#' :: rest => do
    let (name, rest) ← takeIdentifier? rest
    let name := String.ofList name
    if ["_", "super", "self", "Self", "crate"].contains name then none
    else return (⟨true, name⟩, rest)
  | _ => (takeIdentifier? input).map fun (name, rest) => (⟨false, String.ofList name⟩, rest)

/-- The lifetime whose quote has been read. A quote that follows it, or a number sign, shows that
it is none. -/
def takeLifetime? (input : List Char) : Option (TokenTree × List Char) := do
  let (identifier, rest) ← takeIdent? input
  match rest with
  | '\'' :: _ => none
  | '#' :: _ => if identifier.raw then return (.lifetime identifier, rest) else none
  | _ => return (.lifetime identifier, rest)

/-- The token at the front of the input that is no bracket. -/
def takeLeaf? (input : List Char) : Option (TokenTree × List Char) :=
  match Literal.take? input with
  | some rest => some (.literal (String.ofList (input.take (input.length - rest.length))), rest)
  | none =>
    match punctuation? input with
    | some '\'' => takeLifetime? (input.drop 1)
    | some c =>
      let rest := input.drop 1
      some (.punct c (if (punctuation? rest).isSome then .joint else .alone), rest)
    | none =>
      if opensQuoted input then none
      else
        match takeIdent? input with
        | some (identifier, rest) => some (.ident identifier false, rest)
        | none =>
          if Literal.failureMark.isPrefixOf input then
            some (.literal (String.ofList Literal.failureMark),
              input.drop Literal.failureMark.length)
          else none

/-- The delimiter that a character opens. -/
def opened? (c : Char) : Option Delimiter :=
  if c == '(' then some .parenthesis
  else if c == '[' then some .bracket
  else if c == '\x7b' then some .brace
  else none

/-- The delimiter that a character closes. -/
def closed? (c : Char) : Option Delimiter :=
  if c == ')' then some .parenthesis
  else if c == ']' then some .bracket
  else if c == '\x7d' then some .brace
  else none

/-- The trees read so far, last one first, and the groups that are open around them, innermost
first, each with the trees before it. -/
structure Progress where
  trees : List TokenTree
  enclosing : List (Delimiter × List TokenTree)

/-- Closes the innermost open group. -/
def Progress.close? (progress : Progress) (delimiter : Delimiter) : Option Progress :=
  match progress.enclosing with
  | (opening, before) :: outer =>
    if opening == delimiter then
      some ⟨.group delimiter progress.trees.reverse :: before, outer⟩
    else none
  | [] => none

/-- Reads tokens to the end of the input. Each step takes a character at least, and the first
argument bounds their number. -/
def scan? : Nat → Progress → List Char → Option Phrase
  | 0, _, _ => none
  | _ + 1, progress, [] => if progress.enclosing.isEmpty then some progress.trees.reverse else none
  | steps + 1, progress, c :: rest =>
    if isBlank c then scan? steps progress rest
    else
      match skipComment? (c :: rest) with
      | some rest => scan? steps progress rest
      | none =>
        match takeDocumentation? (c :: rest) with
        | some (comment, rest) =>
          scan? steps { progress with trees := (documentation comment).reverse ++ progress.trees }
            rest
        | none =>
          match closed? c with
          | some delimiter => (progress.close? delimiter).bind fun progress =>
              scan? steps progress rest
          | none =>
            let opening := if Literal.failureMark.isPrefixOf (c :: rest) then none else opened? c
            match opening with
            | some delimiter =>
              scan? steps ⟨[], (delimiter, progress.trees) :: progress.enclosing⟩ rest
            | none =>
              match takeLeaf? (c :: rest) with
              | some (tree, rest) =>
                scan? steps { progress with trees := tree :: progress.trees } rest
              | none => none

end KeyedRecord.Lexer

namespace KeyedRecord

/-- The tokens of a source text, which may open with a byte order mark. -/
def Phrase.ofSource? (source : String) : Option Phrase :=
  let input := match source.toList with
    | '\uFEFF' :: rest => rest
    | input => input
  Lexer.scan? (input.length + 1) ⟨[], []⟩ input

end KeyedRecord

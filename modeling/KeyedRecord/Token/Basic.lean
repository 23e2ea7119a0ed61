/-
**Token trees.**

Source text is read and written as trees of tokens: identifiers, punctuation characters, literals,
lifetimes, and groups that stand between a pair of delimiters. A punctuation character knows
whether the next one follows it at once (`Spacing.joint`), so that an operator of several
characters is a run of joint characters and a last one that stands alone.

* `Phrase.ofWords`: builds a phrase from words, each an identifier, a number, a lifetime or an
  operator.
* `Phrase.render`: the text of a phrase. One space stands between two tokens, none after a joint
  character, none inside round and square brackets.
-/

import KeyedRecord.Text.Identifier

namespace KeyedRecord

/-- An identifier. A raw one is written after `r#` and is never a reserved word. -/
structure Ident where
  raw : Bool
  name : String
deriving DecidableEq, Repr

/-- The identifier as it is written in source. -/
def Ident.text (identifier : Ident) : String :=
  if identifier.raw then "r#" ++ identifier.name else identifier.name

/-- An identifier written without the raw mark. -/
def Ident.plain (name : String) : Ident :=
  ⟨false, name⟩

/-- The identifier that a text spells. -/
def Ident.ofText (text : String) : Ident :=
  match text.toList with
  | 'r' :: '#' :: name => ⟨true, String.ofList name⟩
  | _ => ⟨false, text⟩

/-- Whether the identifier can name something: it is raw or not a reserved word. -/
def Ident.isName (identifier : Ident) : Bool :=
  identifier.raw || !Text.isReserved identifier.name

/-- The brackets around a group. -/
inductive Delimiter
  | parenthesis
  | brace
  | bracket
deriving DecidableEq, Repr

/-- Whether another punctuation character follows at once. -/
inductive Spacing
  | alone
  | joint
deriving DecidableEq, Repr

/-- A tree of tokens. An identifier is `captured` when it arrived as a fragment of its own, in
delimiters that are not written. -/
inductive TokenTree
  | ident (identifier : Ident) (captured : Bool)
  | punct (character : Char) (spacing : Spacing)
  | literal (text : String)
  | lifetime (identifier : Ident)
  | group (delimiter : Delimiter) (content : List TokenTree)
deriving Repr

/-- A sequence of token trees. -/
abbrev Phrase := List TokenTree

/-- The number of tokens in a tree, a group counting once beside its content. -/
def TokenTree.size : TokenTree → Nat
  | .group _ content => 1 + sizes content
  | _ => 1
where
  /-- The number of tokens in a sequence of trees. -/
  sizes : List TokenTree → Nat
    | [] => 0
    | tree :: rest => tree.size + sizes rest

/-- The number of tokens in a phrase. -/
def Phrase.size (phrase : Phrase) : Nat :=
  TokenTree.size.sizes phrase

/-- Marks every identifier of the given names as captured. -/
def TokenTree.capture (names : List String) : TokenTree → TokenTree
  | .ident identifier captured =>
    .ident identifier (captured || names.contains identifier.text)
  | .group delimiter content => .group delimiter (captureAll names content)
  | tree => tree
where
  /-- Marks the identifiers of a sequence of trees. -/
  captureAll (names : List String) : List TokenTree → List TokenTree
    | [] => []
    | tree :: rest => tree.capture names :: captureAll names rest

/-- Marks every identifier of the given names in a phrase as captured. -/
def Phrase.capture (names : List String) (phrase : Phrase) : Phrase :=
  TokenTree.capture.captureAll names phrase

/-- An identifier as a phrase. -/
def Ident.phrase (identifier : Ident) : Phrase :=
  [.ident identifier false]

namespace Phrase

/-- The characters of an operator: joint, but for the last. -/
def ofOperator : List Char → Phrase
  | [] => []
  | [c] => [.punct c .alone]
  | c :: rest => .punct c .joint :: ofOperator rest

/-- The phrase of one word: an identifier, a number, a lifetime or an operator. -/
def ofWord (word : String) : Phrase :=
  match word.toList with
  | [] => []
  | '\'' :: name => [.lifetime (Ident.plain (String.ofList name))]
  | c :: rest =>
    if Text.isIdentifierStart c then [.ident (Ident.ofText word) false]
    else if c.isDigit then [.literal word]
    else ofOperator (c :: rest)

/-- The phrase of several words. -/
def ofWords (words : List String) : Phrase :=
  words.flatMap ofWord

/-- A phrase in round brackets. -/
def parenthesized (content : Phrase) : Phrase :=
  [.group .parenthesis content]

/-- A phrase in curly brackets. -/
def braced (content : Phrase) : Phrase :=
  [.group .brace content]

/-- A phrase in square brackets. -/
def bracketed (content : Phrase) : Phrase :=
  [.group .bracket content]

/-- Phrases with commas between them. -/
def commaSeparated : List Phrase → Phrase
  | [] => []
  | [phrase] => phrase
  | phrase :: rest => phrase ++ .punct ',' .alone :: commaSeparated rest

end Phrase

/-- Whether the next token is written right after this one. -/
def TokenTree.isJoint : TokenTree → Bool
  | .punct _ .joint => true
  | _ => false

/-- The text of a token tree. -/
def TokenTree.render : TokenTree → String
  | .ident identifier _ => identifier.text
  | .punct character _ => String.singleton character
  | .literal text => text
  | .lifetime identifier => "'" ++ identifier.text
  | .group .parenthesis content => "(" ++ renderAll content ++ ")"
  | .group .bracket content => "[" ++ renderAll content ++ "]"
  | .group .brace [] => "\x7b \x7d"
  | .group .brace content => "\x7b " ++ renderAll content ++ " \x7d"
where
  /-- The text of a sequence of trees. -/
  renderAll : List TokenTree → String
    | [] => ""
    | [tree] => tree.render
    | tree :: rest => tree.render ++ (if tree.isJoint then "" else " ") ++ renderAll rest

/-- The text of a phrase. -/
def Phrase.render (phrase : Phrase) : String :=
  TokenTree.render.renderAll phrase

end KeyedRecord

/-
**Literals.**

A literal is a text in quotes, a character, or a number, and may carry a suffix that looks like an
identifier. `Literal.take?` finds the literal at the front of the input and gives what follows it.

Texts come in three kinds, plain, bytes and zero-terminated, each with escapes (cooked) or without
(raw). A cooked text may run over several lines; a backslash at the end of a line joins the next
one. `Literal.content?` reads the characters that a plain text stands for.
-/

import KeyedRecord.Text.Digit
import KeyedRecord.Text.Identifier

namespace KeyedRecord.Literal

open Text

/-- What a quoted literal denotes, which decides the characters and escapes it may hold. -/
inductive Kind
  | text
  | bytes
  | terminated
deriving DecidableEq

/-- Whether the character may stand unescaped in a literal of the kind. -/
def Kind.allows : Kind → Char → Bool
  | .text, _ => true
  | .bytes, c => c.toNat < 0x80
  | .terminated, c => c != '\x00'

/-- A code point in curly brackets: one to six hexadecimal digits, with underscores after the
first. -/
def takeCodePoint? (digits value : Nat) : List Char → Option (Char × List Char)
  | [] => none
  | c :: rest =>
    if c == '_' && 0 < digits then takeCodePoint? digits value rest
    else if c == '\x7d' && 0 < digits then
      if h : value.isValidChar then some (Char.ofNatAux value h, rest) else none
    else
      match hexDigit? c with
      | some digit =>
        if digits < 6 then takeCodePoint? (digits + 1) (16 * value + digit) rest else none
      | none => none

/-- The blanks that a backslash at the end of a line joins. -/
def isJoinedBlank (c : Char) : Bool :=
  c == ' ' || c == '\t' || c == '\n' || c == '\r'

/-- The input after the blanks that follow a backslash at the end of a line. A carriage return
among them must stand before a line feed, and the literal must go on. -/
def skipJoined? : Bool → List Char → Option (List Char)
  | _, [] => none
  | afterReturn, c :: rest =>
    if afterReturn then
      if c == '\n' then
        match rest with
        | [] => none
        | next :: more =>
          if isJoinedBlank next then skipJoined? (next == '\r') more else some (next :: more)
      else none
    else if isJoinedBlank c then skipJoined? (c == '\r') rest
    else some (c :: rest)

/-- The character of an escape after a backslash, if the kind knows it, and what follows. -/
def takeEscape? (kind : Kind) : List Char → Option (Char × List Char)
  | 'n' :: rest => some ('\n', rest)
  | 'r' :: rest => some ('\r', rest)
  | 't' :: rest => some ('\t', rest)
  | '\\' :: rest => some ('\\', rest)
  | '\'' :: rest => some ('\'', rest)
  | '"' :: rest => some ('"', rest)
  | '0' :: rest => if kind == .terminated then none else some ('\x00', rest)
  | 'x' :: high :: low :: rest => do
    let value := 16 * (← hexDigit? high) + (← hexDigit? low)
    let allowed : Bool := match kind with
      | .text => value < 0x80
      | .bytes => true
      | .terminated => value != 0
    if allowed then some (Char.ofNat value, rest) else none
  | 'u' :: '\x7b' :: rest => do
    let (c, rest) ← takeCodePoint? 0 0 rest
    let allowed : Bool := match kind with
      | .text => true
      | .bytes => false
      | .terminated => c != '\x00'
    if allowed then some (c, rest) else none
  | _ => none

/-- The characters up to the closing quote of a cooked literal, and what follows the quote. The
first argument bounds the number of steps. -/
def takeCooked? (kind : Kind) : Nat → List Char → Option (List Char × List Char)
  | 0, _ => none
  | _ + 1, [] => none
  | _ + 1, '"' :: rest => some ([], rest)
  | steps + 1, '\r' :: '\n' :: rest => do
    let (content, rest) ← takeCooked? kind steps rest
    return ('\n' :: content, rest)
  | steps + 1, '\\' :: '\n' :: rest => do
    takeCooked? kind steps (← skipJoined? false rest)
  | steps + 1, '\\' :: '\r' :: rest => do
    takeCooked? kind steps (← skipJoined? true rest)
  | steps + 1, '\\' :: rest => do
    let (c, rest) ← takeEscape? kind rest
    let (content, rest) ← takeCooked? kind steps rest
    return (c :: content, rest)
  | steps + 1, c :: rest =>
    if c != '\r' && kind.allows c then do
      let (content, rest) ← takeCooked? kind steps rest
      return (c :: content, rest)
    else none

/-- The characters up to the closing quote of a raw literal, which as many number signs follow as
stand before the opening one, and what follows them. -/
def takeRawBody? (kind : Kind) (marks : List Char) : List Char → Option (List Char × List Char)
  | [] => none
  | c :: rest =>
    if c == '"' && marks.isPrefixOf rest then some ([], rest.drop marks.length)
    else if kind.allows c && (c != '\r' || rest.head? == some '\n') then do
      let (content, rest) ← takeRawBody? kind marks rest
      return (c :: content, rest)
    else none

/-- The characters of a raw literal whose opening marks stand at the front. -/
def takeRaw? (kind : Kind) (input : List Char) : Option (List Char × List Char) :=
  let marks := input.takeWhile (· == '#')
  match input.drop marks.length with
  | '"' :: body => if marks.length ≤ 255 then takeRawBody? kind marks body else none
  | _ => none

/-- The input after an optional suffix. -/
def skipSuffix (input : List Char) : List Char :=
  match takeIdentifier? input with
  | some (_, rest) => rest
  | none => input

/-- The kind and characters of the quoted literal at the front of the input, and what follows its
suffix. -/
def takeQuoted? (input : List Char) : Option (Kind × List Char × List Char) := do
  let (kind, content, rest) ← match input with
    | '"' :: body => (takeCooked? .text (body.length + 1) body).map (Kind.text, ·)
    | 'r' :: body => (takeRaw? .text body).map (Kind.text, ·)
    | 'b' :: '"' :: body => (takeCooked? .bytes (body.length + 1) body).map (Kind.bytes, ·)
    | 'b' :: 'r' :: body => (takeRaw? .bytes body).map (Kind.bytes, ·)
    | 'c' :: '"' :: body =>
      (takeCooked? .terminated (body.length + 1) body).map (Kind.terminated, ·)
    | 'c' :: 'r' :: body => (takeRaw? .terminated body).map (Kind.terminated, ·)
    | _ => none
  return (kind, content, skipSuffix rest)

/-- The input after a character in single quotes, of the kind `text` or `bytes`. -/
def skipCharacter? (kind : Kind) (input : List Char) : Option (List Char) := do
  let rest ← match input with
    | '\\' :: rest => (takeEscape? kind rest).map Prod.snd
    | c :: rest => if kind == .text || c.toNat < 0x80 then some rest else none
    | [] => none
  match rest with
  | '\'' :: rest => some (skipSuffix rest)
  | _ => none

/-- The input after the exponent of a number whose `e` is already read. The result is `none` when
the digits are missing. -/
def skipExponent? (sign digit : Bool) : List Char → Option (List Char)
  | [] => if digit then some [] else none
  | c :: rest =>
    if c == '+' || c == '-' then
      if digit then some (c :: rest)
      else if sign then none
      else skipExponent? true digit rest
    else if c.isDigit then skipExponent? sign true rest
    else if c == '_' then skipExponent? sign digit rest
    else if digit then some (c :: rest)
    else none

/-- The input after the digits of a number with a point or an exponent. -/
def skipFraction? (point : Bool) : List Char → Option (List Char)
  | [] => if point then some [] else none
  | c :: rest =>
    if c.isDigit || c == '_' then skipFraction? point rest
    else if c == '.' && !point then
      if rest.head?.any fun next => next == '.' || isIdentifierStart next then none
      else skipFraction? true rest
    else if c == 'e' || c == 'E' then
      (skipExponent? false false rest).or (if point then some (c :: rest) else none)
    else if point then some (c :: rest)
    else none

/-- The digits of an integer to the base: the input after them, if there is one at least. -/
def skipDigits? (base : Nat) (empty : Bool) : List Char → Option (List Char)
  | [] => if empty then none else some []
  | c :: rest =>
    if c == '_' then
      if empty && base == 10 then none else skipDigits? base empty rest
    else
      match hexDigit? c with
      | some digit =>
        if digit < base then skipDigits? base false rest
        else if c.isDigit || empty then none
        else some (c :: rest)
      | none => if empty then none else some (c :: rest)

/-- The input after an integer without its suffix. -/
def skipInteger? : List Char → Option (List Char)
  | '0' :: 'x' :: rest => skipDigits? 16 true rest
  | '0' :: 'o' :: rest => skipDigits? 8 true rest
  | '0' :: 'b' :: rest => skipDigits? 2 true rest
  | input => skipDigits? 10 true input

/-- Nothing that could go on an identifier follows. -/
def atWordEnd (input : List Char) : Bool :=
  !input.head?.any isIdentifierContinue

/-- The input after a number and its suffix. -/
def skipNumber? (input : List Char) : Option (List Char) :=
  let finish (rest : List Char) : Option (List Char) :=
    let rest := skipSuffix rest
    if atWordEnd rest then some rest else none
  let fraction := if input.head?.any Char.isDigit then skipFraction? false input else none
  (fraction.bind finish).or ((skipInteger? input).bind finish)

/-- The mark that an earlier failed expansion leaves in the place of a literal. -/
def failureMark : List Char :=
  "(/*ERROR*/)".toList

/-- The input after the literal at its front. -/
def take? (input : List Char) : Option (List Char) :=
  ((takeQuoted? input).map fun quoted => quoted.2.2)
    |>.or (match input with
      | 'b' :: '\'' :: rest => skipCharacter? .bytes rest
      | '\'' :: rest => skipCharacter? .text rest
      | _ => skipNumber? input)

/-- The characters that a literal stands for, if it is a plain text. -/
def content? (text : String) : Option String :=
  match takeQuoted? text.toList with
  | some (.text, content, _) => some (String.ofList content)
  | _ => none

/-- Whether the literal is a number without a point or an exponent. -/
def isInteger (text : String) : Bool :=
  let input := text.toList
  input.head?.any Char.isDigit &&
    ((input.take 2 == ['0', 'x'] || input.take 2 == ['0', 'o'] || input.take 2 == ['0', 'b']) ||
      (skipFraction? false input).isNone)

/-- Whether the literal is a number with a point or an exponent. -/
def isFraction (text : String) : Bool :=
  text.toList.head?.any Char.isDigit && !isInteger text

end KeyedRecord.Literal

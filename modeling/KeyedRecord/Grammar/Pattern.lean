/-
**Patterns.**

A pattern is a binding, a literal or range, a path, a tuple, slice, record or reference of
patterns, or a macro call. Alternatives stand between bars where a whole pattern may
(`patterns`). A closed range with three dots is written with two dots and an equals sign.
-/

import KeyedRecord.Grammar.Type

namespace KeyedRecord.Grammar

/-- Whether a bar between alternatives follows. -/
def startsWithBar (phrase : Phrase) : Bool :=
  startsWithOperator "|" phrase && !startsWithOperator "||" phrase &&
    !startsWithOperator "|=" phrase

/-- Reads a member: a name, or the place of an element, written as a plain number. The flag says
whether it is a name. -/
def member : Reader (Bool × Phrase) := do
  match ← ahead with
  | .literal text :: rest =>
    match placeOf? text with
    | some place =>
      moveTo rest
      return (false, [.literal place])
    | none => fail
  | _ => return (true, (← name).phrase)
where
  /-- The plain number that an integer without a suffix denotes, if it fits 32 bits. -/
  placeOf? (text : String) : Option String :=
    let characters := text.toList
    let (base, digits) := match characters with
      | '0' :: 'x' :: rest => (16, rest)
      | '0' :: 'o' :: rest => (8, rest)
      | '0' :: 'b' :: rest => (2, rest)
      | _ => (10, characters)
    let value := digits.foldl (fun value c => do
      let value ← value
      if c == '_' then return value
      let digit ← Text.hexDigit? c
      if digit < base then return base * value + digit else none) (some 0)
    if characters.head?.any Char.isDigit then
      value.bind fun value => if value < 4294967296 then some (toString value) else none
    else none

section

variable (rules : Rules)

/-- Reads the alternatives of a pattern. A bar may stand in front of the first. -/
def patterns : Reader Pattern := do
  let leading ← operator? "|"
  let first ← rules.pattern
  if leading.isEmpty && !(← peek startsWithBar) then return first
  let more ← repeated do
    if ← peek startsWithBar then
      let bar ← operator "|"
      return some (bar ++ (← rules.pattern).phrase)
    else return none
  return ⟨leading ++ first.phrase ++ more, .other⟩

/-- Reads the bound of a range, if there is one. -/
def rangeBound : Reader (Option Phrase) := do
  let trees ← ahead
  if trees.isEmpty || startsWithOperator "|" trees || startsWithOperator "=" trees ||
      (startsWithOperator ":" trees && !startsWithColons trees) ||
      startsWithOperator "," trees || startsWithOperator ";" trees ||
      startsWithWord "if" trees then
    return none
  if startsWithLiteral trees then return some (← literal)
  if startsPathSegment trees || startsWithColons trees || startsWithOperator "<" trees then
    return some (← qualifiedPath rules true).phrase
  if startsWithWord "const" trees then
    let keyword ← word "const"
    return some (keyword ++ (← grouped .brace do
      let inner ← innerAttributes rules
      return inner ++ (← rules.statements)))
  fail

/-- Reads a range from its dots on. -/
def rangeFrom (start : Phrase) : Reader Pattern := do
  let closed ← peek fun phrase =>
    startsWithOperator "..=" phrase || startsWithOperator "..." phrase
  let dots ← if ← peek (startsWithOperator "...") then operator "..."
    else if closed then operator "..=" else operator ".."
  let written := if closed then Phrase.ofWord "..=" else dots
  match ← rangeBound rules with
  | some bound => return ⟨start ++ written ++ bound, .other⟩
  | none => if closed then fail else return ⟨start ++ written, .openRange⟩

/-- Reads a pattern that begins with a literal. -/
def literalPattern : Reader Pattern := do
  match ← rangeBound rules with
  | some start =>
    if ← peek (startsWithOperator "..") then rangeFrom rules start
    else return ⟨start, .other⟩
  | none => fail

/-- Reads a field of a record pattern, or the dots for the other fields. The flag says which. -/
def fieldPattern : Reader (Bool × Phrase) := do
  let attributes ← attributesPhrase rules
  if ← peek (startsWithOperator "..") then
    return (true, attributes ++ (← operator ".."))
  let start ← ahead
  let boxed ← word? "box"
  let reference ← word? "ref"
  let mutable ← word? "mut"
  let binds := !(boxed.isEmpty && reference.isEmpty && mutable.isEmpty)
  if binds then
    let identifier ← name
    if boxed.isEmpty then return (false, attributes ++ reference ++ mutable ++ identifier.phrase)
    else return (false, attributes ++ (← since start))
  let (named, field) ← member
  if !named || (← peek (startsWithOperator ":")) then
    let colon ← operator ":"
    return (false, attributes ++ field ++ colon ++ (← patterns rules).phrase)
  else return (false, attributes ++ field)

/-- Reads the fields of a record pattern. Nothing follows the dots. -/
def fieldPatterns : Nat → Reader Phrase
  | 0 => fail
  | steps + 1 => do
    if ← atEnd then return []
    let (isRest, field) ← fieldPattern rules
    if isRest || (← atEnd) then return field
    let comma ← operator ","
    return field ++ comma ++ (← fieldPatterns steps)

/-- Reads a pattern that begins with a path. -/
def pathPattern : Reader Pattern := do
  let qualified ← qualifiedPath rules true
  let trees ← ahead
  if !qualified.isQualified && startsWithOperator "!" trees && !startsWithOperator "!=" trees &&
      qualified.path.isPlain then
    let bang ← operator "!"
    return ⟨qualified.phrase ++ bang ++ [← anyGroup], .other⟩
  if startsWithGroup .brace trees then
    let fields ← grouped .brace do fieldPatterns rules ((← ahead).length + 1)
    return ⟨qualified.phrase ++ fields, .other⟩
  if startsWithGroup .parenthesis trees then
    let elements ← grouped .parenthesis (commaListToEnd do return (← patterns rules).phrase)
    return ⟨qualified.phrase ++ elements, .other⟩
  if startsWithOperator ".." trees then rangeFrom rules qualified.phrase
  else return ⟨qualified.phrase, .other⟩

/-- Reads a binding. -/
def bindingPattern : Reader Pattern := do
  let reference ← word? "ref"
  let mutable ← word? "mut"
  let identifier ← if ← peek (startsWithWord "self") then anyIdent else name
  let inner ← optional (startsWithOperator "@") do
    let sign ← operator "@"
    return sign ++ (← rules.pattern).phrase
  return ⟨reference ++ mutable ++ identifier.phrase ++ inner, .other⟩

/-- Reads the elements of a slice pattern, in which no range may lack a bound. -/
def sliceElement : Reader Phrase := do
  let element ← patterns rules
  match element.form with
  | .openRange => fail
  | _ => return element.phrase

/-- Reads a pattern without alternatives. -/
def pattern : Reader Pattern := do
  let trees ← ahead
  let second := trees.drop 1
  if (startsWithName trees && (startsWithColons second || startsWithOperator "!" second ||
        startsWithGroup .brace second || startsWithGroup .parenthesis second ||
        startsWithOperator ".." second)) ||
      (startsWithWord "self" trees && startsWithColons second) || startsWithColons trees ||
      startsWithOperator "<" trees || startsWithAnyWord ["Self", "super", "crate"] trees then
    pathPattern rules
  else if startsWithWord "_" trees then
    return ⟨← word "_", .other⟩
  else if startsWithWord "box" trees then
    let _ ← word "box"
    let _ ← rules.pattern
    return ⟨← since trees, .other⟩
  else if startsWithOperator "-" trees || startsWithLiteral trees ||
      startsWithWord "const" trees then
    literalPattern rules
  else if startsWithAnyWord ["ref", "mut", "self"] trees || startsWithName trees then
    bindingPattern rules
  else if startsWithOperator "&" trees then
    let sign ← operator "&"
    let mutable ← word? "mut"
    return ⟨sign ++ mutable ++ (← rules.pattern).phrase, .other⟩
  else if startsWithGroup .parenthesis trees then
    let elements ← grouped .parenthesis (commaListToEnd do return (← patterns rules).phrase)
    return ⟨elements, .other⟩
  else if startsWithGroup .bracket trees then
    return ⟨← grouped .bracket (commaListToEnd (sliceElement rules)), .other⟩
  else if startsWithOperator ".." trees && !startsWithOperator "..." trees then
    let range ← rangeFrom rules []
    match range.form with
    | .openRange => return ⟨range.phrase, .rest⟩
    | _ => return ⟨range.phrase, .openRange⟩
  else fail

end

end KeyedRecord.Grammar

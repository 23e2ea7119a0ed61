/-
**Paths and their arguments.**

A path is a chain of names. Its segments may have arguments in angle brackets: types, lifetimes,
constants, and settings or bounds of associated types. In an expression the angle bracket must
follow a double colon. The first segments may be a type of their own (`qualifiedPath`).

Arguments are written lifetimes first, whatever their order in the source.
-/

import KeyedRecord.Grammar.Rules

namespace KeyedRecord.Grammar

/-- The reserved words that may stand in a path. -/
def pathWords : List String := ["super", "self", "Self", "crate"]

/-- Whether the phrase opens with a name, or with a reserved word that may stand in a path. -/
def startsPathSegment (phrase : Phrase) : Bool :=
  startsWithName phrase || startsWithAnyWord pathWords phrase

/-- The segments of a path without arguments, from a segment on. -/
def plainSegments : Nat → Reader (List Segment)
  | 0 => fail
  | steps + 1 => do
    if !(← peek startsPathSegment) then fail
    let identifier ← anyIdent
    if ← peek startsWithColons then
      let _ ← operator "::"
      return ⟨identifier, .none⟩ :: (← plainSegments steps)
    else return [⟨identifier, .none⟩]

/-- Reads a path without arguments. -/
def plainPath : Reader Path := do
  let rooted ← operator? "::"
  return ⟨!rooted.isEmpty, ← plainSegments ((← ahead).length + 1)⟩

/-! ## Bounds -/

/-- Reads the lifetimes that a type is universal in. -/
def boundLifetimes : Reader Phrase := do
  let opening ← word "for"
  let less ← operator "<"
  let lifetimes ← commaList (startsWithOperator ">") lifetime
  return opening ++ less ++ lifetimes ++ (← operator ">")

/-- Reads the lifetimes that a type is universal in, if there are any. -/
def boundLifetimes? : Reader Phrase :=
  optional (startsWithWord "for") boundLifetimes

/-- A bound on a type, and whether it is a trait. -/
structure Bound where
  isTrait : Bool
  phrase : Phrase

section

variable (rules : Rules)

/-- Reads the result after round arguments, in which no sum of bounds may stand, and says whether
arguments of an associated type may go on after it. -/
def narrowResult : Reader (Bool × Phrase) := do
  if ← peek (startsWithOperator "->") then
    let arrow ← operator "->"
    let result ← rules.type false true
    let mayGoOn := match result with
      | .parenthesized _ => true
      | _ => false
    return (mayGoOn, arrow ++ result.phrase)
  else return (true, [])

/-- Reads arguments in round brackets with their result. -/
def roundArguments : Reader (Bool × Arguments) := do
  let inputs ← grouped .parenthesis (commaListToEnd do return (← rules.type true true).phrase)
  let (mayGoOn, result) ← narrowResult rules
  return (mayGoOn, .rounded (inputs ++ result))

/-- Whether round arguments follow, at once or after a double colon. -/
def startsRoundArguments (phrase : Phrase) : Bool :=
  startsWithGroup .parenthesis phrase ||
    (startsWithColons phrase && startsWithGroup .parenthesis (phrase.drop 2))

/-- Reads a constant among arguments: a literal or a block. -/
def constantArgument : Reader Phrase := do
  if ← peek startsWithLiteral then literal
  else grouped .brace rules.statements

/-- Replaces the arguments of the last segment. -/
def withLastArguments (segments : List Segment) (arguments : Arguments) : List Segment :=
  match segments.reverse with
  | [] => []
  | last :: before => ({ last with arguments } :: before).reverse

/-- Whether the last segment could still take round arguments. -/
def lastIsEmpty (segments : List Segment) : Bool :=
  segments.getLast?.any fun segment => segment.arguments.isEmpty

/-- Reads a bound. The flags say whether captures and constant bounds may stand here. -/
def bound (allowCapture allowConst : Bool) : Reader Bound := do
  if ← peek startsWithLifetime then
    return ⟨false, ← lifetime⟩
  if ← peek (startsWithWord "use") then
    let opening ← word "use"
    let less ← operator "<"
    let captured ← commaList (startsWithOperator ">") do
      if ← peek startsWithLifetime then lifetime
      else if ← peek (startsWithWord "Self") then word "Self"
      else return (← name).phrase
    let greater ← operator ">"
    if allowCapture then return ⟨false, opening ++ less ++ captured ++ greater⟩ else fail
  let start ← ahead
  let trait : Reader (Bool × Phrase) := do
    let mut lifetimes ← boundLifetimes?
    let conditional ← peek (startsWithGroup .bracket)
    let constant ← peek (startsWithWord "const")
    if conditional then
      let _ ← within .bracket (word "const")
      if !allowConst then fail
    else if constant then
      let _ ← word "const"
      if !allowConst then fail
    let question ← operator? "?"
    if lifetimes.isEmpty && !question.isEmpty then
      lifetimes ← boundLifetimes?
    let base ← rules.path false
    let mut segments := base.segments
    if lastIsEmpty segments && (← peek startsRoundArguments) then
      let _ ← operator? "::"
      let (_, arguments) ← roundArguments rules
      segments := withLastArguments segments arguments
    return (conditional || constant,
      question ++ lifetimes ++ Path.phrase { base with segments })
  if ← peek (startsWithGroup .parenthesis) then
    let (verbatim, phrase) ← within .parenthesis trait
    return ⟨true, ← if verbatim then since start else pure (Phrase.parenthesized phrase)⟩
  else
    let (verbatim, phrase) ← trait
    return ⟨true, ← if verbatim then since start else pure phrase⟩

/-! ## Arguments in angle brackets -/

/-- Reads one argument in angle brackets, and says whether it is a lifetime. -/
def angleArgument : Reader (Bool × Phrase) := do
  if (← peek startsWithLifetime) && !(← peekSecond (startsWithOperator "+")) then
    return (true, ← lifetime)
  if (← peek startsWithLiteral) || (← peek (startsWithGroup .brace)) then
    return (false, ← constantArgument rules)
  let type ← rules.type true true
  let setting := match type with
    | .path ⟨false, [segment]⟩ =>
      match segment.arguments with
      | .rounded _ => false
      | _ => true
    | _ => false
  if setting && (← peek (startsWithOperator "=")) then
    let equals ← operator "="
    if (← peek startsWithLiteral) || (← peek (startsWithGroup .brace)) then
      return (false, type.phrase ++ equals ++ (← constantArgument rules))
    else
      return (false, type.phrase ++ equals ++ (← rules.type true true).phrase)
  if setting && (← peek (startsWithOperator ":")) then
    let colon ← operator ":"
    let stop (phrase : Phrase) :=
      startsWithOperator "," phrase || startsWithOperator ">" phrase
    let bounds ← plusList stop do return (← bound rules false true).phrase
    return (false, type.phrase ++ colon ++ bounds)
  return (false, type.phrase)

/-- Reads arguments in angle brackets. -/
def angleArguments : Reader Arguments := do
  let colons ← operator? "::"
  let less ← operator "<"
  let arguments ← commaElements (startsWithOperator ">") (angleArgument rules)
  let greater ← operator ">"
  return .angled (colons ++ less ++ lifetimesFirst arguments ++ greater) arguments.isEmpty

/-- Reads a segment of a path. -/
def segment (inExpr : Bool) : Reader Segment := do
  if ← peek (startsWithAnyWord ["super", "self", "crate", "try"]) then
    return ⟨← anyIdent, .none⟩
  let identifier ← if ← peek (startsWithWord "Self") then anyIdent else name
  let trees ← ahead
  let direct := !inExpr && startsWithOperator "<" trees && !startsWithOperator "<=" trees &&
    !startsWithOperator "<<=" trees
  if direct || (startsWithColons trees && startsWithOperator "<" (trees.drop 2)) then
    return ⟨identifier, ← angleArguments rules⟩
  else return ⟨identifier, .none⟩

/-- Reads the segments after a segment. -/
def moreSegments (inExpr : Bool) : Nat → Reader (List Segment)
  | 0 => fail
  | steps + 1 => do
    let trees ← ahead
    if startsWithColons trees && !startsWithGroup .parenthesis (trees.drop 2) then
      let _ ← operator "::"
      let next ← segment rules inExpr
      return next :: (← moreSegments inExpr steps)
    else return []

/-- Reads a path. The flag says whether it stands in an expression. -/
def path (inExpr : Bool) : Reader Path := do
  let rooted ← operator? "::"
  let first ← segment rules inExpr
  let rest ← moreSegments rules inExpr ((← ahead).length + 1)
  return ⟨!rooted.isEmpty, first :: rest⟩

/-- Reads the segments that go on after a path. -/
def pathRest (inExpr : Bool) (before : Path) : Reader Path := do
  let more ← moreSegments rules inExpr ((← ahead).length + 1)
  return { before with segments := before.segments ++ more }

/-- A path whose first segments may be those of a type in angle brackets. -/
structure QualifiedPath where
  qualifier : Phrase
  path : Path

/-- Whether the path is qualified by a type. -/
def QualifiedPath.isQualified (qualified : QualifiedPath) : Bool :=
  !qualified.qualifier.isEmpty

/-- The phrase of the whole path. -/
def QualifiedPath.phrase (qualified : QualifiedPath) : Phrase :=
  qualified.qualifier ++ qualified.path.phrase

/-- The segments of a qualified path after its type. -/
def segmentsAfterType (inExpr : Bool) : Nat → Reader (List Segment)
  | 0 => fail
  | steps + 1 => do
    let next ← segment rules inExpr
    if ← peek startsWithColons then
      let _ ← operator "::"
      return next :: (← segmentsAfterType inExpr steps)
    else return [next]

/-- Reads a path that may be qualified by a type. -/
def qualifiedPath (inExpr : Bool) : Reader QualifiedPath := do
  if ← peek (startsWithOperator "<") then
    let less ← operator "<"
    let type ← rules.type true true
    let trait ← optional (startsWithWord "as") do
      let keyword ← word "as"
      return keyword ++ (← rules.path false).phrase
    let greater ← operator ">"
    let colons ← operator "::"
    let segments ← segmentsAfterType rules inExpr ((← ahead).length + 1)
    return ⟨less ++ type.phrase ++ trait ++ greater ++ colons, ⟨false, segments⟩⟩
  else
    return ⟨[], ← path rules inExpr⟩

/-- Reads the arguments of a method in angle brackets, after their double colon. -/
def methodArguments : Reader Phrase := do
  if ← peek startsWithColons then
    return (← angleArguments rules).phrase
  else fail

end

end KeyedRecord.Grammar

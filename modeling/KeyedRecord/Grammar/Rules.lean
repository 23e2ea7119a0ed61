/-
**What the grammar reads, and how its rules call each other.**

Types, expressions, patterns, statements and items contain each other. Each rule is written
against a table of the others (`Rules`); a table is extended by one level of nesting at a time, and
a phrase cannot nest deeper than it has tokens.

A reading keeps the phrase in normal form, and beside it only what some rule or caller asks about:
the path of a type or an expression, and whether an expression ends a statement on its own.
-/

import KeyedRecord.Grammar.Reader

namespace KeyedRecord.Grammar

/-- The arguments of a path segment: none, in angle brackets, or in round ones with a result. -/
inductive Arguments
  | none
  | angled (phrase : Phrase) (empty : Bool)
  | rounded (phrase : Phrase)

/-- One step of a path. -/
structure Segment where
  identifier : Ident
  arguments : Arguments

/-- A path of segments, which may start at the root of all names. -/
structure Path where
  rooted : Bool
  segments : List Segment

/-- The phrase of the arguments. -/
def Arguments.phrase : Arguments → Phrase
  | .none => []
  | .angled phrase _ => phrase
  | .rounded phrase => phrase

/-- Whether the arguments hold nothing, so that round brackets may still follow. -/
def Arguments.isEmpty : Arguments → Bool
  | .none => true
  | .angled _ empty => empty
  | .rounded _ => false

/-- Whether there are no arguments at all. -/
def Arguments.isNone : Arguments → Bool
  | .none => true
  | _ => false

/-- The phrase of a segment. -/
def Segment.phrase (segment : Segment) : Phrase :=
  segment.identifier.phrase ++ segment.arguments.phrase

/-- The phrase of segments, with double colons between them. -/
def Segment.phrases : List Segment → Phrase
  | [] => []
  | [segment] => segment.phrase
  | segment :: rest => segment.phrase ++ Phrase.ofWord "::" ++ Segment.phrases rest

/-- The phrase of a path. -/
def Path.phrase (path : Path) : Phrase :=
  (if path.rooted then Phrase.ofWord "::" else []) ++ Segment.phrases path.segments

/-- The path of one identifier. -/
def Path.ofIdent (identifier : Ident) : Path :=
  ⟨false, [⟨identifier, .none⟩]⟩

/-- The path's only identifier, if it is one identifier without arguments. -/
def Path.ident? (path : Path) : Option Ident :=
  match path with
  | ⟨false, [⟨identifier, .none⟩]⟩ => some identifier
  | _ => none

/-- Whether no segment has arguments. -/
def Path.isPlain (path : Path) : Bool :=
  path.segments.all fun segment => segment.arguments.isNone

/-- A type, told apart by what the rules around it ask. -/
inductive TypeExpr
  /-- A path that is not qualified by a type. -/
  | path (path : Path)
  /-- An identifier that arrived captured. -/
  | captured (identifier : Ident)
  /-- One bound that could stand in brackets in a sum of bounds. -/
  | bound (phrase : Phrase)
  /-- A type in round brackets. -/
  | parenthesized (phrase : Phrase)
  | other (phrase : Phrase)

/-- The phrase of a type. -/
def TypeExpr.phrase : TypeExpr → Phrase
  | .path whole => whole.phrase
  | .captured identifier => identifier.phrase
  | .bound phrase => phrase
  | .parenthesized phrase => phrase
  | .other phrase => phrase

/-- The type's name, if the type is a single name without arguments. -/
def TypeExpr.bareName : TypeExpr → Option Ident
  | .path whole => whole.ident?
  | .captured identifier => some identifier
  | _ => none

/-- Whether the type is a path that is not qualified by a type. -/
def TypeExpr.isUnqualifiedPath : TypeExpr → Bool
  | .path _ => true
  | .captured _ => true
  | _ => false

/-- What the rules around an expression ask about it. -/
inductive ExprForm
  /-- A text literal. -/
  | text (content : String)
  /-- A control expression or block, which needs no semicolon after it. -/
  | blockLike
  /-- A macro call in curly brackets, which needs none as a statement. -/
  | bracedMacro
  /-- A macro call in other brackets. -/
  | otherMacro
  /-- A range, to which no operator applies. -/
  | range
  /-- A comparison, which cannot be compared again. -/
  | comparison
  | other

/-- An expression. -/
structure Expr where
  phrase : Phrase
  form : ExprForm

/-- What the rules around a pattern ask about it. -/
inductive PatternForm
  /-- The two dots that stand for the rest. -/
  | rest
  /-- A range that lacks a bound. -/
  | openRange
  | other

/-- A pattern. -/
structure Pattern where
  phrase : Phrase
  form : PatternForm

/-- What an attribute says beside its path. -/
inductive AttributeArguments
  | none
  | list (delimiter : Delimiter) (content : Phrase)
  | value (phrase : Phrase)

/-- An attribute, without the number sign and its brackets. -/
structure Attribute where
  path : Path
  arguments : AttributeArguments

/-- The phrase inside an attribute's brackets. -/
def Attribute.content (attr : Attribute) : Phrase :=
  attr.path.phrase ++
    match attr.arguments with
    | .none => []
    | .list delimiter content => [.group delimiter content]
    | .value phrase => Phrase.ofWord "=" ++ phrase

/-- The phrase of an attribute on what follows it. -/
def Attribute.phrase (attr : Attribute) : Phrase :=
  Phrase.ofWord "#" ++ Phrase.bracketed attr.content

/-- The phrase of an attribute on what holds it. -/
def Attribute.innerPhrase (attr : Attribute) : Phrase :=
  Phrase.ofWords ["#", "!"] ++ Phrase.bracketed attr.content

/-- How tightly an operator binds, loosest first. -/
abbrev Precedence := Nat

/-- The rules that others call. -/
structure Rules where
  /-- A type. The flags say whether a sum of bounds may stand here, and whether arguments may
  follow a captured name. -/
  type : Bool → Bool → Reader TypeExpr
  /-- A path. The flag says whether it stands in an expression. -/
  path : Bool → Reader Path
  /-- An expression. The flag says whether a record in curly brackets may stand here. -/
  expr : Bool → Reader Expr
  /-- An operand with its operators in front and behind. -/
  operand : Bool → Reader Expr
  /-- The operators after an operand that bind at least as tightly as the precedence. -/
  operators : Bool → Precedence → Expr → Reader Expr
  /-- An expression that ends with its block where it stands as a statement. -/
  statementExpr : Reader Expr
  /-- A pattern without alternatives. -/
  pattern : Reader Pattern
  /-- The statements of a block. -/
  statements : Reader Phrase
  /-- An item that stands among statements or in a module, after its attributes. -/
  item : Phrase → Phrase → Reader Phrase
  /-- A tree of names in an import. -/
  importTree : Reader Phrase

/-- The rules where nesting has come to its end. -/
def Rules.exhausted : Rules where
  type _ _ := fail
  path _ := fail
  expr _ := fail
  operand _ := fail
  operators _ _ _ := fail
  statementExpr := fail
  pattern := fail
  statements := fail
  item _ _ := fail
  importTree := fail

end KeyedRecord.Grammar

/-
**Expressions.**

An expression is an operand with operators between it and others. Operators bind by precedence; a
comparison cannot be compared again, and nothing applies to a range. An operand is an atom with
signs in front and calls, fields, indices and question marks behind.

In some places, such as a condition, a record in curly brackets would be taken for the block that
follows. There `allowRecord` is false.

* `expr`: a whole expression.
* `statementExpr`: an expression at the start of a statement, where a block ends it.
-/

import KeyedRecord.Grammar.Pattern

namespace KeyedRecord.Grammar

namespace Precedence

/-- Binds nothing: the start of every expression. -/
def loosest : Precedence := 0
/-- Assignment, also one that computes. -/
def assignment : Precedence := 1
/-- A range. -/
def range : Precedence := 2
/-- Disjunction. -/
def disjunction : Precedence := 3
/-- Conjunction. -/
def conjunction : Precedence := 4
/-- Comparison. -/
def comparison : Precedence := 6
/-- Disjunction of bits. -/
def bitwiseDisjunction : Precedence := 7
/-- Exclusive disjunction of bits. -/
def bitwiseExclusion : Precedence := 8
/-- Conjunction of bits. -/
def bitwiseConjunction : Precedence := 9
/-- A shift of bits. -/
def shift : Precedence := 10
/-- A sum or a difference. -/
def sum : Precedence := 11
/-- A product, a quotient or a remainder. -/
def product : Precedence := 12
/-- A cast to a type. -/
def cast : Precedence := 13

end Precedence

/-- The operators between two operands with their precedences. Longer ones come first. -/
def binaryOperators : List (String × Precedence) :=
  [("<<=", Precedence.assignment), (">>=", Precedence.assignment),
   ("+=", Precedence.assignment), ("-=", Precedence.assignment), ("*=", Precedence.assignment),
   ("/=", Precedence.assignment), ("%=", Precedence.assignment), ("^=", Precedence.assignment),
   ("&=", Precedence.assignment), ("|=", Precedence.assignment),
   ("&&", Precedence.conjunction), ("||", Precedence.disjunction),
   ("<<", Precedence.shift), (">>", Precedence.shift),
   ("==", Precedence.comparison), ("<=", Precedence.comparison),
   ("!=", Precedence.comparison), (">=", Precedence.comparison),
   ("+", Precedence.sum), ("-", Precedence.sum),
   ("*", Precedence.product), ("/", Precedence.product), ("%", Precedence.product),
   ("^", Precedence.bitwiseExclusion), ("&", Precedence.bitwiseConjunction),
   ("|", Precedence.bitwiseDisjunction),
   ("<", Precedence.comparison), (">", Precedence.comparison)]

/-- The operator between two operands that follows. -/
def binaryOperator? (phrase : Phrase) : Option (String × Precedence) :=
  binaryOperators.find? fun entry => startsWithOperator entry.1 phrase

/-- Whether a plain assignment follows. -/
def startsWithAssignment (phrase : Phrase) : Bool :=
  startsWithOperator "=" phrase && !startsWithOperator "=>" phrase

/-- The precedence of the operator that follows. -/
def nextPrecedence (phrase : Phrase) : Precedence :=
  match binaryOperator? phrase with
  | some (_, precedence) => precedence
  | none =>
    if startsWithAssignment phrase then Precedence.assignment
    else if startsWithOperator ".." phrase then Precedence.range
    else if startsWithWord "as" phrase then Precedence.cast
    else Precedence.loosest

/-- Whether an expression can begin here. -/
def startsExpr (phrase : Phrase) : Bool :=
  startsWithIdent phrase || startsWithGroup .parenthesis phrase ||
    startsWithGroup .bracket phrase || startsWithGroup .brace phrase ||
    startsWithLiteral phrase ||
    (startsWithOperator "!" phrase && !startsWithOperator "!=" phrase) ||
    (startsWithOperator "-" phrase && !startsWithOperator "-=" phrase &&
      !startsWithOperator "->" phrase) ||
    (startsWithOperator "*" phrase && !startsWithOperator "*=" phrase) ||
    (startsWithOperator "|" phrase && !startsWithOperator "|=" phrase) ||
    (startsWithOperator "&" phrase && !startsWithOperator "&=" phrase) ||
    startsWithOperator ".." phrase ||
    (startsWithOperator "<" phrase && !startsWithOperator "<=" phrase &&
      !startsWithOperator "<<=" phrase) ||
    startsWithColons phrase || startsWithLifetime phrase || startsWithOperator "#" phrase

/-- Whether a half-open range ends here, without an upper bound. -/
def endsRange (allowRecord : Bool) (phrase : Phrase) : Bool :=
  phrase.isEmpty || startsWithOperator "," phrase || startsWithOperator ";" phrase ||
    (startsWithOperator "." phrase && !startsWithOperator ".." phrase) ||
    startsWithOperator "?" phrase || startsWithOperator "=>" phrase ||
    (!allowRecord && startsWithGroup .brace phrase) ||
    ["=", "+", "/", "%", "^", ">", "<=", "!=", "-=", "*=", "&=", "|=", "<<="].any
      (fun operator => startsWithOperator operator phrase) ||
    startsWithWord "as" phrase

/-- Whether a part of the operand behind it follows a cast, which no such part may. -/
def continuesCast (phrase : Phrase) : Bool :=
  (startsWithOperator "." phrase && !startsWithOperator ".." phrase) ||
    startsWithOperator "?" phrase || startsWithGroup .bracket phrase ||
    startsWithGroup .parenthesis phrase

/-- Whether the expression is a range. -/
def Expr.isRange (expr : Expr) : Bool :=
  match expr.form with
  | .range => true
  | _ => false

/-- Whether the expression is a comparison. -/
def Expr.isComparison (expr : Expr) : Bool :=
  match expr.form with
  | .comparison => true
  | _ => false

/-- Whether the expression is a control expression or a block. -/
def Expr.isBlockLike (expr : Expr) : Bool :=
  match expr.form with
  | .blockLike => true
  | _ => false

/-- Whether the expression needs a semicolon when another statement follows. -/
def Expr.needsSemicolon (expr : Expr) : Bool :=
  match expr.form with
  | .blockLike => false
  | .bracedMacro => false
  | _ => true

/-- Whether the expression ends with a group in curly brackets. -/
def Expr.endsWithBrace (expr : Expr) : Bool :=
  match expr.phrase.getLast? with
  | some (.group .brace _) => true
  | _ => false

section

variable (rules : Rules)

/-! ## Operators -/

/-- The tighter operators after a right operand. -/
def rightOperators (allowRecord : Bool) (precedence : Precedence) : Nat → Expr → Reader Expr
  | 0, _ => fail
  | steps + 1, operand => do
    let trees ← ahead
    let next := nextPrecedence trees
    if next > precedence ||
        (next == precedence && precedence == Precedence.assignment) then
      let longer ← rules.operators allowRecord next operand
      if (← ahead).length == trees.length then return longer
      else rightOperators allowRecord precedence steps longer
    else return operand

/-- Reads a right operand with the operators that bind tighter. -/
def rightOperand (allowRecord : Bool) (precedence : Precedence) : Reader Expr := do
  let operand ← rules.operand allowRecord
  rightOperators rules allowRecord precedence ((← ahead).length + 1) operand

/-- Reads a range from its dots on. -/
def rangeExpr (allowRecord : Bool) (start : Phrase) : Reader Expr := do
  let trees ← ahead
  let closed := startsWithOperator "..=" trees
  if !closed && startsWithOperator "..." trees then fail
  let dots ← operator (if closed then "..=" else "..")
  if !closed && (← peek (endsRange allowRecord)) then
    return ⟨start ++ dots, .range⟩
  else
    let stop ← rightOperand rules allowRecord Precedence.range
    return ⟨start ++ dots ++ stop.phrase, .range⟩

/-- The operators after an operand that bind at least as tightly as the precedence. The first
argument bounds their number. -/
def operatorsAtMost (allowRecord : Bool) (base : Precedence) : Nat → Expr → Reader Expr
  | 0, _ => fail
  | steps + 1, left => do
    let trees ← ahead
    if left.isRange then return left
    match binaryOperator? trees with
    | some (text, precedence) =>
      if precedence < base then return left
      if precedence == Precedence.comparison && left.isComparison then fail
      let sign ← operator text
      let right ← rightOperand rules allowRecord precedence
      let form := if precedence == Precedence.comparison then .comparison else .other
      operatorsAtMost allowRecord base steps ⟨left.phrase ++ sign ++ right.phrase, form⟩
    | none =>
      if base ≤ Precedence.assignment && startsWithAssignment trees then
        let sign ← operator "="
        let right ← rightOperand rules allowRecord Precedence.assignment
        operatorsAtMost allowRecord base steps ⟨left.phrase ++ sign ++ right.phrase, .other⟩
      else if base ≤ Precedence.range && startsWithOperator ".." trees then
        operatorsAtMost allowRecord base steps (← rangeExpr rules allowRecord left.phrase)
      else if base ≤ Precedence.cast && startsWithWord "as" trees then
        let keyword ← word "as"
        let type ← rules.type false false
        if ← peek continuesCast then fail
        operatorsAtMost allowRecord base steps ⟨left.phrase ++ keyword ++ type.phrase, .other⟩
      else return left

/-- The operators after an operand that bind at least as tightly as the precedence. -/
def operators (allowRecord : Bool) (base : Precedence) (left : Expr) : Reader Expr := do
  operatorsAtMost rules allowRecord base ((← ahead).length + 1) left

/-- Reads an expression. -/
def expr (allowRecord : Bool) : Reader Expr := do
  rules.operators allowRecord Precedence.loosest (← rules.operand allowRecord)

/-- Reads an expression in which a record in curly brackets may stand, as a phrase. -/
def anyExpr : Reader Phrase := do
  return (← rules.expr true).phrase

/-! ## Blocks and control -/

/-- Reads a block. -/
def block : Reader Phrase :=
  grouped .brace rules.statements

/-- Reads a block that may open with attributes on itself. -/
def attributedBlock : Reader Phrase :=
  grouped .brace do
    let inner ← innerAttributes rules
    return inner ++ (← rules.statements)

/-- Reads the alternatives of a conditional, from the keyword on. The argument bounds their
number. -/
def conditional : Nat → Reader Phrase
  | 0 => fail
  | steps + 1 => do
    let keyword ← word "if"
    let condition ← rules.expr false
    let consequence ← block rules
    let taken := keyword ++ condition.phrase ++ consequence
    if ← peek (startsWithWord "else") then
      let other ← word "else"
      if ← peek (startsWithWord "if") then
        return taken ++ other ++ (← conditional steps)
      else return taken ++ other ++ (← block rules)
    else return taken

/-- Reads one arm of a match. An arm whose expression is no block ends with a comma, unless it is
the last. -/
def arm : Reader Phrase := do
  let attributes ← attributesPhrase rules
  let alternatives ← patterns rules
  let guard ← optional (startsWithWord "if") do
    let keyword ← word "if"
    return keyword ++ (← anyExpr rules)
  let arrow ← operator "=>"
  let body ← rules.statementExpr
  let comma ← if body.isBlockLike || (← atEnd) then operator? "," else operator ","
  return attributes ++ alternatives.phrase ++ guard ++ arrow ++ body.phrase ++ comma

/-- Reads a match. -/
def matchExpr : Reader Phrase := do
  let attributes ← attributesPhrase rules
  let keyword ← word "match"
  let subject ← rules.expr false
  let arms ← grouped .brace do
    let inner ← innerAttributes rules
    let arms ← repeated do
      if ← atEnd then return none else return some (← arm rules)
    return inner ++ arms
  return attributes ++ keyword ++ subject.phrase ++ arms

/-- Reads a loop, after its label. -/
def loopExpr : Reader Phrase := do
  let attributes ← attributesPhrase rules
  if ← peek (startsWithWord "while") then
    let keyword ← word "while"
    let condition ← rules.expr false
    return attributes ++ keyword ++ condition.phrase ++ (← attributedBlock rules)
  else if ← peek (startsWithWord "for") then
    let keyword ← word "for"
    let alternatives ← patterns rules
    let middle ← word "in"
    let source ← rules.expr false
    return attributes ++ keyword ++ alternatives.phrase ++ middle ++ source.phrase ++
      (← attributedBlock rules)
  else
    let keyword ← word "loop"
    return attributes ++ keyword ++ (← attributedBlock rules)

/-- Reads a loop or block with a label. -/
def labelled : Reader Phrase := do
  let label ← lifetime
  let colon ← operator ":"
  if ← peek (startsWithAnyWord ["while", "for", "loop"]) then
    return label ++ colon ++ (← loopExpr rules)
  else return label ++ colon ++ (← attributedBlock rules)

/-- Reads an expression if one can begin here. -/
def operandIfAny (allowRecord : Bool) : Reader Phrase := do
  if ← peek startsExpr then return (← rules.expr allowRecord).phrase else return []

/-- Reads a break with its label and value. -/
def breakExpr (allowRecord : Bool) : Reader Phrase := do
  let keyword ← word "break"
  let label ← optional startsWithLifetime lifetime
  if !label.isEmpty && (← peek (startsWithOperator ":")) then fail
  if (← peek startsExpr) && (allowRecord || !(← peek (startsWithGroup .brace))) then
    return keyword ++ label ++ (← rules.expr allowRecord).phrase
  else return keyword ++ label

/-! ## Closures -/

/-- Reads one parameter of a closure. -/
def closureParameter : Reader Phrase := do
  let attributes ← attributesPhrase rules
  let binding ← rules.pattern
  let type ← optional (startsWithOperator ":") do
    let colon ← operator ":"
    return colon ++ (← rules.type true true).phrase
  return attributes ++ binding.phrase ++ type

/-- Reads a closure. With a result type its body is a block. -/
def closure (allowRecord : Bool) : Reader Phrase := do
  let lifetimes ← boundLifetimes?
  let constant ← word? "const"
  let fixed ← word? "static"
  let delayed ← word? "async"
  let moving ← word? "move"
  let opening ← operator "|"
  let inputs ← commaList (startsWithOperator "|") (closureParameter rules)
  let closing ← operator "|"
  let head := lifetimes ++ constant ++ fixed ++ delayed ++ moving ++ opening ++ inputs ++ closing
  if ← peek (startsWithOperator "->") then
    let arrow ← operator "->"
    let type ← rules.type true true
    return head ++ arrow ++ type.phrase ++ (← block rules)
  else return head ++ (← rules.expr allowRecord).phrase

/-! ## Atoms -/

/-- Reads a field of a record in curly brackets. -/
def recordField : Reader Phrase := do
  let attributes ← attributesPhrase rules
  let (named, field) ← member
  if !named || (← peek (startsWithOperator ":")) then
    let colon ← operator ":"
    return attributes ++ field ++ colon ++ (← anyExpr rules)
  else return attributes ++ field

/-- Reads the fields of a record in curly brackets. The record that gives the other fields comes
last, after two dots. -/
def recordFields : Nat → Reader Phrase
  | 0 => fail
  | steps + 1 => do
    if ← atEnd then return []
    if ← peek (startsWithOperator "..") then
      let dots ← operator ".."
      if ← atEnd then return dots else return dots ++ (← anyExpr rules)
    let field ← recordField rules
    if ← atEnd then return field
    let comma ← operator ","
    return field ++ comma ++ (← recordFields steps)

/-- Reads what a path goes on to: a macro call, a record in curly brackets, or nothing. -/
def afterPath (qualified : QualifiedPath) (allowRecord : Bool) : Reader Expr := do
  let trees ← ahead
  if !qualified.isQualified && startsWithOperator "!" trees && !startsWithOperator "!=" trees &&
      qualified.path.isPlain then
    let bang ← operator "!"
    let input ← anyGroup
    let form := match input with
      | .group .brace _ => .bracedMacro
      | _ => .otherMacro
    return ⟨qualified.phrase ++ bang ++ [input], form⟩
  if allowRecord && startsWithGroup .brace trees then
    let fields ← grouped .brace do recordFields rules ((← ahead).length + 1)
    return ⟨qualified.phrase ++ fields, .other⟩
  return ⟨qualified.phrase, .other⟩

/-- Reads a captured identifier as an atom. A path may go on after it. -/
def capturedAtom (allowRecord : Bool) : Reader Expr := do
  let identifier ← anyIdent
  if identifier.isName || pathWords.contains identifier.name then
    let whole ← pathRest rules true (Path.ofIdent identifier)
    afterPath rules ⟨[], whole⟩ allowRecord
  else on identifier.phrase (rules.expr true)

/-- Reads an expression or a tuple in round brackets. -/
def roundAtom : Reader Phrase :=
  grouped .parenthesis (commaListToEnd (anyExpr rules))

/-- Reads an array, by its elements or by one element and a length. -/
def squareAtom : Reader Phrase :=
  grouped .bracket do
    if ← atEnd then return []
    let first ← anyExpr rules
    if ← peek (startsWithOperator ";") then
      let mark ← operator ";"
      return first ++ mark ++ (← anyExpr rules)
    else if ← atEnd then return first
    else
      let comma ← operator ","
      return first ++ comma ++ (← commaListToEnd (anyExpr rules))

/-- Whether a closure follows. -/
def startsClosure (trees : Phrase) : Bool :=
  let second := trees.drop 1
  let third := trees.drop 2
  startsWithOperator "|" trees || startsWithWord "move" trees ||
    (startsWithWord "for" trees && startsWithOperator "<" second &&
      (startsWithLifetime third || startsWithOperator ">" third)) ||
    (startsWithWord "const" trees && !startsWithGroup .brace second) ||
    startsWithWord "static" trees ||
    (startsWithWord "async" trees &&
      (startsWithOperator "|" second || startsWithWord "move" second))

/-- Reads an atom. -/
def atom (allowRecord : Bool) : Reader Expr := do
  let trees ← ahead
  let second := trees.drop 1
  let third := trees.drop 2
  if startsWithCapture trees then
    capturedAtom rules allowRecord
  else if startsWithLiteral trees then
    let phrase ← literal
    let form := match phrase with
      | [.literal text] =>
        match Literal.content? text with
        | some content => .text content
        | none => .other
      | _ => .other
    return ⟨phrase, form⟩
  else if startsWithWord "async" trees && (startsWithGroup .brace second ||
      (startsWithWord "move" second && startsWithGroup .brace third)) then
    let keyword ← word "async"
    let moving ← word? "move"
    return ⟨keyword ++ moving ++ (← block rules), .other⟩
  else if startsWithWord "try" trees && startsWithGroup .brace second then
    let keyword ← word "try"
    return ⟨keyword ++ (← block rules), .blockLike⟩
  else if startsClosure trees then
    return ⟨← closure rules allowRecord, .other⟩
  else if startsWithWord "builtin" trees && startsWithOperator "#" second then
    let _ ← word "builtin"
    let _ ← operator "#"
    let _ ← name
    if !(← peek (startsWithGroup .parenthesis)) then fail
    let _ ← anyGroup
    return ⟨← since trees, .other⟩
  else if startsPathSegment trees || startsWithColons trees || startsWithOperator "<" trees ||
      (startsWithWord "try" trees &&
        (startsWithOperator "!" second || startsWithColons second)) then
    afterPath rules (← qualifiedPath rules true) allowRecord
  else if startsWithGroup .parenthesis trees then
    return ⟨← roundAtom rules, .other⟩
  else if startsWithWord "break" trees then
    return ⟨← breakExpr rules allowRecord, .other⟩
  else if startsWithWord "continue" trees then
    let keyword ← word "continue"
    return ⟨keyword ++ (← optional startsWithLifetime lifetime), .other⟩
  else if startsWithWord "return" trees then
    let keyword ← word "return"
    return ⟨keyword ++ (← operandIfAny rules true), .other⟩
  else if startsWithWord "become" trees then
    let _ ← word "become"
    let _ ← rules.expr true
    return ⟨← since trees, .other⟩
  else if startsWithGroup .bracket trees then
    return ⟨← squareAtom rules, .other⟩
  else if startsWithWord "let" trees then
    let keyword ← word "let"
    let alternatives ← patterns rules
    let equals ← operator "="
    let operand ← rules.operand allowRecord
    let value ← rules.operators allowRecord Precedence.comparison operand
    return ⟨keyword ++ alternatives.phrase ++ equals ++ value.phrase, .other⟩
  else if startsWithWord "if" trees then
    return ⟨← conditional rules (trees.length + 1), .blockLike⟩
  else if startsWithAnyWord ["while", "for", "loop"] trees then
    return ⟨← loopExpr rules, .blockLike⟩
  else if startsWithWord "match" trees then
    return ⟨← matchExpr rules, .blockLike⟩
  else if startsWithWord "yield" trees then
    let keyword ← word "yield"
    return ⟨keyword ++ (← operandIfAny rules true), .other⟩
  else if startsWithWord "unsafe" trees then
    let keyword ← word "unsafe"
    return ⟨keyword ++ (← attributedBlock rules), .blockLike⟩
  else if startsWithWord "const" trees then
    let keyword ← word "const"
    return ⟨keyword ++ (← attributedBlock rules), .blockLike⟩
  else if startsWithGroup .brace trees then
    return ⟨← attributedBlock rules, .blockLike⟩
  else if startsWithOperator ".." trees then
    rangeExpr rules allowRecord []
  else if startsWithWord "_" trees then
    return ⟨← word "_", .other⟩
  else if startsWithLifetime trees then
    return ⟨← labelled rules, .blockLike⟩
  else fail

/-! ## Operands -/

/-- The places that a number with a point names, one after the other, and whether a point ends
it. -/
def placesOf? (text : String) : Option (Phrase × Bool) := do
  let characters := text.toList
  let ended := characters.getLast? == some '.'
  let parts := (String.ofList (if ended then characters.dropLast else characters)).splitOn "."
  let places ← parts.mapM fun part => do
    if Literal.isInteger part then member.placeOf? part else none
  return (places.flatMap fun place => [.punct '.' .alone, .literal place], ended)

/-- Reads what stands behind a dot, and the arguments of a method with it. -/
def afterDot : Reader Phrase := do
  let dot : Phrase := [.punct '.' .alone]
  let places ← do
    match ← ahead with
    | .literal text :: rest =>
      if Literal.isFraction text then
        match placesOf? text with
        | some (places, ended) =>
          moveTo rest
          pure (some (places, ended))
        | none => fail
      else pure none
    | _ => pure none
  if let some (places, false) := places then return places
  let before := match places with
    | some (places, _) => places
    | none => []
  if ← peek (startsWithWord "await") then
    return before ++ dot ++ (← word "await")
  let (named, field) ← member
  let arguments ← if named && (← peek startsWithColons) then methodArguments rules else pure []
  if named && (!arguments.isEmpty || (← peek (startsWithGroup .parenthesis))) then
    return before ++ dot ++ field ++ arguments ++ (← roundAtom rules)
  else return before ++ dot ++ field

/-- Reads what stands behind an operand. -/
def trailersAtMost : Nat → Expr → Reader Expr
  | 0, _ => fail
  | steps + 1, base => do
    let trees ← ahead
    if startsWithGroup .parenthesis trees then
      trailersAtMost steps ⟨base.phrase ++ (← roundAtom rules), .other⟩
    else if startsWithOperator "." trees && !startsWithOperator ".." trees && !base.isRange then
      let _ ← operator "."
      trailersAtMost steps ⟨base.phrase ++ (← afterDot rules), .other⟩
    else if startsWithGroup .bracket trees then
      let index ← grouped .bracket (anyExpr rules)
      trailersAtMost steps ⟨base.phrase ++ index, .other⟩
    else if startsWithOperator "?" trees && !base.isRange then
      trailersAtMost steps ⟨base.phrase ++ (← operator "?"), .other⟩
    else return base

/-- Reads what stands behind an operand. -/
def trailers (base : Expr) : Reader Expr := do
  trailersAtMost rules ((← ahead).length + 1) base

/-- Reads attributes in front of an expression. -/
def exprAttributes : Reader Phrase := do
  if ← peek (startsWithOperator "#") then attributesPhrase rules else return []

/-- Reads an operand with its operators in front and behind. -/
def operand (allowRecord : Bool) : Reader Expr := do
  let attributes ← exprAttributes rules
  let trees ← ahead
  if startsWithCapture trees then
    let base ← trailers rules (← atom rules allowRecord)
    return { base with phrase := attributes ++ base.phrase }
  else if startsWithOperator "&" trees then
    let sign ← operator "&"
    let second ← ahead
    let raw := startsWithWord "raw" second && startsWithAnyWord ["mut", "const"] (second.drop 1)
    let place ← if raw then word "raw" else pure []
    let mutable ← word? "mut"
    let constant ← if raw && mutable.isEmpty then word "const" else pure []
    let inner ← rules.operand allowRecord
    return ⟨attributes ++ sign ++ place ++ mutable ++ constant ++ inner.phrase, .other⟩
  else if startsWithOperator "*" trees || startsWithOperator "!" trees ||
      startsWithOperator "-" trees then
    let sign ← if startsWithOperator "*" trees then operator "*"
      else if startsWithOperator "!" trees then operator "!" else operator "-"
    let inner ← rules.operand allowRecord
    return ⟨attributes ++ sign ++ inner.phrase, .other⟩
  else
    let base ← trailers rules (← atom rules allowRecord)
    if base.isRange && !attributes.isEmpty then fail
    return { base with phrase := attributes ++ base.phrase }

/-- Reads an expression that ends with its block where it stands as a statement, unless a dot or a
question mark goes on. -/
def statementExpr : Reader Expr := do
  let attributes ← exprAttributes rules
  let trees ← ahead
  let second := trees.drop 1
  let third := trees.drop 2
  let lifetimes := startsWithWord "for" trees && startsWithOperator "<" second &&
    (startsWithLifetime third || startsWithOperator ">" third)
  let head ←
    if startsWithCapture trees then do
      let base ← atom rules true
      if base.isBlockLike then pure base else trailers rules base
    else if (startsWithAnyWord ["if", "while", "for", "loop", "match", "unsafe"] trees &&
          !lifetimes) ||
        (startsWithAnyWord ["try", "const"] trees && startsWithGroup .brace second) ||
        startsWithGroup .brace trees || startsWithLifetime trees then
      atom rules true
    else rules.operand true
  let head : Expr := { head with phrase := attributes ++ head.phrase }
  if !head.isBlockLike then
    rules.operators true Precedence.loosest head
  else
    let next ← ahead
    if (startsWithOperator "." next && !startsWithOperator ".." next) ||
        startsWithOperator "?" next then
      rules.operators true Precedence.loosest (← trailers rules head)
    else return head

end

end KeyedRecord.Grammar

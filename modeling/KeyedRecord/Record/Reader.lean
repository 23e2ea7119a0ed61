/-
**The dialect of records.**

A record is read from a phrase item by item. Where an item begins with `fn`, `const`, `async` or
`unsafe`, after its attributes and visibility, it is an item of an implementation; otherwise it is
a member. A member without an accessor block ends with a comma or with the body; a comma after an
accessor block may be left out.

Types, initial values, statements and items are read by a grammar that the dialect is given
(`Fragments`), and it adds no rule to them.

* `Record.ofPhrase?`: the record that a phrase declares, or why it declares none.
* `RecordError.message`: the words for each cause.
-/

import KeyedRecord.Record.Basic
import KeyedRecord.Grammar.Language
import KeyedRecord.Token.Lexer

namespace KeyedRecord

open Grammar

/-- Why a phrase is no record. -/
inductive RecordError
  /-- It breaks a rule of the grammar around the dialect. -/
  | malformed
  /-- The record has parameters. -/
  | generic
  /-- No body of named members follows the name. -/
  | withoutNamedMembers (atEnd : Bool)
  /-- Something follows the record. -/
  | several
  /-- A computed member has an initial value. -/
  | computedWithInitial
  /-- Among the observers stands something else, or one of them twice. -/
  | unexpectedObserver
  /-- Something follows the block of a getter. -/
  | afterGetter
deriving DecidableEq, Repr

/-- The words for a cause that the dialect itself names. -/
def RecordError.message : RecordError → Option String
  | .malformed => none
  | .generic => some "codable_block! does not support generic records"
  | .withoutNamedMembers atEnd =>
    some ((if atEnd then "unexpected end of input, " else "") ++
      "codable_block! expects a record with named members")
  | .several => some "codable_block! expects a single record"
  | .computedWithInitial => some "computed member cannot have an initial value"
  | .unexpectedObserver => some "expected a single `will_set` or `did_set` observer"
  | .afterGetter => some "unexpected tokens after `get` accessor"

/-- A reader that can fail for a cause of the dialect. -/
abbrev RecordReader (α : Type) := StateT Cursor (Except RecordError) α

/-- A reader of the grammar as a reader of the dialect. -/
def RecordReader.ofGrammar {α : Type} (reader : Reader α) : RecordReader α := fun cursor =>
  match reader.run cursor with
  | .ok result => .ok result
  | .error _ => .error .malformed

instance {α : Type} : Coe (Reader α) (RecordReader α) where
  coe := RecordReader.ofGrammar

/-- The readers of what a record contains. -/
structure Fragments where
  attributes : Reader (List Attribute)
  visibility : Reader Phrase
  type : Reader TypeExpr
  /-- An expression in which no record in curly brackets stands unprotected. -/
  initial : Reader Phrase
  /-- Statements to the end of their block. -/
  statements : Reader Phrase
  item : Reader ImplItem

/-- The readers that the rules of the grammar give. -/
def Fragments.ofRules (rules : Rules) : Fragments where
  attributes := Grammar.attributes rules
  visibility := Grammar.visibility
  type := rules.type true true
  initial := do return (← rules.expr false).phrase
  statements := rules.statements
  item := Grammar.implItem rules

/-- What stands in the braces after a member. -/
inductive Accessor
  | getter (body : Phrase)
  | observers (observers : Observers)

/-- Reads a group in curly brackets by a reader of its content. -/
def inBraces {α : Type} (reader : RecordReader α) : RecordReader α := do
  match ← get with
  | ⟨.group .brace content :: rest, leftover⟩ =>
    set (⟨content, leftover⟩ : Cursor)
    let result ← reader
    let inside ← get
    set (⟨rest, inside.leftover || !inside.trees.isEmpty⟩ : Cursor)
    return result
  | _ => throw .malformed

/-- Whether the phrase opens with the word and a group in curly brackets. -/
def startsWithBlock (keyword : String) (phrase : Phrase) : Bool :=
  startsWithWord keyword phrase && startsWithGroup .brace (phrase.drop 1)

section

variable (fragments : Fragments)

/-- Reads the word of an observer and its block. -/
def Observers.readBlock (keyword : String) : RecordReader Phrase := do
  let _ ← (word keyword : RecordReader Phrase)
  return Phrase.braced (← inBraces fragments.statements)

/-- Reads one more observer. -/
def Observers.readNext (before : Observers) : RecordReader Observers := do
  if (← (peek (startsWithWord "will_set") : RecordReader Bool)) && before.willSet.isNone then
    return { before with willSet := some (← Observers.readBlock fragments "will_set") }
  else if (← (peek (startsWithWord "did_set") : RecordReader Bool)) && before.didSet.isNone then
    return { before with didSet := some (← Observers.readBlock fragments "did_set") }
  else throw .unexpectedObserver

/-- Reads the observers of a block to its end, each at most once. -/
def Observers.read : RecordReader Observers := do
  let first ← Observers.readNext fragments .none
  if ← (atEnd : RecordReader Bool) then return first
  let second ← Observers.readNext fragments first
  if ← (atEnd : RecordReader Bool) then return second
  throw .unexpectedObserver

/-- Reads what stands in the braces after a member. -/
def Accessor.read : RecordReader Accessor := do
  let trees ← (ahead : RecordReader Phrase)
  if startsWithBlock "will_set" trees || startsWithBlock "did_set" trees then
    return .observers (← Observers.read fragments)
  else if startsWithBlock "get" trees then
    let _ ← (word "get" : RecordReader Phrase)
    let body ← inBraces fragments.statements
    if ← (atEnd : RecordReader Bool) then return .getter body else throw .afterGetter
  else return .getter (← (fragments.statements : RecordReader Phrase))

/-- How a member comes by its value, from its initial value and what stands in its braces. -/
def MemberForm.of? (initial : Option Phrase) : Option Accessor → Except RecordError MemberForm
  | none => .ok (.stored initial)
  | some (.observers observers) => .ok (.observed initial observers)
  | some (.getter body) =>
    match initial with
    | none => .ok (.computed body)
    | some _ => .error .computedWithInitial

/-- Reads the comma after a member. -/
def readMemberEnd (accessor : Option Accessor) : RecordReader Unit := do
  if accessor.isSome then
    let _ ← (operator? "," : RecordReader Phrase)
  else if !(← (atEnd : RecordReader Bool)) then
    let _ ← (operator "," : RecordReader Phrase)

/-- Reads a member. -/
def Member.read : RecordReader Member := do
  let attributes ← (fragments.attributes : RecordReader (List Attribute))
  let visibility ← (fragments.visibility : RecordReader Phrase)
  let name ← (Grammar.name : RecordReader Ident)
  let _ ← (operator ":" : RecordReader Phrase)
  let type ← (fragments.type : RecordReader TypeExpr)
  let initial ← if ← (peek (startsWithOperator "=") : RecordReader Bool) then
      let _ ← (operator "=" : RecordReader Phrase)
      some <$> (fragments.initial : RecordReader Phrase)
    else pure none
  let accessor ← if ← (peek (startsWithGroup .brace) : RecordReader Bool) then
      some <$> inBraces (Accessor.read fragments)
    else pure none
  let form ← MemberForm.of? initial accessor
  readMemberEnd accessor
  return { attributes, visibility, name, type, form }

/-- The words with which an item of an implementation begins. -/
def itemWords : List String := ["fn", "const", "async", "unsafe"]

/-- Reads what stands in the body of a record. -/
def BodyItem.read : RecordReader BodyItem := do
  let start ← get
  let _ ← (fragments.attributes : RecordReader (List Attribute))
  let _ ← (fragments.visibility : RecordReader Phrase)
  let isItem ← (peek (startsWithAnyWord itemWords) : RecordReader Bool)
  set start
  if isItem then
    return .item (← (fragments.item : RecordReader ImplItem))
  else return .member (← Member.read fragments)

/-- Reads the items of a body to its end. Each item takes at least one tree. -/
def BodyItem.readAll (cursor : Cursor) : Except RecordError (List BodyItem × Cursor) :=
  if cursor.trees.isEmpty then .ok ([], cursor)
  else
    match (BodyItem.read fragments).run cursor with
    | .error error => .error error
    | .ok (first, next) =>
      if next.trees.length < cursor.trees.length then
        match BodyItem.readAll next with
        | .error error => .error error
        | .ok (items, last) => .ok (first :: items, last)
      else .error .malformed
termination_by cursor.trees.length

/-- Reads a record. -/
def Record.read : RecordReader Record := do
  let attributes ← (fragments.attributes : RecordReader (List Attribute))
  let visibility ← (fragments.visibility : RecordReader Phrase)
  let _ ← (word "struct" : RecordReader Phrase)
  let name ← (Grammar.name : RecordReader Ident)
  let trees ← (ahead : RecordReader Phrase)
  if startsWithOperator "<" trees then throw .generic
  if !startsWithGroup .brace trees then throw (.withoutNamedMembers trees.isEmpty)
  let items ← inBraces (BodyItem.readAll fragments)
  if !(← (atEnd : RecordReader Bool)) then throw .several
  return { attributes, visibility, name, items }

/-- The record that a phrase declares, by the given readers. -/
def Record.ofPhraseWith? (phrase : Phrase) : Except RecordError Record :=
  match (Record.read fragments).run ⟨phrase, false⟩ with
  | .error error => .error error
  | .ok (record, cursor) => if cursor.leftover then .error .malformed else .ok record

end

/-- The record that a phrase declares. -/
def Record.ofPhrase? (phrase : Phrase) : Except RecordError Record :=
  Record.ofPhraseWith? (Fragments.ofRules (Rules.forPhrase phrase)) phrase

/-- The record that a source text declares. -/
def Record.ofSource? (source : String) : Except RecordError Record :=
  match Phrase.ofSource? source with
  | none => .error .malformed
  | some phrase => Record.ofPhrase? phrase

end KeyedRecord

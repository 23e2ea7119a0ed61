/-
**The dialect of records, as rules.**

Which trees spell a record, as rules that do not say how to read them. What the dialect only embeds
(types, initial values, statements, items of an implementation) is spelled by whatever the grammar
reads as such up to what follows it, so the rules name what follows.

* `SpellsForm`: what stands behind the type of a member, with its comma.
* `SpellsItem`, `SpellsBody`: members and items of an implementation, in any number and order.
* `SpellsRecord`: a whole record.
* `SpellsBody.not_startsWithComma`: no body opens with a comma, so that a comma behind an accessor
  block is never in doubt.
-/

import KeyedRecord.Proofs.Grammar.Heading

namespace KeyedRecord

open Grammar

section

variable (rules : Rules)

/-! ### What stands behind the type of a member -/

/-- In front of the rest, the trees spell an initial value, or that there is none. -/
inductive SpellsInitial (rest : Phrase) : Phrase → Option Phrase → Prop
  | absent : SpellsInitial rest [] none
  | present (spacing : Spacing) {phrase : Phrase} {expr : Expr} :
      Takes (rules.expr false) phrase rest expr →
      SpellsInitial rest (.punct '=' spacing :: phrase) (some expr.phrase)

/-- The trees spell a word and a block of statements. -/
inductive SpellsBlock (keyword : String) : Phrase → Phrase → Prop
  | intro (captured : Bool) {content statements : Phrase} :
      Takes rules.statements content [] statements →
      SpellsBlock keyword [.ident (Ident.plain keyword) captured, .group .brace content] statements

/-- The trees spell one observer, or both in either order. -/
inductive SpellsObservers : Phrase → Observers → Prop
  | willSet {phrase before : Phrase} :
      SpellsBlock rules "will_set" phrase before →
      SpellsObservers phrase ⟨some (Phrase.braced before), none⟩
  | didSet {phrase after : Phrase} :
      SpellsBlock rules "did_set" phrase after →
      SpellsObservers phrase ⟨none, some (Phrase.braced after)⟩
  | willSetFirst {first second before after : Phrase} :
      SpellsBlock rules "will_set" first before → SpellsBlock rules "did_set" second after →
      SpellsObservers (first ++ second) ⟨some (Phrase.braced before), some (Phrase.braced after)⟩
  | didSetFirst {first second before after : Phrase} :
      SpellsBlock rules "did_set" first after → SpellsBlock rules "will_set" second before →
      SpellsObservers (first ++ second) ⟨some (Phrase.braced before), some (Phrase.braced after)⟩

/-- The trees spell a getter: its bare statements, if they do not look like another accessor, or
the statements in a block of their own. -/
inductive SpellsGetter : Phrase → Phrase → Prop
  | bare {phrase statements : Phrase} :
      Takes rules.statements phrase [] statements →
      (∀ keyword ∈ ["will_set", "did_set", "get"], startsWithBlock keyword phrase = false) →
      SpellsGetter phrase statements
  | block {phrase statements : Phrase} :
      SpellsBlock rules "get" phrase statements → SpellsGetter phrase statements

/-- A comma that need not be there. -/
inductive IsOptionalComma : Phrase → Prop
  | absent : IsOptionalComma []
  | present (spacing : Spacing) : IsOptionalComma [.punct ',' spacing]

/-- In front of the rest, a comma that may only be missing where nothing follows. -/
inductive IsComma : Phrase → Phrase → Prop
  | present (spacing : Spacing) (rest : Phrase) : IsComma rest [.punct ',' spacing]
  | atEnd : IsComma [] []

/-- In front of the rest, the trees spell how a member comes by its value. -/
inductive SpellsForm (rest : Phrase) : Phrase → MemberForm → Prop
  | stored {phrase comma : Phrase} {initial : Option Phrase} :
      SpellsInitial rules (comma ++ rest) phrase initial → IsComma rest comma →
      SpellsForm rest (phrase ++ comma) (.stored initial)
  | observed {phrase content comma : Phrase} {initial : Option Phrase}
      {observers : Observers} :
      SpellsInitial rules (.group .brace content :: (comma ++ rest)) phrase initial →
      SpellsObservers rules content observers → IsOptionalComma comma →
      SpellsForm rest (phrase ++ .group .brace content :: comma) (.observed initial observers)
  | computed {content comma body : Phrase} :
      SpellsGetter rules content body → IsOptionalComma comma →
      SpellsForm rest (.group .brace content :: comma) (.computed body)

/-! ### Members, items and records -/

/-- In front of the rest, the trees spell a member. -/
inductive SpellsMember (rest : Phrase) : Phrase → Member → Prop
  | intro {heading visibility typePhrase formPhrase : Phrase} {attributes : List Attribute}
      {name : Ident} (captured : Bool) (spacing : Spacing) {type : TypeExpr} {form : MemberForm} :
      SpellsHeading rules heading attributes visibility → name.isName = true →
      Takes (rules.type true true) typePhrase (formPhrase ++ rest) type →
      SpellsForm rules rest formPhrase form →
      SpellsMember rest
        (heading ++ .ident name captured :: .punct ':' spacing :: (typePhrase ++ formPhrase))
        ⟨attributes, visibility, name, type, form⟩

/-- In front of the rest, the trees spell a member, or an item of an implementation that begins
with one of its words. -/
inductive SpellsItem (rest : Phrase) : Phrase → BodyItem → Prop
  | member {phrase : Phrase} {member : Member} :
      SpellsMember rules rest phrase member → SpellsItem rest phrase (.member member)
  | item {heading visibility more : Phrase} {attributes : List Attribute} {word : String}
      (captured : Bool) {item : ImplItem} :
      SpellsHeading rules heading attributes visibility → word ∈ itemWords →
      Takes (implItem rules) (heading ++ .ident (Ident.plain word) captured :: more) rest item →
      SpellsItem rest (heading ++ .ident (Ident.plain word) captured :: more) (.item item)

/-- **The trees spell the items of a body**, one behind the other. -/
inductive SpellsBody : Phrase → List BodyItem → Prop
  | nil : SpellsBody [] []
  | cons {phrase rest : Phrase} {item : BodyItem} {items : List BodyItem} :
      SpellsItem rules rest phrase item → SpellsBody rest items →
      SpellsBody (phrase ++ rest) (item :: items)

/-- **The trees spell a record.** -/
inductive SpellsRecord : Phrase → Record → Prop
  | intro {heading visibility body : Phrase} {attributes : List Attribute} {name : Ident}
      (structCaptured nameCaptured : Bool) {items : List BodyItem} :
      SpellsHeading rules heading attributes visibility → name.isName = true →
      SpellsBody rules body items →
      SpellsRecord
        (heading ++ [.ident (Ident.plain "struct") structCaptured, .ident name nameCaptured,
          .group .brace body])
        ⟨attributes, visibility, name, items⟩

end

/-! ### The first tree -/

section

variable {rules : Rules}

theorem Ident.ne_of_isName {name : Ident} (isName : name.isName = true) {word : String}
    (reserved : (Ident.plain word).isName = false) : name ≠ Ident.plain word := by
  rintro rfl
  rw [isName] at reserved
  cases reserved

theorem ne_pub_of_mem_itemWords {word : String} (isWord : word ∈ itemWords) :
    Ident.plain word ≠ Ident.plain "pub" := by
  intro same
  have isItemWord : "pub" ∈ itemWords := (Ident.mk.inj same).2 ▸ isWord
  exact absurd isItemWord (by decide)

theorem Grammar.SpellsHeading.not_startsWithComma {heading visibility : Phrase}
    {attributes : List Attribute} (spelled : SpellsHeading rules heading attributes visibility)
    (identifier : Ident) (captured : Bool) (more : Phrase) :
    startsWithOperator "," (heading ++ .ident identifier captured :: more) = false := by
  obtain ⟨isAttributes, isVisibility⟩ := spelled
  cases isAttributes with
  | nil => cases isVisibility <;> rfl
  | cons => rfl

/-- **An item is spelled by a heading, a word other than `pub`, and more.** -/
theorem SpellsItem.opens {rest phrase : Phrase} {item : BodyItem}
    (spelled : SpellsItem rules rest phrase item) :
    ∃ heading attributes visibility identifier captured more,
      phrase = heading ++ .ident identifier captured :: more ∧
      SpellsHeading rules heading attributes visibility ∧ identifier ≠ Ident.plain "pub" := by
  cases spelled with
  | member spelled =>
    obtain ⟨captured, spacing, isHeading, isName, -, -⟩ := spelled
    exact ⟨_, _, _, _, captured, _, rfl, isHeading, Ident.ne_of_isName isName (by decide)⟩
  | item captured isHeading isWord _ =>
    exact ⟨_, _, _, _, captured, _, rfl, isHeading, ne_pub_of_mem_itemWords isWord⟩

/-- **No body opens with a comma.** -/
theorem SpellsBody.not_startsWithComma {phrase : Phrase} {items : List BodyItem}
    (spelled : SpellsBody rules phrase items) : startsWithOperator "," phrase = false := by
  cases spelled with
  | nil => rfl
  | cons first _ =>
    obtain ⟨heading, _, _, identifier, captured, more, rfl, isHeading, -⟩ := first.opens
    rw [List.append_assoc]
    exact isHeading.not_startsWithComma identifier captured _

end

end KeyedRecord

/-
**What a declaration turns into.**

The body of a record is gone through twice: once for the fields of the structure, and once for the
functions and items of the implementation. `BodyItem.Splits` goes through it once, and says of each
item where it lands: a stored member in the structure, a computed one in the implementation, an
observed one in both, and a declared item in the implementation as it is. Of the attributes of a
member the markers are left out, wherever they stand, and all others stay in order (`Strips`).

* `strips_withoutDirectives`: leaving out directives strips the markers.
* `BodyItem.splits_parts`: the two walks split the body.
* `Expansion.keeps_declaration`: the wording of the structure and of the implementation.
-/

import KeyedRecord.Expansion.Wording
import Mathlib.Data.List.Basic

namespace KeyedRecord

open Grammar (Attribute)

/-! ### Markers -/

/-- An attribute is a marker if its path is one of the two words alone. -/
def Grammar.Attribute.IsMarker (attr : Attribute) : Prop :=
  attr.path.ident? = some (Ident.plain "codable_key") ∨
    attr.path.ident? = some (Ident.plain "uncodable_key")

/-- **What is left of attributes without the markers**: these are left out wherever they stand, and
the others are kept in their order. -/
inductive Strips : List Attribute → List Attribute → Prop
  | nil : Strips [] []
  | marker {attr : Attribute} {attributes left : List Attribute} :
      attr.IsMarker → Strips attributes left → Strips (attr :: attributes) left
  | other {attr : Attribute} {attributes left : List Attribute} :
      ¬attr.IsMarker → Strips attributes left → Strips (attr :: attributes) (attr :: left)

theorem Grammar.Attribute.isDirective_iff (attr : Attribute) :
    attr.isDirective = true ↔ attr.IsMarker := by
  simp [Attribute.isDirective, Attribute.isNamed, Attribute.IsMarker, renameWord, excludeWord]

theorem strips_withoutDirectives (attributes : List Attribute) :
    Strips attributes (withoutDirectives attributes) := by
  induction attributes with
  | nil => exact .nil
  | cons attr rest ih =>
    by_cases marker : attr.IsMarker
    · have directive := attr.isDirective_iff.mpr marker
      simp only [withoutDirectives, List.filter_cons, directive]
      exact .marker marker ih
    · have other : attr.isDirective = false := by
        simpa using mt attr.isDirective_iff.mp marker
      simp only [withoutDirectives, List.filter_cons, other]
      exact .other marker ih

/-! ### Where the items of a body land -/

/-- The phrase declares the field of a member. -/
def Member.IsField (member : Member) (phrase : Phrase) : Prop :=
  ∃ attributes, Strips member.attributes attributes ∧
    phrase = attributes.flatMap Attribute.phrase ++ member.visibility ++ member.name.phrase ++
      Phrase.template ":" ++ member.type.phrase

/-- The phrase is the getter of a member that is computed by a body. -/
def Member.IsGetter (member : Member) (body phrase : Phrase) : Prop :=
  ∃ attributes, Strips member.attributes attributes ∧
    phrase = attributes.flatMap Attribute.phrase ++ member.visibility ++ Phrase.template "fn" ++
      member.name.phrase ++ Phrase.parenthesized (Phrase.template "& self") ++
      Phrase.template "->" ++ member.type.phrase ++ Phrase.braced body

/-- The statement puts the new value of a member in the place of the old one, which it keeps. -/
def Member.replacement (member : Member) : Phrase :=
  Phrase.template "let old_value = :: core :: mem :: replace" ++
    Phrase.parenthesized
      (Phrase.template "& mut self ." ++ member.name.phrase ++ Phrase.template ", new_value") ++
    Phrase.template ";"

/-- The phrase is the setter of an observed member. It is named for the member without its raw
mark, and has the observers around the statement that changes the member. -/
def Member.IsSetter (member : Member) (observers : Observers) (phrase : Phrase) : Prop :=
  phrase = Phrase.allowUnused ++ member.visibility ++ Phrase.template "fn" ++
    (Ident.plain ("set_" ++ member.name.name)).phrase ++
    Phrase.parenthesized (Phrase.template "& mut self , new_value :" ++ member.type.phrase) ++
    Phrase.braced
      (observers.willSet.getD [] ++ member.replacement ++ observers.didSet.getD [])

/-- **Where the items of a body land**: in the fields, in the functions or in both, in order. -/
inductive BodyItem.Splits : List BodyItem → List Phrase → List Phrase → Prop
  | nil : Splits [] [] []
  | stored {member : Member} {initial : Option Phrase} {field : Phrase} {items : List BodyItem}
      {fields functions : List Phrase} :
      member.form = .stored initial → member.IsField field → Splits items fields functions →
      Splits (.member member :: items) (field :: fields) functions
  | observed {member : Member} {initial : Option Phrase} {observers : Observers}
      {field setter : Phrase} {items : List BodyItem} {fields functions : List Phrase} :
      member.form = .observed initial observers → member.IsField field →
      member.IsSetter observers setter → Splits items fields functions →
      Splits (.member member :: items) (field :: fields) (setter :: functions)
  | computed {member : Member} {body getter : Phrase} {items : List BodyItem}
      {fields functions : List Phrase} :
      member.form = .computed body → member.IsGetter body getter →
      Splits items fields functions →
      Splits (.member member :: items) fields (getter :: functions)
  | declared {item : Grammar.ImplItem} {items : List BodyItem} {fields functions : List Phrase} :
      Splits items fields functions →
      Splits (.item item :: items) fields (item.phrase :: functions)

/-- The field of a member keeps its name, visibility and type, and all attributes but markers. -/
theorem Member.isField_field (member : Member) : member.IsField member.field.phrase :=
  ⟨withoutDirectives member.attributes, strips_withoutDirectives _, rfl⟩

/-- So does its getter, if it is computed. -/
theorem Member.isGetter_getter (member : Member) (body : Phrase) :
    member.IsGetter body (Getter.phrase ⟨withoutDirectives member.attributes, member.visibility,
      member.name, member.type.phrase, body⟩) :=
  ⟨withoutDirectives member.attributes, strips_withoutDirectives _, rfl⟩

theorem Member.isSetter_setter (member : Member) (observers : Observers) :
    member.IsSetter observers
      (Setter.phrase ⟨member.visibility, member.name, member.type.phrase, observers⟩) := by
  simp only [Member.IsSetter, Member.replacement, Setter.phrase, List.append_assoc]
  rfl

/-- The fields of a structure with such a body. -/
def BodyItem.fieldPhrases (items : List BodyItem) : List Phrase :=
  ((items.filterMap BodyItem.member?).filter fun member => !member.isComputed).map
    fun member => member.field.phrase

/-- The items of an implementation with such a body. -/
def BodyItem.functionPhrases (items : List BodyItem) : List Phrase :=
  (items.filterMap BodyItem.inherentItem?).map InherentItem.phrase

/-- **The two walks split the body.** -/
theorem BodyItem.splits_parts (items : List BodyItem) :
    BodyItem.Splits items (fieldPhrases items) (functionPhrases items) := by
  induction items with
  | nil => exact .nil
  | cons item rest ih =>
    cases item with
    | item declared => exact .declared ih
    | member member =>
      cases form : member.form with
      | stored initial =>
        have split := Splits.stored form member.isField_field ih
        simpa [fieldPhrases, functionPhrases, member?, inherentItem?, Member.inherentItem?,
          Member.isComputed, form] using split
      | observed initial observers =>
        have isSetter := member.isSetter_setter observers
        have split := Splits.observed form member.isField_field isSetter ih
        simpa [fieldPhrases, functionPhrases, member?, inherentItem?, Member.inherentItem?,
          Member.isComputed, form, InherentItem.phrase] using split
      | computed body =>
        have isGetter := member.isGetter_getter body
        have split := Splits.computed form isGetter ih
        simpa [fieldPhrases, functionPhrases, member?, inherentItem?, Member.inherentItem?,
          Member.isComputed, form, InherentItem.phrase] using split

/-- Nothing lands in the functions exactly if the body holds plain stored members alone. -/
theorem BodyItem.Splits.functions_eq_nil_iff {items : List BodyItem}
    {fields functions : List Phrase} (split : BodyItem.Splits items fields functions) :
    functions = [] ↔ ∀ item ∈ items, ∃ member initial,
      item = .member member ∧ member.form = .stored initial := by
  induction split with
  | nil => simp
  | stored form _ _ ih => simp [ih, form]
  | observed form _ _ _ _ => simp [form]
  | computed form _ _ _ => simp [form]
  | declared _ _ => simp

/-- The implementation is left out if there is nothing to put into it. -/
theorem inherentPhrase_eq (record : Record) :
    inherentPhrase record.name record.inherentItems =
      if BodyItem.functionPhrases record.items = [] then []
      else Phrase.template "impl" ++ record.name.phrase ++
        Phrase.braced (BodyItem.functionPhrases record.items).flatten := by
  simp only [inherentPhrase, List.isEmpty_iff, BodyItem.functionPhrases, List.map_eq_nil_iff,
    List.flatMap_def]
  rfl

/-- **An expansion keeps the declaration.** Its wording is that of a structure with the record's
own attributes, visibility and name, and an implementation, followed by the code for documents and
the warnings. The fields of the one and the functions of the other are the items of the body, each
where it belongs. The implementation is left out exactly if nothing belongs to it. -/
theorem Expansion.keeps_declaration (record : Record) :
    ∃ fields functions implementation, BodyItem.Splits record.items fields functions ∧
      (Expansion.ofRecord record).phrase =
        record.attributes.flatMap Attribute.phrase ++ record.visibility ++
          Phrase.template "struct" ++ record.name.phrase ++
          Phrase.braced (Phrase.commaSeparated fields) ++ implementation ++
          (DocumentCode.ofRecord record).phrase variantPhrase ++
          (Warning.ofFacts record.facts).flatMap Warning.phrase ∧
      (functions ≠ [] → implementation =
        Phrase.template "impl" ++ record.name.phrase ++ Phrase.braced functions.flatten) ∧
      (implementation = [] ↔ ∀ item ∈ record.items, ∃ member initial,
        item = .member member ∧ member.form = .stored initial) := by
  have split := BodyItem.splits_parts record.items
  have fields : record.structure.fields.map Field.phrase = BodyItem.fieldPhrases record.items := by
    simp only [Record.structure, List.map_map]
    rfl
  refine ⟨_, _, inherentPhrase record.name record.inherentItems, split, ?_, fun holds => ?_, ?_⟩
  · rw [← fields]
    rfl
  · rw [inherentPhrase_eq, if_neg holds]
  · rw [← split.functions_eq_nil_iff, inherentPhrase_eq]
    by_cases none : BodyItem.functionPhrases record.items = []
    · simp [none]
    · simp [none, Phrase.braced]

end KeyedRecord

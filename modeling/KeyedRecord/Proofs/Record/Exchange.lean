/-
**A block can be exchanged for another one.**

What stands in front of a block is read the same whatever the block contains. So if a member is
still spelled with another block in the place of its own, its body and its record are too, and the
members and items in front of it are read as before. Two observers can be exchanged in this way: a
block spells the same with them the other way round.

* `SpellsItem.of_outline`: an item in front of another rest of the same outline.
* `SpellsBody.exists_member`: each member of a body, and what else may stand in its place.
* `SpellsObservers.swap`: two observers the other way round.
-/

import KeyedRecord.Proofs.Grammar.Outline.Item
import KeyedRecord.Proofs.Record.Spelling

namespace KeyedRecord

open Grammar

/-! ### Sizes -/

theorem Phrase.size_cons (tree : TokenTree) (phrase : Phrase) :
    Phrase.size (tree :: phrase) = tree.size + phrase.size :=
  rfl

theorem TokenTree.size_group (delimiter : Delimiter) (content : Phrase) :
    TokenTree.size (.group delimiter content) = 1 + content.size :=
  rfl

theorem Phrase.size_append (first second : Phrase) :
    Phrase.size (first ++ second) = first.size + second.size := by
  induction first with
  | nil => exact (Nat.zero_add _).symm
  | cons tree first ih =>
    rw [List.cons_append, Phrase.size_cons, Phrase.size_cons, ih, Nat.add_assoc]

/-- Phrases of one size are read by the same rules. -/
theorem Grammar.Rules.forPhrase_eq {first second : Phrase} (same : first.size = second.size) :
    Rules.forPhrase first = Rules.forPhrase second := by
  unfold Rules.forPhrase
  rw [same]

/-! ### Other rests -/

section

variable {rules : Rules} [rules.AreInStep] {rest other phrase : Phrase}

theorem IsComma.of_outline [same : SameOutline rest other] (isComma : IsComma rest phrase) :
    IsComma other phrase := by
  cases isComma with
  | present spacing => exact .present spacing other
  | atEnd =>
    obtain rfl := List.eq_nil_of_length_eq_zero same.length_eq.symm
    exact .atEnd

theorem SpellsInitial.of_outline [SameOutline rest other] {initial : Option Phrase}
    (spelled : SpellsInitial rules rest phrase initial) :
    SpellsInitial rules other phrase initial := by
  cases spelled with
  | absent => exact .absent
  | present spacing isExpr => exact .present spacing isExpr.of_outline

theorem SpellsForm.of_outline [same : SameOutline rest other] {form : MemberForm}
    (spelled : SpellsForm rules rest phrase form) : SpellsForm rules other phrase form := by
  cases spelled with
  | stored isInitial isComma => exact .stored isInitial.of_outline isComma.of_outline
  | observed isInitial isObservers isComma =>
    exact .observed isInitial.of_outline isObservers isComma
  | computed isGetter isComma => exact .computed isGetter isComma

theorem SpellsMember.of_outline [SameOutline rest other] {member : Member}
    (spelled : SpellsMember rules rest phrase member) : SpellsMember rules other phrase member := by
  obtain ⟨captured, spacing, isHeading, isName, isType, isForm⟩ := spelled
  exact .intro captured spacing isHeading isName isType.of_outline isForm.of_outline

variable [rules.AreForward]

/-- **An item** is spelled in front of every rest of the same outline. -/
theorem SpellsItem.of_outline [SameOutline rest other] {item : BodyItem}
    (spelled : SpellsItem rules rest phrase item) : SpellsItem rules other phrase item := by
  cases spelled with
  | member spelled => exact .member spelled.of_outline
  | item captured isHeading isWord isItem =>
    exact .item captured isHeading isWord isItem.of_outline

/-- **Each member of a body** stands somewhere in it, with a heading, a name and a type. Behind the
type may stand all trees of the same outline that spell how the member comes by its value. -/
theorem SpellsBody.exists_member {body : Phrase} {items : List BodyItem} {member : Member}
    (spelled : SpellsBody rules body items) (inside : .member member ∈ items) :
    ∃ before opening captured spacing type trees rest,
      body = before ++ (opening ++ .ident member.name captured :: .punct ':' spacing ::
        (type ++ (trees ++ rest))) ∧
      SpellsHeading rules opening member.attributes member.visibility ∧
      Takes (rules.type true true) type (trees ++ rest) member.type ∧
      SpellsForm rules rest trees member.form ∧
      ∀ others, SameOutline trees others → SpellsForm rules rest others member.form →
        SpellsBody rules (before ++ (opening ++ .ident member.name captured ::
          .punct ':' spacing :: (type ++ (others ++ rest)))) items := by
  induction spelled with
  | nil => cases inside
  | @cons phrase rest item items first behind ih =>
    rcases List.mem_cons.mp inside with rfl | inside
    · obtain ⟨isMember⟩ := first
      obtain @⟨opening, _, type, trees, _, _, captured, spacing, _, _, isHeading, isName, isType,
        isForm⟩ := isMember
      refine ⟨[], opening, captured, spacing, type, trees, rest, by simp, isHeading, isType, isForm,
        fun others same isOther => ?_⟩
      have isType : Takes (rules.type true true) type (others ++ rest) _ := isType.of_outline
      have isMember := SpellsMember.intro captured spacing isHeading isName isType isOther
      have body := SpellsBody.cons (.member isMember) behind
      simpa using body
    · obtain ⟨before, opening, captured, spacing, type, trees, last, rfl, isHeading, isType, isForm,
        exchange⟩ := ih inside
      refine ⟨phrase ++ before, opening, captured, spacing, type, trees, last, by simp, isHeading,
        isType, isForm, fun others same isOther => ?_⟩
      have body := SpellsBody.cons first.of_outline (exchange others same isOther)
      rwa [List.append_assoc]

end

section

variable {rules : Rules}

/-- **Two observers** spell the same the other way round. -/
theorem SpellsObservers.swap {first firstBlock second secondBlock : TokenTree}
    {observers : Observers}
    (spelled : SpellsObservers rules [first, firstBlock, second, secondBlock] observers) :
    SpellsObservers rules [second, secondBlock, first, firstBlock] observers := by
  generalize same : [first, firstBlock, second, secondBlock] = content at spelled
  cases spelled with
  | willSet block =>
    obtain ⟨captured, -⟩ := block
    cases same
  | didSet block =>
    obtain ⟨captured, -⟩ := block
    cases same
  | willSetFirst before after =>
    have swapped := SpellsObservers.didSetFirst after before
    obtain ⟨captured, -⟩ := before
    obtain ⟨captured, -⟩ := after
    cases same
    exact swapped
  | didSetFirst after before =>
    have swapped := SpellsObservers.willSetFirst before after
    obtain ⟨captured, -⟩ := before
    obtain ⟨captured, -⟩ := after
    cases same
    exact swapped

end

end KeyedRecord

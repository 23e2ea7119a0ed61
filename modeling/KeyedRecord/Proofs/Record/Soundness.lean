/-
**Whatever is read as a record spells it.**

From what the reader of records gives to the trees it has taken: each part has taken trees that the
rules of the dialect spell it with, so a phrase is read as a record exactly if it spells the record.
For a body this is an induction over the items that have been read. What the look ahead past a
heading has seen of an item is what the item itself then begins with, since both read the same
heading.

From the rules it can be told what no accepted phrase contains: a getter with an initial value, a
block of observers with anything else in it, a block of a getter with anything behind it, or two
members without a comma or a block between them. Nor does it matter in which order two observers are
written: the record is read the same, its other members included.

* `SpellsForm.of_taken`, `SpellsItem.of_taken`, `SpellsBody.of_taken`: members, items and bodies.
* `Record.parsed_iff_spelled`: what is read as a record is what spells it.
* `Record.isWhole_of_parsed`: methods have a body and constants a value.
* `Record.sound_of_parsed`: what holds of every phrase that is read as a record.
-/

import KeyedRecord.Proofs.Record.Completeness
import KeyedRecord.Proofs.Record.Exchange

namespace KeyedRecord

open Grammar

-- The text of a long reader is followed to its end.
set_option synthInstance.maxSize 40000

section

variable {rules : Rules} [rules.AreForward]

/-! ### The dialect is read forward -/

instance : IsForward (Fragments.ofRules rules).attributes :=
  inferInstanceAs (IsForward (Grammar.attributes rules))

instance : IsForward (Fragments.ofRules rules).visibility :=
  inferInstanceAs (IsForward Grammar.visibility)

instance : IsForward (Fragments.ofRules rules).type :=
  inferInstanceAs (IsForward (rules.type true true))

instance : IsForward (Fragments.ofRules rules).initial :=
  inferInstanceAs (IsForward (do return (← rules.expr false).phrase))

instance : IsForward (Fragments.ofRules rules).statements :=
  inferInstanceAs (IsForward rules.statements)

instance : IsForward (Fragments.ofRules rules).item :=
  inferInstanceAs (IsForward (implItem rules))

instance (keyword : String) : IsForward (Observers.readBlock (.ofRules rules) keyword) := by
  unfold Observers.readBlock
  infer_instance

instance (before : Observers) : IsForward (Observers.readNext (.ofRules rules) before) := by
  unfold Observers.readNext
  infer_instance

instance : IsForward (Observers.read (.ofRules rules)) := by
  unfold Observers.read
  infer_instance

instance : IsForward (Accessor.read (.ofRules rules)) := by
  unfold Accessor.read
  infer_instance

instance {α : Type} (outcome : Except RecordError α) :
    IsForward (liftM outcome : RecordReader α) := by
  refine ⟨fun cursor result later ran => ?_⟩
  cases outcome with
  | error cause => cases ran
  | ok value =>
    obtain ⟨⟩ := ran
    exact .refl cursor

instance (accessor : Option Accessor) : IsForward (readMemberEnd accessor) := by
  unfold readMemberEnd
  infer_instance

instance : IsForward (Member.read (.ofRules rules)) := by
  unfold Member.read
  dsimp only
  infer_instance

end

/-- The look ahead past a heading tells what is read, from where it started. -/
theorem BodyItem.read_run_eq_ok {rules : Rules} {cursor later : Cursor} {item : BodyItem}
    (ran : (BodyItem.read (.ofRules rules)).run cursor = .ok (item, later)) :
    ∃ attributes visibility middle next,
      (RecordReader.ofGrammar (Grammar.attributes rules)).run cursor = .ok (attributes, middle) ∧
      (RecordReader.ofGrammar Grammar.visibility).run middle = .ok (visibility, next) ∧
      (if startsWithAnyWord itemWords next.trees then do
          return .item (← (implItem rules : RecordReader ImplItem))
        else do return .member (← Member.read (.ofRules rules)) : RecordReader BodyItem).run
        cursor = .ok (item, later) := by
  obtain ⟨_, _, ⟨⟩, ran⟩ := run_bind_eq_ok.mp ran
  obtain ⟨attributes, middle, isAttributes, ran⟩ := run_bind_eq_ok.mp ran
  obtain ⟨visibility, next, isVisibility, ran⟩ := run_bind_eq_ok.mp ran
  exact ⟨attributes, visibility, middle, next, isAttributes, isVisibility, ran⟩

/-- Items are read one behind the other. -/
theorem BodyItem.readAll_cases {fragments : Fragments} {cursor later : Cursor}
    {items : List BodyItem} (ran : BodyItem.readAll fragments cursor = .ok (items, later)) :
    cursor.trees = [] ∧ items = [] ∧ later = cursor ∨
      ∃ first next others, items = first :: others ∧
        (BodyItem.read fragments).run cursor = .ok (first, next) ∧
        BodyItem.readAll fragments next = .ok (others, later) := by
  rw [BodyItem.readAll] at ran
  split at ran
  · next ended =>
    obtain ⟨⟩ := ran
    exact .inl ⟨List.isEmpty_iff.mp ended, rfl, rfl⟩
  · split at ran
    · cases ran
    · next first next read =>
      split at ran
      · split at ran
        · cases ran
        · next others last more =>
          obtain ⟨⟩ := ran
          exact .inr ⟨first, next, others, rfl, read, more⟩
      · cases ran

section

variable {rules : Rules} [rules.AreForward]

instance : IsForward (BodyItem.read (.ofRules rules)) := by
  refine ⟨fun cursor item later ran => ?_⟩
  obtain ⟨_, _, _, _, -, -, ran⟩ := BodyItem.read_run_eq_ok ran
  exact IsForward.forwardFrom cursor item later ran

instance : IsForward (BodyItem.readAll (.ofRules rules) : RecordReader (List BodyItem)) := by
  refine ⟨fun cursor items later ran => ?_⟩
  induction items generalizing cursor with
  | nil =>
    rcases BodyItem.readAll_cases ran with ⟨-, -, rfl⟩ | ⟨_, _, _, absurd, -⟩
    · exact .refl _
    · cases absurd
  | cons item items ih =>
    rcases BodyItem.readAll_cases ran with ⟨-, absurd, -⟩ | ⟨first, next, others, ⟨⟩, read, more⟩
    · cases absurd
    · have forward : cursor.Precedes next := IsForward.forwardFrom cursor _ _ read
      exact forward.trans (ih next more)

/-! ### Accessors -/

theorem SpellsBlock.of_taken {keyword : String} {phrase rest written : Phrase}
    (taken : Takes (Observers.readBlock (.ofRules rules) keyword) phrase rest written) :
    ∃ statements, SpellsBlock rules keyword phrase statements ∧
      written = Phrase.braced statements := by
  unfold Observers.readBlock at taken
  obtain ⟨_, _, _, rfl, opening, behind⟩ := taken.of_bind
  obtain ⟨captured, rfl, -⟩ := opening.of_ofGrammar.of_word
  obtain ⟨statements, block, rfl⟩ := behind.of_bind_pure
  obtain ⟨content, rfl, inside⟩ := block.of_inBraces
  exact ⟨statements, .intro captured inside.of_ofGrammar, rfl⟩

/-- One more observer is one that has not been before. -/
theorem Observers.of_taken_readNext {before after : Observers} {phrase rest : Phrase}
    (taken : Takes (Observers.readNext (.ofRules rules) before) phrase rest after) :
    (∃ statements, SpellsBlock rules "will_set" phrase statements ∧ before.willSet = Option.none ∧
        after = { before with willSet := some (Phrase.braced statements) }) ∨
      ∃ statements, SpellsBlock rules "did_set" phrase statements ∧ before.didSet = Option.none ∧
        after = { before with didSet := some (Phrase.braced statements) } := by
  unfold Observers.readNext at taken
  have looked := Takes.of_look (looks_peek _).ofGrammar taken
  split at looked
  · next free =>
    obtain ⟨written, block, rfl⟩ := looked.of_bind_pure
    obtain ⟨statements, spelled, rfl⟩ := SpellsBlock.of_taken block
    have isFree := (Bool.and_eq_true_iff.mp free).2
    exact .inl ⟨statements, spelled, Option.isNone_iff_eq_none.mp isFree, rfl⟩
  · have again := Takes.of_look (looks_peek _).ofGrammar looked
    split at again
    · next free =>
      obtain ⟨written, block, rfl⟩ := again.of_bind_pure
      obtain ⟨statements, spelled, rfl⟩ := SpellsBlock.of_taken block
      have isFree := (Bool.and_eq_true_iff.mp free).2
      exact .inr ⟨statements, spelled, Option.isNone_iff_eq_none.mp isFree, rfl⟩
    · exact absurd again (not_takes_throw _)

/-- **Observers** have taken trees that spell them. -/
theorem SpellsObservers.of_taken {phrase : Phrase} {observers : Observers}
    (taken : Takes (Observers.read (.ofRules rules)) phrase [] observers) :
    SpellsObservers rules phrase observers := by
  unfold Observers.read at taken
  obtain ⟨phrase, _, first, rfl, isFirst, behind⟩ := taken.of_bind
  have looked := Takes.of_look looks_atEnd.ofGrammar behind
  split at looked
  · obtain ⟨rfl, rfl⟩ := looked.of_pure
    rw [List.append_nil]
    rcases Observers.of_taken_readNext isFirst with ⟨before, block, -, rfl⟩ | ⟨after, block, -, rfl⟩
    · exact .willSet block
    · exact .didSet block
  · obtain ⟨more, _, second, rfl, isSecond, behind⟩ := looked.of_bind
    have ended := Takes.of_look looks_atEnd.ofGrammar behind
    split at ended
    · obtain ⟨rfl, rfl⟩ := ended.of_pure
      rw [List.append_nil]
      rcases Observers.of_taken_readNext isFirst with ⟨_, block, -, rfl⟩ | ⟨_, block, -, rfl⟩ <;>
        rcases Observers.of_taken_readNext isSecond with
          ⟨_, other, free, rfl⟩ | ⟨_, other, free, rfl⟩
      · cases free
      · exact .willSetFirst block other
      · exact .didSetFirst block other
      · cases free
    · exact absurd ended (not_takes_throw _)

/-- **An accessor** is one or two observers, or a getter. -/
theorem Accessor.of_taken {content : Phrase} {accessor : Accessor}
    (taken : Takes (Accessor.read (.ofRules rules)) content [] accessor) :
    (∃ observers, accessor = .observers observers ∧ SpellsObservers rules content observers) ∨
      ∃ body, accessor = .getter body ∧ SpellsGetter rules content body := by
  unfold Accessor.read at taken
  have looked := Takes.of_look looks_ahead.ofGrammar taken
  rw [id, List.append_nil] at looked
  split at looked
  · obtain ⟨observers, isObservers, rfl⟩ := looked.of_bind_pure
    exact .inl ⟨observers, rfl, SpellsObservers.of_taken isObservers⟩
  · next noObserver =>
    rw [Bool.not_eq_true, Bool.or_eq_false_iff] at noObserver
    split at looked
    · obtain ⟨_, _, _, rfl, opening, behind⟩ := looked.of_bind
      obtain ⟨captured, rfl, -⟩ := opening.of_ofGrammar.of_word
      obtain ⟨_, _, body, rfl, block, others⟩ := behind.of_bind
      obtain ⟨inner, rfl, inside⟩ := block.of_inBraces
      have ended := Takes.of_look looks_atEnd.ofGrammar others
      split at ended
      · obtain ⟨rfl, rfl⟩ := ended.of_pure
        exact .inr ⟨body, rfl, .block (.intro captured inside.of_ofGrammar)⟩
      · exact absurd ended (not_takes_throw _)
    · next noGetter =>
      obtain ⟨body, isStatements, rfl⟩ := looked.of_bind_pure
      refine .inr ⟨body, rfl, .bare isStatements.of_ofGrammar ?_⟩
      simp [noObserver, Bool.eq_false_iff.mpr noGetter]

/-! ### Members -/

section

variable {α : Type} {phrase rest : Phrase} {outcome : α}

/-- An initial value has taken trees that spell it, in front of what has been taken then. -/
theorem SpellsInitial.of_bind {next : Option Phrase → RecordReader α}
    [∀ initial, IsForward (next initial)]
    (taken : Takes (do
        let initial ← if ← (peek (startsWithOperator "=") : RecordReader Bool) then
            let _ ← (operator "=" : RecordReader Phrase)
            some <$> ((Fragments.ofRules rules).initial : RecordReader Phrase)
          else pure none
        next initial) phrase rest outcome) :
    ∃ first more initial, phrase = first ++ more ∧
      SpellsInitial rules (more ++ rest) first initial ∧ Takes (next initial) more rest outcome := by
  dsimp only at taken
  have looked := Takes.of_look (looks_peek _).ofGrammar taken
  split at looked
  · obtain ⟨_, _, _, rfl, equals, behind⟩ := looked.of_bind
    obtain ⟨spacing, rfl, -⟩ := equals.of_ofGrammar.of_mark (c := '=') rfl
    obtain ⟨first, more, _, rfl, value, others⟩ := behind.of_bind
    obtain ⟨_, isValue, rfl⟩ := value.of_map
    obtain ⟨expr, isExpr, rfl⟩ := isValue.of_ofGrammar.of_bind_pure
    exact ⟨_, more, _, rfl, .present spacing isExpr, others⟩
  · exact ⟨[], phrase, none, rfl, .absent, looked⟩

/-- An accessor block has been taken, or none stands there. -/
theorem Takes.of_bind_accessor {next : Option Accessor → RecordReader α}
    [∀ accessor, IsForward (next accessor)]
    (taken : Takes (do
        let accessor ← if ← (peek (startsWithGroup .brace) : RecordReader Bool) then
            some <$> inBraces (Accessor.read (.ofRules rules))
          else pure none
        next accessor) phrase rest outcome) :
    Takes (next none) phrase rest outcome ∨
      ∃ content more accessor, phrase = .group .brace content :: more ∧
        Takes (Accessor.read (.ofRules rules)) content [] accessor ∧
        Takes (next (some accessor)) more rest outcome := by
  dsimp only at taken
  have looked := Takes.of_look (looks_peek _).ofGrammar taken
  split at looked
  · obtain ⟨_, more, _, rfl, block, others⟩ := looked.of_bind
    obtain ⟨accessor, isBlock, rfl⟩ := block.of_map
    obtain ⟨content, rfl, inside⟩ := isBlock.of_inBraces
    exact .inr ⟨content, more, accessor, rfl, inside, others⟩
  · exact .inl looked

end

section

variable {phrase rest : Phrase} {done : Unit}

theorem IsOptionalComma.of_taken {accessor : Accessor}
    (taken : Takes (readMemberEnd (some accessor)) phrase rest done) : IsOptionalComma phrase := by
  obtain ⟨_, isComma, -⟩ := Takes.of_bind_pure taken
  rcases isComma.of_ofGrammar.of_operator? with ⟨-, comma⟩ | ⟨-, rfl, -⟩
  · obtain ⟨spacing, rfl, -⟩ := comma.of_mark (c := ',') rfl
    exact .present spacing
  · exact .absent

theorem IsComma.of_taken (taken : Takes (readMemberEnd none) phrase rest done) :
    IsComma rest phrase := by
  have looked := Takes.of_look looks_atEnd.ofGrammar taken
  split at looked
  · obtain ⟨_, isComma, -⟩ := looked.of_bind_pure
    obtain ⟨spacing, rfl, -⟩ := isComma.of_ofGrammar.of_mark (c := ',') rfl
    exact .present spacing rest
  · next ended =>
    obtain ⟨rfl, -⟩ := looked.of_pure
    obtain rfl : rest = [] := by simpa using ended
    exact .atEnd

end

theorem Takes.of_lift {α : Type} {given : Except RecordError α} {phrase rest : Phrase} {outcome : α}
    (taken : Takes (liftM given : RecordReader α) phrase rest outcome) :
    phrase = [] ∧ given = .ok outcome := by
  cases given with
  | error cause => cases taken
  | ok value =>
    obtain ⟨rfl, rfl⟩ := Takes.of_pure taken
    exact ⟨rfl, rfl⟩

/-- **How a member comes by its value** has taken trees that spell it. -/
theorem SpellsForm.of_taken {α : Type} {phrase rest : Phrase} {build : MemberForm → α} {outcome : α}
    (taken : Takes (do
        let initial ← if ← (peek (startsWithOperator "=") : RecordReader Bool) then
            let _ ← (operator "=" : RecordReader Phrase)
            some <$> ((Fragments.ofRules rules).initial : RecordReader Phrase)
          else pure none
        let accessor ← if ← (peek (startsWithGroup .brace) : RecordReader Bool) then
            some <$> inBraces (Accessor.read (.ofRules rules))
          else pure none
        let form ← MemberForm.of? initial accessor
        readMemberEnd accessor
        return build form) phrase rest outcome) :
    ∃ form, SpellsForm rules rest phrase form ∧ build form = outcome := by
  obtain ⟨first, _, initial, rfl, isInitial, behind⟩ := SpellsInitial.of_bind taken
  rcases Takes.of_bind_accessor behind with others | ⟨content, _, accessor, rfl, inside, others⟩
  · obtain ⟨_, comma, form, rfl, valid, ended⟩ := others.of_bind
    obtain ⟨rfl, ⟨⟩⟩ := Takes.of_lift valid
    obtain ⟨_, isComma, rfl⟩ := ended.of_bind_pure
    exact ⟨.stored initial, .stored isInitial (IsComma.of_taken isComma), rfl⟩
  · obtain ⟨_, comma, form, rfl, valid, ended⟩ := others.of_bind
    obtain ⟨rfl, valid⟩ := Takes.of_lift valid
    obtain ⟨_, isComma, rfl⟩ := ended.of_bind_pure
    have isOptional := IsOptionalComma.of_taken isComma
    rcases Accessor.of_taken inside with ⟨observers, rfl, isObservers⟩ | ⟨body, rfl, isGetter⟩
    · obtain ⟨⟩ := valid
      exact ⟨.observed initial observers, .observed isInitial isObservers isOptional, rfl⟩
    · cases isInitial with
      | absent =>
        obtain ⟨⟩ := valid
        exact ⟨.computed body, .computed isGetter isOptional, rfl⟩
      | present => cases valid

/-- **A member** has taken trees that spell it. -/
theorem SpellsMember.of_taken {phrase rest : Phrase} {member : Member}
    (taken : Takes (Member.read (.ofRules rules)) phrase rest member) :
    SpellsMember rules rest phrase member := by
  unfold Member.read at taken
  obtain ⟨heading, _, attributes, visibility, rfl, isHeading, behind⟩ :=
    SpellsHeading.of_taken taken
  obtain ⟨_, _, name, rfl, naming, behindName⟩ := behind.of_bind
  obtain ⟨captured, rfl, isName⟩ := naming.of_ofGrammar.of_name
  obtain ⟨_, _, _, rfl, colon, behindColon⟩ := behindName.of_bind
  obtain ⟨spacing, rfl, -⟩ := colon.of_ofGrammar.of_mark (c := ':') rfl
  obtain ⟨typePhrase, formPhrase, type, rfl, isType, others⟩ := behindColon.of_bind
  obtain ⟨form, isForm, rfl⟩ := SpellsForm.of_taken others
  have spelled := SpellsMember.intro captured spacing isHeading isName isType.of_ofGrammar isForm
  exact spelled

/-! ### Items -/

/-- An item of an implementation opens, behind its heading, with the word that the look ahead has
found. -/
theorem SpellsItem.of_taken_implItem {phrase rest : Phrase} {read : ImplItem}
    {attributes : List Attribute} {visibility : Phrase} {middle next : Cursor}
    (isAttributes : (RecordReader.ofGrammar (Grammar.attributes rules)).run
      ⟨phrase ++ rest, false⟩ = .ok (attributes, middle))
    (isVisibility : (RecordReader.ofGrammar Grammar.visibility).run middle = .ok (visibility, next))
    (isItem : startsWithAnyWord itemWords next.trees = true)
    (taken : Takes (implItem rules) phrase rest read) :
    SpellsItem rules rest phrase (.item read) := by
  obtain ⟨first, second, more, _, _, rfl, firstTaken, secondTaken, present⟩ :=
    implItem_takes_heading rules taken
  -- The look ahead has read the same heading.
  have firstRun := firstTaken.ofGrammar
  unfold Takes at firstRun
  rw [List.append_assoc first, firstRun] at isAttributes
  obtain ⟨⟩ := isAttributes
  have secondRun := secondTaken.ofGrammar
  unfold Takes at secondRun
  rw [List.append_assoc second, secondRun] at isVisibility
  obtain ⟨⟩ := isVisibility
  obtain ⟨word, isWord, captured, behind, stands⟩ := startsWithAnyWord_iff.mp isItem
  obtain ⟨tree, more, rfl⟩ := List.exists_cons_of_ne_nil present
  obtain ⟨rfl, -⟩ := List.cons.inj stands
  rw [← List.append_assoc] at taken ⊢
  have isHeading : SpellsHeading rules (first ++ second) _ _ :=
    ⟨SpellsAttributes.of_taken firstTaken, SpellsVisibility.of_taken secondTaken⟩
  exact .item captured isHeading isWord taken

/-- **An item** has taken trees that spell it. -/
theorem SpellsItem.of_taken {phrase rest : Phrase} {item : BodyItem}
    (taken : Takes (BodyItem.read (.ofRules rules)) phrase rest item) :
    SpellsItem rules rest phrase item := by
  obtain ⟨attributes, visibility, middle, next, isAttributes, isVisibility, ran⟩ :=
    BodyItem.read_run_eq_ok taken
  split at ran
  · next isItem =>
    obtain ⟨read, isRead, rfl⟩ := Takes.of_bind_pure ran
    exact .of_taken_implItem isAttributes isVisibility isItem isRead.of_ofGrammar
  · obtain ⟨member, isMember, rfl⟩ := Takes.of_bind_pure ran
    exact .member (SpellsMember.of_taken isMember)

/-- **A body** has taken trees that spell it. -/
theorem SpellsBody.of_taken {phrase : Phrase} {items : List BodyItem}
    (taken : Takes (BodyItem.readAll (.ofRules rules)) phrase [] items) :
    SpellsBody rules phrase items := by
  induction items generalizing phrase with
  | nil =>
    rcases BodyItem.readAll_cases taken with ⟨nothing, -, -⟩ | ⟨_, _, _, absurd, -⟩
    · obtain rfl : phrase = [] := by simpa using nothing
      exact .nil
    · cases absurd
  | cons item items ih =>
    rcases BodyItem.readAll_cases taken with ⟨-, absurd, -⟩ | ⟨_, next, _, ⟨⟩, read, more⟩
    · cases absurd
    · have behind : next.Precedes ⟨[], false⟩ := IsForward.forwardFrom next _ _ more
      obtain ⟨first, second, rfl, rfl, isItem⟩ := Takes.of_run read behind
      rw [List.append_nil] at isItem
      exact .cons (SpellsItem.of_taken isItem) (ih more)

/-! ### Records -/

/-- **A record** has taken trees that spell it, and nothing follows them. -/
theorem SpellsRecord.of_taken {phrase rest : Phrase} {record : Record}
    (taken : Takes (Record.read (.ofRules rules)) phrase rest record) :
    SpellsRecord rules phrase record ∧ rest = [] := by
  unfold Record.read at taken
  dsimp only at taken
  obtain ⟨heading, _, attributes, visibility, rfl, isHeading, behind⟩ :=
    SpellsHeading.of_taken taken
  obtain ⟨_, _, _, rfl, keyword, behindStruct⟩ := behind.of_bind
  obtain ⟨structCaptured, rfl, -⟩ := keyword.of_ofGrammar.of_word
  obtain ⟨_, more, name, rfl, naming, behindName⟩ := behindStruct.of_bind
  obtain ⟨nameCaptured, rfl, isName⟩ := naming.of_ofGrammar.of_name
  have looked := Takes.of_look looks_ahead.ofGrammar behindName
  split at looked
  · exact absurd looked (not_takes_throw _)
  · split at looked
    · exact absurd looked (not_takes_throw _)
    · obtain ⟨_, _, items, rfl, block, behindBody⟩ := looked.of_bind
      obtain ⟨body, rfl, isBody⟩ := block.of_inBraces
      have ended := Takes.of_look looks_atEnd.ofGrammar behindBody
      split at ended
      · exact absurd ended (not_takes_throw _)
      · next atEnd =>
        obtain ⟨rfl, rfl⟩ := ended.of_pure
        have spelled := SpellsRecord.intro structCaptured nameCaptured isHeading isName
          (SpellsBody.of_taken isBody)
        exact ⟨spelled, by simpa using atEnd⟩

instance : IsForward (Record.read (.ofRules rules)) := by
  unfold Record.read
  dsimp only
  infer_instance

/-- What is read as a record by given rules is what spells it. -/
theorem Record.ofPhraseWith?_eq_ok_iff {phrase : Phrase} {record : Record} :
    Record.ofPhraseWith? (.ofRules rules) phrase = .ok record ↔
      SpellsRecord rules phrase record := by
  constructor
  · intro parsed
    unfold Record.ofPhraseWith? at parsed
    split at parsed
    · cases parsed
    · next read cursor ran =>
      split at parsed
      · cases parsed
      · next silent =>
        obtain ⟨⟩ := parsed
        obtain ⟨trees, leftover⟩ := cursor
        obtain rfl : leftover = false := Bool.eq_false_iff.mpr silent
        have forward : trees <:+ phrase := (IsForward.forwardFrom _ _ _ ran).trees
        obtain ⟨front, rfl⟩ := forward
        obtain ⟨spelled, rfl⟩ := SpellsRecord.of_taken ran
        rwa [List.append_nil]
  · exact Record.ofPhraseWith?_of_spelled

end

/-- **What is read as a record is what spells it.** -/
theorem Record.parsed_iff_spelled (phrase : Phrase) (record : Record) :
    Record.ofPhrase? phrase = .ok record ↔
      SpellsRecord (Rules.forPhrase phrase) phrase record :=
  Record.ofPhraseWith?_eq_ok_iff

/-! ### What no record contains -/

section

variable {rules : Rules}

/-- What stands behind the type of a member and in front of the rest, by how the member comes by its
value. The last argument says of other trees whether the record is read the same with them there. -/
def MemberForm.IsSound (rules : Rules) (trees rest : Phrase) (reads : Phrase → Prop) :
    MemberForm → Prop
  | .stored _ => ∃ value comma, trees = value ++ comma ∧ IsComma rest comma
  | .observed _ observers => ∃ value content comma,
      trees = value ++ .group .brace content :: comma ∧
      IsOptionalComma comma ∧ SpellsObservers rules content observers ∧
      (observers.willSet.isSome ∨ observers.didSet.isSome) ∧
      ∀ first firstBlock second secondBlock,
        content = [first, firstBlock, second, secondBlock] →
          Takes (Accessor.read (.ofRules rules)) [second, secondBlock, first, firstBlock] []
              (.observers observers) ∧
            reads (value ++ .group .brace [second, secondBlock, first, firstBlock] :: comma)
  | .computed body => ∃ content comma, trees = .group .brace content :: comma ∧
      IsOptionalComma comma ∧
      startsWithBlock "will_set" content = false ∧ startsWithBlock "did_set" content = false ∧
      (startsWithBlock "get" content = false ∧ Takes rules.statements content [] body ∨
        SpellsBlock rules "get" content body)

theorem SpellsObservers.isSome {content : Phrase} {observers : Observers}
    (spelled : SpellsObservers rules content observers) :
    observers.willSet.isSome ∨ observers.didSet.isSome := by
  cases spelled with
  | willSet | willSetFirst | didSetFirst => exact .inl rfl
  | didSet => exact .inr rfl

/-- A getter does not open like an observer, and nothing stands behind its block. -/
theorem SpellsGetter.opens {content body : Phrase} (spelled : SpellsGetter rules content body) :
    startsWithBlock "will_set" content = false ∧ startsWithBlock "did_set" content = false ∧
      (startsWithBlock "get" content = false ∧ Takes rules.statements content [] body ∨
        SpellsBlock rules "get" content body) := by
  cases spelled with
  | bare isStatements noOther =>
    exact ⟨noOther _ (by simp), noOther _ (by simp), .inl ⟨noOther _ (by simp), isStatements⟩⟩
  | block block =>
    have isBlock := block
    obtain ⟨captured, -⟩ := block
    exact ⟨rfl, rfl, .inr isBlock⟩

/-- **How a member comes by its value is spelled as it may be**, if other trees of the same outline
and size that spell the same are read the same in their place. -/
theorem SpellsForm.isSound [rules.AreInStep] {trees rest : Phrase} {form : MemberForm}
    {reads : Phrase → Prop} (spelled : SpellsForm rules rest trees form)
    (exchange : ∀ others, SameOutline trees others → Phrase.size others = trees.size →
      SpellsForm rules rest others form → reads others) : form.IsSound rules trees rest reads := by
  cases spelled with
  | stored isInitial isComma => exact ⟨_, _, rfl, isComma⟩
  | @observed value content comma initial observers isInitial isObservers isComma =>
    refine ⟨_, _, _, rfl, isComma, isObservers, isObservers.isSome, ?_⟩
    rintro first firstBlock second secondBlock rfl
    have swapped := isObservers.swap
    refine ⟨swapped.taken_accessor, exchange _ inferInstance ?sameSize ?spelled⟩
    case spelled => exact .observed isInitial.of_outline swapped isComma
    case sameSize =>
      simp only [Phrase.size_append, Phrase.size_cons, TokenTree.size_group]
      omega
  | computed isGetter isComma => exact ⟨_, _, rfl, isComma, isGetter.opens⟩

end

section

variable {rules : Rules} [rules.AreForward]

theorem SpellsBody.isWhole {body : Phrase} {items : List BodyItem} {declared : ImplItem}
    (spelled : SpellsBody rules body items) (inside : .item declared ∈ items) :
    declared.IsWhole := by
  induction spelled with
  | nil => cases inside
  | cons first _ ih =>
    rcases List.mem_cons.mp inside with rfl | inside
    · cases first with
      | item _ _ _ isItem => exact implItem_isWhole rules isItem
    · exact ih inside

theorem SpellsRecord.isWhole {phrase : Phrase} {record : Record} {declared : ImplItem}
    (spelled : SpellsRecord rules phrase record) (inside : .item declared ∈ record.items) :
    declared.IsWhole := by
  obtain ⟨_, _, _, _, isBody⟩ := spelled
  exact isBody.isWhole inside

end

/-- **The methods of a record that is read have a body, and its constants a value.** -/
theorem Record.isWhole_of_parsed {phrase : Phrase} {record : Record} {declared : ImplItem}
    (parsed : Record.ofPhrase? phrase = .ok record) (inside : .item declared ∈ record.items) :
    declared.IsWhole :=
  ((Record.parsed_iff_spelled phrase record).mp parsed).isWhole inside

/-- **What holds of every phrase that is read as a record.** It is a heading, the word `struct`, a
name and a body, with nothing between the name and the body and nothing behind it. Behind the type
of each member stands what its form demands: for a getter its block at once, for observers a block
of one or both of them and of nothing else, and for a member without a block a comma, unless the
body ends there. The order of two observers does not matter: with them the other way round the
phrase is read as the same record. -/
theorem Record.sound_of_parsed {phrase : Phrase} {record : Record}
    (parsed : Record.ofPhrase? phrase = .ok record) :
    ∃ heading structCaptured nameCaptured body,
      phrase = heading ++ [.ident (Ident.plain "struct") structCaptured,
        .ident record.name nameCaptured, .group .brace body] ∧
      SpellsHeading (Rules.forPhrase phrase) heading record.attributes record.visibility ∧
      SpellsBody (Rules.forPhrase phrase) body record.items ∧
      ∀ member ∈ record.members, ∃ before opening captured spacing type trees rest,
        body = before ++ (opening ++ .ident member.name captured :: .punct ':' spacing ::
          (type ++ (trees ++ rest))) ∧
        SpellsHeading (Rules.forPhrase phrase) opening member.attributes member.visibility ∧
        Takes ((Rules.forPhrase phrase).type true true) type (trees ++ rest) member.type ∧
        member.form.IsSound (Rules.forPhrase phrase) trees rest fun others =>
          Record.ofPhrase? (heading ++ [.ident (Ident.plain "struct") structCaptured,
            .ident record.name nameCaptured,
            .group .brace (before ++ (opening ++ .ident member.name captured ::
              .punct ':' spacing :: (type ++ (others ++ rest))))]) = .ok record := by
  have spelled := (Record.parsed_iff_spelled phrase record).mp parsed
  -- A phrase with as many tokens is read by the same rules.
  have reads (other : Phrase) (sameSize : other.size = phrase.size)
      (spelled : SpellsRecord (Rules.forPhrase phrase) other record) :
      Record.ofPhrase? other = .ok record := by
    rwa [Record.parsed_iff_spelled, Rules.forPhrase_eq sameSize]
  have inStep : (Rules.forPhrase phrase).AreInStep := inferInstance
  have forward : (Rules.forPhrase phrase).AreForward := inferInstance
  generalize Rules.forPhrase phrase = rules at spelled reads inStep forward ⊢
  obtain @⟨heading, visibility, body, attributes, name, structCaptured, nameCaptured, items,
    isHeading, isName, isBody⟩ := spelled
  refine ⟨heading, structCaptured, nameCaptured, body, rfl, isHeading, isBody, ?_⟩
  intro member inside
  obtain ⟨_ | item, inside, ⟨⟩⟩ := List.mem_filterMap.mp inside
  obtain ⟨before, opening, captured, spacing, type, trees, rest, rfl, isOpening, isType, isForm,
    exchange⟩ := isBody.exists_member inside
  refine ⟨before, opening, captured, spacing, type, trees, rest, rfl, isOpening, isType,
    isForm.isSound fun others sameOutline sameSize isOther => ?_⟩
  have isRecord := SpellsRecord.intro structCaptured nameCaptured isHeading isName
    (exchange others sameOutline isOther)
  refine reads _ ?_ isRecord
  simp only [Phrase.size_append, Phrase.size_cons, TokenTree.size_group, sameSize]

/-- The items of a record, as they are spelled and as they are read: a member with both observers,
a getter in a block of its own, and a stored member without a comma. -/
def Sample.meterItems : List (Phrase × BodyItem) :=
  [(Phrase.ofWords ["level", ":", "i64"] ++
        Phrase.braced (Phrase.ofWords ["will_set"] ++ Phrase.braced [] ++
          (Phrase.ofWords ["did_set"] ++ Phrase.braced [])),
      .member ⟨[], [], Ident.plain "level", named "i64",
        .observed none ⟨some (Phrase.braced []), some (Phrase.braced [])⟩⟩),
    (Phrase.ofWords ["peak", ":", "i64"] ++
        Phrase.braced (Phrase.ofWords ["get"] ++ Phrase.braced (Phrase.ofWords ["level"])),
      .member ⟨[], [], Ident.plain "peak", named "i64", .computed (Phrase.ofWords ["level"])⟩),
    (Phrase.ofWords ["unit", ":", "String"],
      .member ⟨[], [], Ident.plain "unit", named "String", .stored none⟩)]

/-- The trees of a record with these items. -/
def Sample.meterPhrase : Phrase :=
  Phrase.ofWords ["struct", "Meter"] ++ Phrase.braced (Sample.meterItems.map Prod.fst).flatten

/-- The record that these trees spell. -/
def Sample.meterRecord : Record :=
  ⟨[], [], Ident.plain "Meter", Sample.meterItems.map Prod.snd⟩

theorem Sample.parsed_meter : Record.ofPhrase? Sample.meterPhrase = .ok Sample.meterRecord := by
  have depth : Rules.forPhrase Sample.meterPhrase = Rules.ofDepth 184 := rfl
  let rules := Rules.ofDepth 184
  let items := Sample.meterItems
  let after (count : Nat) : Phrase := ((items.drop count).map Prod.fst).flatten
  have bare : SpellsHeading rules [] [] [] := (SpellsHeading.intro .nil .inherited :)
  have unit : SpellsItem rules (after 3) items[2].1 items[2].2 := by
    have isName : (Ident.plain "unit").isName = true := rfl
    have isType : Takes (rules.type true true) (Phrase.ofWords ["String"]) ([] ++ [])
      (named "String") := rfl
    have isForm : SpellsForm rules [] ([] ++ []) (.stored none) := .stored .absent .atEnd
    exact .member (SpellsMember.intro false .alone bare isName isType isForm :)
  have peak : SpellsItem rules (after 2) items[1].1 items[1].2 := by
    have isName : (Ident.plain "peak").isName = true := rfl
    have isBody : Takes rules.statements (Phrase.ofWords ["level"]) [] (Phrase.ofWords ["level"]) :=
      rfl
    have isForm : SpellsForm rules (after 2) (items[1].1.drop 3) _ :=
      .computed (.block (.intro false isBody)) .absent
    have isType : Takes (rules.type true true) (Phrase.ofWords ["i64"])
      (items[1].1.drop 3 ++ after 2) (named "i64") := rfl
    exact .member (SpellsMember.intro false .alone bare isName isType isForm :)
  have level : SpellsItem rules (after 1) items[0].1 items[0].2 := by
    have isName : (Ident.plain "level").isName = true := rfl
    have nothing : Takes rules.statements [] [] [] := rfl
    have observers := SpellsObservers.willSetFirst (.intro false nothing) (.intro false nothing)
    have isForm : SpellsForm rules (after 1) (items[0].1.drop 3) _ :=
      .observed .absent observers .absent
    have isType : Takes (rules.type true true) (Phrase.ofWords ["i64"])
      (items[0].1.drop 3 ++ after 1) (named "i64") := rfl
    exact .member (SpellsMember.intro false .alone bare isName isType isForm :)
  have body : SpellsBody rules (after 0) (items.map Prod.snd) :=
    .cons level (.cons peak (.cons unit .nil))
  have isName : (Ident.plain "Meter").isName = true := rfl
  rw [Record.parsed_iff_spelled, depth]
  exact (SpellsRecord.intro false false bare isName body :)

/-- The members of a record that is read are declared as they may be, wherever their trees stand. -/
theorem Record.sound_of_parsed_sample :
    Record.ofPhrase? Sample.meterPhrase = .ok Sample.meterRecord ∧
      ∀ member ∈ Sample.meterRecord.members, ∃ (around : Phrase → Phrase) (trees rest : Phrase),
        around trees = Sample.meterPhrase ∧
        member.form.IsSound (Rules.forPhrase Sample.meterPhrase) trees rest fun others =>
          Record.ofPhrase? (around others) = .ok Sample.meterRecord := by
  obtain ⟨_, _, _, _, stands, -, -, declared⟩ := Record.sound_of_parsed Sample.parsed_meter
  refine ⟨Sample.parsed_meter, fun member inside => ?_⟩
  obtain ⟨_, _, _, _, _, trees, rest, rfl, -, -, isSound⟩ := declared member inside
  exact ⟨_, trees, rest, stands.symm, isSound⟩

end KeyedRecord

/-
**Every record in the dialect is read.**

What spells a part of a record is read as that part, and the reader goes on behind it. For a body
this is an induction over its items: the look ahead past a heading tells an item of an
implementation from a member, and each of them leaves exactly what spells the items behind it.

* `SpellsForm.taken`: what stands behind the type of a member.
* `SpellsItem.taken`, `SpellsBody.taken`: an item, and a body.
* `Record.parsed_of_spelled`: a record, from its trees or its text.
-/

import KeyedRecord.Proofs.Record.Spelling
import KeyedRecord.Sample.Basic

namespace KeyedRecord

open Grammar

section

variable {rules : Rules}

/-! ### Accessors -/

theorem SpellsBlock.taken {keyword : String} {phrase statements : Phrase}
    (spelled : SpellsBlock rules keyword phrase statements) (rest : Phrase) :
    Takes (Observers.readBlock (.ofRules rules) keyword) phrase rest
      (Phrase.braced statements) := by
  obtain ⟨captured, isStatements⟩ := spelled
  unfold Observers.readBlock
  apply Takes.cons_bind (takes_word keyword captured _).ofGrammar
  apply Takes.bind_nil (isStatements.ofGrammar.inBraces rest)
  exact .pure _ rest

/-- The first word of a block is its keyword. -/
theorem SpellsBlock.opens {keyword : String} {phrase statements : Phrase}
    (spelled : SpellsBlock rules keyword phrase statements) (rest : Phrase) :
    startsWithBlock keyword (phrase ++ rest) = true := by
  obtain ⟨captured, -⟩ := spelled
  show (startsWithWord keyword (.ident (Ident.plain keyword) captured :: _) && true) = true
  rw [Bool.and_true, startsWithWord_ident]

theorem SpellsBlock.not_isEmpty {keyword : String} {phrase statements : Phrase}
    (spelled : SpellsBlock rules keyword phrase statements) (rest : Phrase) :
    (phrase ++ rest).isEmpty = false := by
  obtain ⟨captured, -⟩ := spelled
  rfl

/-- An observer of what is to come is read if none has been before. -/
theorem SpellsBlock.taken_willSet {phrase statements : Phrase}
    (spelled : SpellsBlock rules "will_set" phrase statements) {before : Observers}
    (free : before.willSet = none) (rest : Phrase) :
    Takes (Observers.readNext (.ofRules rules) before) phrase rest
      { before with willSet := some (Phrase.braced statements) } := by
  have block := spelled.taken rest
  obtain ⟨captured, -⟩ := spelled
  unfold Observers.readNext
  rw [free]
  apply Takes.look (looks_peek _).ofGrammar rfl
  exact block.bind_nil (.pure _ rest)

/-- An observer of what has come is read if none has been before. -/
theorem SpellsBlock.taken_didSet {phrase statements : Phrase}
    (spelled : SpellsBlock rules "did_set" phrase statements) {before : Observers}
    (free : before.didSet = none) (rest : Phrase) :
    Takes (Observers.readNext (.ofRules rules) before) phrase rest
      { before with didSet := some (Phrase.braced statements) } := by
  have block := spelled.taken rest
  obtain ⟨captured, -⟩ := spelled
  unfold Observers.readNext
  rw [free]
  apply Takes.look (looks_peek _).ofGrammar rfl
  apply Takes.look (looks_peek _).ofGrammar rfl
  exact block.bind_nil (.pure _ rest)

/-- **Observers** are read in either order. -/
theorem SpellsObservers.taken {phrase : Phrase} {observers : Observers}
    (spelled : SpellsObservers rules phrase observers) :
    Takes (Observers.read (.ofRules rules)) phrase [] observers := by
  unfold Observers.read
  cases spelled with
  | willSet block =>
    apply Takes.bind_nil (block.taken_willSet rfl [])
    exact .look looks_atEnd.ofGrammar rfl (.pure _ [])
  | didSet block =>
    apply Takes.bind_nil (block.taken_didSet rfl [])
    exact .look looks_atEnd.ofGrammar rfl (.pure _ [])
  | willSetFirst first second =>
    apply Takes.bind (first.taken_willSet rfl _)
    apply Takes.look looks_atEnd.ofGrammar (second.not_isEmpty [])
    apply Takes.bind_nil (second.taken_didSet rfl [])
    exact .look looks_atEnd.ofGrammar rfl (.pure _ [])
  | didSetFirst first second =>
    apply Takes.bind (first.taken_didSet rfl _)
    apply Takes.look looks_atEnd.ofGrammar (second.not_isEmpty [])
    apply Takes.bind_nil (second.taken_willSet rfl [])
    exact .look looks_atEnd.ofGrammar rfl (.pure _ [])

theorem SpellsObservers.opens {phrase : Phrase} {observers : Observers}
    (spelled : SpellsObservers rules phrase observers) :
    (startsWithBlock "will_set" phrase || startsWithBlock "did_set" phrase) = true := by
  rw [Bool.or_eq_true_iff]
  cases spelled with
  | willSet block => exact .inl (List.append_nil phrase ▸ block.opens [])
  | didSet block => exact .inr (List.append_nil phrase ▸ block.opens [])
  | willSetFirst first _ => exact .inl (first.opens _)
  | didSetFirst first _ => exact .inr (first.opens _)

/-- **Observers** in braces. -/
theorem SpellsObservers.taken_accessor {content : Phrase} {observers : Observers}
    (spelled : SpellsObservers rules content observers) :
    Takes (Accessor.read (.ofRules rules)) content [] (.observers observers) := by
  unfold Accessor.read
  apply Takes.look looks_ahead.ofGrammar (List.append_nil content)
  rw [if_pos spelled.opens]
  exact spelled.taken.bind_nil (.pure _ [])

/-- **A getter** in braces. -/
theorem SpellsGetter.taken_accessor {content body : Phrase}
    (spelled : SpellsGetter rules content body) :
    Takes (Accessor.read (.ofRules rules)) content [] (.getter body) := by
  unfold Accessor.read
  apply Takes.look looks_ahead.ofGrammar (List.append_nil content)
  cases spelled with
  | bare isStatements noOther =>
    have noObserver : ¬ (startsWithBlock "will_set" content ||
        startsWithBlock "did_set" content) = true := by
      simp [noOther "will_set", noOther "did_set"]
    have noGetter : ¬ startsWithBlock "get" content = true := by simp [noOther "get"]
    rw [if_neg noObserver, if_neg noGetter]
    exact isStatements.ofGrammar.bind_nil (.pure _ [])
  | block spelled =>
    obtain ⟨captured, isStatements⟩ := spelled
    apply Takes.cons_bind (takes_word "get" captured _).ofGrammar
    apply Takes.bind_nil (isStatements.ofGrammar.inBraces [])
    exact .look looks_atEnd.ofGrammar rfl (.pure _ [])

/-! ### Members -/

section

variable {α : Type} {rest more : Phrase} {outcome : α}

/-- An initial value is read, or that there is none, and then what follows. -/
theorem SpellsInitial.bind {next : Option Phrase → RecordReader α} {phrase : Phrase}
    {initial : Option Phrase} (spelled : SpellsInitial rules (more ++ rest) phrase initial)
    (ends : startsWithOperator "=" (more ++ rest) = false)
    (taken : Takes (next initial) more rest outcome) :
    Takes (do
        let initial ← if ← (peek (startsWithOperator "=") : RecordReader Bool) then
            let _ ← (operator "=" : RecordReader Phrase)
            some <$> ((Fragments.ofRules rules).initial : RecordReader Phrase)
          else pure none
        next initial)
      (phrase ++ more) rest outcome := by
  cases spelled with
  | absent =>
    apply Takes.look (looks_peek _).ofGrammar ends
    exact Takes.nil_bind (.pure none _) taken
  | present spacing isExpr =>
    have value : Takes (Fragments.ofRules rules).initial _ (more ++ rest) _ :=
      isExpr.bind_nil (.pure _ _)
    apply Takes.look (looks_peek _).ofGrammar rfl
    apply Takes.cons_bind (takes_mark rfl spacing _).ofGrammar
    exact Takes.bind value.ofGrammar.map taken

/-- An accessor block is read, and then what follows. -/
theorem Takes.bind_accessor {next : Option Accessor → RecordReader α} {content : Phrase}
    {accessor : Accessor}
    (isAccessor : Takes (Accessor.read (.ofRules rules)) content [] accessor)
    (taken : Takes (next (some accessor)) more rest outcome) :
    Takes (do
        let accessor ← if ← (peek (startsWithGroup .brace) : RecordReader Bool) then
            some <$> inBraces (Accessor.read (.ofRules rules))
          else pure none
        next accessor)
      (.group .brace content :: more) rest outcome := by
  apply Takes.look (looks_peek _).ofGrammar rfl
  exact Takes.cons_bind (isAccessor.inBraces _).map taken

/-- No accessor block is read where none stands. -/
theorem Takes.bind_noAccessor {next : Option Accessor → RecordReader α}
    (absent : startsWithGroup .brace (more ++ rest) = false)
    (taken : Takes (next none) more rest outcome) :
    Takes (do
        let accessor ← if ← (peek (startsWithGroup .brace) : RecordReader Bool) then
            some <$> inBraces (Accessor.read (.ofRules rules))
          else pure none
        next accessor)
      more rest outcome := by
  apply Takes.look (looks_peek _).ofGrammar absent
  exact Takes.nil_bind (.pure none _) taken

end

theorem IsOptionalComma.taken {comma rest : Phrase} (isComma : IsOptionalComma comma)
    (noComma : startsWithOperator "," rest = false) (accessor : Accessor) :
    Takes (readMemberEnd (some accessor)) comma rest () := by
  cases isComma with
  | absent =>
    exact (takes_operator?_absent noComma).ofGrammar.bind_nil (.pure () rest)
  | present spacing =>
    exact (Takes.operator? rfl (takes_mark rfl spacing rest)).ofGrammar.bind_nil (.pure () rest)

theorem IsComma.taken {rest comma : Phrase} (isComma : IsComma rest comma) :
    Takes (readMemberEnd none) comma rest () := by
  cases isComma with
  | present spacing rest =>
    show Takes (_ >>= _) _ _ _
    apply Takes.look looks_atEnd.ofGrammar rfl
    exact (takes_mark rfl spacing rest).ofGrammar.bind_nil (.pure () rest)
  | atEnd => rfl

theorem IsComma.startsNothing {rest comma : Phrase} (isComma : IsComma rest comma) :
    startsWithOperator "=" (comma ++ rest) = false ∧
      startsWithGroup .brace (comma ++ rest) = false := by
  cases isComma with
  | present spacing rest => exact ⟨rfl, rfl⟩
  | atEnd => exact ⟨rfl, rfl⟩

theorem takes_form {initial : Option Phrase} {accessor : Option Accessor} {form : MemberForm}
    (valid : MemberForm.of? initial accessor = .ok form) (rest : Phrase) :
    Takes (MemberForm.of? initial accessor : RecordReader MemberForm) [] rest form := by
  rw [valid]
  rfl

/-- **How a member comes by its value** is read, whatever is made of it. -/
theorem SpellsForm.taken {α : Type} {rest phrase : Phrase} {form : MemberForm}
    (spelled : SpellsForm rules rest phrase form) (noComma : startsWithOperator "," rest = false)
    (build : MemberForm → α) :
    Takes (do
        let initial ← if ← (peek (startsWithOperator "=") : RecordReader Bool) then
            let _ ← (operator "=" : RecordReader Phrase)
            some <$> ((Fragments.ofRules rules).initial : RecordReader Phrase)
          else pure none
        let accessor ← if ← (peek (startsWithGroup .brace) : RecordReader Bool) then
            some <$> inBraces (Accessor.read (.ofRules rules))
          else pure none
        let form ← MemberForm.of? initial accessor
        readMemberEnd accessor
        return build form)
      phrase rest (build form) := by
  cases spelled with
  | stored isInitial isComma =>
    apply SpellsInitial.bind isInitial isComma.startsNothing.1
    apply Takes.bind_noAccessor isComma.startsNothing.2
    apply Takes.nil_bind (takes_form rfl _)
    exact isComma.taken.bind_nil (.pure _ rest)
  | observed isInitial isObservers isComma =>
    apply SpellsInitial.bind isInitial rfl
    apply Takes.bind_accessor isObservers.taken_accessor
    apply Takes.nil_bind (takes_form rfl _)
    exact (isComma.taken noComma _).bind_nil (.pure _ rest)
  | computed isGetter isComma =>
    apply SpellsInitial.bind .absent rfl
    apply Takes.bind_accessor isGetter.taken_accessor
    apply Takes.nil_bind (takes_form rfl _)
    exact (isComma.taken noComma _).bind_nil (.pure _ rest)

/-- **A member** is read in front of what is no comma. -/
theorem SpellsMember.taken {rest phrase : Phrase} {member : Member}
    (spelled : SpellsMember rules rest phrase member)
    (noComma : startsWithOperator "," rest = false) :
    Takes (Member.read (.ofRules rules)) phrase rest member := by
  obtain @⟨heading, visibility, typePhrase, formPhrase, attributes, name, captured, spacing, type,
    form, isHeading, isName, isType, isForm⟩ := spelled
  have formed := isForm.taken noComma fun form =>
    Member.mk attributes visibility name type form
  unfold Member.read
  apply isHeading.bind (Ident.ne_of_isName isName (by decide))
  apply Takes.cons_bind (takes_name isName captured _).ofGrammar
  apply Takes.cons_bind (takes_mark rfl spacing _).ofGrammar
  apply Takes.bind isType.ofGrammar
  exact formed

/-! ### Items -/

/-- **The look ahead past a heading** tells an item of an implementation from a member. -/
theorem BodyItem.read_run {heading visibility : Phrase} {attributes : List Attribute}
    (isHeading : SpellsHeading rules heading attributes visibility) {identifier : Ident}
    (notPub : identifier ≠ Ident.plain "pub") (captured : Bool) (more : Phrase) :
    (BodyItem.read (.ofRules rules)).run ⟨heading ++ .ident identifier captured :: more, false⟩ =
      (if startsWithAnyWord itemWords (.ident identifier captured :: more) then do
          return .item (← (implItem rules : RecordReader ImplItem))
        else do return .member (← Member.read (.ofRules rules)) : RecordReader BodyItem).run
        ⟨heading ++ .ident identifier captured :: more, false⟩ := by
  unfold BodyItem.read
  rw [StateT.run_bind, StateT.run_get, pure_bind]
  exact isHeading.run_bind notPub captured more

/-- **An item** is read in front of what is no comma. -/
theorem SpellsItem.taken {rest phrase : Phrase} {item : BodyItem}
    (spelled : SpellsItem rules rest phrase item)
    (noComma : startsWithOperator "," rest = false) :
    Takes (BodyItem.read (.ofRules rules)) phrase rest item := by
  unfold Takes
  cases spelled with
  | member spelled =>
    have read := spelled.taken noComma
    obtain @⟨_, _, _, _, _, name, captured, spacing, _, _, isHeading, isName, -, -⟩ := spelled
    have reserved : ∀ word ∈ itemWords, (Ident.plain word).isName = false := by decide
    have noItem (more : Phrase) :
        ¬ startsWithAnyWord itemWords (.ident name captured :: more) = true := by
      rw [startsWithAnyWord_ident]
      rintro ⟨word, inside, same⟩
      exact Ident.ne_of_isName isName (reserved word inside) same
    rw [List.append_assoc, List.cons_append,
      BodyItem.read_run isHeading (Ident.ne_of_isName isName (by decide)), if_neg (noItem _)]
    rw [← List.cons_append, ← List.append_assoc]
    exact read.bind_nil (.pure (BodyItem.member _) rest)
  | @item _ _ more _ word captured result isHeading isWord isItem =>
    have isItemWord : startsWithAnyWord itemWords
        (.ident (Ident.plain word) captured :: (more ++ rest)) = true :=
      (startsWithAnyWord_ident itemWords _ captured _).mpr ⟨word, isWord, rfl⟩
    rw [List.append_assoc, List.cons_append,
      BodyItem.read_run isHeading (ne_pub_of_mem_itemWords isWord), if_pos isItemWord]
    rw [← List.cons_append, ← List.append_assoc]
    exact isItem.ofGrammar.bind_nil (.pure (BodyItem.item result) rest)

/-- **A body** is read to its end. -/
theorem SpellsBody.taken {phrase : Phrase} {items : List BodyItem}
    (spelled : SpellsBody rules phrase items) :
    Takes (BodyItem.readAll (.ofRules rules)) phrase [] items := by
  show BodyItem.readAll (.ofRules rules) ⟨phrase ++ [], false⟩ = .ok (items, ⟨[], false⟩)
  rw [List.append_nil]
  induction spelled with
  | nil =>
    rw [BodyItem.readAll]
    rfl
  | @cons phrase rest item items first others ih =>
    -- The items behind open with no comma, so the first one leaves all of them.
    have read : (BodyItem.read (.ofRules rules)).run ⟨phrase ++ rest, false⟩ =
        .ok (item, ⟨rest, false⟩) := first.taken others.not_startsWithComma
    have shorter : rest.length < (phrase ++ rest).length := by
      obtain ⟨heading, _, _, identifier, captured, more, rfl, -⟩ := first.opens
      simp only [List.length_append, List.length_cons]
      omega
    have present : (phrase ++ rest).isEmpty = false := by
      rw [List.isEmpty_eq_false_iff, ← List.length_pos_iff]
      omega
    rw [BodyItem.readAll]
    simp only [present, Bool.false_eq_true, if_false, read, if_pos shorter, ih]

/-! ### Records -/

/-- **A record** is read to its end. -/
theorem SpellsRecord.taken {phrase : Phrase} {record : Record}
    (spelled : SpellsRecord rules phrase record) :
    Takes (Record.read (.ofRules rules)) phrase [] record := by
  obtain ⟨structCaptured, nameCaptured, isHeading, isName, isBody⟩ := spelled
  unfold Record.read
  apply isHeading.bind (by decide)
  apply Takes.cons_bind (takes_word "struct" structCaptured _).ofGrammar
  apply Takes.cons_bind (takes_name isName nameCaptured _).ofGrammar
  apply Takes.look looks_ahead.ofGrammar rfl
  apply Takes.bind_nil (isBody.taken.inBraces [])
  exact .look looks_atEnd.ofGrammar rfl (.pure _ [])

end

/-- A record is read by the rules that say how it is spelled. -/
theorem Record.ofPhraseWith?_of_spelled {rules : Rules} {phrase : Phrase} {record : Record}
    (spelled : SpellsRecord rules phrase record) :
    Record.ofPhraseWith? (.ofRules rules) phrase = .ok record := by
  have read : (Record.read (.ofRules rules)).run ⟨phrase, false⟩ = .ok (record, ⟨[], false⟩) :=
    List.append_nil phrase ▸ spelled.taken
  unfold Record.ofPhraseWith?
  rw [read]
  rfl

/-- **Every record in the dialect is read.** Let trees spell a record, where each type, initial
value, block and item in it is what the grammar reads in that place, up to what follows. Then the
trees, and every source text that consists of them, are read as that record, with all items in
order. -/
theorem Record.parsed_of_spelled {phrase : Phrase} {record : Record}
    (spelled : SpellsRecord (Rules.forPhrase phrase) phrase record) :
    Record.ofPhrase? phrase = .ok record ∧
      ∀ source, Phrase.ofSource? source = some phrase → Record.ofSource? source = .ok record := by
  have parsed : Record.ofPhrase? phrase = .ok record := Record.ofPhraseWith?_of_spelled spelled
  refine ⟨parsed, fun source isSource => ?_⟩
  unfold Record.ofSource?
  rw [isSource]
  exact parsed

/-- The items of a record, as they are spelled and as they are read: a stored member with an initial
value, a getter without and with a block of its own, both observers, a method, and a stored member
without a comma. -/
def Sample.ledgerItems : List (Phrase × BodyItem) :=
  [(Phrase.ofWords ["#"] ++ Phrase.bracketed (Phrase.ofWords ["uncodable_key"]) ++
        Phrase.ofWords ["pub", "number", ":", "i64", "=", "3", ","],
      .member ⟨[mark "uncodable_key"], Phrase.ofWords ["pub"], Ident.plain "number", named "i64",
        .stored (some (Phrase.ofWords ["3"]))⟩),
    (Phrase.ofWords ["total", ":", "i64"] ++ Phrase.braced (Phrase.ofWords ["self", ".", "number"]),
      .member ⟨[], [], Ident.plain "total", named "i64",
        .computed (Phrase.ofWords ["self", ".", "number"])⟩),
    (Phrase.ofWords ["label", ":", "String"] ++
        Phrase.braced (Phrase.ofWords ["get"] ++ Phrase.braced (Phrase.ofWords ["text"])) ++
        Phrase.ofWords [","],
      .member ⟨[], [], Ident.plain "label", named "String", .computed (Phrase.ofWords ["text"])⟩),
    (Phrase.ofWords ["state", ":", "i64", "=", "0"] ++
        Phrase.braced (Phrase.ofWords ["did_set"] ++ Phrase.braced [] ++
          (Phrase.ofWords ["will_set"] ++ Phrase.braced (Phrase.ofWords ["new_value", ";"]))),
      .member ⟨[], [], Ident.plain "state", named "i64", .observed (some (Phrase.ofWords ["0"]))
        ⟨some (Phrase.braced (Phrase.ofWords ["new_value", ";"])), some (Phrase.braced [])⟩⟩),
    (Phrase.ofWords ["fn", "helper"] ++ Phrase.parenthesized [] ++ Phrase.braced [],
      .item ⟨.function,
        Phrase.ofWords ["fn", "helper"] ++ Phrase.parenthesized [] ++ Phrase.braced []⟩),
    (Phrase.ofWords ["last", ":", "bool"],
      .member ⟨[], [], Ident.plain "last", named "bool", .stored none⟩)]

/-- The trees of a record with these items. -/
def Sample.ledgerPhrase : Phrase :=
  Phrase.ofWords ["pub", "struct", "Ledger"] ++
    Phrase.braced (Sample.ledgerItems.map Prod.fst).flatten

/-- The record that these trees spell. -/
def Sample.ledgerRecord : Record where
  attributes := []
  visibility := Phrase.ofWords ["pub"]
  name := Ident.plain "Ledger"
  items := Sample.ledgerItems.map Prod.snd

/-- A record with members of every form and a method is read. -/
theorem parsed_of_spelled_sample :
    SpellsRecord (Rules.forPhrase Sample.ledgerPhrase) Sample.ledgerPhrase Sample.ledgerRecord ∧
      Record.ofPhrase? Sample.ledgerPhrase = .ok Sample.ledgerRecord := by
  -- The depth of the rules is worked out once, not for each part that is read.
  have depth : Rules.forPhrase Sample.ledgerPhrase = Rules.ofDepth 400 := rfl
  let rules := Rules.ofDepth 400
  let items := Sample.ledgerItems
  let after (count : Nat) : Phrase := ((items.drop count).map Prod.fst).flatten
  have bare : SpellsHeading rules [] [] [] := (SpellsHeading.intro .nil .inherited :)
  have everyone : SpellsVisibility (Phrase.ofWords ["pub"]) (Phrase.ofWords ["pub"]) :=
    .everywhere false
  have isPublic : SpellsHeading rules (Phrase.ofWords ["pub"]) [] (Phrase.ofWords ["pub"]) :=
    (SpellsHeading.intro .nil everyone :)
  have last : SpellsItem rules (after 6) items[5].1 items[5].2 := by
    have isName : (Ident.plain "last").isName = true := rfl
    have isType : Takes (rules.type true true) (Phrase.ofWords ["bool"]) ([] ++ [])
      (Sample.named "bool") := rfl
    have isForm : SpellsForm rules [] ([] ++ []) (.stored none) := .stored .absent .atEnd
    exact .member (SpellsMember.intro false .alone bare isName isType isForm :)
  have helper : SpellsItem rules (after 5) items[4].1 items[4].2 := by
    have isItem : Takes (implItem rules) ([] ++ items[4].1) (after 5) _ := rfl
    exact (SpellsItem.item false bare (by decide) isItem :)
  have state : SpellsItem rules (after 4) items[3].1 items[3].2 := by
    have isName : (Ident.plain "state").isName = true := rfl
    have first : Takes rules.statements [] [] [] := rfl
    have second : Takes rules.statements (Phrase.ofWords ["new_value", ";"]) []
      (Phrase.ofWords ["new_value", ";"]) := rfl
    have observers := SpellsObservers.didSetFirst (.intro false first) (.intro false second)
    have isValue : Takes (rules.expr false) (Phrase.ofWords ["0"])
      (items[3].1.drop 5 ++ ([] ++ after 4)) ⟨Phrase.ofWords ["0"], .other⟩ := rfl
    have isForm := SpellsForm.observed (.present .alone isValue) observers .absent
    have isType : Takes (rules.type true true) (Phrase.ofWords ["i64"])
      (items[3].1.drop 3 ++ after 4)
      (Sample.named "i64") := rfl
    exact .member (SpellsMember.intro false .alone bare isName isType isForm :)
  have label : SpellsItem rules (after 3) items[2].1 items[2].2 := by
    have isName : (Ident.plain "label").isName = true := rfl
    have isBody : Takes rules.statements (Phrase.ofWords ["text"]) [] (Phrase.ofWords ["text"]) :=
      rfl
    have isForm : SpellsForm rules (after 3) (items[2].1.drop 3) _ :=
      .computed (.block (.intro false isBody)) (.present .alone)
    have isType : Takes (rules.type true true) (Phrase.ofWords ["String"])
      (items[2].1.drop 3 ++ after 3)
      (Sample.named "String") := rfl
    exact .member (SpellsMember.intro false .alone bare isName isType isForm :)
  have total : SpellsItem rules (after 2) items[1].1 items[1].2 := by
    have isName : (Ident.plain "total").isName = true := rfl
    have isBody : Takes rules.statements (Phrase.ofWords ["self", ".", "number"]) []
      (Phrase.ofWords ["self", ".", "number"]) := rfl
    have isForm : SpellsForm rules (after 2) (items[1].1.drop 3) _ :=
      .computed (.bare isBody (by decide)) .absent
    have isType : Takes (rules.type true true) (Phrase.ofWords ["i64"])
      (items[1].1.drop 3 ++ after 2)
      (Sample.named "i64") := rfl
    exact .member (SpellsMember.intro false .alone bare isName isType isForm :)
  have number : SpellsItem rules (after 1) items[0].1 items[0].2 := by
    have isName : (Ident.plain "number").isName = true := rfl
    have isPath : SpellsAttributePath (Phrase.ofWords ["uncodable_key"]) _ :=
      .path (.unrooted (.last false (.inl rfl)))
    have isAttribute : SpellsAttribute rules (Phrase.ofWords ["uncodable_key"]) _ := .plain isPath
    have isHeading := SpellsHeading.intro (.cons .alone isAttribute .nil) everyone
    have isValue : Takes (rules.expr false) (Phrase.ofWords ["3"])
      (Phrase.ofWords [","] ++ after 1) ⟨Phrase.ofWords ["3"], .other⟩ := rfl
    have isForm : SpellsForm rules (after 1) _ _ :=
      .stored (.present .alone isValue) (.present .alone _)
    have isType : Takes (rules.type true true) (Phrase.ofWords ["i64"])
      (items[0].1.drop 6 ++ after 1)
      (Sample.named "i64") := rfl
    exact .member (SpellsMember.intro false .alone isHeading isName isType isForm :)
  have body : SpellsBody rules (after 0) (items.map Prod.snd) :=
    .cons number (.cons total (.cons label (.cons state (.cons helper (.cons last .nil)))))
  have isName : (Ident.plain "Ledger").isName = true := rfl
  have spelled : SpellsRecord (Rules.forPhrase Sample.ledgerPhrase) Sample.ledgerPhrase
      Sample.ledgerRecord := by
    rw [depth]
    exact (SpellsRecord.intro false false isPublic isName body :)
  exact ⟨spelled, (Record.parsed_of_spelled spelled).1⟩

end KeyedRecord

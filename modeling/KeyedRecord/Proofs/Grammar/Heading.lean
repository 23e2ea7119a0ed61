/-
**What stands before an item.**

Attributes and a visibility may stand before an item. Which trees spell them is said by rules that
do not say how to read them; only the value of an attribute may be an expression, which is spelled
by whatever the grammar reads as one. What is spelled in this way is read as what it says, if the
item itself opens with a word other than `pub`.

* `SpellsPath`, `SpellsAttributes`, `SpellsVisibility`: which trees spell a heading.
* `SpellsHeading.run_bind`: a heading is read, and then the item.
-/

import KeyedRecord.Proofs.Grammar.Takes

namespace KeyedRecord.Grammar

/-! ### Paths -/

/-- The identifier may stand in a path. -/
def IsPathWord (identifier : Ident) : Prop :=
  identifier.isName = true ∨ ∃ word ∈ pathWords, identifier = Ident.plain word

instance : DecidablePred IsPathWord := fun identifier =>
  inferInstanceAs (Decidable
    (identifier.isName = true ∨ ∃ word ∈ pathWords, identifier = Ident.plain word))

/-- The trees spell segments without arguments, with double colons between them. -/
inductive SpellsSegments : Phrase → List Segment → Prop
  | last {identifier : Ident} (captured : Bool) :
      IsPathWord identifier →
      SpellsSegments [.ident identifier captured] [⟨identifier, .none⟩]
  | cons {identifier : Ident} (captured : Bool) (spacing : Spacing) {phrase : Phrase}
      {segments : List Segment} :
      IsPathWord identifier → SpellsSegments phrase segments →
      SpellsSegments
        (.ident identifier captured :: .punct ':' .joint :: .punct ':' spacing :: phrase)
        (⟨identifier, .none⟩ :: segments)

/-- The trees spell a path without arguments. -/
inductive SpellsPath : Phrase → Path → Prop
  | unrooted {phrase : Phrase} {segments : List Segment} :
      SpellsSegments phrase segments → SpellsPath phrase ⟨false, segments⟩
  | rooted (spacing : Spacing) {phrase : Phrase} {segments : List Segment} :
      SpellsSegments phrase segments →
      SpellsPath (.punct ':' .joint :: .punct ':' spacing :: phrase) ⟨true, segments⟩

theorem startsWithWord_ident (word : String) (identifier : Ident) (captured : Bool)
    (rest : Phrase) : startsWithWord word (.ident identifier captured :: rest) = true ↔
      identifier = Ident.plain word := by
  obtain ⟨raw, name⟩ := identifier
  cases raw <;> simp [startsWithWord, Ident.plain]

theorem startsWithWord_of_ne {word : String} {identifier : Ident}
    (other : identifier ≠ Ident.plain word) (captured : Bool) (rest : Phrase) :
    startsWithWord word (.ident identifier captured :: rest) = false := by
  rw [← Bool.not_eq_true, startsWithWord_ident]
  exact other

theorem startsWithAnyWord_ident (words : List String) (identifier : Ident) (captured : Bool)
    (rest : Phrase) : startsWithAnyWord words (.ident identifier captured :: rest) = true ↔
      ∃ word ∈ words, identifier = Ident.plain word := by
  unfold startsWithAnyWord
  simp only [List.any_eq_true, startsWithWord_ident]

theorem not_startsWithColons {c : Char} (other : c ≠ ':') (spacing : Spacing) (rest : Phrase) :
    startsWithColons (.punct c spacing :: rest) = false := by
  cases spacing with
  | alone => rfl
  | joint =>
    change ((':' == c) && _) = false
    rw [beq_false_of_ne other.symm, Bool.false_and]

theorem IsPathWord.starts {identifier : Ident} (isPathWord : IsPathWord identifier)
    (captured : Bool) (rest : Phrase) :
    startsPathSegment (.ident identifier captured :: rest) = true := by
  unfold startsPathSegment
  rw [Bool.or_eq_true_iff, startsWithAnyWord_ident]
  exact isPathWord

theorem SpellsSegments.opens {phrase : Phrase} {segments : List Segment}
    (spelled : SpellsSegments phrase segments) :
    ∃ identifier captured more, phrase = .ident identifier captured :: more ∧
      IsPathWord identifier := by
  cases spelled with
  | last captured isPathWord => exact ⟨_, captured, _, rfl, isPathWord⟩
  | cons captured spacing isPathWord _ => exact ⟨_, captured, _, rfl, isPathWord⟩

/-- **Segments** are read up to what is no double colon. -/
theorem SpellsSegments.taken {phrase rest : Phrase} {segments : List Segment}
    (spelled : SpellsSegments phrase segments) (ends : startsWithColons rest = false) {bound : Nat}
    (enough : phrase.length < bound) : Takes (plainSegments bound) phrase rest segments := by
  induction spelled generalizing bound with
  | @last identifier captured isPathWord =>
    obtain ⟨bound, rfl⟩ := Nat.exists_eq_add_one_of_ne_zero (Nat.ne_zero_of_lt enough)
    unfold plainSegments
    apply Takes.look (looks_peek _) (isPathWord.starts captured rest)
    apply Takes.bind_nil (takes_anyIdent identifier captured rest)
    exact .look (looks_peek _) ends (.pure _ rest)
  | @cons identifier captured spacing phrase segments isPathWord spelled ih =>
    obtain ⟨bound, rfl⟩ := Nat.exists_eq_add_one_of_ne_zero (Nat.ne_zero_of_lt enough)
    have following : Takes (plainSegments bound) phrase rest segments :=
      ih (by simp only [List.length_cons] at enough; omega)
    unfold plainSegments
    apply Takes.look (looks_peek _) (isPathWord.starts captured _)
    apply Takes.cons_bind (takes_anyIdent identifier captured _)
    apply Takes.look (looks_peek _) rfl
    show Takes _ ([_, _] ++ phrase) rest _
    apply Takes.bind (takes_colons spacing _)
    exact following.bind_nil (.pure _ rest)

/-- **A path** is read up to what is no double colon. -/
theorem SpellsPath.taken {phrase rest : Phrase} {path : Path} (spelled : SpellsPath phrase path)
    (ends : startsWithColons rest = false) : Takes plainPath phrase rest path := by
  cases spelled with
  | @unrooted _ segments spelled =>
    have following : Takes (plainSegments ((phrase ++ rest).length + 1)) phrase rest segments :=
      spelled.taken ends (by rw [List.length_append]; omega)
    have absent : startsWithOperator "::" (phrase ++ rest) = false := by
      obtain ⟨identifier, captured, more, rfl, -⟩ := spelled.opens
      rfl
    apply Takes.nil_bind (takes_operator?_absent absent)
    exact .look looks_ahead rfl (following.bind_nil (.pure _ rest))
  | @rooted spacing phrase segments spelled =>
    have following : Takes (plainSegments ((phrase ++ rest).length + 1)) phrase rest segments :=
      spelled.taken ends (by rw [List.length_append]; omega)
    show Takes _ ([_, _] ++ phrase) rest _
    apply Takes.bind (Takes.operator? rfl (takes_colons spacing _))
    exact .look looks_ahead rfl (following.bind_nil (.pure _ rest))

theorem SpellsPath.not_startsWithWord {phrase : Phrase} {path : Path}
    (spelled : SpellsPath phrase path) {word : String} (other : ¬ IsPathWord (Ident.plain word))
    (rest : Phrase) : startsWithWord word (phrase ++ rest) = false := by
  cases spelled with
  | unrooted spelled =>
    obtain ⟨identifier, captured, more, rfl, isPathWord⟩ := spelled.opens
    refine startsWithWord_of_ne ?_ captured (more ++ rest)
    rintro rfl
    exact other isPathWord
  | rooted => rfl

/-! ### Attributes -/

/-- The trees spell the path of an attribute. One reserved word may stand for it. -/
inductive SpellsAttributePath : Phrase → Path → Prop
  | path {phrase : Phrase} {path : Path} : SpellsPath phrase path → SpellsAttributePath phrase path
  | reserved (captured : Bool) :
      SpellsAttributePath [.ident (Ident.plain "unsafe") captured]
        (Path.ofIdent (Ident.plain "unsafe"))

/-- The trees spell the value of an attribute: a literal, or what the grammar reads as an
expression without attributes. -/
inductive SpellsValue (rules : Rules) : Phrase → Phrase → Prop
  | literal {phrase value : Phrase} :
      takeLiteral? phrase = some (value, []) → SpellsValue rules phrase value
  | expr {phrase : Phrase} {expr : Expr} :
      (∀ value, takeLiteral? phrase ≠ some (value, [])) → startsWithOperator "#" phrase = false →
      Takes (rules.expr true) phrase [] expr → SpellsValue rules phrase expr.phrase

/-- The trees spell an attribute between its brackets: a path, with nothing, a group or a value
after it. -/
inductive SpellsAttribute (rules : Rules) : Phrase → Attribute → Prop
  | plain {phrase : Phrase} {path : Path} :
      SpellsAttributePath phrase path → SpellsAttribute rules phrase ⟨path, .none⟩
  | list {phrase : Phrase} {path : Path} (delimiter : Delimiter) (content : Phrase) :
      SpellsAttributePath phrase path →
      SpellsAttribute rules (phrase ++ [.group delimiter content]) ⟨path, .list delimiter content⟩
  | value {phrase : Phrase} {path : Path} (spacing : Spacing) {trees value : Phrase} :
      SpellsAttributePath phrase path → SpellsValue rules trees value →
      SpellsAttribute rules (phrase ++ .punct '=' spacing :: trees) ⟨path, .value value⟩

/-- The trees spell attributes, each behind a number sign and in brackets. -/
inductive SpellsAttributes (rules : Rules) : Phrase → List Attribute → Prop
  | nil : SpellsAttributes rules [] []
  | cons (spacing : Spacing) {content phrase : Phrase} {attr : Attribute}
      {attributes : List Attribute} :
      SpellsAttribute rules content attr → SpellsAttributes rules phrase attributes →
      SpellsAttributes rules (.punct '#' spacing :: .group .bracket content :: phrase)
        (attr :: attributes)

section

variable {rules : Rules}

theorem SpellsAttributePath.taken {phrase rest : Phrase} {path : Path}
    (spelled : SpellsAttributePath phrase path) (ends : startsWithColons rest = false) :
    Takes attributePath phrase rest path := by
  unfold attributePath
  cases spelled with
  | path spelled =>
    have noWord : startsWithWord "unsafe" (phrase ++ rest) = false :=
      spelled.not_startsWithWord (by decide) rest
    apply Takes.look (looks_peek _) noWord
    exact spelled.taken ends
  | reserved captured => rfl

/-- A reader that is tried moves nowhere. -/
theorem attempt_run {α : Type} (reader : Reader α) (cursor : Cursor) :
    (attempt reader).run cursor = .ok ((reader.run cursor).toOption, cursor) := by
  unfold attempt
  rw [StateT.run_bind, StateT.run_get, pure_bind]
  cases reader.run cursor <;> rfl

theorem literal_run (phrase : Phrase) :
    (literal.run ⟨phrase, false⟩).toOption =
      (takeLiteral? phrase).map fun taken => (taken.1, ⟨taken.2, false⟩) := by
  have seen : ahead.run ⟨phrase, false⟩ = pure (phrase, ⟨phrase, false⟩) := rfl
  unfold literal
  rw [StateT.run_bind, seen, pure_bind]
  cases takeLiteral? phrase <;> rfl

theorem takes_attempt_literal (phrase : Phrase) :
    Takes (attempt literal) [] phrase
      ((takeLiteral? phrase).map fun taken => (taken.1, ⟨taken.2, false⟩)) := by
  rw [← literal_run]
  exact attempt_run literal ⟨phrase, false⟩

theorem SpellsValue.taken {phrase value : Phrase} (spelled : SpellsValue rules phrase value) :
    Takes (attributeValue rules) phrase [] value := by
  have tried := takes_attempt_literal (phrase ++ [])
  unfold attributeValue
  cases spelled with
  | literal isLiteral =>
    rw [List.append_nil, isLiteral, ← List.append_nil phrase] at tried
    exact Takes.nil_bind tried rfl
  | @expr result noLiteral noAttribute taken =>
    rw [← List.append_nil phrase] at noLiteral noAttribute
    -- A literal with something behind it is not taken: the reader starts again with an expression.
    have following : Takes (do
        if ← peek (startsWithOperator "#") then fail
        return (← rules.expr true).phrase) phrase [] result.phrase := by
      apply Takes.look (looks_peek _) noAttribute
      exact taken.bind_nil (.pure _ [])
    cases found : takeLiteral? (phrase ++ []) with
    | none =>
      rw [found] at tried
      exact Takes.nil_bind tried following
    | some literal =>
      rw [found] at tried
      obtain ⟨value, _ | ⟨tree, left⟩⟩ := literal
      · exact absurd found (noLiteral value)
      · exact Takes.nil_bind tried following

/-- **An attribute** is read from what stands between its brackets. -/
theorem SpellsAttribute.taken {phrase : Phrase} {attr : Attribute}
    (spelled : SpellsAttribute rules phrase attr) :
    Takes (attributeContent rules) phrase [] attr := by
  unfold attributeContent
  cases spelled with
  | plain path =>
    apply Takes.bind_nil (path.taken rfl)
    rfl
  | list delimiter content path =>
    apply Takes.bind (path.taken rfl)
    rfl
  | value spacing path value =>
    apply Takes.bind (path.taken (not_startsWithColons (by decide) spacing _))
    apply Takes.look looks_ahead rfl
    apply Takes.look (looks_peek _) rfl
    apply Takes.cons_bind (takes_mark rfl spacing _)
    exact value.taken.bind_nil (.pure _ [])

/-- **Attributes** are read up to what is no further one. -/
theorem SpellsAttributes.taken {phrase rest : Phrase} {attributes : List Attribute}
    (spelled : SpellsAttributes rules phrase attributes)
    (ends : startsWithOperator "#" rest = false) :
    Takes (Grammar.attributes rules) phrase rest attributes := by
  have all : ∀ bound, phrase.length < bound →
      Takes (attributesAtMost rules bound) phrase rest attributes := by
    induction spelled with
    | nil =>
      intro bound enough
      obtain ⟨bound, rfl⟩ := Nat.exists_eq_add_one_of_ne_zero (Nat.ne_zero_of_lt enough)
      unfold attributesAtMost
      exact .look (looks_peek _) ends (.pure [] rest)
    | cons spacing first others ih =>
      intro bound enough
      obtain ⟨bound, rfl⟩ := Nat.exists_eq_add_one_of_ne_zero (Nat.ne_zero_of_lt enough)
      have following := ih bound (by simp only [List.length_cons] at enough; omega)
      unfold attributesAtMost
      apply Takes.look (looks_peek _) rfl
      apply Takes.cons_bind (takes_mark rfl spacing _)
      apply Takes.cons_bind (first.taken.within .bracket _)
      exact following.bind_nil (.pure _ rest)
  have enough : phrase.length < (phrase ++ rest).length + 1 := by rw [List.length_append]; omega
  exact .look looks_ahead rfl (all _ enough)

end

/-! ### Visibility -/

/-- The trees spell a visibility: none, `pub`, or `pub` with its limit in round brackets. -/
inductive SpellsVisibility : Phrase → Phrase → Prop
  | inherited : SpellsVisibility [] []
  | everywhere (captured : Bool) :
      SpellsVisibility [.ident (Ident.plain "pub") captured] (Ident.plain "pub").phrase
  | limited (captured inner : Bool) {limit : String} :
      limit ∈ ["crate", "self", "super"] →
      SpellsVisibility
        [.ident (Ident.plain "pub") captured,
          .group .parenthesis [.ident (Ident.plain limit) inner]]
        ((Ident.plain "pub").phrase ++ Phrase.parenthesized [.ident (Ident.plain limit) inner])
  | limitedTo (captured inner : Bool) {phrase : Phrase} {path : Path} :
      SpellsPath phrase path →
      SpellsVisibility
        [.ident (Ident.plain "pub") captured,
          .group .parenthesis (.ident (Ident.plain "in") inner :: phrase)]
        ((Ident.plain "pub").phrase ++
          Phrase.parenthesized ((Ident.plain "in").phrase ++ path.phrase))

/-- **A visibility** is read in front of a word other than `pub`. -/
theorem SpellsVisibility.taken {phrase result : Phrase} (spelled : SpellsVisibility phrase result)
    {identifier : Ident} (notPub : identifier ≠ Ident.plain "pub") (captured : Bool)
    (more : Phrase) : Takes visibility phrase (.ident identifier captured :: more) result := by
  unfold visibility
  cases spelled with
  | inherited =>
    apply Takes.look (looks_peek _) (startsWithWord_of_ne notPub captured more)
    exact .pure [] _
  | everywhere inner =>
    apply Takes.look (looks_peek _) rfl
    apply Takes.bind_nil (takes_word "pub" inner _)
    rfl
  | limited outer inner isLimit =>
    apply Takes.look (looks_peek _) rfl
    apply Takes.cons_bind (takes_word "pub" outer _)
    apply Takes.look looks_ahead rfl
    simp only [List.mem_cons, List.not_mem_nil, or_false] at isLimit
    rcases isLimit with rfl | rfl | rfl <;> rfl
  | @limitedTo outer inner phrase path spelled =>
    have limit : Takes (do
        let opening ← word "in"
        return opening ++ (← plainPath).phrase) (.ident (Ident.plain "in") inner :: phrase) []
          ((Ident.plain "in").phrase ++ path.phrase) := by
      apply Takes.cons_bind (takes_word "in" inner _)
      exact (spelled.taken rfl).bind_nil (.pure _ [])
    apply Takes.look (looks_peek _) rfl
    apply Takes.cons_bind (takes_word "pub" outer _)
    apply Takes.look looks_ahead rfl
    change (on (.ident (Ident.plain "in") inner :: phrase) _ >>= fun limit =>
      pure ((Ident.plain "pub").phrase ++ Phrase.parenthesized limit) : Reader Phrase).run
        ⟨.ident identifier captured :: more, false⟩ = _
    rw [StateT.run_bind, on_run limit]
    rfl

/-! ### Headings -/

/-- The trees spell attributes and a visibility. -/
inductive SpellsHeading (rules : Rules) : Phrase → List Attribute → Phrase → Prop
  | intro {first second visibility : Phrase} {attributes : List Attribute} :
      SpellsAttributes rules first attributes → SpellsVisibility second visibility →
      SpellsHeading rules (first ++ second) attributes visibility

theorem SpellsVisibility.not_startsWithNumberSign {phrase result : Phrase}
    (spelled : SpellsVisibility phrase result) (identifier : Ident) (captured : Bool)
    (more : Phrase) :
    startsWithOperator "#" (phrase ++ .ident identifier captured :: more) = false := by
  cases spelled <;> rfl

/-- **A heading** is read, and then what opens with a word other than `pub`. -/
theorem SpellsHeading.run_bind {rules : Rules} {α : Type}
    {next : List Attribute → Phrase → RecordReader α} {phrase visibility : Phrase}
    {attributes : List Attribute} (spelled : SpellsHeading rules phrase attributes visibility)
    {identifier : Ident} (notPub : identifier ≠ Ident.plain "pub") (captured : Bool)
    (more : Phrase) :
    (do
        let attributes ← (Grammar.attributes rules : RecordReader (List Attribute))
        let visibility ← (Grammar.visibility : RecordReader Phrase)
        next attributes visibility : RecordReader α).run
        ⟨phrase ++ .ident identifier captured :: more, false⟩ =
      (next attributes visibility).run ⟨.ident identifier captured :: more, false⟩ := by
  obtain ⟨isAttributes, isVisibility⟩ := spelled
  have first := isAttributes.taken
    (isVisibility.not_startsWithNumberSign identifier captured more)
  have second := isVisibility.taken notPub captured more
  rw [List.append_assoc, first.ofGrammar.run_bind, second.ofGrammar.run_bind]

theorem SpellsHeading.bind {rules : Rules} {α : Type}
    {next : List Attribute → Phrase → RecordReader α} {phrase visibility more rest : Phrase}
    {attributes : List Attribute} {identifier : Ident} {captured : Bool} {outcome : α}
    (spelled : SpellsHeading rules phrase attributes visibility)
    (notPub : identifier ≠ Ident.plain "pub")
    (taken : Takes (next attributes visibility) (.ident identifier captured :: more) rest outcome) :
    Takes (do
        let attributes ← (Grammar.attributes rules : RecordReader (List Attribute))
        let visibility ← (Grammar.visibility : RecordReader Phrase)
        next attributes visibility)
      (phrase ++ .ident identifier captured :: more) rest outcome := by
  unfold Takes
  rw [List.append_assoc]
  exact (spelled.run_bind notPub captured (more ++ rest)).trans taken

end KeyedRecord.Grammar

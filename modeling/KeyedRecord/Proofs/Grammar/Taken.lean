/-
**What has been taken.**

The other way round: from what a reader gives to the trees it has taken. Since all readers move
forward, a reader that consists of two has taken what the two have taken, one behind the other, and
where no group has been left before its end, none had been left in between (`Takes.of_bind`). So
each reader of a heading has taken trees that spell what it gives.

* `Takes.of_bind`, `Takes.of_within`: what has been taken by one reader after another, and a group.
* `SpellsPath.of_taken`, `SpellsAttributes.of_taken`, `SpellsVisibility.of_taken`: the parts of a
  heading.
* `implItem_isWhole`: what is written of a method and of a constant.
-/

import KeyedRecord.Proofs.Grammar.Forward.Item

namespace KeyedRecord.Grammar

section

variable {ε α β : Type} {reader : StateT Cursor (Except ε) α}
  {next : α → StateT Cursor (Except ε) β} {phrase rest : Phrase} {result : α} {outcome : β}

/-- What a reader has taken that is not the last one: a phrase in front of what the others have
taken, and it has left no group before its end. -/
theorem Takes.of_run [forward : IsForward reader] {middle : Cursor}
    (ran : reader.run ⟨phrase ++ rest, false⟩ = .ok (result, middle))
    (others : middle.Precedes ⟨rest, false⟩) :
    ∃ first second, phrase = first ++ second ∧ middle = ⟨second ++ rest, false⟩ ∧
      Takes reader first (second ++ rest) result := by
  obtain ⟨trees, leftover⟩ := middle
  obtain ⟨⟨second, behind⟩, silent⟩ := others
  obtain ⟨⟨first, before⟩, -⟩ := forward.forwardFrom _ _ _ ran
  obtain rfl : leftover = false := Bool.eq_false_iff.mpr fun spoiled => by cases silent spoiled
  dsimp only at behind before
  subst behind
  rw [← List.append_assoc, List.append_cancel_right_eq] at before
  subst before
  refine ⟨first, second, rfl, rfl, ?_⟩
  unfold Takes
  rwa [← List.append_assoc]

/-- **One reader after another** have taken their phrases one behind the other. -/
theorem Takes.of_bind [IsForward reader] [others : ∀ x, IsForward (next x)]
    (taken : Takes (reader >>= next) phrase rest outcome) :
    ∃ first second result, phrase = first ++ second ∧
      Takes reader first (second ++ rest) result ∧ Takes (next result) second rest outcome := by
  obtain ⟨result, middle, ran, again⟩ := run_bind_eq_ok.mp taken
  have behind := (others result).forwardFrom _ _ _ again
  obtain ⟨first, second, rfl, rfl, before⟩ := Takes.of_run ran behind
  exact ⟨first, second, result, rfl, before, again⟩

theorem Takes.of_pure {outcome : α}
    (taken : Takes (Pure.pure result : StateT Cursor (Except ε) α) phrase rest outcome) :
    phrase = [] ∧ result = outcome := by
  obtain ⟨same, stays⟩ := Prod.mk.inj (Except.ok.inj taken)
  exact ⟨List.append_cancel_right (Cursor.mk.inj stays).1, same⟩

theorem not_takes_throw (cause : ε) :
    ¬Takes (throw cause : StateT Cursor (Except ε) α) phrase rest result := by
  rintro ⟨⟩

/-- Where it is known what the first of two readers takes, the second one goes on behind that. -/
theorem Takes.run_behind {known more : Phrase} (taken : Takes (reader >>= next) phrase rest outcome)
    (first : Takes reader known more result) (stands : phrase ++ rest = known ++ more) :
    (next result).run ⟨more, false⟩ = .ok (outcome, ⟨rest, false⟩) := by
  rw [← first.run_bind, ← stands]
  exact taken

theorem Looks.run_bind {view : Phrase → α} (looks : Looks reader view) (cursor : Cursor) :
    (reader >>= next).run cursor = (next (view cursor.trees)).run cursor := by
  rw [StateT.run_bind, looks]
  rfl

/-- A look ahead has taken nothing. -/
theorem Takes.of_look {view : Phrase → α} (looks : Looks reader view)
    (taken : Takes (reader >>= next) phrase rest outcome) :
    Takes (next (view (phrase ++ rest))) phrase rest outcome :=
  (looks.run_bind _).symm.trans taken

/-- A reader whose result is changed has taken the same. -/
theorem Takes.of_bind_pure {function : α → β}
    (taken : Takes (do
      let result ← reader
      return function result) phrase rest outcome) :
    ∃ result, Takes reader phrase rest result ∧ function result = outcome := by
  obtain ⟨result, later, ran, ⟨⟩⟩ := run_bind_eq_ok.mp taken
  exact ⟨result, ran, rfl⟩

theorem Takes.of_map {function : α → β} (taken : Takes (function <$> reader) phrase rest outcome) :
    ∃ result, Takes reader phrase rest result ∧ function result = outcome := by
  rw [map_eq_pure_bind] at taken
  exact taken.of_bind_pure

end

section

variable {α : Type} {reader : Reader α} {phrase rest : Phrase} {result : α}

theorem not_takes_fail : ¬Takes (fail : Reader α) phrase rest result :=
  not_takes_throw GrammarError.malformed

/-- A reader of the dialect has taken what the reader of the grammar has. -/
theorem Takes.of_ofGrammar (taken : Takes (RecordReader.ofGrammar reader) phrase rest result) :
    Takes reader phrase rest result := by
  unfold Takes at taken ⊢
  change RecordReader.ofGrammar reader _ = _ at taken
  unfold RecordReader.ofGrammar at taken
  split at taken
  · next ran => rw [ran, Except.ok.inj taken]
  · cases taken

/-- Trees of its own have been read to their end. -/
theorem of_on_run {content rest : Phrase} {later : Cursor}
    (ran : (on content reader).run ⟨rest, false⟩ = .ok (result, later))
    (silent : later.leftover = false) : later = ⟨rest, false⟩ ∧ Takes reader content [] result := by
  obtain ⟨_, _, ⟨⟩, ran⟩ := run_bind_eq_ok.mp ran
  obtain ⟨_, _, ⟨⟩, ran⟩ := run_bind_eq_ok.mp ran
  obtain ⟨result, ⟨trees, leftover⟩, inner, ⟨⟩⟩ := run_bind_eq_ok.mp ran
  obtain ⟨rfl, ended⟩ := Bool.or_eq_false_iff.mp silent
  obtain rfl : trees = [] := by simpa using ended
  refine ⟨rfl, ?_⟩
  unfold Takes
  rwa [List.append_nil]

/-- **A group** has been taken, and in it all of its content. -/
theorem Takes.of_within {delimiter : Delimiter}
    (taken : Takes (Grammar.within delimiter reader) phrase rest result) :
    ∃ content, phrase = [.group delimiter content] ∧ Takes reader content [] result := by
  have opened := Takes.of_look looks_ahead taken
  dsimp only [id] at opened
  split at opened
  · next opening content behind stands =>
    split at opened
    · next same =>
      obtain rfl := eq_of_beq same
      unfold Takes at opened
      rw [stands] at opened
      have ran : (on content reader).run ⟨behind, false⟩ = _ := opened
      obtain ⟨stays, inside⟩ := of_on_run ran rfl
      obtain rfl : rest = behind := (Cursor.mk.inj stays).1
      exact ⟨content, List.append_cancel_right stands, inside⟩
    · exact absurd opened not_takes_fail
  · exact absurd opened not_takes_fail

/-- A group in curly brackets has been taken, and in it all of its content. -/
theorem Takes.of_inBraces {reader : RecordReader α}
    (taken : Takes (KeyedRecord.inBraces reader) phrase rest result) :
    ∃ content, phrase = [.group .brace content] ∧ Takes reader content [] result := by
  obtain ⟨_, _, ⟨⟩, opened⟩ := run_bind_eq_ok.mp taken
  split at opened
  · next content behind leftover start =>
    obtain ⟨stands, rfl⟩ := Cursor.mk.inj start
    obtain ⟨_, _, ⟨⟩, opened⟩ := run_bind_eq_ok.mp opened
    obtain ⟨result, ⟨trees, leftover⟩, inner, opened⟩ := run_bind_eq_ok.mp opened
    obtain ⟨rfl, stays⟩ := Prod.mk.inj (Except.ok.inj opened)
    obtain ⟨rfl, silent⟩ := Cursor.mk.inj stays
    obtain ⟨rfl, ended⟩ := Bool.or_eq_false_iff.mp silent
    obtain rfl : trees = [] := by simpa using ended
    refine ⟨content, List.append_cancel_right stands, ?_⟩
    unfold Takes
    rwa [List.append_nil]
  · cases opened

/-! ### Tokens -/

theorem startsWithOperator_mark {text : String} {c : Char} (single : text.toList = [c]) :
    startsWithOperator text phrase = true ↔ ∃ spacing more, phrase = .punct c spacing :: more := by
  unfold startsWithOperator
  rw [single]
  constructor
  · intro starts
    rcases phrase with _ | ⟨_ | ⟨character, spacing⟩ | _ | _ | _, more⟩
    case cons.punct =>
      obtain rfl : c = character := eq_of_beq starts
      exact ⟨spacing, more, rfl⟩
    all_goals cases starts
  · rintro ⟨spacing, more, rfl⟩
    exact beq_self_eq_true c

theorem startsWithColons_iff : startsWithColons phrase = true ↔
    ∃ spacing more, phrase = .punct ':' .joint :: .punct ':' spacing :: more := by
  constructor
  · intro starts
    rcases phrase with _ | ⟨_ | ⟨first, _ | _⟩ | _ | _ | _, more⟩
    case cons.punct.joint =>
      obtain ⟨isColon, again⟩ := Bool.and_eq_true_iff.mp starts
      have second : startsWithOperator ":" more = true := again
      obtain ⟨spacing, more, rfl⟩ := (startsWithOperator_mark rfl).mp second
      obtain rfl : ':' = first := eq_of_beq isColon
      exact ⟨spacing, more, rfl⟩
    all_goals cases starts
  · rintro ⟨spacing, more, rfl⟩
    rfl

theorem startsWithWord_iff {text : String} : startsWithWord text phrase = true ↔
    ∃ captured more, phrase = .ident (Ident.plain text) captured :: more := by
  constructor
  · intro starts
    rcases phrase with _ | ⟨⟨identifier, captured⟩ | _ | _ | _ | _, more⟩
    case cons.ident =>
      rw [startsWithWord_ident] at starts
      exact ⟨captured, more, by rw [starts]⟩
    all_goals cases starts
  · rintro ⟨captured, more, rfl⟩
    exact (startsWithWord_ident text _ captured more).mpr rfl

theorem startsWithAnyWord_iff {words : List String} : startsWithAnyWord words phrase = true ↔
    ∃ word ∈ words, ∃ captured more, phrase = .ident (Ident.plain word) captured :: more := by
  unfold startsWithAnyWord
  simp only [List.any_eq_true, startsWithWord_iff]

/-- A reader that goes on from a place stands there. -/
theorem Takes.of_moveTo {trees : Phrase} {outcome : α}
    (taken : Takes (do
      moveTo trees
      return result) phrase rest outcome) : trees = rest ∧ result = outcome := by
  obtain ⟨same, stays⟩ := Prod.mk.inj (Except.ok.inj taken)
  exact ⟨(Cursor.mk.inj stays).1, same⟩

section

variable {written : Phrase}

/-- An operator of one character. -/
theorem Takes.of_mark {text : String} {c : Char} (single : text.toList = [c])
    (taken : Takes (Grammar.operator text) phrase rest written) :
    ∃ spacing, phrase = [.punct c spacing] ∧ written = Phrase.ofOperator [c] := by
  have looked := Takes.of_look looks_ahead taken
  dsimp only [id] at looked
  split at looked
  · next starts =>
    have length : text.length = 1 := by rw [← String.length_toList, single]; rfl
    obtain ⟨spacing, more, stands⟩ := (startsWithOperator_mark single).mp starts
    rw [stands, length, single] at looked
    obtain ⟨rfl, rfl⟩ := looked.of_moveTo
    exact ⟨spacing, List.append_cancel_right stands, rfl⟩
  · exact absurd looked not_takes_fail

/-- The double colon. -/
theorem Takes.of_colons (taken : Takes (Grammar.operator "::") phrase rest written) :
    ∃ spacing, phrase = [.punct ':' .joint, .punct ':' spacing] ∧
      written = Phrase.ofOperator [':', ':'] := by
  have looked := Takes.of_look looks_ahead taken
  dsimp only [id] at looked
  split at looked
  · next starts =>
    obtain ⟨spacing, more, stands⟩ := startsWithColons_iff.mp starts
    rw [stands] at looked
    obtain ⟨rfl, rfl⟩ := looked.of_moveTo
    exact ⟨spacing, List.append_cancel_right stands, rfl⟩
  · exact absurd looked not_takes_fail

/-- An operator that need not be there. -/
theorem Takes.of_operator? {text : String}
    (taken : Takes (Grammar.operator? text) phrase rest written) :
    startsWithOperator text (phrase ++ rest) = true ∧
        Takes (Grammar.operator text) phrase rest written ∨
      startsWithOperator text (phrase ++ rest) = false ∧ phrase = [] ∧ written = [] := by
  have looked := Takes.of_look (looks_peek _) taken
  split at looked
  · next starts => exact .inl ⟨starts, looked⟩
  · next absent =>
    obtain ⟨rfl, rfl⟩ := looked.of_pure
    exact .inr ⟨Bool.eq_false_iff.mpr absent, rfl, rfl⟩

theorem Takes.of_word {text : String} (taken : Takes (word text) phrase rest written) :
    ∃ captured, phrase = [.ident (Ident.plain text) captured] ∧
      written = (Ident.plain text).phrase := by
  have looked := Takes.of_look looks_ahead taken
  dsimp only [id] at looked
  split at looked
  · next starts =>
    obtain ⟨captured, more, stands⟩ := startsWithWord_iff.mp starts
    rw [stands] at looked
    obtain ⟨rfl, rfl⟩ := looked.of_moveTo
    exact ⟨captured, List.append_cancel_right stands, rfl⟩
  · exact absurd looked not_takes_fail

end

theorem Takes.of_anyIdent {identifier : Ident} (taken : Takes anyIdent phrase rest identifier) :
    ∃ captured, phrase = [.ident identifier captured] := by
  have looked := Takes.of_look looks_ahead taken
  dsimp only [id] at looked
  split at looked
  · next first captured more stands =>
    obtain ⟨rfl, rfl⟩ := looked.of_moveTo
    exact ⟨captured, List.append_cancel_right stands⟩
  · exact absurd looked not_takes_fail

theorem Takes.of_name {identifier : Ident} (taken : Takes name phrase rest identifier) :
    ∃ captured, phrase = [.ident identifier captured] ∧ identifier.isName = true := by
  have looked := Takes.of_look (looks_peek _) taken
  split at looked
  · next isName =>
    obtain ⟨captured, rfl⟩ := looked.of_anyIdent
    exact ⟨captured, rfl, isName⟩
  · exact absurd looked not_takes_fail

theorem Takes.of_lifetime {written : Phrase} (taken : Takes lifetime phrase rest written) :
    ∃ identifier, phrase = [.lifetime identifier] ∧ written = [.lifetime identifier] := by
  have looked := Takes.of_look looks_ahead taken
  dsimp only [id] at looked
  split at looked
  · next identifier more stands =>
    obtain ⟨rfl, rfl⟩ := looked.of_moveTo
    exact ⟨identifier, List.append_cancel_right stands, rfl⟩
  · exact absurd looked not_takes_fail

theorem Takes.of_anyGroup {group : TokenTree} (taken : Takes anyGroup phrase rest group) :
    ∃ delimiter content, phrase = [group] ∧ group = .group delimiter content := by
  have looked := Takes.of_look looks_ahead taken
  dsimp only [id] at looked
  split at looked
  · next delimiter content more stands =>
    obtain ⟨rfl, rfl⟩ := looked.of_moveTo
    exact ⟨delimiter, content, List.append_cancel_right stands, rfl⟩
  · exact absurd looked not_takes_fail

end

/-! ### Paths -/

theorem IsPathWord.of_starts {identifier : Ident} {captured : Bool} {rest : Phrase}
    (starts : startsPathSegment (.ident identifier captured :: rest) = true) :
    IsPathWord identifier := by
  unfold startsPathSegment at starts
  rwa [Bool.or_eq_true_iff, startsWithAnyWord_ident] at starts

/-- **Segments** have taken trees that spell them. -/
theorem SpellsSegments.of_taken {phrase rest : Phrase} {segments : List Segment} {bound : Nat}
    (taken : Takes (plainSegments bound) phrase rest segments) :
    SpellsSegments phrase segments := by
  induction bound generalizing phrase segments with
  | zero => exact absurd taken not_takes_fail
  | succ bound ih =>
    unfold plainSegments at taken
    have looked := Takes.of_look (looks_peek _) taken
    dsimp only at looked
    split at looked
    · exact absurd looked not_takes_fail
    · next starts =>
      obtain ⟨_, following, identifier, rfl, first, behind⟩ := looked.of_bind
      obtain ⟨captured, rfl⟩ := first.of_anyIdent
      have isPathWord : IsPathWord identifier := .of_starts (by simpa using starts)
      have goesOn := Takes.of_look (looks_peek _) behind
      split at goesOn
      · obtain ⟨_, _, _, rfl, colons, more⟩ := goesOn.of_bind
        obtain ⟨spacing, rfl, -⟩ := colons.of_colons
        obtain ⟨segments, others, rfl⟩ := more.of_bind_pure
        exact .cons captured spacing isPathWord (ih others)
      · obtain ⟨rfl, rfl⟩ := goesOn.of_pure
        exact .last captured isPathWord

/-- **A path** has taken trees that spell it. -/
theorem SpellsPath.of_taken {phrase rest : Phrase} {path : Path}
    (taken : Takes plainPath phrase rest path) : SpellsPath phrase path := by
  unfold plainPath at taken
  obtain ⟨_, _, _, rfl, root, behind⟩ := taken.of_bind
  obtain ⟨segments, others, rfl⟩ := (Takes.of_look looks_ahead behind).of_bind_pure
  have spelled := SpellsSegments.of_taken others
  rcases root.of_operator? with ⟨-, colons⟩ | ⟨-, rfl, rfl⟩
  · obtain ⟨spacing, rfl, rfl⟩ := colons.of_colons
    exact .rooted spacing spelled
  · exact .unrooted spelled

/-! ### Attributes -/

section

variable {rules : Rules}

theorem SpellsAttributePath.of_taken {phrase rest : Phrase} {path : Path}
    (taken : Takes attributePath phrase rest path) : SpellsAttributePath phrase path := by
  unfold attributePath at taken
  have looked := Takes.of_look (looks_peek _) taken
  split at looked
  · next starts =>
    obtain ⟨identifier, first, rfl⟩ := looked.of_bind_pure
    obtain ⟨captured, rfl⟩ := first.of_anyIdent
    obtain rfl := (startsWithWord_ident _ identifier captured rest).mp starts
    exact .reserved captured
  · exact .path (SpellsPath.of_taken looked)

/-- A value that is no literal alone is an expression without attributes. -/
theorem SpellsValue.of_taken_expr {phrase value : Phrase}
    (noLiteral : ∀ value, takeLiteral? phrase ≠ some (value, []))
    (taken : Takes (do
      if ← peek (startsWithOperator "#") then fail
      return (← rules.expr true).phrase) phrase [] value) : SpellsValue rules phrase value := by
  have looked := Takes.of_look (looks_peek _) taken
  dsimp only at looked
  split at looked
  · exact absurd looked not_takes_fail
  · next noAttribute =>
    obtain ⟨expr, isExpr, rfl⟩ := looked.of_bind_pure
    rw [List.append_nil, Bool.not_eq_true] at noAttribute
    exact .expr noLiteral noAttribute isExpr

/-- A value is a literal that is all there is, or an expression. -/
theorem SpellsValue.of_taken {phrase value : Phrase}
    (taken : Takes (attributeValue rules) phrase [] value) : SpellsValue rules phrase value := by
  have tried := taken.run_behind (takes_attempt_literal (phrase ++ [])) rfl
  rw [List.append_nil] at tried
  rcases found : takeLiteral? phrase with _ | ⟨written, _ | ⟨tree, left⟩⟩
  case none =>
    rw [found] at tried
    refine .of_taken_expr (by simp [found]) ?_
    unfold Takes
    rwa [List.append_nil]
  case some.nil =>
    rw [found] at tried
    obtain ⟨rfl, -⟩ := Prod.mk.inj (Except.ok.inj tried)
    exact .literal found
  case some.cons =>
    rw [found] at tried
    refine .of_taken_expr (by simp [found]) ?_
    unfold Takes
    rwa [List.append_nil]

/-- **An attribute** has taken trees that spell it. -/
theorem SpellsAttribute.of_taken [rules.AreForward] {phrase : Phrase} {attr : Attribute}
    (taken : Takes (attributeContent rules) phrase [] attr) :
    SpellsAttribute rules phrase attr := by
  unfold attributeContent at taken
  obtain ⟨_, _, path, rfl, isPath, others⟩ := taken.of_bind
  have spelled := SpellsAttributePath.of_taken isPath
  have looked := Takes.of_look looks_ahead others
  dsimp only [id] at looked
  split at looked
  · next delimiter content left stands =>
    rw [List.append_nil] at stands
    subst stands
    obtain ⟨rfl, rfl⟩ := looked.of_moveTo
    exact .list delimiter content spelled
  · have more := Takes.of_look (looks_peek _) looked
    split at more
    · obtain ⟨_, _, _, rfl, equals, behind⟩ := more.of_bind
      obtain ⟨spacing, rfl, -⟩ := equals.of_mark (c := '=') rfl
      obtain ⟨value, isValue, rfl⟩ := behind.of_bind_pure
      exact .value spacing spelled (SpellsValue.of_taken isValue)
    · obtain ⟨rfl, rfl⟩ := more.of_pure
      rw [List.append_nil]
      exact .plain spelled

/-- **Attributes** have taken trees that spell them. -/
theorem SpellsAttributes.of_taken [rules.AreForward] {phrase rest : Phrase}
    {attributes : List Attribute}
    (taken : Takes (Grammar.attributes rules) phrase rest attributes) :
    SpellsAttributes rules phrase attributes := by
  have all : ∀ bound phrase attributes,
      Takes (attributesAtMost rules bound) phrase rest attributes →
        SpellsAttributes rules phrase attributes := by
    intro bound
    induction bound with
    | zero => exact fun _ _ taken => absurd taken not_takes_fail
    | succ bound ih =>
      intro phrase attributes taken
      unfold attributesAtMost at taken
      have looked := Takes.of_look (looks_peek _) taken
      split at looked
      · obtain ⟨_, _, _, rfl, sign, behind⟩ := looked.of_bind
        obtain ⟨spacing, rfl, -⟩ := sign.of_mark (c := '#') rfl
        obtain ⟨_, _, attr, rfl, group, more⟩ := behind.of_bind
        obtain ⟨content, rfl, inside⟩ := group.of_within
        obtain ⟨attributes, others, rfl⟩ := more.of_bind_pure
        exact .cons spacing (SpellsAttribute.of_taken inside) (ih _ _ others)
      · obtain ⟨rfl, rfl⟩ := looked.of_pure
        exact .nil
  have counted := Takes.of_look looks_ahead taken
  exact all _ _ _ counted

end

/-! ### Visibility -/

/-- The module that limits a visibility has taken trees that spell it. -/
theorem SpellsPath.of_taken_limit {phrase limit : Phrase}
    (taken : Takes (do
      let opening ← word "in"
      return opening ++ (← plainPath).phrase) phrase [] limit) :
    ∃ captured path more, phrase = .ident (Ident.plain "in") captured :: more ∧
      SpellsPath more path ∧ limit = (Ident.plain "in").phrase ++ path.phrase := by
  obtain ⟨_, more, _, rfl, opening, behind⟩ := taken.of_bind
  obtain ⟨captured, rfl, rfl⟩ := opening.of_word
  obtain ⟨path, isPath, rfl⟩ := behind.of_bind_pure
  exact ⟨captured, path, more, rfl, SpellsPath.of_taken isPath, rfl⟩

/-- **A visibility** has taken trees that spell it. -/
theorem SpellsVisibility.of_taken {phrase rest result : Phrase}
    (taken : Takes visibility phrase rest result) : SpellsVisibility phrase result := by
  unfold visibility at taken
  have looked := Takes.of_look (looks_peek _) taken
  split at looked
  case isFalse =>
    obtain ⟨rfl, rfl⟩ := looked.of_pure
    exact .inherited
  case isTrue starts =>
    obtain ⟨captured, more, stands⟩ := startsWithWord_iff.mp starts
    have everywhere (ended : (pure (Ident.plain "pub").phrase : Reader Phrase).run ⟨more, false⟩ =
        .ok (result, ⟨rest, false⟩)) : SpellsVisibility phrase result := by
      obtain ⟨rfl, stays⟩ := Prod.mk.inj (Except.ok.inj ended)
      obtain rfl := (Cursor.mk.inj stays).1
      obtain rfl : phrase = [.ident (Ident.plain "pub") captured] :=
        List.append_cancel_right stands
      exact .everywhere captured
    -- The reader may look into the group behind the word and then leave it where it is, so the run
    -- is followed and not what each of its readers has taken.
    have limited := looked.run_behind (takes_word "pub" captured more) stands
    rw [looks_ahead.run_bind] at limited
    dsimp only [id] at limited
    split at limited
    case h_2 => exact everywhere limited
    case h_1 content behind =>
      split at limited
      case isTrue isLimit =>
        split at limited
        case isFalse => exact everywhere limited
        case isTrue alone =>
          -- The name of a module alone.
          obtain ⟨word, isWord, inner, left, rfl⟩ := startsWithAnyWord_iff.mp isLimit
          obtain rfl : left = [] := by simpa using alone
          obtain ⟨rfl, stays⟩ := Prod.mk.inj (Except.ok.inj limited)
          obtain rfl := (Cursor.mk.inj stays).1
          obtain rfl : phrase = [_, _] := List.append_cancel_right stands
          exact .limited captured inner isWord
      case isFalse =>
        split at limited
        case isFalse => exact everywhere limited
        case isTrue =>
          -- A path, read in a phrase of its own.
          obtain ⟨_, _, ⟨⟩, ran⟩ := run_bind_eq_ok.mp limited
          obtain ⟨limit, later, ran, ended⟩ := run_bind_eq_ok.mp ran
          obtain ⟨rfl, rfl⟩ := Prod.mk.inj (Except.ok.inj ended)
          obtain ⟨stays, inside⟩ := of_on_run ran rfl
          obtain rfl := (Cursor.mk.inj stays).1
          obtain rfl : phrase = [_, _] := List.append_cancel_right stands
          obtain ⟨inner, path, more, rfl, isPath, rfl⟩ := SpellsPath.of_taken_limit inside
          exact .limitedTo captured inner isPath

/-! ### Headings -/

/-- A reader that starts with a heading has taken trees that spell it. -/
theorem SpellsHeading.of_taken {rules : Rules} [rules.AreForward] {α : Type}
    {next : List Attribute → Phrase → RecordReader α}
    [∀ attributes visibility, IsForward (next attributes visibility)] {phrase rest : Phrase}
    {outcome : α}
    (taken : Takes (do
        let attributes ← (Grammar.attributes rules : RecordReader (List Attribute))
        let visibility ← (Grammar.visibility : RecordReader Phrase)
        next attributes visibility) phrase rest outcome) :
    ∃ heading more attributes visibility, phrase = heading ++ more ∧
      SpellsHeading rules heading attributes visibility ∧
      Takes (next attributes visibility) more rest outcome := by
  obtain ⟨first, _, attributes, rfl, isAttributes, behind⟩ := taken.of_bind
  obtain ⟨second, more, visibility, rfl, isVisibility, others⟩ := behind.of_bind
  refine ⟨first ++ second, more, attributes, visibility, (List.append_assoc ..).symm, ?_, others⟩
  exact ⟨SpellsAttributes.of_taken isAttributes.of_ofGrammar,
    SpellsVisibility.of_taken isVisibility.of_ofGrammar⟩

/-! ### Items -/

-- The text of a long reader is followed to its end.
set_option synthInstance.maxSize 40000

/-- The reader never gives a result without having taken a tree. -/
class IsStrict {ε α : Type} (reader : StateT Cursor (Except ε) α) : Prop where
  not_takes_nil : ∀ rest result, ¬Takes reader [] rest result

section

variable {α β : Type} {reader : Reader α} {next : α → Reader β}

instance isStrict_bind_left [IsForward reader] [∀ x, IsForward (next x)]
    [strict : IsStrict reader] : IsStrict (reader >>= next) := by
  refine ⟨fun rest outcome taken => ?_⟩
  obtain ⟨first, second, result, nothing, before, -⟩ := taken.of_bind
  obtain ⟨rfl, rfl⟩ := List.append_eq_nil_iff.mp nothing.symm
  exact strict.not_takes_nil _ _ before

instance isStrict_bind_right [IsForward reader] [∀ x, IsForward (next x)]
    [strict : ∀ x, IsStrict (next x)] : IsStrict (reader >>= next) := by
  refine ⟨fun rest outcome taken => ?_⟩
  obtain ⟨first, second, result, nothing, -, behind⟩ := taken.of_bind
  obtain ⟨rfl, rfl⟩ := List.append_eq_nil_iff.mp nothing.symm
  exact (strict result).not_takes_nil _ _ behind

instance isStrict_ite {condition : Prop} [Decidable condition] {other : Reader α} [IsStrict reader]
    [IsStrict other] : IsStrict (if condition then reader else other) := by
  split <;> infer_instance

instance : IsStrict (fail : Reader α) :=
  ⟨fun _ _ => not_takes_fail⟩

instance (text : String) : IsStrict (word text) := by
  refine ⟨fun rest written taken => ?_⟩
  obtain ⟨captured, nothing, -⟩ := taken.of_word
  cases nothing

instance : IsStrict anyIdent := by
  refine ⟨fun rest identifier taken => ?_⟩
  obtain ⟨captured, nothing⟩ := taken.of_anyIdent
  cases nothing

instance (bound : Nat) : IsStrict (plainSegments bound) := by
  cases bound with
  | zero =>
    unfold plainSegments
    infer_instance
  | succ bound =>
    unfold plainSegments
    dsimp only
    infer_instance

instance : IsStrict plainPath := by
  unfold plainPath
  infer_instance

end

section

variable (rules : Rules) [rules.AreForward]

instance : IsStrict (signature rules) := by
  unfold signature
  infer_instance

instance : IsStrict (constantItem rules) := by
  unfold constantItem
  dsimp only
  infer_instance

instance (allowBefore allowBehind : Bool) : IsStrict (typeAlias rules allowBefore allowBehind) := by
  unfold typeAlias
  dsimp only
  infer_instance

/-- **An item** has taken a heading, and then at least one tree. -/
theorem implItem_takes_heading {phrase rest : Phrase} {item : ImplItem}
    (taken : Takes (implItem rules) phrase rest item) :
    ∃ first second more attributes visibility, phrase = first ++ (second ++ more) ∧
      Takes (Grammar.attributes rules) first (second ++ more ++ rest) attributes ∧
      Takes Grammar.visibility second (more ++ rest) visibility ∧ more ≠ [] := by
  unfold implItem at taken
  dsimp only at taken
  have looked := Takes.of_look looks_ahead taken
  obtain ⟨first, _, _, rfl, isAttributes, behind⟩ := looked.of_bind
  obtain ⟨second, more, visibility, rfl, isVisibility, others⟩ := behind.of_bind
  obtain ⟨attributes, isAttributes, -⟩ := isAttributes.of_bind_pure
  refine ⟨first, second, more, attributes, visibility, rfl, isAttributes, isVisibility, ?_⟩
  rintro rfl
  exact IsStrict.not_takes_nil _ _ others

/-- What is written of an item of an implementation, by what it is: of a function the word, a name
and at the end a block, of a constant the word, a name and at the end a value. -/
def ImplItem.IsWhole (item : ImplItem) : Prop :=
  match item.form with
  | .function => ∃ (before : Phrase) (name : Ident) (inputs body : Phrase), name.isName = true ∧
      item.phrase = before ++ Phrase.ofWord "fn" ++ name.phrase ++ inputs ++ Phrase.braced body
  | .constant => ∃ (before : Phrase) (name : Ident) (type value : Phrase),
      item.phrase = before ++ Phrase.ofWord "const" ++ name.phrase ++ Phrase.ofWord ":" ++ type ++
        Phrase.ofWord "=" ++ value ++ Phrase.ofWord ";"
  | .other => True

section

variable {phrase rest : Phrase}

theorem Takes.of_optional {test : Phrase → Bool} {reader : Reader Phrase} {written : Phrase}
    (taken : Takes (optional test reader) phrase rest written) :
    Takes reader phrase rest written ∨ phrase = [] ∧ written = [] := by
  have looked := Takes.of_look (looks_peek _) taken
  split at looked
  · exact .inl looked
  · obtain ⟨rfl, rfl⟩ := looked.of_pure
    exact .inr ⟨rfl, rfl⟩

theorem Takes.of_grouped {delimiter : Delimiter} {reader : Reader Phrase} {written : Phrase}
    (taken : Takes (grouped delimiter reader) phrase rest written) :
    ∃ content, written = [.group delimiter content] := by
  unfold grouped at taken
  obtain ⟨content, -, rfl⟩ := taken.of_bind_pure
  exact ⟨content, rfl⟩

/-- A signature has the word and a name in it. -/
theorem signature_takes {written : Phrase} (taken : Takes (signature rules) phrase rest written) :
    ∃ (before : Phrase) (name : Ident) (inputs : Phrase), name.isName = true ∧
      written = before ++ Phrase.ofWord "fn" ++ name.phrase ++ inputs := by
  unfold signature at taken
  obtain ⟨_, _, constant, -, -, taken⟩ := taken.of_bind
  obtain ⟨_, _, delayed, -, -, taken⟩ := taken.of_bind
  obtain ⟨_, _, safety, -, -, taken⟩ := taken.of_bind
  obtain ⟨_, _, convention, -, -, taken⟩ := taken.of_bind
  obtain ⟨_, _, _, -, keyword, taken⟩ := taken.of_bind
  obtain ⟨-, -, rfl⟩ := keyword.of_word
  obtain ⟨_, _, identifier, -, naming, taken⟩ := taken.of_bind
  obtain ⟨-, -, isName⟩ := naming.of_name
  obtain ⟨_, _, ⟨_, generics⟩, -, -, taken⟩ := taken.of_bind
  obtain ⟨_, _, inputs, -, -, taken⟩ := taken.of_bind
  obtain ⟨_, _, result, -, -, taken⟩ := taken.of_bind
  obtain ⟨⟨_, clause⟩, -, rfl⟩ := taken.of_bind_pure
  refine ⟨constant ++ delayed ++ safety ++ convention, identifier,
    generics ++ inputs ++ result ++ clause, isName, ?_⟩
  simp only [List.append_assoc]
  rfl

/-- A complete constant has the word, a name and a value. -/
theorem constantItem_takes {written : Phrase}
    (taken : Takes (constantItem rules) phrase rest (true, written)) :
    ∃ (name : Ident) (type value : Phrase), written = Phrase.ofWord "const" ++ name.phrase ++
      Phrase.ofWord ":" ++ type ++ Phrase.ofWord "=" ++ value ++ Phrase.ofWord ";" := by
  unfold constantItem at taken
  dsimp only at taken
  obtain ⟨_, _, _, -, keyword, taken⟩ := taken.of_bind
  obtain ⟨-, -, rfl⟩ := keyword.of_word
  obtain ⟨_, _, _, -, -, taken⟩ := taken.of_bind
  -- The name may be the word for none.
  split at taken
  all_goals
    obtain ⟨_, _, identifier, -, -, taken⟩ := taken.of_bind
    obtain ⟨_, _, parameters, -, -, taken⟩ := taken.of_bind
    obtain ⟨_, _, _, -, colon, taken⟩ := taken.of_bind
    obtain ⟨-, -, rfl⟩ := colon.of_mark (c := ':') rfl
    obtain ⟨_, _, type, -, -, taken⟩ := taken.of_bind
    obtain ⟨_, _, value, -, isValue, taken⟩ := taken.of_bind
    obtain ⟨_, _, conditions, -, -, taken⟩ := taken.of_bind
    obtain ⟨_, mark, same⟩ := taken.of_bind_pure
    obtain ⟨-, -, rfl⟩ := mark.of_mark (c := ';') rfl
    obtain ⟨complete, rfl⟩ := Prod.mk.inj same
    rcases isValue.of_optional with isValue | ⟨-, rfl⟩
    · obtain ⟨_, _, _, -, equals, isValue⟩ := isValue.of_bind
      obtain ⟨-, -, rfl⟩ := equals.of_mark (c := '=') rfl
      obtain ⟨expr, -, rfl⟩ := isValue.of_bind_pure
      refine ⟨identifier, type.phrase, expr, ?_⟩
      simp only [List.append_assoc]
      rfl
    · cases complete

/-- **An item** is whole. -/
theorem implItem_isWhole {item : ImplItem} (taken : Takes (implItem rules) phrase rest item) :
    item.IsWhole := by
  unfold implItem at taken
  dsimp only at taken
  obtain ⟨_, _, _, -, -, taken⟩ := taken.of_bind
  obtain ⟨_, _, attributes, -, -, taken⟩ := taken.of_bind
  obtain ⟨_, _, visible, -, -, taken⟩ := taken.of_bind
  obtain ⟨_, _, _, -, -, taken⟩ := taken.of_bind
  obtain ⟨_, _, _, -, -, taken⟩ := taken.of_bind
  -- The word for a default may stand in front of what the item is.
  split at taken
  all_goals
    obtain ⟨_, _, default, -, -, taken⟩ := taken.of_bind
    obtain ⟨_, _, _, -, -, taken⟩ := taken.of_bind
    split at taken
    · obtain ⟨_, _, written, -, isSignature, taken⟩ := taken.of_bind
      obtain ⟨before, identifier, inputs, isName, rfl⟩ := signature_takes rules isSignature
      obtain ⟨_, _, _, -, -, taken⟩ := taken.of_bind
      split at taken
      · obtain ⟨_, _, _, -, -, taken⟩ := taken.of_bind
        obtain ⟨_, -, rfl⟩ := taken.of_bind_pure
        exact trivial
      · obtain ⟨_, block, rfl⟩ := taken.of_bind_pure
        obtain ⟨body, rfl⟩ := block.of_grouped
        refine ⟨attributes ++ visible ++ default ++ before, identifier, inputs, body, isName, ?_⟩
        simp only [List.append_assoc]
        rfl
    · split at taken
      · obtain ⟨_, _, ⟨complete, written⟩, -, isConstant, taken⟩ := taken.of_bind
        split at taken
        · next isComplete =>
          obtain ⟨rfl, rfl⟩ := taken.of_pure
          dsimp only at isComplete
          subst isComplete
          obtain ⟨identifier, type, value, rfl⟩ := constantItem_takes rules isConstant
          refine ⟨attributes ++ visible ++ default, identifier, type, value, ?_⟩
          simp only [List.append_assoc]
        · obtain ⟨_, -, rfl⟩ := taken.of_bind_pure
          exact trivial
      · split at taken
        · obtain ⟨_, _, declared, -, -, taken⟩ := taken.of_bind
          split at taken
          · obtain ⟨rfl, rfl⟩ := taken.of_pure
            exact trivial
          · obtain ⟨_, -, rfl⟩ := taken.of_bind_pure
            exact trivial
        · split at taken
          · obtain ⟨_, _, path, -, -, taken⟩ := taken.of_bind
            obtain ⟨_, _, bang, -, -, taken⟩ := taken.of_bind
            obtain ⟨input, later, -, taken⟩ := run_bind_eq_ok.mp taken
            split at taken <;> obtain ⟨_, _, -, ⟨⟩⟩ := run_bind_eq_ok.mp taken <;> exact trivial
          · exact absurd taken not_takes_fail

end

end

end KeyedRecord.Grammar

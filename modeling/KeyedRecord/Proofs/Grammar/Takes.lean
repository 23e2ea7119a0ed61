/-
**What a reader takes.**

In front of what follows it, a reader takes a phrase if it gives a result, goes on behind the phrase
and leaves no group before its end (`Takes`). What follows counts, since it decides where a reader
stops. Readers that run one after another take their phrases one after another, and a look ahead
takes nothing (`Looks`).

* `Takes.bind`: one reader after another.
* `Takes.look`: a look ahead, and what is done then.
* `Takes.within`, `Takes.inBraces`: a group, from its content.
-/

import KeyedRecord.Record.Reader

namespace KeyedRecord.Grammar

section

variable {ε α β : Type}

/-- In front of the rest, the reader takes exactly the phrase and gives the result. -/
def Takes (reader : StateT Cursor (Except ε) α) (phrase rest : Phrase) (result : α) : Prop :=
  reader.run ⟨phrase ++ rest, false⟩ = .ok (result, ⟨rest, false⟩)

/-- The reader moves nowhere and gives what a function says about what follows. -/
def Looks (reader : StateT Cursor (Except ε) α) (view : Phrase → α) : Prop :=
  ∀ cursor : Cursor, reader.run cursor = .ok (view cursor.trees, cursor)

theorem Takes.pure (result : α) (rest : Phrase) :
    Takes (Pure.pure result : StateT Cursor (Except ε) α) [] rest result :=
  rfl

variable {reader : StateT Cursor (Except ε) α} {next : α → StateT Cursor (Except ε) β}
  {phrase more rest : Phrase} {result : α} {outcome : β}

/-- What follows a reader goes on behind the phrase that the reader takes. -/
theorem Takes.run_bind (taken : Takes reader phrase rest result) :
    (reader >>= next).run ⟨phrase ++ rest, false⟩ = (next result).run ⟨rest, false⟩ := by
  unfold Takes at taken
  rw [StateT.run_bind, taken]
  rfl

/-- **One reader after another.** -/
theorem Takes.bind (first : Takes reader phrase (more ++ rest) result)
    (second : Takes (next result) more rest outcome) :
    Takes (reader >>= next) (phrase ++ more) rest outcome := by
  unfold Takes
  rw [List.append_assoc, first.run_bind]
  exact second

/-- One reader after another that takes nothing. -/
theorem Takes.bind_nil (first : Takes reader phrase rest result)
    (second : Takes (next result) [] rest outcome) :
    Takes (reader >>= next) phrase rest outcome := by
  rw [← List.append_nil phrase]
  exact first.bind second

/-- One reader that takes nothing, and another. -/
theorem Takes.nil_bind (first : Takes reader [] (more ++ rest) result)
    (second : Takes (next result) more rest outcome) :
    Takes (reader >>= next) more rest outcome :=
  first.bind second

/-- One reader that takes a tree, and another. -/
theorem Takes.cons_bind {tree : TokenTree} (first : Takes reader [tree] (more ++ rest) result)
    (second : Takes (next result) more rest outcome) :
    Takes (reader >>= next) (tree :: more) rest outcome :=
  first.bind second

/-- The result of a reader, changed. -/
theorem Takes.map {function : α → β} (taken : Takes reader phrase rest result) :
    Takes (function <$> reader) phrase rest (function result) := by
  unfold Takes at taken ⊢
  rw [StateT.run_map, taken]
  rfl

/-- **A look ahead**, and what is done upon it. -/
theorem Takes.look {view : Phrase → α} (looks : Looks reader view)
    (seen : view (phrase ++ rest) = result) (taken : Takes (next result) phrase rest outcome) :
    Takes (reader >>= next) phrase rest outcome := by
  unfold Takes at taken ⊢
  rw [StateT.run_bind, looks]
  subst seen
  exact taken

end

/-! ### Readers of the grammar -/

section

variable {α : Type} {reader : Reader α} {phrase rest : Phrase} {result : α}

theorem looks_peek (test : Phrase → Bool) : Looks (peek test) test :=
  fun _ => rfl

theorem looks_ahead : Looks ahead id :=
  fun _ => rfl

theorem looks_atEnd : Looks atEnd List.isEmpty :=
  fun _ => rfl

/-- A reader of the grammar looks the same as a reader of the dialect. -/
theorem Looks.ofGrammar {view : Phrase → α} (looks : Looks reader view) :
    Looks (RecordReader.ofGrammar reader) view := by
  intro cursor
  show RecordReader.ofGrammar reader cursor = _
  unfold RecordReader.ofGrammar
  rw [looks cursor]

/-- A reader of the grammar takes the same as a reader of the dialect. -/
theorem Takes.ofGrammar (taken : Takes reader phrase rest result) :
    Takes (RecordReader.ofGrammar reader) phrase rest result := by
  unfold Takes at taken
  show RecordReader.ofGrammar reader _ = _
  unfold RecordReader.ofGrammar
  rw [taken]

/-- Trees of its own are read to their end without a trace. -/
theorem on_run {content : Phrase} (taken : Takes reader content [] result) (rest : Phrase) :
    (on content reader).run ⟨rest, false⟩ = .ok (result, ⟨rest, false⟩) := by
  unfold Takes at taken
  rw [List.append_nil] at taken
  change (reader.run ⟨content, false⟩ >>= _) = _
  rw [taken]
  rfl

/-- **A group** is taken if its content is. -/
theorem Takes.within (delimiter : Delimiter) {content : Phrase}
    (taken : Takes reader content [] result) (rest : Phrase) :
    Takes (within delimiter reader) [.group delimiter content] rest result := by
  change (if delimiter == delimiter then (do moveTo rest; on content reader) else fail).run
    ⟨.group delimiter content :: rest, false⟩ = _
  rw [if_pos (beq_self_eq_true delimiter)]
  exact on_run taken rest

/-- A group in curly brackets is taken if its content is. -/
theorem Takes.inBraces {reader : RecordReader α} {content : Phrase}
    (taken : Takes reader content [] result) (rest : Phrase) :
    Takes (inBraces reader) [.group .brace content] rest result := by
  unfold Takes at taken
  rw [List.append_nil] at taken
  change (reader.run ⟨content, false⟩ >>= _) = _
  rw [taken]
  rfl

end

/-! ### Tokens -/

/-- An operator of one character. -/
theorem takes_mark {text : String} {c : Char} (single : text.toList = [c]) (spacing : Spacing)
    (rest : Phrase) : Takes (operator text) [.punct c spacing] rest (Phrase.ofOperator [c]) := by
  have starts : startsWithOperator text (.punct c spacing :: rest) = true := by
    unfold startsWithOperator
    rw [single]
    exact beq_self_eq_true c
  have length : text.length = 1 := by rw [← String.length_toList, single]; rfl
  change (if startsWithOperator text (.punct c spacing :: rest) then _ else _ : Reader _).run _ = _
  rw [if_pos starts, length, single]
  rfl

/-- The double colon. -/
theorem takes_colons (spacing : Spacing) (rest : Phrase) :
    Takes (operator "::") [.punct ':' .joint, .punct ':' spacing] rest
      (Phrase.ofOperator [':', ':']) :=
  rfl

/-- An operator that need not be there, but is. -/
theorem Takes.operator? {text : String} {phrase rest result : Phrase}
    (starts : startsWithOperator text (phrase ++ rest) = true)
    (taken : Takes (operator text) phrase rest result) :
    Takes (operator? text) phrase rest result :=
  Takes.look (looks_peek _) starts taken

/-- An operator that need not be there, and is not. -/
theorem takes_operator?_absent {text : String} {rest : Phrase}
    (absent : startsWithOperator text rest = false) : Takes (operator? text) [] rest [] :=
  Takes.look (looks_peek _) absent (.pure [] rest)

theorem takes_word (text : String) (captured : Bool) (rest : Phrase) :
    Takes (word text) [.ident (Ident.plain text) captured] rest (Ident.plain text).phrase := by
  have starts : startsWithWord text (.ident (Ident.plain text) captured :: rest) = true :=
    beq_self_eq_true text
  change (if startsWithWord text (.ident (Ident.plain text) captured :: rest) then _ else _ :
    Reader _).run _ = _
  rw [if_pos starts]
  rfl

theorem takes_anyIdent (identifier : Ident) (captured : Bool) (rest : Phrase) :
    Takes anyIdent [.ident identifier captured] rest identifier :=
  rfl

theorem takes_name {identifier : Ident} (isName : identifier.isName = true) (captured : Bool)
    (rest : Phrase) : Takes name [.ident identifier captured] rest identifier :=
  Takes.look (looks_peek startsWithName) isName rfl

end KeyedRecord.Grammar

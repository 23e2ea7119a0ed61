/-
**Readers move forward.**

Wherever a reader of the grammar gives a result, what is still to be read then is the end of what
was still to be read before; and if a group has been left before its end, the cursor still says so
(`Cursor.Precedes`). That is so because every reader is built from a few that take trees from the
front, and from what runs readers one after another. It is a class, so that for a reader in terms of
others it is found by following its text.

* `IsForward`: wherever the reader gives a result, it has moved forward.
* `ForwardFrom`: the same from one place, for readers that go on from a place found before.
* `Rules.AreForward`: the rules of a table move forward.
-/

import KeyedRecord.Proofs.Grammar.Heading
import Mathlib.Data.List.Infix

namespace KeyedRecord.Grammar

/-- The later cursor stands at the same place or further on, and where a group had been left before
its end it still says so. -/
structure Cursor.Precedes (earlier later : Cursor) : Prop where
  trees : later.trees <:+ earlier.trees
  leftover : earlier.leftover = true → later.leftover = true

theorem Cursor.Precedes.refl (cursor : Cursor) : cursor.Precedes cursor :=
  ⟨List.suffix_refl _, id⟩

theorem Cursor.Precedes.trans {first second third : Cursor} (before : first.Precedes second)
    (after : second.Precedes third) : first.Precedes third :=
  ⟨after.trees.trans before.trees, fun spoiled => after.leftover (before.leftover spoiled)⟩

section

variable {ε α β : Type}

/-- If the reader gives a result from there, it has moved forward. -/
def ForwardFrom (cursor : Cursor) (reader : StateT Cursor (Except ε) α) : Prop :=
  ∀ result later, reader.run cursor = .ok (result, later) → cursor.Precedes later

/-- **Wherever the reader gives a result, it has moved forward.** -/
class IsForward (reader : StateT Cursor (Except ε) α) : Prop where
  forwardFrom : ∀ cursor, ForwardFrom cursor reader

/-! ### One reader after another -/

variable {cursor : Cursor} {reader : StateT Cursor (Except ε) α}
  {next : α → StateT Cursor (Except ε) β}

theorem run_bind_eq_ok {result : β} {later : Cursor} :
    (reader >>= next).run cursor = .ok (result, later) ↔
      ∃ first middle, reader.run cursor = .ok (first, middle) ∧
        (next first).run middle = .ok (result, later) := by
  rw [StateT.run_bind]
  constructor
  · intro ran
    cases first : reader.run cursor with
    | error cause => rw [first] at ran; cases ran
    | ok pair => exact ⟨pair.1, pair.2, rfl, by rwa [first] at ran⟩
  · rintro ⟨first, middle, ran, again⟩
    rw [ran]
    exact again

theorem ForwardFrom.bind (first : ForwardFrom cursor reader) (others : ∀ x, IsForward (next x)) :
    ForwardFrom cursor (reader >>= next) := by
  intro result later ran
  obtain ⟨value, middle, ran, again⟩ := run_bind_eq_ok.mp ran
  exact (first value middle ran).trans ((others value).forwardFrom middle result later again)

theorem ForwardFrom.pure (cursor : Cursor) (result : α) :
    ForwardFrom cursor (Pure.pure result : StateT Cursor (Except ε) α) := by
  rintro result later ⟨⟩
  exact .refl cursor

theorem ForwardFrom.throw (cursor : Cursor) (cause : ε) :
    ForwardFrom cursor (MonadExcept.throw cause : StateT Cursor (Except ε) α) := by
  rintro result later ⟨⟩

/-- What a reader does that starts with a look at where it stands. -/
theorem ForwardFrom.get_bind {next : Cursor → StateT Cursor (Except ε) α}
    (others : ForwardFrom cursor (next cursor)) : ForwardFrom cursor (get >>= next) :=
  others

/-- To go on from a place that is no step back. -/
theorem ForwardFrom.set_bind {later : Cursor} {next : PUnit → StateT Cursor (Except ε) α}
    (forward : cursor.Precedes later) (others : IsForward (next ⟨⟩)) :
    ForwardFrom cursor (set later >>= next) := by
  intro result last ran
  exact forward.trans (others.forwardFrom later result last ran)

instance isForward_bind [IsForward reader] [∀ x, IsForward (next x)] :
    IsForward (reader >>= next) :=
  ⟨fun cursor => (IsForward.forwardFrom cursor).bind inferInstance⟩

theorem IsForward.bind [IsForward reader] (others : ∀ x, IsForward (next x)) :
    IsForward (reader >>= next) :=
  inferInstance

instance isForward_pure (result : α) : IsForward (pure result : StateT Cursor (Except ε) α) :=
  ⟨fun cursor => .pure cursor result⟩

instance isForward_throw (cause : ε) : IsForward (throw cause : StateT Cursor (Except ε) α) :=
  ⟨fun cursor => .throw cursor cause⟩

instance isForward_map {function : α → β} [IsForward reader] : IsForward (function <$> reader) := by
  rw [map_eq_pure_bind]
  infer_instance

instance isForward_ite {condition : Prop} [Decidable condition] {other : StateT Cursor (Except ε) α}
    [IsForward reader] [IsForward other] : IsForward (if condition then reader else other) := by
  split <;> infer_instance

/-- A look ahead moves nowhere. -/
theorem Looks.isForward {view : Phrase → α} (looks : Looks reader view) : IsForward reader := by
  refine ⟨fun cursor result later ran => ?_⟩
  rw [looks cursor] at ran
  obtain ⟨⟩ := ran
  exact .refl cursor

end

section

variable {α β : Type} {cursor : Cursor} {reader : Reader α}

/-- What a reader does that starts with a look ahead. -/
theorem ForwardFrom.ahead_bind {next : Phrase → Reader α}
    (others : ForwardFrom cursor (next cursor.trees)) : ForwardFrom cursor (ahead >>= next) :=
  others

/-- To go on from trees further on. -/
theorem ForwardFrom.moveTo_bind {rest : Phrase} {next : Unit → Reader α}
    (further : rest <:+ cursor.trees) (others : IsForward (next ())) :
    ForwardFrom cursor (moveTo rest >>= next) := by
  intro result later ran
  have forward : cursor.Precedes { cursor with trees := rest } := ⟨further, id⟩
  exact forward.trans (others.forwardFrom _ result later ran)

/-- What a reader does that tries another one first. -/
theorem ForwardFrom.attempt_bind [forward : IsForward reader]
    {next : Option (α × Cursor) → Reader β}
    (found : ∀ result later, cursor.Precedes later →
      ForwardFrom cursor (next (some (result, later))))
    (absent : ForwardFrom cursor (next none)) : ForwardFrom cursor (attempt reader >>= next) := by
  intro result later ran
  rw [StateT.run_bind, attempt_run] at ran
  cases tried : reader.run cursor with
  | error cause =>
    rw [tried] at ran
    exact absent result later ran
  | ok pair =>
    rw [tried] at ran
    exact found pair.1 pair.2 (forward.forwardFrom cursor _ _ tried) result later ran

/-! ### Looks ahead -/

instance : IsForward (fail : Reader α) :=
  inferInstanceAs (IsForward (throw GrammarError.malformed : Reader α))

/-- What would follow a failure does not matter. -/
instance isForward_fail_bind {next : α → Reader β} : IsForward ((fail : Reader α) >>= next) :=
  inferInstanceAs (IsForward (fail : Reader β))

instance : IsForward ahead :=
  looks_ahead.isForward

instance : IsForward atEnd :=
  looks_atEnd.isForward

instance (test : Phrase → Bool) : IsForward (peek test) :=
  (looks_peek test).isForward

instance (test : Phrase → Bool) : IsForward (peekSecond test) := by
  unfold peekSecond
  infer_instance

instance (start : Phrase) : IsForward (since start) := by
  unfold since
  infer_instance

/-! ### Tokens -/

/-- To pass over trees at the front if a test says so. -/
instance isForward_skip {test : Phrase → Prop} [DecidablePred test] {count : Nat}
    {passed other : Phrase → Reader α} [∀ trees, IsForward (passed trees)]
    [∀ trees, IsForward (other trees)] :
    IsForward (do
      let trees ← ahead
      if test trees then
        moveTo (trees.drop count)
        passed trees
      else other trees) := by
  refine ⟨fun cursor => .ahead_bind ?_⟩
  split
  · exact .moveTo_bind (List.drop_suffix _ _) inferInstance
  · exact IsForward.forwardFrom cursor

instance (text : String) : IsForward (operator text) := by
  unfold operator
  infer_instance

instance (text : String) : IsForward (word text) := by
  unfold word
  infer_instance

theorem suffix_of_eq_cons {tree : TokenTree} {rest : Phrase}
    (stands : cursor.trees = tree :: rest) :
    rest <:+ cursor.trees :=
  stands ▸ List.suffix_cons tree rest

instance : IsForward anyIdent := by
  refine ⟨fun cursor => .ahead_bind ?_⟩
  split
  · next stands => exact .moveTo_bind (suffix_of_eq_cons stands) inferInstance
  · exact IsForward.forwardFrom cursor

instance : IsForward name := by
  unfold name
  infer_instance

instance : IsForward lifetime := by
  refine ⟨fun cursor => .ahead_bind ?_⟩
  split
  · next stands => exact .moveTo_bind (suffix_of_eq_cons stands) inferInstance
  · exact IsForward.forwardFrom cursor

/-- To take a group if one stands there. -/
instance isForward_takeGroup {taken : Delimiter → Phrase → Reader α} {other : Phrase → Reader α}
    [∀ delimiter content, IsForward (taken delimiter content)] [∀ trees, IsForward (other trees)] :
    IsForward (do
      let trees ← ahead
      match trees with
      | .group delimiter content :: rest =>
        moveTo rest
        taken delimiter content
      | _ => other trees) := by
  refine ⟨fun cursor => .ahead_bind ?_⟩
  split
  · next stands => exact .moveTo_bind (suffix_of_eq_cons stands) inferInstance
  · exact IsForward.forwardFrom cursor

instance : IsForward anyGroup := by
  unfold anyGroup
  infer_instance

/-- To go on by whether a group stands in curly brackets. -/
instance isForward_anyGroup_bind {braced other : TokenTree → Reader α}
    [∀ group, IsForward (braced group)]
    [∀ group, IsForward (other group)] :
    IsForward (do
      let group ← anyGroup
      match group with
      | .group .brace _ => braced group
      | _ => other group) :=
  .bind fun group => by split <;> infer_instance

/-- A literal stands at the front of the phrase. -/
theorem suffix_of_takeLiteral? {phrase written rest : Phrase}
    (taken : takeLiteral? phrase = some (written, rest)) : rest <:+ phrase := by
  unfold takeLiteral? at taken
  split at taken
  · obtain ⟨⟩ := taken
    exact List.suffix_cons _ _
  · split at taken
    · obtain ⟨⟩ := taken
      exact (List.suffix_cons _ _).trans (List.suffix_cons _ _)
    · cases taken
  · split at taken
    · obtain ⟨⟩ := taken
      exact List.suffix_cons _ _
    · cases taken
  · cases taken

instance : IsForward literal := by
  refine ⟨fun cursor => .ahead_bind ?_⟩
  split
  · next taken => exact .moveTo_bind (suffix_of_takeLiteral? taken) inferInstance
  · exact IsForward.forwardFrom cursor

instance (text : String) : IsForward (operator? text) := by
  unfold operator?
  infer_instance

instance (text : String) : IsForward (word? text) := by
  unfold word?
  infer_instance

instance (test : Phrase → Bool) {reader : Reader Phrase} [IsForward reader] :
    IsForward (optional test reader) := by
  unfold optional
  infer_instance

/-! ### Groups -/

section

variable [forward : IsForward reader]

/-- A reader on trees of its own goes on at the same place. -/
instance (trees : Phrase) : IsForward (on trees reader) := by
  refine ⟨fun cursor result later ran => ?_⟩
  obtain ⟨_, _, ⟨⟩, ran⟩ := run_bind_eq_ok.mp ran
  obtain ⟨_, _, ⟨⟩, ran⟩ := run_bind_eq_ok.mp ran
  obtain ⟨result, inside, inner, ⟨⟩⟩ := run_bind_eq_ok.mp ran
  have spoiled := (forward.forwardFrom _ result inside inner).leftover
  exact ⟨List.suffix_refl _, fun before => by simp [spoiled before]⟩

instance (delimiter : Delimiter) : IsForward (within delimiter reader) := by
  refine ⟨fun cursor => .ahead_bind ?_⟩
  split
  · next stands =>
    split
    · exact .moveTo_bind (suffix_of_eq_cons stands) inferInstance
    · exact IsForward.forwardFrom cursor
  · exact IsForward.forwardFrom cursor

end

instance (delimiter : Delimiter) {reader : Reader Phrase} [IsForward reader] :
    IsForward (grouped delimiter reader) := by
  unfold grouped
  infer_instance

/-! ### Repetition -/

instance {step : Reader (Option Phrase)} [IsForward step] (bound : Nat) :
    IsForward (repeatAtMost step bound) := by
  induction bound with
  | zero =>
    unfold repeatAtMost
    infer_instance
  | succ bound ih =>
    unfold repeatAtMost
    have others (added : Option Phrase) : IsForward (match added with
        | none => return []
        | some phrase => return phrase ++ (← repeatAtMost step bound) : Reader Phrase) := by
      cases added <;> infer_instance
    infer_instance

instance {step : Reader (Option Phrase)} [IsForward step] : IsForward (repeated step) := by
  unfold repeated
  infer_instance

section

variable {item : Reader α} [IsForward item]

instance (stop goesOn : Phrase → Bool) {separator : Reader Phrase} [IsForward separator]
    (bound : Nat) : IsForward (elementsAtMost stop goesOn separator item bound) := by
  induction bound with
  | zero =>
    unfold elementsAtMost
    infer_instance
  | succ bound ih =>
    unfold elementsAtMost
    infer_instance

instance (stop : Phrase → Bool) : IsForward (commaElements stop item) := by
  unfold commaElements
  infer_instance

end

section

variable {item : Reader Phrase} [IsForward item]

instance (stop : Phrase → Bool) : IsForward (commaList stop item) := by
  unfold commaList
  infer_instance

instance : IsForward (commaListToEnd item) := by
  unfold commaListToEnd
  infer_instance

instance (stop : Phrase → Bool) : IsForward (plusList stop item) := by
  unfold plusList
  infer_instance

end

end

/-! ### Readers of the dialect -/

section

variable {α : Type}

instance isForward_ofGrammar {reader : Reader α} [forward : IsForward reader] :
    IsForward (RecordReader.ofGrammar reader) := by
  refine ⟨fun cursor result later ran => ?_⟩
  change RecordReader.ofGrammar reader cursor = _ at ran
  unfold RecordReader.ofGrammar at ran
  split at ran
  · next found =>
    obtain ⟨⟩ := ran
    exact forward.forwardFrom cursor result later found
  · cases ran

instance {reader : RecordReader α} [forward : IsForward reader] : IsForward (inBraces reader) := by
  refine ⟨fun cursor => .get_bind ?_⟩
  split
  · next content behind leftover =>
    intro result later ran
    obtain ⟨_, _, ⟨⟩, ran⟩ := run_bind_eq_ok.mp ran
    obtain ⟨result, inside, inner, ⟨⟩⟩ := run_bind_eq_ok.mp ran
    have spoiled := (forward.forwardFrom _ result inside inner).leftover
    exact ⟨List.suffix_cons _ _, fun before => by simp [spoiled before]⟩
  · exact .throw cursor _

end

/-! ### Rules -/

/-- **The rules of a table move forward.** -/
class Rules.AreForward (rules : Rules) : Prop where
  type : ∀ allowPlus allowArguments, IsForward (rules.type allowPlus allowArguments)
  path : ∀ inExpr, IsForward (rules.path inExpr)
  expr : ∀ allowRecord, IsForward (rules.expr allowRecord)
  operand : ∀ allowRecord, IsForward (rules.operand allowRecord)
  operators : ∀ allowRecord base left, IsForward (rules.operators allowRecord base left)
  statementExpr : IsForward rules.statementExpr
  pattern : IsForward rules.pattern
  statements : IsForward rules.statements
  item : ∀ start attributes, IsForward (rules.item start attributes)
  importTree : IsForward rules.importTree

attribute [instance] Rules.AreForward.type Rules.AreForward.path Rules.AreForward.expr
  Rules.AreForward.operand Rules.AreForward.operators Rules.AreForward.statementExpr
  Rules.AreForward.pattern Rules.AreForward.statements Rules.AreForward.item
  Rules.AreForward.importTree

end KeyedRecord.Grammar

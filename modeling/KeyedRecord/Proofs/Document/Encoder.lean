/-
**What an encoder collects.**

The first step that carries a value for a key writes it, and every later one for the same key fails.
`EncoderStep.run_cases` says what one step does to the fields; by induction, the fields after a
sequence hold, beside what was there before, what the steps that succeeded have written
(`EncoderStep.get?_runAll`).

* `EncoderStep.binding?`: the key and the value that a step carries.
* `EncoderStep.written`: the bindings of the steps of a sequence that succeed.
* `EncoderStep.first_write_stays`: sequences from the start, step by step and as a whole, with what
  is read from the finished document.
-/

import KeyedRecord.Document.Encoder
import KeyedRecord.Proofs.Value.Order
import KeyedRecord.Value.Conversion

namespace KeyedRecord

namespace EncoderStep

section

variable {Variant : Type} (keys : Keys Variant)

/-- The key and the value that a step carries, if it carries a value. -/
def binding? : EncoderStep Variant → Option (String × Value)
  | .encode variant value => some (keys.key variant, value)
  | .encodeIfPresent variant value => value.map fun value => (keys.key variant, value)
  | .reopen => none

/-! ### One step -/

/-- A step without a value changes nothing. A step with a value writes it where its key is free, and
fails where it is taken, without a change. -/
theorem run_cases (fields : Fields) (step : EncoderStep Variant) :
    (step.binding? keys = none ∧ step.run keys fields = (.ok (), fields)) ∨
    ∃ key value, step.binding? keys = some (key, value) ∧
      ((Fields.get? fields key = none ∧
          step.run keys fields = (.ok (), Fields.insert key value fields)) ∨
        (Fields.get? fields key ≠ none ∧
          step.run keys fields = (.error (.duplicateKey key), fields))) := by
  have written : ∀ variant value, ∀ step : EncoderStep Variant,
      step.apply keys fields = keys.write fields variant value →
      (Fields.get? fields (keys.key variant) = none ∧
          step.run keys fields = (.ok (), Fields.insert (keys.key variant) value fields)) ∨
        (Fields.get? fields (keys.key variant) ≠ none ∧
          step.run keys fields = (.error (.duplicateKey (keys.key variant)), fields)) := by
    intro variant value step writes
    by_cases free : Fields.get? fields (keys.key variant) = none
    · refine .inl ⟨free, ?_⟩
      rw [run, writes, keys.write_of_free fields variant value free]
    · refine .inr ⟨free, ?_⟩
      rw [run, writes, keys.write_of_taken fields variant value free]
  cases step with
  | encode variant value =>
    exact .inr ⟨keys.key variant, value, rfl, written variant value _ rfl⟩
  | encodeIfPresent variant value =>
    cases value with
    | none => exact .inl ⟨rfl, rfl⟩
    | some value => exact .inr ⟨keys.key variant, value, rfl, written variant value _ rfl⟩
  | reopen => exact .inl ⟨rfl, rfl⟩

/-- A step that carries no value succeeds and changes nothing. -/
theorem run_of_no_value (fields : Fields) {step : EncoderStep Variant}
    (nothing : step.binding? keys = none) : step.run keys fields = (.ok (), fields) := by
  rcases run_cases keys fields step with ⟨-, run⟩ | ⟨key, value, carried, -⟩
  · exact run
  · rw [nothing] at carried
    cases carried

/-- A step fails exactly if it carries a value whose key is taken, and the error names the key. -/
theorem run_fails_iff (fields : Fields) (step : EncoderStep Variant) (error : EncodeError) :
    (step.run keys fields).1 = .error error ↔
      ∃ key value, step.binding? keys = some (key, value) ∧ Fields.get? fields key ≠ none ∧
        error = .duplicateKey key := by
  rcases run_cases keys fields step with
    ⟨nothing, run⟩ | ⟨key, value, carried, ⟨free, run⟩ | ⟨taken, run⟩⟩
  · rw [run, nothing]
    simp
  · rw [run, carried]
    simp [free]
  · rw [run, carried]
    constructor
    · intro failed
      exact ⟨key, value, rfl, taken, (Except.error.inj failed).symm⟩
    · rintro ⟨other, content, same, -, rfl⟩
      obtain ⟨rfl, -⟩ := Prod.mk.inj (Option.some.inj same)
      rfl

/-- A step that fails changes nothing. -/
theorem run_of_fails {fields : Fields} {step : EncoderStep Variant} {error : EncodeError}
    (failed : (step.run keys fields).1 = .error error) : (step.run keys fields).2 = fields := by
  rw [run] at failed ⊢
  split at failed
  · cases failed
  · rfl

/-- The fields stay in order. -/
theorem isOrdered_run {fields : Fields} (ordered : fields.IsOrdered) (step : EncoderStep Variant) :
    Fields.IsOrdered (step.run keys fields).2 := by
  rcases run_cases keys fields step with ⟨-, run⟩ | ⟨key, value, -, ⟨-, run⟩ | ⟨-, run⟩⟩
  · rw [run]
    exact ordered
  · rw [run]
    exact ordered.insert key value
  · rw [run]
    exact ordered

/-! ### Sequences of steps -/

/-- What a step has written, by what it has come to. -/
def writtenBy (step : EncoderStep Variant) (result : Except EncodeError Unit) :
    Option (String × Value) :=
  if result.isOk then step.binding? keys else none

/-- The bindings that the successful steps of a sequence have written, in order. -/
def written (fields : Fields) (steps : List (EncoderStep Variant)) : List (String × Value) :=
  (steps.zip (runAll keys fields steps).1).filterMap fun taken => taken.1.writtenBy keys taken.2

theorem length_runAll (fields : Fields) (steps : List (EncoderStep Variant)) :
    (runAll keys fields steps).1.length = steps.length := by
  induction steps generalizing fields with
  | nil => rfl
  | cons step rest ih => exact congrArg (· + 1) (ih _)

/-- A sequence goes on from what the steps before have left. -/
theorem runAll_append (fields : Fields) (before after : List (EncoderStep Variant)) :
    runAll keys fields (before ++ after) =
      ((runAll keys fields before).1 ++ (runAll keys (runAll keys fields before).2 after).1,
        (runAll keys (runAll keys fields before).2 after).2) := by
  induction before generalizing fields with
  | nil => rfl
  | cons step rest ih =>
    rw [List.cons_append, runAll, ih]
    rfl

/-- **The fields after a sequence** hold what was there before, and beside it what the steps that
succeeded have written. -/
theorem get?_runAll (fields : Fields) (steps : List (EncoderStep Variant)) (key : String) :
    Fields.get? (runAll keys fields steps).2 key =
      (Fields.get? fields key).or ((written keys fields steps).lookup key) := by
  induction steps generalizing fields with
  | nil => exact (Option.or_none).symm
  | cons step rest ih =>
    have last : (runAll keys fields (step :: rest)).2 =
        (runAll keys (step.run keys fields).2 rest).2 := rfl
    have unwritten : step.writtenBy keys (step.run keys fields).1 = none →
        written keys fields (step :: rest) = written keys (step.run keys fields).2 rest :=
      fun nothing => List.filterMap_cons_none nothing
    rw [last, ih]
    rcases run_cases keys fields step with
      ⟨nothing, run⟩ | ⟨name, value, carried, ⟨free, run⟩ | ⟨taken, run⟩⟩
    · rw [unwritten (by rw [run]; exact nothing), run]
    · -- The value has been written: it stands first among the bindings, and its name was free.
      have wrote : written keys fields (step :: rest) =
          (name, value) :: written keys (step.run keys fields).2 rest := by
        refine List.filterMap_cons_some ?_
        show step.writtenBy keys (step.run keys fields).1 = some (name, value)
        rw [run]
        exact carried
      rw [wrote, run, Fields.get?_insert]
      by_cases same : key = name
      · subst same
        rw [if_pos rfl, free, List.lookup_cons_self, Option.some_or, Option.none_or]
      · rw [if_neg same, List.lookup_cons, beq_eq_false_iff_ne.mpr same]
    · rw [unwritten (by rw [run]; rfl), run]

/-- From the start, a name is taken exactly if a step has written it. -/
theorem get?_runAll_nil (steps : List (EncoderStep Variant)) (key : String) :
    Fields.get? (runAll keys [] steps).2 key = (written keys [] steps).lookup key :=
  get?_runAll keys [] steps key

/-- From the start, the names that are taken are those that have been written. -/
theorem taken_runAll_iff (steps : List (EncoderStep Variant)) (key : String) :
    Fields.get? (runAll keys [] steps).2 key ≠ none ↔
      key ∈ (written keys [] steps).map Prod.fst := by
  rw [get?_runAll_nil, ← Option.isSome_iff_ne_none, lookup_isSome_iff]

/-- What a step of a sequence comes to, and what it leaves, depends on the fields after the steps
before it. -/
theorem runAll_at (before : List (EncoderStep Variant)) (step : EncoderStep Variant)
    (after : List (EncoderStep Variant)) :
    (runAll keys [] (before ++ step :: after)).1[before.length]? =
        some (step.run keys (runAll keys [] before).2).1 ∧
      (runAll keys [] (before ++ [step])).2 = (step.run keys (runAll keys [] before).2).2 := by
  have position := length_runAll keys [] before
  constructor
  · rw [runAll_append, ← position, List.getElem?_append_right (Nat.le_refl _), Nat.sub_self]
    rfl
  · rw [runAll_append]
    rfl

theorem isOrdered_runAll {fields : Fields} (ordered : fields.IsOrdered)
    (steps : List (EncoderStep Variant)) : Fields.IsOrdered (runAll keys fields steps).2 := by
  induction steps generalizing fields with
  | nil => exact ordered
  | cons step rest ih => exact ih (isOrdered_run keys ordered step)

/-- The names of fields are those under which something is read. -/
theorem mem_names_iff (fields : Fields) (key : String) :
    key ∈ fields.names ↔ (Fields.get? fields key).isSome = true :=
  (lookup_isSome_iff fields key).symm

/-- **The first write of a key stays.** Take any sequence of steps from the start. A step fails
exactly if it carries a value whose key an earlier successful step has written, with an error that
names the key, and it changes nothing then; a step that carries no value succeeds and changes
nothing. In the end the names of the document are the keys that have been written, each once, with
the value of the first step that wrote it. What is read from it under a variant is that value,
converted, or the error of the conversion; and the key is missing if it has never been written. -/
theorem first_write_stays (steps : List (EncoderStep Variant)) :
    (∀ before step after, steps = before ++ step :: after →
      (∀ error, (runAll keys [] steps).1[before.length]? = some (.error error) ↔
        ∃ key value, step.binding? keys = some (key, value) ∧
          key ∈ (written keys [] before).map Prod.fst ∧ error = .duplicateKey key) ∧
      ((∃ error, (runAll keys [] steps).1[before.length]? = some (.error error)) ∨
        (runAll keys [] steps).1[before.length]? = some (.ok ())) ∧
      (∀ error, (runAll keys [] steps).1[before.length]? = some (.error error) →
        (runAll keys [] (before ++ [step])).2 = (runAll keys [] before).2) ∧
      (step.binding? keys = none →
        (runAll keys [] (before ++ [step])).2 = (runAll keys [] before).2)) ∧
    ∃ fields : Fields, document keys steps = .struct fields ∧
      fields.names.Nodup ∧
      (∀ key, key ∈ fields.names ↔ key ∈ (written keys [] steps).map Prod.fst) ∧
      (∀ key, Fields.get? fields key = (written keys [] steps).lookup key) ∧
      ∀ variant (type : MemberType),
        (do keys.read type.convert (← (document keys steps).fields?) variant) =
          match (written keys [] steps).lookup (keys.key variant) with
          | none => .error (.missingKey (keys.key variant))
          | some value => (type.ofValue value).mapError fun error =>
              .typeMismatch (keys.key variant) error.message := by
  constructor
  · rintro before step after rfl
    obtain ⟨place, next⟩ := runAll_at keys before step after
    rw [place, next]
    refine ⟨fun error => ?_, ?_, fun error failed => ?_, fun nothing => ?_⟩
    · rw [Option.some_inj, run_fails_iff]
      simp only [taken_runAll_iff]
    · cases result : (step.run keys (runAll keys [] before).2).1 with
      | ok => exact .inr rfl
      | error error => exact .inl ⟨error, rfl⟩
    · exact run_of_fails keys (Option.some.inj failed)
    · rw [run_of_no_value keys _ nothing]
  · refine ⟨_, rfl, (isOrdered_runAll keys .nil steps).nodup_names, fun key => ?_,
      get?_runAll_nil keys steps, fun variant type => ?_⟩
    · rw [mem_names_iff, Option.isSome_iff_ne_none, taken_runAll_iff]
    · show keys.read type.convert (runAll keys [] steps).2 variant = _
      rw [keys.read_eq, get?_runAll_nil]
      cases (written keys [] steps).lookup (keys.key variant) with
      | none => rfl
      | some value =>
        simp only [MemberType.convert]
        cases type.ofValue value with
        | ok datum => rfl
        | error error => rfl

end

/-- Two variants stand for one key: the second write fails, and the first value stays. -/
example : runAll (Keys.ofList ["id", "id"]) []
      [.encode ⟨0, by decide⟩ (.boolean true), .reopen, .encode ⟨1, by decide⟩ (.boolean false)] =
    ([.ok (), .ok (), .error (.duplicateKey "id")], [("id", .boolean true)]) := by
  rfl

end EncoderStep

end KeyedRecord

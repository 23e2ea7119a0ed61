/-
**The bodies of the code for documents.**

The function that writes a record opens a container, goes through statements, and ends; the one that
reads a record does the same and ends with a literal of the structure. The statements are those of
the steps that are run (`WriteStep.IsStatement`, `ReadStep.IsStatement`), one for each of them and
in their order. A statement says of what step it is, so what running the words comes to is what
running the steps comes to.

* `Phrase.IsWriting`, `Phrase.IsReading`: the two implementations, word by word.
* `Conformance.runs_writing_iff`, `Conformance.runs_reading_iff`: to run the statements is to write
  and to read.
-/

import KeyedRecord.Expansion.Wording
import KeyedRecord.Proofs.Expansion.Service

namespace KeyedRecord

/-! ### Statements -/

/-- The statement of a step that writes a member: under the variant of the step it encodes what the
getter of the member gives, or a copy of its field. -/
inductive WriteStep.IsStatement (keys : Ident) : WriteStep → Phrase → Prop
  | getter (member : Ident) (variant : String) :
      IsStatement keys ⟨member, .getter, variant⟩
        (Phrase.template "values . encode" ++
          Phrase.parenthesized
            (Phrase.template "self ." ++ member.phrase ++ Phrase.parenthesized [] ++
              Phrase.template "," ++ variantOf variantPhrase keys variant) ++
          Phrase.template "? ;")
  | field (member : Ident) (variant : String) :
      IsStatement keys ⟨member, .field, variant⟩
        (Phrase.template "values . encode" ++
          Phrase.parenthesized
            (Phrase.template ":: core :: clone :: Clone :: clone" ++
              Phrase.parenthesized (Phrase.template "& self ." ++ member.phrase) ++
              Phrase.template "," ++ variantOf variantPhrase keys variant) ++
          Phrase.template "? ;")

/-- The statement of a step that reads a member: it binds the member's name to what is decoded under
the variant of the step, as the type that the step names, if it names one. -/
inductive ReadStep.IsStatement (keys : Ident) : ReadStep → Phrase → Prop
  | typed (member type : Ident) (variant : String) :
      IsStatement keys ⟨member, some type, variant⟩
        (Phrase.template "let" ++ member.phrase ++ Phrase.template "= values . decode" ++
          (Phrase.template ":: <" ++ type.phrase ++ Phrase.template ">") ++
          Phrase.parenthesized (variantOf variantPhrase keys variant) ++ Phrase.template "? ;")
  | inferred (member : Ident) (variant : String) :
      IsStatement keys ⟨member, none, variant⟩
        (Phrase.template "let" ++ member.phrase ++ Phrase.template "= values . decode" ++
          Phrase.parenthesized (variantOf variantPhrase keys variant) ++ Phrase.template "? ;")

variable {keys : Ident}

theorem WriteStep.isStatement_phrase (step : WriteStep) :
    step.IsStatement keys (step.phrase variantPhrase keys) := by
  obtain ⟨member, source, variant⟩ := step
  cases source with
  | field =>
    have statement : IsStatement keys ⟨member, .field, variant⟩ _ := .field member variant
    simpa only [WriteStep.phrase, List.append_assoc] using statement
  | getter =>
    have statement : IsStatement keys ⟨member, .getter, variant⟩ _ := .getter member variant
    simpa only [WriteStep.phrase, List.append_assoc] using statement

theorem ReadStep.isStatement_phrase (step : ReadStep) :
    step.IsStatement keys (step.phrase variantPhrase keys) := by
  obtain ⟨member, type, variant⟩ := step
  cases type with
  | none =>
    have statement : IsStatement keys ⟨member, none, variant⟩ _ := .inferred member variant
    simpa only [ReadStep.phrase, List.append_nil] using statement
  | some type => exact .typed member type variant

/-- **A statement that writes is the statement of one step only.** -/
theorem WriteStep.IsStatement.unique {step other : WriteStep} {statement : Phrase}
    (first : step.IsStatement keys statement) (second : other.IsStatement keys statement) :
    step = other := by
  generalize same : statement = words at second
  cases first <;> cases second <;>
    simp only [variantOf, variantPhrase, Ident.phrase, Ident.plain, Phrase.parenthesized,
      List.append_assoc, List.cons_append, List.nil_append, List.append_cancel_left_eq,
      List.cons.injEq, TokenTree.group.injEq, TokenTree.ident.injEq, Ident.mk.injEq, and_true,
      true_and] at same
  case getter.getter =>
    obtain ⟨rfl, rfl⟩ := same
    rfl
  case field.field =>
    obtain ⟨rfl, rfl⟩ := same
    rfl
  -- In front of the comma stand empty brackets in one of them, and a member in the other's brackets.
  case getter.field =>
    have backwards := congrArg List.reverse same
    simp at backwards
  case field.getter =>
    have backwards := congrArg List.reverse same
    simp at backwards

/-- **A statement that reads is the statement of one step only.** -/
theorem ReadStep.IsStatement.unique {step other : ReadStep} {statement : Phrase}
    (first : step.IsStatement keys statement) (second : other.IsStatement keys statement) :
    step = other := by
  generalize same : statement = words at second
  cases first <;> cases second <;>
    simp only [variantOf, variantPhrase, Ident.phrase, Ident.plain, Phrase.parenthesized,
      List.append_assoc, List.cons_append, List.nil_append, List.append_cancel_left_eq,
      List.cons.injEq, TokenTree.group.injEq, TokenTree.ident.injEq, Ident.mk.injEq, and_true,
      true_and] at same
  case typed.typed =>
    obtain ⟨rfl, rfl, rfl⟩ := same
    rfl
  case inferred.inferred =>
    obtain ⟨rfl, rfl⟩ := same
    rfl
  -- One of them is longer by the type.
  case typed.inferred =>
    have lengths := congrArg List.length same.2
    simp only [List.length_append, List.length_cons] at lengths
    omega
  case inferred.typed =>
    have lengths := congrArg List.length same.2
    simp only [List.length_append, List.length_cons] at lengths
    omega

/-! ### Bodies -/

/-- The implementation of an interface, given by its words, for a type. -/
def Phrase.implementation (interface : String) (type : Ident) (body : Phrase) : Phrase :=
  Phrase.template "impl" ++ Phrase.rooted interface ++ type.phrase ++ Phrase.braced body

/-- **The phrase is the implementation that writes a record**: it opens a container, goes through a
statement for each of the steps, in their order, and ends. -/
def Phrase.IsWriting (record keys : Ident) (steps : List WriteStep) (phrase : Phrase) : Prop :=
  ∃ statements, List.Forall₂ (WriteStep.IsStatement keys) steps statements ∧
    phrase = Phrase.implementation "Encodable for" record
      (Phrase.template "fn encode" ++
        Phrase.parenthesized
          (Phrase.template "& self , encoder : & mut" ++ Phrase.rooted "Encoder") ++
        Phrase.resultOf (Phrase.parenthesized []) "EncodeError" ++
        Phrase.braced
          (Phrase.template "let mut values = encoder . container :: <" ++ keys.phrase ++
            Phrase.template ">" ++ Phrase.parenthesized [] ++ Phrase.template ";" ++
            statements.flatten ++
            Phrase.template "Ok" ++ Phrase.parenthesized (Phrase.parenthesized [])))

/-- How a stored member stands in the literal of its structure: by its name alone if that is bound,
and otherwise with the expression for a member that no document fills. -/
def Member.literalPhrase (bound : List Ident) (member : Member) : Phrase :=
  if member.name ∈ bound then member.name.phrase
  else member.name.phrase ++ Phrase.template ":" ++ member.decodeDefault

/-- **The phrase is the implementation that reads a record**: it opens a container, goes through a
statement for each of the steps, in their order, and ends with a literal of the stored members. If
the steps name their types, names that are bound may go unused. -/
def Phrase.IsReading (record : Record) (reading : Reading) (phrase : Phrase) : Prop :=
  ∃ statements, List.Forall₂ (ReadStep.IsStatement record.keysName) reading.steps statements ∧
    phrase = Phrase.implementation "Decodable for" record.name
      ((if reading.isTyped then Phrase.allowUnused else []) ++
        Phrase.template "fn decode" ++
        Phrase.parenthesized
          (Phrase.template "decoder : &" ++ Phrase.rooted "Decoder < '_ >") ++
        Phrase.resultOf (Phrase.template "Self") "DecodeError" ++
        Phrase.braced
          (Phrase.template "let values = decoder . container :: <" ++ record.keysName.phrase ++
            Phrase.template ">" ++ Phrase.parenthesized [] ++ Phrase.template "? ;" ++
            statements.flatten ++
            Phrase.template "Ok" ++
            Phrase.parenthesized
              (Phrase.template "Self" ++
                Phrase.braced
                  (Phrase.commaSeparated (record.storedMembers.map
                    (Member.literalPhrase (reading.steps.map ReadStep.member)))))))

theorem Phrase.isWriting_writingPhrase (record keys : Ident) (steps : List WriteStep) :
    Phrase.IsWriting record keys steps (writingPhrase variantPhrase record keys steps) := by
  refine ⟨steps.map (WriteStep.phrase variantPhrase keys), ?_, ?_⟩
  · rw [List.forall₂_map_right_iff, List.forall₂_same]
    exact fun step _ => step.isStatement_phrase
  · rw [writingPhrase, Phrase.implementation, List.flatMap_def]

/-- A stored member stands in the literal as it is filled. -/
theorem Member.filled_phrase (bound : List Ident) (member : Member) :
    (member.filled bound).phrase = member.literalPhrase bound := by
  by_cases isBound : member.name ∈ bound
  · simp [FilledField.phrase, Member.filled, Member.literalPhrase, isBound]
  · cases declared : member.initial with
    | none =>
      simp [FilledField.phrase, Member.filled, Member.literalPhrase, Member.decodeDefault, isBound,
        declared]
    | some value =>
      simp [FilledField.phrase, Member.filled, Member.literalPhrase, Member.decodeDefault, isBound,
        declared]

theorem Phrase.isReading_phrase (record : Record) (schema : Schema) :
    Phrase.IsReading record (schema.reading record)
      ((schema.reading record).phrase variantPhrase record.name record.keysName) := by
  refine ⟨(schema.reading record).steps.map (ReadStep.phrase variantPhrase record.keysName), ?_, ?_⟩
  · rw [List.forall₂_map_right_iff, List.forall₂_same]
    exact fun step _ => step.isStatement_phrase
  · have filled : (schema.reading record).fields.map FilledField.phrase =
        record.storedMembers.map
          (Member.literalPhrase ((schema.reading record).steps.map ReadStep.member)) := by
      rw [reading_fields, List.map_map]
      exact List.map_congr_left fun member _ => member.filled_phrase _
    rw [Reading.phrase, Phrase.implementation, List.flatMap_def, filled]

/-! ### Running the statements -/

section

variable {Datum : Type} (model : Model Datum)

/-- **Statements that write are run** one after the other, up to the first one that fails. The
fields are those of the container before and after. -/
inductive RunsWriting (keys : KeyEnumeration) (state : State Datum) :
    List Phrase → Fields → Except EncodeError Unit × Fields → Prop
  | done (fields : Fields) : RunsWriting keys state [] fields (.ok (), fields)
  | goesOn {step : WriteStep} {statement : Phrase} {rest : List Phrase} {fields between : Fields}
      {outcome : Except EncodeError Unit × Fields} :
      step.IsStatement keys.name statement →
      keys.keys.write fields step.variant (model.toValue (step.datum model state)) = .ok between →
      RunsWriting keys state rest between outcome →
      RunsWriting keys state (statement :: rest) fields outcome
  | stops {step : WriteStep} {statement : Phrase} {rest : List Phrase} {fields : Fields}
      {error : EncodeError} :
      step.IsStatement keys.name statement →
      keys.keys.write fields step.variant (model.toValue (step.datum model state)) =
        .error error →
      RunsWriting keys state (statement :: rest) fields (.error error, fields)

/-- **Statements that read are run** one after the other, up to the first one that fails. What they
come to is what they bind, in order. -/
inductive RunsReading (declaration : Structure) (keys : KeyEnumeration) (fields : Fields) :
    List Phrase → Except DecodeError (List (Ident × Datum)) → Prop
  | done : RunsReading declaration keys fields [] (.ok [])
  | goesOn {step : ReadStep} {statement : Phrase} {rest : List Phrase} {datum : Datum}
      {outcome : Except DecodeError (List (Ident × Datum))} :
      step.IsStatement keys.name statement →
      keys.keys.read (model.convert (step.typePhrase declaration)) fields step.variant =
        .ok datum →
      RunsReading declaration keys fields rest outcome →
      RunsReading declaration keys fields (statement :: rest)
        (outcome.map fun bindings => (step.member, datum) :: bindings)
  | stops {step : ReadStep} {statement : Phrase} {rest : List Phrase} {error : DecodeError} :
      step.IsStatement keys.name statement →
      keys.keys.read (model.convert (step.typePhrase declaration)) fields step.variant =
        .error error →
      RunsReading declaration keys fields (statement :: rest) (.error error)

variable {model} {keys : KeyEnumeration} {state : State Datum} {statements : List Phrase}

/-- To run statements that write is to run their steps. -/
theorem runsWriting_iff {steps : List WriteStep} {fields : Fields}
    {outcome : Except EncodeError Unit × Fields}
    (worded : List.Forall₂ (WriteStep.IsStatement keys.name) steps statements) :
    RunsWriting model keys state statements fields outcome ↔
      WriteStep.runAll model keys.keys state steps fields = outcome := by
  induction worded generalizing fields with
  | nil =>
    refine ⟨fun runs => ?_, fun ran => ran ▸ .done fields⟩
    cases runs
    rfl
  | @cons step statement steps statements isStatement _ ih =>
    rw [WriteStep.runAll]
    constructor
    · intro runs
      cases runs with
      | goesOn isOther written others =>
        obtain rfl := isStatement.unique isOther
        rw [written]
        exact ih.mp others
      | stops isOther failed =>
        obtain rfl := isStatement.unique isOther
        rw [failed]
    · intro ran
      split at ran
      · next written => exact .goesOn isStatement written (ih.mpr ran)
      · next failed => exact ran ▸ .stops isStatement failed

/-- To run statements that read is to run their steps. -/
theorem runsReading_iff {declaration : Structure} {steps : List ReadStep} {fields : Fields}
    {outcome : Except DecodeError (List (Ident × Datum))}
    (worded : List.Forall₂ (ReadStep.IsStatement keys.name) steps statements) :
    RunsReading model declaration keys fields statements outcome ↔
      ReadStep.runAll model declaration keys.keys fields steps = outcome := by
  induction worded generalizing outcome with
  | nil =>
    refine ⟨fun runs => ?_, fun ran => ran ▸ .done⟩
    cases runs
    rfl
  | @cons step statement steps statements isStatement _ ih =>
    rw [ReadStep.runAll]
    constructor
    · intro runs
      cases runs with
      | goesOn isOther found others =>
        obtain rfl := isStatement.unique isOther
        rw [found, ← ih.mp others]
        rfl
      | stops isOther failed =>
        obtain rfl := isStatement.unique isOther
        rw [failed]
        rfl
    · rintro rfl
      cases read : keys.keys.read (model.convert (step.typePhrase declaration)) fields
          step.variant with
      | ok datum => exact .goesOn isStatement read (ih.mpr rfl)
      | error error => exact .stops isStatement read

/-- **To run the statements of the code that writes is to write**, whatever the state and the fields
before. -/
theorem Conformance.runs_writing_iff {code : Conformance} (fields : Fields)
    (outcome : Except EncodeError Unit × Fields)
    (worded : List.Forall₂ (WriteStep.IsStatement code.keys.name) code.writes statements) :
    RunsWriting model code.keys state statements fields outcome ↔
      code.write model state fields = outcome :=
  runsWriting_iff worded

/-- **To run the statements of the code that reads, and to fill the literal, is to read.** -/
theorem Conformance.runs_reading_iff {code : Conformance} (declaration : Structure)
    (fields : Fields) (outcome : Except DecodeError (State Datum))
    (worded : List.Forall₂ (ReadStep.IsStatement code.keys.name) code.reading.steps statements) :
    (∃ bindings, RunsReading model declaration code.keys fields statements bindings ∧
        bindings.map (code.reading.fill model declaration) = outcome) ↔
      code.read model declaration fields = outcome := by
  simp only [runsReading_iff worded, exists_eq_left']
  rfl

end

end KeyedRecord

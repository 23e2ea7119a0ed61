/-
**What reading JSON gives.**

A text is only read as a value that JSON itself can hold: its fields are in order, no bytes stand in
it, its floating-point numbers are finite, and it nests no deeper than the reader goes
(`Value.IsJson`). This holds of what each part of the reader gives, by induction on the depth. Such a
value comes back from its own text, so that its text is a canonical form of every text that is read
as it.

* `readValue_gives`: what the reader of a depth gives.
* `read_isJson`: what the reader of whole texts gives.
* `canonical_of_read`: the text of what has been read.
-/

import KeyedRecord.Proofs.Json.RoundTrip
import KeyedRecord.Proofs.Json.Tree
import KeyedRecord.Proofs.Value.Equality

namespace KeyedRecord

/-! ### Values that JSON can hold -/

namespace Value

/-- No bytes stand anywhere in the value. -/
inductive IsByteless : Value → Prop
  | integer (value : Int64) : IsByteless (.integer value)
  | boolean (value : Bool) : IsByteless (.boolean value)
  | text (value : String) : IsByteless (.text value)
  | double (value : Double) : IsByteless (.double value)
  | struct {fields : Fields} (parts : ∀ field ∈ fields, IsByteless field.2) :
      IsByteless (.struct fields)
  | array {items : List Value} (parts : ∀ item ∈ items, IsByteless item) :
      IsByteless (.array items)

/-- Where no bytes are, nothing is unpacked. -/
theorem IsByteless.unpacked_eq {value : Value} (byteless : value.IsByteless) :
    value.unpacked = value := by
  induction byteless with
  | integer | boolean | text | double => rfl
  | struct parts same =>
    rename_i fields
    rw [unpacked_struct]
    congr 1
    have each : ∀ field ∈ fields, (field.1, field.2.unpacked) = id field :=
      fun field inside => Prod.ext rfl (same field inside)
    exact (List.map_congr_left each).trans (List.map_id _)
  | array parts same =>
    rw [unpacked_array]
    congr 1
    exact (List.map_congr_left same).trans (List.map_id _)

/-- The value is one that a text can say whose brackets nest so deep. -/
structure IsJson (depth : Nat) (value : Value) : Prop where
  ordered : value.IsOrdered
  byteless : value.IsByteless
  finite : value.IsFinite
  shallow : value.nesting ≤ depth

namespace IsJson

variable {depth : Nat}

theorem integer (value : Int64) : IsJson depth (.integer value) :=
  ⟨.integer value, .integer value, by simp [IsFinite, doubles], Nat.zero_le depth⟩

theorem boolean (value : Bool) : IsJson depth (.boolean value) :=
  ⟨.boolean value, .boolean value, by simp [IsFinite, doubles], Nat.zero_le depth⟩

theorem text (value : String) : IsJson depth (.text value) :=
  ⟨.text value, .text value, by simp [IsFinite, doubles], Nat.zero_le depth⟩

theorem double {value : Double} (finite : value.isFinite = true) : IsJson depth (.double value) :=
  ⟨.double value, .double value, (isFinite_double_iff value).mpr finite, Nat.zero_le depth⟩

theorem array {items : List Value} (parts : ∀ item ∈ items, IsJson depth item) :
    IsJson (depth + 1) (.array items) where
  ordered := .array fun item inside => (parts item inside).ordered
  byteless := .array fun item inside => (parts item inside).byteless
  finite := (isFinite_array_iff items).mpr fun item inside => (parts item inside).finite
  shallow := (nesting_array_le_iff items depth).mpr fun item inside => (parts item inside).shallow

theorem struct {fields : Fields} (ordered : fields.IsOrdered)
    (parts : ∀ field ∈ fields, IsJson depth field.2) : IsJson (depth + 1) (.struct fields) where
  ordered := .struct ordered fun field inside => (parts field inside).ordered
  byteless := .struct fun field inside => (parts field inside).byteless
  finite := (isFinite_struct_iff fields).mpr fun field inside => (parts field inside).finite
  shallow :=
    (nesting_struct_le_iff fields depth).mpr fun field inside => (parts field inside).shallow

end IsJson

end Value

/-- What stands in the fields of bindings has been bound. -/
theorem Fields.mem_ofList {bindings : List (String × Value)} {field : String × Value}
    (inside : field ∈ ofList bindings) : field ∈ bindings := by
  suffices holds : ∀ fields : Fields,
      field ∈ bindings.foldl (fun fields field => insert field.1 field.2 fields) fields →
        field ∈ fields ∨ field ∈ bindings from
    (holds [] inside).resolve_left List.not_mem_nil
  clear inside
  induction bindings with
  | nil => exact fun fields inside => .inl inside
  | cons first rest ih =>
    intro fields inside
    rcases ih _ inside with inserted | later
    · rcases mem_insert inserted with rfl | before
      · exact .inr List.mem_cons_self
      · exact .inl before
    · exact .inr (List.mem_cons_of_mem first later)

namespace Json

/-! ### Results of an attempt -/

/-- Whatever the attempt reads from the front of a text has the property. -/
def Gives {α : Type} (Holds : α → Prop) (attempt : Except ReadError (α × List Char)) : Prop :=
  ∀ result rest, attempt = .ok (result, rest) → Holds result

namespace Gives

variable {α β : Type} {Holds : α → Prop} {Then : β → Prop}

theorem ok {result : α} (holds : Holds result) (rest : List Char) :
    Gives Holds (.ok (result, rest)) := by
  intro other left same
  cases same
  exact holds

theorem error (cause : ReadError) : Gives Holds (.error cause) := by
  intro result rest same
  cases same

/-- Nothing need be known of an attempt. -/
theorem anything (attempt : Except ReadError (α × List Char)) : Gives (fun _ => True) attempt :=
  fun _ _ _ => trivial

/-- What a second attempt gives, after a first one. -/
theorem bind {attempt : Except ReadError (α × List Char)}
    {next : α × List Char → Except ReadError (β × List Char)} (first : Gives Holds attempt)
    (second : ∀ result rest, Holds result → Gives Then (next (result, rest))) :
    Gives Then (attempt >>= next) := by
  cases attempt with
  | error cause => exact error cause
  | ok pair => exact second pair.1 pair.2 (first pair.1 pair.2 rfl)

end Gives

/-! ### Leaves -/

variable {depth : Nat}

/-- A number is read as an integer of 64 bits or as a finite floating-point number. -/
theorem Numeral.source?_cases {numeral : Numeral} {source : Source}
    (found : numeral.source? = some source) :
    (∃ value, source = .signed value) ∨ (∃ value, source = .unsigned value) ∨
      ∃ number, source = .double number ∧ number.isFinite = true := by
  rw [source?, Option.or_eq_some_iff] at found
  rcases found with integer | ⟨-, double⟩
  · unfold integer? at integer
    split at integer
    · dsimp only at integer
      split at integer
      · split at integer
        · exact .inl ⟨_, (Option.some.inj integer).symm⟩
        · cases integer
      · split at integer
        · exact .inr (.inl ⟨_, (Option.some.inj integer).symm⟩)
        · cases integer
    · cases integer
  · obtain ⟨number, nearest, rfl⟩ := Option.map_eq_some_iff.mp double
    refine .inr (.inr ⟨number, rfl, ?_⟩)
    unfold double? at nearest
    dsimp only at nearest
    split at nearest
    · rename_i finite
      rw [← Option.some.inj nearest]
      exact finite
    · cases nearest

theorem accept_gives {source : Source} (rest : List Char) {Holds : Value → Prop}
    (holds : ∀ value, Value.ofSource source = .ok value → Holds value) :
    Gives Holds (accept source rest) := by
  unfold accept
  split
  · rename_i value read
    exact .ok (holds value read) rest
  · exact .error _

theorem readNumber_gives (text : List Char) : Gives (Value.IsJson depth) (readNumber text) := by
  unfold readNumber
  refine (Gives.anything _).bind fun numeral rest _ => ?_
  dsimp only
  split
  · rename_i source found
    refine accept_gives rest fun value read => ?_
    rcases Numeral.source?_cases found with ⟨integer, rfl⟩ | ⟨integer, rfl⟩ | ⟨number, rfl, finite⟩
    · cases read
      exact .integer integer
    · simp only [Value.ofSource, Value.ofUnsigned] at read
      split at read
      · cases read
        exact .integer _
      · cases read
    · cases read
      exact .double finite
  · exact .error _

/-! ### Arrays and objects -/

section Parts

variable {item : TextReader Value} {Holds : Value → Prop}

/-- What holds of each item that is read holds of all of them. -/
theorem readItems_gives (each : ∀ text, Gives Holds (item text)) (bound : Nat)
    (text : List Char) :
    Gives (fun values => ∀ value ∈ values, Holds value) (readItems item bound text) := by
  induction bound generalizing text with
  | zero => exact .error _
  | succ bound ih =>
    rw [readItems]
    refine (each text).bind fun value rest holds => ?_
    dsimp only
    split
    · exact (ih _).bind fun values rest all =>
        .ok (List.forall_mem_cons.mpr ⟨holds, all⟩) rest
    · exact .ok (List.forall_mem_singleton.mpr holds) _
    · exact .error _

theorem readFields_gives (each : ∀ text, Gives Holds (item text)) (bound : Nat)
    (text : List Char) :
    Gives (fun fields => ∀ field ∈ fields, Holds field.2) (readFields item bound text) := by
  let field : String × Value → Prop := fun field => Holds field.2
  induction bound generalizing text with
  | zero => exact .error _
  | succ bound ih =>
    rw [readFields]
    refine (Gives.anything _).bind fun name rest _ => ?_
    refine (each rest).bind fun value rest holds => ?_
    dsimp only
    split
    · exact (ih _).bind fun fields rest all =>
        .ok (List.forall_mem_cons (p := field).mpr ⟨holds, all⟩) rest
    · exact .ok (List.forall_mem_singleton (p := field).mpr holds) _
    · exact .error _

theorem readArray_gives (each : ∀ text, Gives (Value.IsJson depth) (item text))
    (text : List Char) : Gives (Value.IsJson (depth + 1)) (readArray item text) := by
  unfold readArray
  split
  · exact .ok (.array fun _ inside => by cases inside) _
  · exact (readItems_gives each _ text).bind fun values rest all => .ok (.array all) rest

theorem readObject_gives (each : ∀ text, Gives (Value.IsJson depth) (item text))
    (text : List Char) : Gives (Value.IsJson (depth + 1)) (readObject item text) := by
  have bound : ∀ fields : List (String × Value),
      (∀ field ∈ fields, Value.IsJson depth field.2) →
        Value.IsJson (depth + 1) (Value.ofFields fields) := fun fields all =>
    .struct (Fields.isOrdered_ofList fields) fun field inside =>
      all field (Fields.mem_ofList inside)
  unfold readObject
  split
  · exact .ok (bound [] fun _ inside => by cases inside) _
  · exact (readFields_gives each _ text).bind fun fields rest all => .ok (bound fields all) rest

end Parts

/-! ### Whole texts -/

/-- What a reader gives whose parts, if it may have any, give values that nest one less deep. -/
theorem readValueOver_gives {part : Option (TextReader Value)}
    (array : ∀ item, part = some item → ∀ text, Gives (Value.IsJson depth) (readArray item text))
    (object : ∀ item, part = some item → ∀ text, Gives (Value.IsJson depth) (readObject item text))
    (text : List Char) : Gives (Value.IsJson depth) (readValueOver part text) := by
  unfold readValueOver
  split
  · exact accept_gives _ fun value read => by cases read
  · exact accept_gives _ fun value read => by cases read; exact .boolean _
  · exact accept_gives _ fun value read => by cases read; exact .boolean _
  · split
    · exact accept_gives _ fun value read => by cases read; exact .text _
    · exact .error _
  · split
    · exact array _ rfl _
    · exact .error _
  · split
    · exact object _ rfl _
    · exact .error _
  · exact readNumber_gives _

/-- **What the reader of a depth gives** is a value that nests no deeper, by induction on the depth:
the parts of an array or an object are read one less deep. -/
theorem readValue_gives (depth : Nat) (text : List Char) :
    Gives (Value.IsJson depth) (readValue depth text) := by
  induction depth generalizing text with
  | zero => exact readValueOver_gives (fun _ none => by cases none) (fun _ none => by cases none) _
  | succ depth ih =>
    refine readValueOver_gives (fun item some => ?_) (fun item some => ?_) _
    · cases some
      exact readArray_gives ih
    · cases some
      exact readObject_gives ih

/-- **Whatever a text is read as, JSON can hold.** -/
theorem read_isJson {text : String} {value : Value} (accepted : read text = .ok value) :
    value.IsJson nestingLimit := by
  unfold read at accepted
  cases attempt : readValue nestingLimit text.toList with
  | error cause =>
    rw [attempt] at accepted
    cases accepted
  | ok result =>
    rw [attempt] at accepted
    obtain ⟨found, rest⟩ := result
    simp only [bind, Except.bind] at accepted
    split at accepted
    · rw [← Except.ok.inj accepted]
      exact readValue_gives nestingLimit text.toList found rest attempt
    · cases accepted

/-- A value that JSON can hold comes back from its text. -/
theorem read_write_of_isJson {value : Value} (held : value.IsJson nestingLimit) :
    read (write value) = .ok value := by
  rw [read_of_ordered (isTextOf_write value) held.ordered held.finite held.shallow,
    held.byteless.unpacked_eq]

/-- **The text of what has been read is a canonical form.** Let a text be read as a value. Then no
bytes stand in the value, its floating-point numbers are finite, it nests at most 127 deep, and its
own text is read as the same value. Another text that is read is read as an equal value exactly if
writing both values gives the same text. -/
theorem canonical_of_read {text : String} {value : Value} (accepted : read text = .ok value) :
    value.IsByteless ∧ value.IsFinite ∧ value.nesting ≤ 127 ∧ read (write value) = .ok value ∧
      ∀ other otherValue, read other = .ok otherValue →
        ((value == otherValue) = true ↔ write value = write otherValue) := by
  have held := read_isJson accepted
  have back := read_write_of_isJson held
  refine ⟨held.byteless, held.finite, held.shallow, back, fun other otherValue isRead => ?_⟩
  have heldOther := read_isJson isRead
  rw [Value.beq_iff_of_ordered held.ordered heldOther.ordered]
  refine ⟨fun same => same ▸ rfl, fun sameText => ?_⟩
  have backOther := read_write_of_isJson heldOther
  rw [← sameText, back] at backOther
  exact Except.ok.inj backOther

theorem exists_value {attempt : Except ReadError Value}
    (accepted : attempt.toOption.isSome = true) : ∃ value, attempt = .ok value := by
  cases attempt with
  | ok value => exact ⟨value, rfl⟩
  | error cause => cases accepted

/-- A text with blanks, an escape and a repeated name, and a shorter one that is read as the same
value. -/
theorem canonical_of_read_sample :
    let text := "\x7b\"k\": 1E2, \"k\": [-0, \"\\u0041\", 2.50]\x7d"
    let other := "\x7b\"k\":[-0.0,\"A\",25e-1]\x7d"
    ∃ value otherValue, read text = .ok value ∧ read other = .ok otherValue ∧
      value.IsByteless ∧ value.IsFinite ∧ value.nesting ≤ 127 ∧ read (write value) = .ok value ∧
      write value = write otherValue := by
  intro text other
  obtain ⟨value, accepted⟩ := exists_value (show (read text).toOption.isSome = true by
    decide +kernel)
  obtain ⟨otherValue, isRead⟩ := exists_value (show (read other).toOption.isSome = true by
    decide +kernel)
  have equal : ((read text).toOption.all fun value =>
      (read other).toOption.all fun otherValue => value == otherValue) = true := by
    decide +kernel
  rw [accepted, isRead] at equal
  obtain ⟨byteless, finite, shallow, back, canonical⟩ := canonical_of_read accepted
  exact ⟨value, otherValue, accepted, isRead, byteless, finite, shallow, back,
    (canonical other otherValue isRead).mp equal⟩

end Json

end KeyedRecord

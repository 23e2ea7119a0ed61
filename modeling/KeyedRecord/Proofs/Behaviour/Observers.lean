/-
**What the observers of a member see.**

The body of a setter runs the first block, puts the new datum in the place of the old one, and runs
the second block. `Setter.perform` is this body with blocks that may have effects; with blocks that
note what they are given it comes to the same state as `Setter.run`, and says in passing what each
block was handed and what state it saw (`Setter.call_eq`). If the blocks spare the member, each
change is shown as it is (`Setter.call_shows`), and by induction so is each change of a run.

* `Setter.Spares`: the blocks that the setter runs never write a field.
* `Setter.callAll`: what the blocks of each change of a run note, and the state after it.
* `Sample.IsLogged`: the fields of the record that counts and logs the changes of a member.
* `Setter.blocks_see_changes`: runs of any observed member, and those of that record.
-/

import KeyedRecord.Behaviour.Basic
import KeyedRecord.Proofs.Lookup
import KeyedRecord.Sample.Observed

namespace KeyedRecord

/-! ### Fields of a state -/

section

variable {Datum : Type} (state : State Datum)

theorem State.set_same (name : Ident) (datum : Datum) : state.set name datum name = datum :=
  if_pos rfl

theorem State.set_other {name other : Ident} (apart : other ≠ name) (datum : Datum) :
    state.set name datum other = state other :=
  if_neg apart

end

/-! ### The setter of a member -/

/-- The setter that an expansion has for an observed member. -/
def Member.setter (member : Member) (observers : Observers) : Setter :=
  ⟨member.visibility, member.name, member.type.phrase, observers⟩

section

variable {record : Record} {member : Member} {initial : Option Phrase} {observers : Observers}

theorem Member.inherentItem?_of_observed (form : member.form = .observed initial observers) :
    member.inherentItem? = some (.setter (member.setter observers)) := by
  rw [inherentItem?, form]
  rfl

/-- The expansion of a record has the setter of each observed member. -/
theorem Record.setter_mem_inherentItems (declared : member ∈ record.members)
    (form : member.form = .observed initial observers) :
    .setter (member.setter observers) ∈ (Expansion.ofRecord record).inherentItems := by
  obtain ⟨item, inside, isMember⟩ := List.mem_filterMap.mp declared
  refine List.mem_filterMap.mpr ⟨item, inside, ?_⟩
  cases item with
  | member other =>
    obtain rfl := Option.some.inj isMember
    exact Member.inherentItem?_of_observed form
  | item _ => cases isMember

/-- What the setters of members are looked for by. -/
theorem Member.name_of_inherentItem? {other : Member} {setter : Setter}
    (adds : other.inherentItem? = some (.setter setter)) : setter.member = other.name := by
  unfold inherentItem? at adds
  split at adds <;> cases adds
  rfl

/-- Among members with distinct names, the setter of a member is found by the member's name. -/
theorem Expansion.setter?_of_observed (distinct : (record.members.map Member.name).Nodup)
    (declared : member ∈ record.members) (form : member.form = .observed initial observers) :
    (Expansion.ofRecord record).setter? member.name = some (member.setter observers) := by
  have named : (member.setter observers).member = member.name := rfl
  have isThere := Record.setter_mem_inherentItems declared form
  -- Every setter of that name is the member's own: its member has the same name.
  have own : ∀ setter : Setter, .setter setter ∈ (Expansion.ofRecord record).inherentItems →
      setter.member = member.name → setter = member.setter observers := by
    intro setter inside same
    obtain ⟨item, listed, adds⟩ := List.mem_filterMap.mp inside
    cases item with
    | item _ => cases adds
    | member other =>
      have otherDeclared : other ∈ record.members := List.mem_filterMap.mpr ⟨_, listed, rfl⟩
      have otherName : other.name = member.name :=
        (Member.name_of_inherentItem? adds).symm.trans same
      obtain rfl := List.inj_on_of_nodup_map distinct otherDeclared declared otherName
      have adds : other.inherentItem? = some (.setter setter) := adds
      rw [Member.inherentItem?_of_observed form] at adds
      cases adds
      rfl
  unfold Expansion.setter?
  cases found : (Expansion.ofRecord record).inherentItems.findSome? _ with
  | none =>
    have missed := List.findSome?_eq_none_iff.mp found _ isThere
    simp [named] at missed
  | some setter =>
    obtain ⟨item, inside, gives⟩ := List.exists_of_findSome?_eq_some found
    cases item with
    | setter other =>
      by_cases same : other.member = member.name
      · simp only [if_pos same, Option.some.injEq] at gives
        subst gives
        exact congrArg some (own other inside same)
      · simp [same] at gives
    | getter _ => cases gives
    | declared _ => cases gives

end

/-! ### What blocks are given -/

/-- A block that has been run, with the datum it was handed and the state it saw. -/
inductive Notice (Datum : Type)
  /-- The block before a change, with the new datum. -/
  | willSet (offered : Datum) (seen : State Datum)
  /-- The block after a change, with the old datum. -/
  | didSet (replaced : Datum) (seen : State Datum)

/-- The old datum that a block was handed. -/
def Notice.replaced? {Datum : Type} : Notice Datum → Option Datum
  | .willSet _ _ => none
  | .didSet replaced _ => some replaced

/-- What a block leaves behind, with a notice of what it was given. -/
def Notice.leave {Datum : Type} (notice : Notice Datum) (after : State Datum) :
    StateM (List (Notice Datum)) (State Datum) := do
  modify fun notices => notices ++ [notice]
  return after

namespace Setter

variable {Datum : Type} (setter : Setter)

/-- The body of a setter, with blocks that may have effects. -/
def perform {Effect : Type → Type} [Monad Effect]
    (willSet didSet : Datum → State Datum → Effect (State Datum)) (datum : Datum)
    (state : State Datum) : Effect (State Datum) := do
  let before ← if setter.observers.willSet.isSome then willSet datum state else pure state
  let after := before.set setter.member datum
  if setter.observers.didSet.isSome then didSet (before setter.member) after else pure after

variable (model : Model Datum)

/-- Sets the member with blocks that note what they are given. -/
def call (datum : Datum) (state : State Datum) : State Datum × List (Notice Datum) :=
  StateT.run
    (setter.perform
      (fun datum seen =>
        (Notice.willSet datum seen).leave (model.willSet setter.member datum seen))
      (fun datum seen =>
        (Notice.didSet datum seen).leave (model.didSet setter.member datum seen))
      datum state) []

/-- What the blocks of each change note, and the state after the last one. -/
def callAll : List Datum → State Datum → List (List (Notice Datum)) × State Datum
  | [], state => ([], state)
  | datum :: rest, state =>
    let first := setter.call model datum state
    let others := callAll rest first.1
    (first.2 :: others.1, others.2)

/-- The state after the member has been set to each of the data. -/
def runAll (data : List Datum) (state : State Datum) : State Datum :=
  data.foldl (fun state datum => setter.run model datum state) state

/-- The blocks that the setter runs never write the field. -/
structure Spares (name : Ident) : Prop where
  willSet : setter.observers.willSet.isSome = true →
    ∀ datum state, model.willSet setter.member datum state name = state name
  didSet : setter.observers.didSet.isSome = true →
    ∀ datum state, model.didSet setter.member datum state name = state name

/-- The notices show a change: the block before it is handed the new datum and sees the old one in
its place, and the block after it is handed the old datum and sees the new one in its place. No
block runs that the member does not have, and none runs twice. -/
def Shows (change : Datum × Datum) (notices : List (Notice Datum)) : Prop :=
  ∃ first second : State Datum,
    notices = (if setter.observers.willSet.isSome then [.willSet change.2 first] else []) ++
      (if setter.observers.didSet.isSome then [.didSet change.1 second] else []) ∧
    first setter.member = change.1 ∧ second setter.member = change.2

/-! ### One change -/

/-- The state after the first block, if there is one. -/
def afterWillSet (datum : Datum) (state : State Datum) : State Datum :=
  if setter.observers.willSet.isSome then model.willSet setter.member datum state else state

/-- The second block, if there is one, is handed what the first one has left in the member. -/
theorem run_eq (datum : Datum) (state : State Datum) : setter.run model datum state =
    if setter.observers.didSet.isSome then
      model.didSet setter.member (setter.afterWillSet model datum state setter.member)
        ((setter.afterWillSet model datum state).set setter.member datum)
    else (setter.afterWillSet model datum state).set setter.member datum :=
  rfl

/-- **One change with notices** comes to the same state as without, and notes what the blocks are
given. -/
theorem call_eq (datum : Datum) (state : State Datum) :
    setter.call model datum state = (setter.run model datum state,
      (if setter.observers.willSet.isSome then [.willSet datum state] else []) ++
        if setter.observers.didSet.isSome then
          [.didSet (setter.afterWillSet model datum state setter.member)
            ((setter.afterWillSet model datum state).set setter.member datum)]
        else []) := by
  obtain ⟨visibility, member, type, ⟨willSet, didSet⟩⟩ := setter
  cases willSet <;> cases didSet <;> rfl

variable {setter model}

/-- The first block leaves a field as it is that it spares. -/
theorem Spares.afterWillSet_eq {name : Ident} (spares : setter.Spares model name) (datum : Datum)
    (state : State Datum) : setter.afterWillSet model datum state name = state name := by
  unfold afterWillSet
  split
  · rename_i runs
    exact spares.willSet runs datum state
  · rfl

/-- What the second block leaves in a field that the blocks spare. -/
theorem Spares.run_eq {name : Ident} (spares : setter.Spares model name) (datum : Datum)
    (state : State Datum) : setter.run model datum state name =
      (setter.afterWillSet model datum state).set setter.member datum name := by
  rw [Setter.run_eq]
  split
  · rename_i runs
    exact spares.didSet runs _ _
  · rfl

/-- After a change the member holds the new datum. -/
theorem Spares.run_member (spares : setter.Spares model setter.member) (datum : Datum)
    (state : State Datum) : setter.run model datum state setter.member = datum := by
  rw [spares.run_eq, State.set_same]

/-- A change leaves every other field as it is that the blocks spare. -/
theorem Spares.run_other {name : Ident} (spares : setter.Spares model name)
    (apart : name ≠ setter.member) (datum : Datum) (state : State Datum) :
    setter.run model datum state name = state name := by
  rw [spares.run_eq, State.set_other _ apart, spares.afterWillSet_eq]

/-- **The blocks of a change see it as it is**, if they spare the member. -/
theorem call_shows (spares : setter.Spares model setter.member) (datum : Datum)
    (state : State Datum) :
    setter.Shows (state setter.member, datum) (setter.call model datum state).2 := by
  refine ⟨state, (setter.afterWillSet model datum state).set setter.member datum, ?_, rfl,
    State.set_same _ _ _⟩
  rw [call_eq, spares.afterWillSet_eq]

/-- The old data that the notices of a change mention. -/
theorem Shows.filterMap_replaced? {change : Datum × Datum} {notices : List (Notice Datum)}
    (shown : setter.Shows change notices) (observed : setter.observers.didSet.isSome = true) :
    notices.filterMap Notice.replaced? = [change.1] := by
  obtain ⟨first, second, rfl, -, -⟩ := shown
  rw [if_pos observed, List.filterMap_append]
  cases setter.observers.willSet.isSome <;> rfl

/-! ### Runs of changes -/

/-- A run with notices comes to the same state as without. -/
theorem callAll_snd (data : List Datum) (state : State Datum) :
    (setter.callAll model data state).2 = setter.runAll model data state := by
  induction data generalizing state with
  | nil => rfl
  | cons datum rest ih =>
    show (setter.callAll model rest (setter.call model datum state).1).2 = _
    rw [ih, call_eq]
    rfl

/-- The old data of a run are the datum at its start and all that are set but the last one. -/
theorem map_fst_changes (start : Datum) (data : List Datum) :
    ((start :: data).zip data).map Prod.fst = (start :: data).dropLast := by
  induction data generalizing start with
  | nil => rfl
  | cons datum rest ih =>
    rw [List.zip_cons_cons, List.map_cons, ih]
    rfl

/-- **The blocks of a run see each change as it is.** -/
theorem callAll_shows (spares : setter.Spares model setter.member) (data : List Datum)
    (state : State Datum) :
    List.Forall₂ setter.Shows ((state setter.member :: data).zip data)
      (setter.callAll model data state).1 := by
  induction data generalizing state with
  | nil => exact .nil
  | cons datum rest ih =>
    -- The change after this one starts from the datum that this one has set.
    have next := ih (setter.call model datum state).1
    have set : (setter.call model datum state).1 setter.member = datum := by
      rw [call_eq]
      exact spares.run_member datum state
    rw [set] at next
    exact .cons (call_shows spares datum state) next

/-- The old data that the notices of a run mention. -/
theorem replaced_of_shows {changes : List (Datum × Datum)} {notices : List (List (Notice Datum))}
    (shown : List.Forall₂ setter.Shows changes notices)
    (observed : setter.observers.didSet.isSome = true) :
    notices.flatten.filterMap Notice.replaced? = changes.map Prod.fst := by
  induction shown with
  | nil => rfl
  | cons first _ ih =>
    rw [List.flatten_cons, List.filterMap_append, ih, first.filterMap_replaced? observed]
    rfl

/-- After a run the member holds the last datum. -/
theorem runAll_member (spares : setter.Spares model setter.member) (data : List Datum)
    (state : State Datum) :
    setter.runAll model data state setter.member = data.getLast?.getD (state setter.member) := by
  induction data generalizing state with
  | nil => rfl
  | cons datum rest ih =>
    show setter.runAll model rest (setter.run model datum state) setter.member = _
    rw [ih, spares.run_member, List.getLast?_cons]
    rfl

/-- A run leaves every other field as it is that the blocks spare. -/
theorem runAll_other {name : Ident} (spares : setter.Spares model name)
    (apart : name ≠ setter.member) (data : List Datum) (state : State Datum) :
    setter.runAll model data state name = state name := by
  induction data generalizing state with
  | nil => rfl
  | cons datum rest ih => exact (ih _).trans (spares.run_other apart datum state)

end Setter

/-! ### The record that counts and logs -/

namespace Sample

/-- The state holds a text, the number of its changes, and a log of the texts before it. -/
structure IsLogged (state : State Datum) (text : String) (count : Int) (log : List String) :
    Prop where
  text : state fullText = Datum.text text
  count : ∃ datum : IntegerType.i64.Carrier, datum.val = count ∧
    state fullCount = ⟨.scalar (.integer .i64), datum⟩
  log : state fullLog = ⟨.list .text, log⟩

/-- The setter of the member whose changes are counted and logged has both blocks. -/
theorem full_setter : ∃ setter, (Expansion.ofRecord full.record).setter? fullText = some setter ∧
    setter.member = fullText ∧ setter.observers.willSet.isSome = true ∧
    setter.observers.didSet.isSome = true := by
  have facts : ((Expansion.ofRecord full.record).setter? fullText).map (fun setter =>
      (setter.member, setter.observers.willSet.isSome, setter.observers.didSet.isSome)) =
        some (fullText, true, true) := by
    decide +kernel
  obtain ⟨setter, found, same⟩ := Option.map_eq_some_iff.mp facts
  simp only [Prod.mk.injEq] at same
  exact ⟨setter, found, same⟩

theorem full_willSet : full.model.willSet fullText = countChange := rfl

theorem full_didSet : full.model.didSet fullText = logChange := rfl

/-- An integer of 64 bits is kept as it is. -/
theorem integer_of_inRange {value : Int} (least : IntegerType.i64.least ≤ value)
    (greatest : value ≤ IntegerType.i64.greatest) :
    Datum.integer value = ⟨.scalar (.integer .i64), ⟨value, least, greatest⟩⟩ := by
  simp only [IntegerType.least, IntegerType.greatest] at least greatest
  have same : value.bmod 18446744073709551616 = value :=
    Int.bmod_eq_of_le (by omega) (by omega)
  simp only [Datum.integer, same]

section

variable {setter : Setter} (isMember : setter.member = fullText)
  (willSet : setter.observers.willSet.isSome = true)
  (didSet : setter.observers.didSet.isSome = true)

include isMember willSet didSet

/-- What one change does to the state: count, set, and log. -/
theorem full_run (datum : Datum) (state : State Datum) :
    setter.run full.model datum state =
      logChange (countChange datum state fullText)
        ((countChange datum state).set fullText datum) := by
  simp only [Setter.run, willSet, didSet, isMember, full_willSet, full_didSet, if_true]

/-- One change counts and logs, as long as the count stays in range. -/
theorem IsLogged.run {state : State Datum} {text : String} {count : Int} {log : List String}
    (holds : IsLogged state text count log) (room : count + 1 ≤ IntegerType.i64.greatest)
    (next : String) :
    IsLogged (setter.run full.model (Datum.text next) state) next (count + 1) (log ++ [text]) := by
  rw [full_run isMember willSet didSet]
  obtain ⟨counted, rfl, isCount⟩ := holds.count
  have inRange : IntegerType.i64.least ≤ counted.val := counted.property.1
  have atLeast : IntegerType.i64.least ≤ counted.val + 1 := by omega
  constructor
  · exact (State.set_other _ (by decide) _).trans (State.set_same _ _ _)
  · refine ⟨⟨counted.val + 1, atLeast, room⟩, rfl, ?_⟩
    rw [logChange, State.set_other _ (by decide), State.set_other _ (by decide), countChange,
      State.set_same, isCount]
    exact integer_of_inRange atLeast room
  · rw [logChange, State.set_same, State.set_other _ (by decide), countChange,
      State.set_other _ (by decide), State.set_other _ (by decide), holds.log, holds.text]
    rfl

/-- The other fields of the record stay as they are. -/
theorem full_run_other (datum : Datum) (state : State Datum) {name : Ident}
    (noText : name ≠ fullText) (noCount : name ≠ fullCount) (noLog : name ≠ fullLog) :
    setter.run full.model datum state name = state name := by
  rw [full_run isMember willSet didSet, logChange, State.set_other _ noLog,
    State.set_other _ noText, countChange, State.set_other _ noCount]

/-- **A run of changes is counted and logged**: the log has the text at the start and all that are
set but the last one. -/
theorem IsLogged.runAll {state : State Datum} {text : String} {count : Int} {log : List String}
    (holds : IsLogged state text count log) (texts : List String)
    (room : count + texts.length ≤ IntegerType.i64.greatest) :
    IsLogged (setter.runAll full.model (texts.map Datum.text) state) (texts.getLast?.getD text)
      (count + texts.length) (log ++ (text :: texts).dropLast) := by
  induction texts generalizing state text count log with
  | nil =>
    show IsLogged state text (count + (0 : Nat)) (log ++ [])
    simpa using holds
  | cons next rest ih =>
    have total : count + 1 + rest.length = count + (next :: rest).length := by
      rw [List.length_cons]
      omega
    have changed := holds.run isMember willSet didSet (by omega) next
    have others := ih changed (by omega)
    rw [total, List.append_assoc] at others
    rw [List.getLast?_cons, List.dropLast_cons_cons]
    exact others

theorem full_runAll_other (data : List Datum) (state : State Datum) {name : Ident}
    (noText : name ≠ fullText) (noCount : name ≠ fullCount) (noLog : name ≠ fullLog) :
    setter.runAll full.model data state name = state name := by
  induction data generalizing state with
  | nil => rfl
  | cons datum rest ih =>
    exact (ih _).trans (full_run_other isMember willSet didSet datum state noText noCount noLog)

end

end Sample

/-- **The blocks of an observed member see its changes.** The expansion of every record has the
setter of each observed member, by the member's name if the names are distinct. Let its blocks never
write the member. In every run from every state, the blocks of each change are shown the change: the
block before it is handed the new datum while the member still holds the old one, and the block
after it is handed the old datum when the member holds the new one. So the old data that are handed
out are the datum at the start and all that are set but the last one. After the run the member holds
the last datum, and every other field that no block writes is unchanged. For the record that counts
and logs: after a run the text is the last one, the count has grown by the length of the run, the
log goes on with the text at the start and all but the last one, and other fields are unchanged. -/
theorem Setter.blocks_see_changes :
    (∀ {Datum : Type} (model : Model Datum) (record : Record), ∀ member ∈ record.members,
      ∀ initial observers, member.form = .observed initial observers →
        ∃ setter : Setter, .setter setter ∈ (Expansion.ofRecord record).inherentItems ∧
          setter.member = member.name ∧ setter.observers = observers ∧
          ((record.members.map Member.name).Nodup →
            (Expansion.ofRecord record).setter? member.name = some setter) ∧
          (setter.Spares model member.name → ∀ (data : List Datum) (state : State Datum),
            (setter.callAll model data state).2 = setter.runAll model data state ∧
            List.Forall₂ setter.Shows ((state member.name :: data).zip data)
              (setter.callAll model data state).1 ∧
            (observers.didSet.isSome = true →
              (setter.callAll model data state).1.flatten.filterMap Notice.replaced? =
                (state member.name :: data).dropLast) ∧
            setter.runAll model data state member.name =
              data.getLast?.getD (state member.name) ∧
            ∀ name, name ≠ member.name → setter.Spares model name →
              setter.runAll model data state name = state name)) ∧
    ∃ setter, (Expansion.ofRecord Sample.full.record).setter? Sample.fullText = some setter ∧
      ∀ state text count log, Sample.IsLogged state text count log → ∀ texts : List String,
        count + texts.length ≤ IntegerType.i64.greatest →
        Sample.IsLogged (setter.runAll Sample.full.model (texts.map Datum.text) state)
            (texts.getLast?.getD text) (count + texts.length)
            (log ++ (text :: texts).dropLast) ∧
          ∀ name, name ≠ Sample.fullText → name ≠ Sample.fullCount → name ≠ Sample.fullLog →
            setter.runAll Sample.full.model (texts.map Datum.text) state name = state name := by
  constructor
  · intro Datum model record member declared initial observers form
    refine ⟨member.setter observers, Record.setter_mem_inherentItems declared form, rfl, rfl,
      fun distinct => Expansion.setter?_of_observed distinct declared form,
      fun spares data state => ?_⟩
    have sparesMember : (member.setter observers).Spares model (member.setter observers).member :=
      spares
    have shown := Setter.callAll_shows sparesMember data state
    refine ⟨Setter.callAll_snd data state, shown, fun observed => ?_,
      Setter.runAll_member sparesMember data state,
      fun name apart sparesName => Setter.runAll_other sparesName apart data state⟩
    exact (Setter.replaced_of_shows shown observed).trans (Setter.map_fst_changes _ data)
  · obtain ⟨setter, found, isMember, willSet, didSet⟩ := Sample.full_setter
    refine ⟨setter, found, fun state text count log holds texts room => ⟨?_, ?_⟩⟩
    · exact holds.runAll isMember willSet didSet texts room
    · intro name noText noCount noLog
      exact Sample.full_runAll_other isMember willSet didSet _ state noText noCount noLog

/-- The state of the record that counts and logs before any change. -/
def Sample.unlogged : State Datum :=
  (State.set (fun _ => Datum.text "") fullCount (Datum.integer 0)).set fullLog ⟨.list .text, []⟩

/-- Two changes of the record that counts and logs: its blocks spare the member, the block after
each change is handed the old text, and both are counted and logged. -/
theorem Setter.blocks_see_changes_sample :
    (∃ setter : Setter,
      (Expansion.ofRecord Sample.full.record).setter? Sample.fullText = some setter ∧
      setter.Spares Sample.full.model Sample.fullText ∧
      (setter.callAll Sample.full.model [Datum.text "first", Datum.text "second"]
          Sample.unlogged).1.flatten.filterMap Notice.replaced? =
        [Datum.text "", Datum.text "first"]) ∧
    Sample.IsLogged Sample.unlogged "" 0 [] ∧
    ∃ setter : Setter,
      (Expansion.ofRecord Sample.full.record).setter? Sample.fullText = some setter ∧
      Sample.IsLogged (setter.runAll Sample.full.model [Datum.text "first", Datum.text "second"]
        Sample.unlogged) "second" 2 ["", "first"] := by
  have start : Sample.IsLogged Sample.unlogged "" 0 [] := ⟨rfl, ⟨⟨0, by decide⟩, rfl, rfl⟩, rfl⟩
  have declared := List.mem_of_getElem? (l := Sample.full.record.members) (i := 4) rfl
  have distinct : (Sample.full.record.members.map Member.name).Nodup := by decide +kernel
  refine ⟨?_, start, ?_⟩
  · obtain ⟨setter, -, isMember, observers, found, run⟩ := Setter.blocks_see_changes.1
      Sample.full.model Sample.full.record _ declared _ _ rfl
    have noCount : Sample.fullText ≠ Sample.fullCount := by decide
    have noLog : Sample.fullText ≠ Sample.fullLog := by decide
    have counts : ∀ datum state,
        Sample.full.model.willSet Sample.fullText datum state Sample.fullText =
          state Sample.fullText := fun datum state => by
      rw [Sample.full_willSet, Sample.countChange, State.set_other _ noCount]
    have logs : ∀ datum state,
        Sample.full.model.didSet Sample.fullText datum state Sample.fullText =
          state Sample.fullText := fun datum state => by
      rw [Sample.full_didSet, Sample.logChange, State.set_other _ noLog]
    have spares : setter.Spares Sample.full.model Sample.fullText :=
      ⟨fun _ => isMember ▸ counts, fun _ => isMember ▸ logs⟩
    exact ⟨setter, found distinct, spares, (run spares _ _).2.2.1 rfl⟩
  · obtain ⟨setter, found, run⟩ := Setter.blocks_see_changes.2
    exact ⟨setter, found, (run _ _ _ _ start ["first", "second"] (by decide)).1⟩

end KeyedRecord

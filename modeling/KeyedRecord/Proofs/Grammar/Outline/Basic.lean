/-
**What stands inside a block behind does not matter.**

To find its end a reader looks at the trees that follow, but never into a group in curly brackets
that it does not take. So what a reader takes in front of a rest it also takes in front of every
rest of the same outline, with the same result (`InStep`). As with the readers' moving forward, this
is found by following the text of a reader: here of two copies of it, one in front of each rest,
which ask the same questions and get the same answers (`Agree`).

* `Phrase.outline`: a phrase without what stands inside its blocks.
* `InStep`: what the one reader takes in front of a rest, the other takes in front of the other.
* `Rules.AreInStep`: the rules of a table take the same.
-/

import KeyedRecord.Proofs.Grammar.Taken

namespace KeyedRecord

/-- The tree, without its content if it is a block. -/
def TokenTree.hollow : TokenTree → TokenTree
  | .group .brace _ => .group .brace []
  | tree => tree

/-- The phrase without what stands inside its blocks. -/
def Phrase.outline (phrase : Phrase) : Phrase :=
  phrase.map TokenTree.hollow

/-- The phrases differ at most inside their blocks. -/
class SameOutline (first second : Phrase) : Prop where
  outline_eq : first.outline = second.outline

theorem Phrase.outline_append (first second : Phrase) :
    Phrase.outline (first ++ second) = first.outline ++ second.outline :=
  List.map_append

theorem Phrase.outline_drop (phrase : Phrase) (count : Nat) :
    Phrase.outline (phrase.drop count) = phrase.outline.drop count :=
  List.map_drop

instance SameOutline.refl (phrase : Phrase) : SameOutline phrase phrase :=
  ⟨rfl⟩

instance SameOutline.append {first second rest other : Phrase} [same : SameOutline first second]
    [behind : SameOutline rest other] : SameOutline (first ++ rest) (second ++ other) :=
  ⟨by rw [Phrase.outline_append, Phrase.outline_append, same.outline_eq, behind.outline_eq]⟩

instance SameOutline.drop {first second : Phrase} (count : Nat)
    [same : SameOutline first second] : SameOutline (first.drop count) (second.drop count) :=
  ⟨by rw [Phrase.outline_drop, Phrase.outline_drop, same.outline_eq]⟩

instance SameOutline.cons (tree : TokenTree) {rest other : Phrase}
    [behind : SameOutline rest other] : SameOutline (tree :: rest) (tree :: other) :=
  ⟨congrArg (tree.hollow :: ·) behind.outline_eq⟩

/-- Blocks have the same outline, whatever stands inside. -/
instance SameOutline.block (content other : Phrase) {first second : Phrase}
    [behind : SameOutline first second] :
    SameOutline (.group .brace content :: first) (.group .brace other :: second) :=
  ⟨congrArg (TokenTree.group .brace [] :: ·) behind.outline_eq⟩

/-- A tree that is no block stands in every phrase of the outline. -/
theorem SameOutline.exists_cons {tree : TokenTree} {behind second : Phrase}
    (same : SameOutline (tree :: behind) second)
    (noBlock : ∀ content, tree ≠ .group .brace content) : ∃ rest, second = tree :: rest := by
  obtain _ | ⟨opening, rest⟩ := second
  · cases same.outline_eq
  · have hollow : tree.hollow = opening.hollow := (List.cons.inj same.outline_eq).1
    refine ⟨rest, congrArg (· :: rest) ?_⟩
    rcases opening with _ | _ | _ | _ | ⟨_ | _ | _, _⟩ <;>
      rcases tree with _ | _ | _ | _ | ⟨_ | _ | _, content⟩ <;>
      first | exact absurd rfl (noBlock content) | exact hollow.symm | cases hollow

theorem SameOutline.symm {first second : Phrase} (same : SameOutline first second) :
    SameOutline second first :=
  ⟨same.outline_eq.symm⟩

theorem SameOutline.length_eq {first second : Phrase} (same : SameOutline first second) :
    first.length = second.length := by
  have lengths := congrArg List.length same.outline_eq
  unfold Phrase.outline at lengths
  rwa [List.length_map, List.length_map] at lengths

namespace Grammar

/-! ### Questions about what follows -/

/-- The two are equal: the same question, asked in front of two rests. -/
class Agree {γ : Type} (first second : γ) : Prop where
  eq : first = second

/-- The answer is the same for the outline. -/
class OfOutline {γ : Type} (view : Phrase → γ) : Prop where
  outline : ∀ phrase, view phrase.outline = view phrase

instance (priority := low) {γ : Type} (view : Phrase → γ) [asked : OfOutline view]
    {first second : Phrase} [same : SameOutline first second] :
    Agree (view first) (view second) :=
  ⟨by rw [← asked.outline first, same.outline_eq, asked.outline]⟩

instance agree_refl {γ : Type} (answer : γ) : Agree answer answer :=
  ⟨rfl⟩

section

variable {first second other another : Bool}

instance [same : Agree first second] : Agree (!first) (!second) :=
  ⟨by rw [same.eq]⟩

instance [same : Agree first second] [also : Agree other another] :
    Agree (first && other) (second && another) :=
  ⟨by rw [same.eq, also.eq]⟩

instance [same : Agree first second] [also : Agree other another] :
    Agree (first || other) (second || another) :=
  ⟨by rw [same.eq, also.eq]⟩

end

instance {first second : Phrase} [same : SameOutline first second] :
    Agree first.length second.length :=
  ⟨same.length_eq⟩

instance {first second : Nat} [same : Agree first second] : Agree (first + 1) (second + 1) :=
  ⟨by rw [same.eq]⟩

instance {first second other another : Nat} [same : Agree first second]
    [also : Agree other another] : Agree (first == other) (second == another) :=
  ⟨by rw [same.eq, also.eq]⟩

section

variable {view question : Phrase → Bool} [asked : OfOutline view] [also : OfOutline question]

instance : OfOutline fun phrase => !view phrase :=
  ⟨fun phrase => by rw [asked.outline]⟩

instance : OfOutline fun phrase => view phrase && question phrase :=
  ⟨fun phrase => by rw [asked.outline, also.outline]⟩

instance : OfOutline fun phrase => view phrase || question phrase :=
  ⟨fun phrase => by rw [asked.outline, also.outline]⟩

instance (count : Nat) : OfOutline fun phrase => view (phrase.drop count) :=
  ⟨fun phrase => by rw [← Phrase.outline_drop, asked.outline]⟩

end

instance : OfOutline (List.isEmpty : Phrase → Bool) :=
  ⟨fun phrase => by cases phrase <;> rfl⟩

instance (operator : String) : OfOutline (startsWithOperator operator) := by
  refine ⟨fun phrase => ?_⟩
  unfold startsWithOperator
  generalize operator.toList = characters
  induction characters generalizing phrase with
  | nil => rfl
  | cons first more ih =>
    rcases phrase with _ | ⟨_ | ⟨character, _ | _⟩ | _ | _ | ⟨_ | _ | _, _⟩, phrase⟩ <;>
      cases more <;> try rfl
    · exact congrArg (first == character && ·) (ih phrase)

instance (word : String) : OfOutline (startsWithWord word) :=
  ⟨by rintro (_ | ⟨_ | _ | _ | _ | ⟨_ | _ | _, _⟩, _⟩) <;> rfl⟩

instance (words : List String) : OfOutline (startsWithAnyWord words) := by
  refine ⟨fun phrase => ?_⟩
  unfold startsWithAnyWord
  simp only [OfOutline.outline]

instance : OfOutline startsWithName :=
  ⟨by rintro (_ | ⟨_ | _ | _ | _ | ⟨_ | _ | _, _⟩, _⟩) <;> rfl⟩

instance : OfOutline startsWithIdent :=
  ⟨by rintro (_ | ⟨_ | _ | _ | _ | ⟨_ | _ | _, _⟩, _⟩) <;> rfl⟩

instance : OfOutline startsWithCapture :=
  ⟨by rintro (_ | ⟨_ | _ | _ | _ | ⟨_ | _ | _, _⟩, _⟩) <;> rfl⟩

instance : OfOutline startsWithLifetime :=
  ⟨by rintro (_ | ⟨_ | _ | _ | _ | ⟨_ | _ | _, _⟩, _⟩) <;> rfl⟩

instance (delimiter : Delimiter) : OfOutline (startsWithGroup delimiter) :=
  ⟨by rintro (_ | ⟨_ | _ | _ | _ | ⟨_ | _ | _, _⟩, _⟩) <;> rfl⟩

instance : OfOutline startsWithText :=
  ⟨by rintro (_ | ⟨_ | _ | _ | _ | ⟨_ | _ | _, _⟩, _⟩) <;> rfl⟩

theorem takeLiteral?_outline (phrase : Phrase) : takeLiteral? phrase.outline =
    (takeLiteral? phrase).map fun taken => (taken.1, Phrase.outline taken.2) := by
  unfold Phrase.outline
  rcases phrase with _ | ⟨⟨identifier, _⟩ | ⟨character, _⟩ | _ | _ | ⟨_ | _ | _, _⟩, rest⟩ <;>
    try rfl
  · simp only [List.map_cons, TokenTree.hollow, takeLiteral?]
    split <;> rfl
  · rcases rest with _ | ⟨_ | _ | text | _ | ⟨_ | _ | _, _⟩, rest⟩ <;>
      by_cases minus : character = '-' <;> simp [minus, takeLiteral?, TokenTree.hollow]

instance : OfOutline startsWithLiteral := by
  refine ⟨fun phrase => ?_⟩
  unfold startsWithLiteral
  rw [takeLiteral?_outline, Option.isSome_map]

instance : OfOutline startsWithColons :=
  inferInstanceAs (OfOutline (startsWithOperator "::"))

/-! ### Two readers in step -/

section

variable {α β : Type} {rest other : Phrase}

/-- **The readers go in step**: they move forward, and what the one takes in front of the rest, the
other takes in front of the other rest, with the same result. -/
class InStep (rest other : Phrase) (reader image : Reader α) : Prop where
  forward : IsForward reader
  takes {phrase more : Phrase} {result : α} :
    Takes reader phrase (more ++ rest) result → Takes image phrase (more ++ other) result

/-- What is taken in front of a rest is taken in front of every rest of the same outline, if the
reader goes in step with itself. -/
theorem Takes.of_outline {reader : Reader α} [inStep : InStep rest other reader reader]
    {phrase : Phrase} {result : α} (taken : Takes reader phrase rest result) :
    Takes reader phrase other result :=
  @inStep.takes phrase [] result taken

variable {reader image : Reader α} {next after : α → Reader β}

instance inStep_bind [first : InStep rest other reader image]
    [others : ∀ x, InStep rest other (next x) (after x)] :
    InStep rest other (reader >>= next) (image >>= after) where
  forward :=
    have := first.forward
    .bind fun x => (others x).forward
  takes taken := by
    have := first.forward
    have := fun x => (others x).forward
    -- The first reader ends in front of the rest, since the second one only goes further.
    obtain ⟨_, _, result, rfl, before, behind⟩ := taken.of_bind
    rw [← List.append_assoc] at before
    have before := first.takes before
    rw [List.append_assoc] at before
    exact before.bind ((others result).takes behind)

theorem InStep.bind [InStep rest other reader image]
    (others : ∀ x, InStep rest other (next x) (after x)) :
    InStep rest other (reader >>= next) (image >>= after) :=
  inferInstance

instance inStep_pure {result answer : α} [same : Agree result answer] :
    InStep rest other (pure result) (pure answer) where
  forward := inferInstance
  takes taken := by
    obtain ⟨rfl, rfl⟩ := taken.of_pure
    rw [same.eq]
    exact .pure answer _

instance inStep_fail : InStep rest other (fail : Reader α) (fail : Reader α) where
  forward := inferInstance
  takes taken := absurd taken not_takes_fail

/-- What would follow a failure does not matter. -/
instance inStep_fail_bind : InStep rest other (fail >>= next) (fail >>= after) where
  forward := inferInstance
  takes {phrase more result} taken := by
    have failed : Takes (fail : Reader β) phrase (more ++ rest) result := taken
    exact absurd failed not_takes_fail

instance inStep_map {function : α → β} [InStep rest other reader image] :
    InStep rest other (function <$> reader) (function <$> image) := by
  rw [map_eq_pure_bind, map_eq_pure_bind]
  infer_instance

section

variable {second secondImage : Reader α}

instance inStep_ite {condition : Prop} [Decidable condition] [InStep rest other reader image]
    [InStep rest other second secondImage] :
    InStep rest other (if condition then reader else second)
      (if condition then image else secondImage) := by
  split <;> infer_instance

/-- Upon the same answer both readers go on. -/
instance inStep_answer {asked answered : Bool} [same : Agree asked answered]
    [InStep rest other reader image] [InStep rest other second secondImage] :
    InStep rest other (if asked then reader else second)
      (if answered then image else secondImage) := by
  rw [same.eq]
  infer_instance

end

/-- Both pass over the first tree. -/
theorem InStep.pass {next after : Reader α} (inStep : InStep rest other next after)
    {tree : TokenTree} {phrase more behind last : Phrase} {result : α}
    (stands : phrase ++ (more ++ rest) = tree :: behind)
    (alike : phrase ++ (more ++ other) = tree :: last)
    (taken : Takes (do moveTo behind; next) phrase (more ++ rest) result) :
    Takes (do moveTo last; after) phrase (more ++ other) result := by
  have ran : next.run ⟨behind, false⟩ = .ok (result, ⟨more ++ rest, false⟩) := taken
  obtain ⟨front, rfl⟩ := (inStep.forward.forwardFrom _ _ _ ran).trees
  rw [← List.cons_append, List.append_cancel_right_eq] at stands
  subst stands
  obtain rfl : front ++ (more ++ other) = last := (List.cons.inj alike).2
  exact inStep.takes ran

/-! ### Looks ahead -/

section

variable {next after : Phrase → Reader β}

/-- Both look at what follows. -/
theorem InStep.ahead (forward : IsForward (ahead >>= next))
    (others : ∀ front : Phrase, InStep rest other (next (front ++ rest)) (after (front ++ other))) :
    InStep rest other (Grammar.ahead >>= next) (Grammar.ahead >>= after) where
  forward := forward
  takes {phrase more _} taken := by
    have looked := taken.of_look looks_ahead
    rw [id, ← List.append_assoc] at looked
    have goesOn := (others (phrase ++ more)).takes looked
    exact .look looks_ahead (List.append_assoc ..).symm goesOn

instance inStep_ahead [IsForward (ahead >>= next)]
    [others : ∀ front : Phrase, InStep rest other (next (front ++ rest)) (after (front ++ other))] :
    InStep rest other (ahead >>= next) (ahead >>= after) :=
  .ahead inferInstance others

end

/-- What has been read since a place is the same for both. -/
instance inStep_since (front : Phrase) :
    InStep rest other (since (front ++ rest)) (since (front ++ other)) where
  forward := inferInstance
  takes {_ more _} taken := by
    have looked := Takes.of_look looks_ahead taken
    obtain ⟨rfl, rfl⟩ := looked.of_pure
    have same (behind : Phrase) :
        (front ++ behind).take ((front ++ behind).length - ([] ++ (more ++ behind)).length) =
          front.take (front.length - more.length) := by
      rw [List.nil_append, List.length_append, List.length_append, Nat.add_sub_add_right]
      exact List.take_append_of_le_length (Nat.sub_le _ _)
    refine .look looks_ahead rfl ?_
    rw [id, id, same rest, ← same other]
    exact .pure _ _

section

variable [SameOutline rest other]

instance {test : Phrase → Bool} [OfOutline test] :
    InStep rest other (peek test) (peek test) := by
  unfold peek
  infer_instance

instance {test : Phrase → Bool} [OfOutline test] :
    InStep rest other (peekSecond test) (peekSecond test) := by
  unfold peekSecond
  infer_instance

instance : InStep rest other atEnd atEnd := by
  unfold atEnd
  infer_instance

end

end

/-! ### Tokens -/

section

variable {rest other : Phrase} [same : SameOutline rest other]

/-- To pass over trees as far as a rest is to pass as many as far as another rest. -/
theorem drop_eq_of_drop_eq {phrase first second : Phrase} (same : first.length = second.length)
    {count : Nat} (passed : (phrase ++ first).drop count = first) :
    (phrase ++ second).drop count = second := by
  have lengths := congrArg List.length passed
  rw [List.length_drop, List.length_append] at lengths
  by_cases all : count = phrase.length
  · rw [all, List.drop_left]
  · have ended : second.length = 0 := by omega
    obtain rfl := List.length_eq_zero_iff.mp ended
    rw [List.append_nil, List.drop_eq_nil_iff]
    omega

instance (text : String) : InStep rest other (operator text) (operator text) where
  forward := inferInstance
  takes {phrase more _} taken := by
    have looked := Takes.of_look looks_ahead taken
    rw [id] at looked
    split at looked
    · next starts =>
      obtain ⟨passed, rfl⟩ := looked.of_moveTo
      have passed : (phrase ++ (more ++ other)).drop text.length = more ++ other := by
        refine drop_eq_of_drop_eq ?_ passed
        rw [List.length_append, List.length_append, same.length_eq]
      have starts : startsWithOperator text (phrase ++ (more ++ other)) = true :=
        Agree.eq.symm.trans starts
      refine .look looks_ahead rfl ?_
      rw [id, if_pos starts, passed]
      rfl
    · exact absurd looked not_takes_fail

instance (text : String) : InStep rest other (word text) (word text) where
  forward := inferInstance
  takes taken := by
    obtain ⟨captured, rfl, rfl⟩ := taken.of_word
    exact takes_word text captured _

instance : InStep rest other anyIdent anyIdent where
  forward := inferInstance
  takes taken := by
    obtain ⟨captured, rfl⟩ := taken.of_anyIdent
    exact takes_anyIdent _ captured _

instance : InStep rest other name name := by
  unfold name
  infer_instance

instance : InStep rest other lifetime lifetime where
  forward := inferInstance
  takes taken := by
    obtain ⟨identifier, rfl, rfl⟩ := taken.of_lifetime
    rfl

instance : InStep rest other anyGroup anyGroup where
  forward := inferInstance
  takes taken := by
    obtain ⟨delimiter, content, rfl, rfl⟩ := taken.of_anyGroup
    rfl

/-- Both go on by whether a group stands in curly brackets. -/
instance inStep_anyGroup_bind {α : Type}
    {braced bracedImage plain plainImage : TokenTree → Reader α}
    [∀ group, InStep rest other (braced group) (bracedImage group)]
    [∀ group, InStep rest other (plain group) (plainImage group)] :
    InStep rest other
      (do
        let group ← anyGroup
        match group with
        | .group .brace _ => braced group
        | _ => plain group)
      (do
        let group ← anyGroup
        match group with
        | .group .brace _ => bracedImage group
        | _ => plainImage group) :=
  .bind fun group => by split <;> infer_instance

theorem exists_of_takeLiteral? {phrase written behind : Phrase}
    (taken : takeLiteral? phrase = some (written, behind)) :
    ∃ front, phrase = front ++ behind ∧
      ∀ rest, takeLiteral? (front ++ rest) = some (written, rest) := by
  unfold takeLiteral? at taken
  split at taken
  · obtain ⟨⟩ := taken
    exact ⟨[_], rfl, fun _ => rfl⟩
  · split at taken
    · next isNumber =>
      obtain ⟨⟩ := taken
      exact ⟨[_, _], rfl, fun _ => if_pos isNumber⟩
    · cases taken
  · split at taken
    · next isLiteral =>
      obtain ⟨⟩ := taken
      exact ⟨[_], rfl, fun _ => if_pos isLiteral⟩
    · cases taken
  · cases taken

instance : InStep rest other literal literal where
  forward := inferInstance
  takes taken := by
    have looked := Takes.of_look looks_ahead taken
    rw [id] at looked
    split at looked
    · next found =>
      obtain ⟨rfl, rfl⟩ := looked.of_moveTo
      obtain ⟨front, stands, taken⟩ := exists_of_takeLiteral? found
      obtain rfl := List.append_cancel_right stands
      refine .look looks_ahead rfl ?_
      rw [id, taken]
      rfl
    · exact absurd looked not_takes_fail

instance (text : String) : InStep rest other (operator? text) (operator? text) := by
  unfold operator?
  infer_instance

instance (text : String) : InStep rest other (word? text) (word? text) := by
  unfold word?
  infer_instance

instance {test : Phrase → Bool} {reader : Reader Phrase} [OfOutline test]
    [InStep rest other reader reader] :
    InStep rest other (optional test reader) (optional test reader) := by
  unfold optional
  infer_instance

end

/-! ### Groups -/

section

variable {α : Type} {rest other : Phrase} {reader : Reader α} [IsForward reader]

/-- Trees of its own are the same for both. -/
instance (trees : Phrase) : InStep rest other (on trees reader) (on trees reader) where
  forward := inferInstance
  takes {phrase more _} taken := by
    obtain ⟨stays, inside⟩ := of_on_run taken rfl
    obtain rfl : [] = phrase := List.append_cancel_right (Cursor.mk.inj stays).1
    exact on_run inside _

/-- A group that is taken is the same for both. -/
instance (delimiter : Delimiter) :
    InStep rest other (within delimiter reader) (within delimiter reader) where
  forward := inferInstance
  takes taken := by
    obtain ⟨content, rfl, inside⟩ := taken.of_within
    exact inside.within delimiter _

instance (delimiter : Delimiter) {reader : Reader Phrase} [IsForward reader] :
    InStep rest other (grouped delimiter reader) (grouped delimiter reader) := by
  unfold grouped
  infer_instance

end

/-! ### Repetition -/

section

variable {α : Type} {rest other : Phrase} [SameOutline rest other]

instance {step : Reader (Option Phrase)} [InStep rest other step step] {bound image : Nat}
    [same : Agree bound image] :
    InStep rest other (repeatAtMost step bound) (repeatAtMost step image) := by
  obtain rfl := same.eq
  clear same
  induction bound with
  | zero =>
    unfold repeatAtMost
    infer_instance
  | succ bound ih =>
    unfold repeatAtMost
    have others (added : Option Phrase) : InStep rest other
        (match added with
          | none => return []
          | some phrase => return phrase ++ (← repeatAtMost step bound) : Reader Phrase)
        (match added with
          | none => return []
          | some phrase => return phrase ++ (← repeatAtMost step bound)) := by
      cases added <;> infer_instance
    infer_instance

instance {step : Reader (Option Phrase)} [IsForward step] [InStep rest other step step] :
    InStep rest other (repeated step) (repeated step) := by
  unfold repeated
  infer_instance

section

variable {stop goesOn : Phrase → Bool} {separator : Reader Phrase} {item : Reader α}
  [OfOutline stop] [InStep rest other item item]

instance [OfOutline goesOn] [InStep rest other separator separator] {bound image : Nat}
    [same : Agree bound image] :
    InStep rest other (elementsAtMost stop goesOn separator item bound)
      (elementsAtMost stop goesOn separator item image) := by
  obtain rfl := same.eq
  clear same
  induction bound with
  | zero =>
    unfold elementsAtMost
    infer_instance
  | succ bound ih =>
    unfold elementsAtMost
    infer_instance

instance [IsForward item] :
    InStep rest other (commaElements stop item) (commaElements stop item) := by
  unfold commaElements
  infer_instance

end

section

variable {stop : Phrase → Bool} {item : Reader Phrase} [OfOutline stop]
  [IsForward item] [InStep rest other item item]

instance : InStep rest other (commaList stop item) (commaList stop item) := by
  unfold commaList
  infer_instance

instance : InStep rest other (plusList stop item) (plusList stop item) := by
  unfold plusList
  infer_instance

end

end

/-! ### Rules -/

/-- **The rules of a table take the same** in front of rests of one outline. -/
class Rules.AreInStep (rules : Rules) : Prop where
  type (rest other : Phrase) [SameOutline rest other] (allowPlus allowArguments : Bool) :
    InStep rest other (rules.type allowPlus allowArguments) (rules.type allowPlus allowArguments)
  path (rest other : Phrase) [SameOutline rest other] (inExpr : Bool) :
    InStep rest other (rules.path inExpr) (rules.path inExpr)
  expr (rest other : Phrase) [SameOutline rest other] (allowRecord : Bool) :
    InStep rest other (rules.expr allowRecord) (rules.expr allowRecord)
  operand (rest other : Phrase) [SameOutline rest other] (allowRecord : Bool) :
    InStep rest other (rules.operand allowRecord) (rules.operand allowRecord)
  operators (rest other : Phrase) [SameOutline rest other] (allowRecord : Bool)
    (base : Precedence) (left : Expr) :
    InStep rest other (rules.operators allowRecord base left)
      (rules.operators allowRecord base left)
  pattern (rest other : Phrase) [SameOutline rest other] :
    InStep rest other rules.pattern rules.pattern

attribute [instance] Rules.AreInStep.type Rules.AreInStep.path Rules.AreInStep.expr
  Rules.AreInStep.operand Rules.AreInStep.operators Rules.AreInStep.pattern

end Grammar

end KeyedRecord

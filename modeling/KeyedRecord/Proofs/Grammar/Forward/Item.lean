/-
**Items and statements are read forward, and so is everything.**

With the items of implementations and modules and with the statements of blocks, all rules that call
each other move forward if those they call do. A table is extended by one level of nesting at a
time, so the rules of every depth move forward, by induction on the depth.

* `macroCall?_precedes`: the place behind the path of a macro call is further on.
* The last instances: the rules for every phrase move forward.
-/

import KeyedRecord.Proofs.Grammar.Forward.Expr

namespace KeyedRecord.Grammar

-- The text of a long reader is followed to its end.
set_option synthInstance.maxSize 40000

section

variable (rules : Rules) [rules.AreForward]

/-! ### Functions, and the items of an implementation -/

instance : IsForward (receiver rules) := by
  unfold receiver
  dsimp only
  infer_instance

instance : IsForward (functionParameter rules) := by
  unfold functionParameter
  refine .bind fun attributes => .bind fun variadic => ?_
  split
  · infer_instance
  · refine ⟨fun cursor => .attempt_bind ?found ?absent⟩
    case found =>
      intro phrase later forward
      exact .set_bind forward inferInstance
    case absent => exact IsForward.forwardFrom cursor

instance (isFirst : Bool) (bound : Nat) : IsForward (functionParameters rules isFirst bound) := by
  induction bound generalizing isFirst with
  | zero =>
    unfold functionParameters
    infer_instance
  | succ bound ih =>
    unfold functionParameters
    dsimp only
    infer_instance

instance : IsForward (signature rules) := by
  unfold signature
  dsimp only
  infer_instance

instance : IsForward (constantItem rules) := by
  unfold constantItem
  dsimp only
  infer_instance

instance (allowBefore allowBehind : Bool) :
    IsForward (typeAlias rules allowBefore allowBehind) := by
  unfold typeAlias
  dsimp only
  infer_instance

instance : IsForward (implItem rules) := by
  unfold implItem
  dsimp only
  infer_instance

/-! ### Items -/

instance : IsForward (importTree rules) := by
  unfold importTree
  dsimp only
  infer_instance

instance : IsForward (importItem rules) := by
  unfold importItem
  infer_instance

instance : IsForward (namedField rules) := by
  unfold namedField
  dsimp only
  infer_instance

instance : IsForward (placedField rules) := by
  unfold placedField
  infer_instance

instance : IsForward (namedFields rules) := by
  unfold namedFields
  infer_instance

instance : IsForward (placedFields rules) := by
  unfold placedFields
  infer_instance

instance : IsForward (recordItem rules) := by
  unfold recordItem
  dsimp only
  infer_instance

instance : IsForward (variant rules) := by
  unfold variant
  dsimp only
  infer_instance

instance : IsForward (enumerationItem rules) := by
  unfold enumerationItem
  dsimp only
  infer_instance

instance : IsForward (unionItem rules) := by
  unfold unionItem
  dsimp only
  infer_instance

instance {reader : Reader Phrase} [IsForward reader] : IsForward (itemsInBraces rules reader) := by
  unfold itemsInBraces
  infer_instance

instance : IsForward (attributedItem rules) := by
  unfold attributedItem
  infer_instance

instance : IsForward (moduleItem rules) := by
  unfold moduleItem
  dsimp only
  infer_instance

instance : IsForward (declaredFunction rules) := by
  unfold declaredFunction
  infer_instance

instance : IsForward (traitMember rules) := by
  unfold traitMember
  dsimp only
  infer_instance

instance : IsForward (traitItem rules) := by
  unfold traitItem
  dsimp only
  infer_instance

instance : IsForward (implementation rules) := by
  unfold implementation
  dsimp only
  infer_instance

instance (start head : Phrase) : IsForward (foreignStatic rules start head) := by
  unfold foreignStatic
  dsimp only
  infer_instance

instance (start head : Phrase) : IsForward (foreignFunction rules start head) := by
  unfold foreignFunction
  infer_instance

instance : IsForward (foreignMember rules) := by
  unfold foreignMember
  dsimp only
  infer_instance

instance : IsForward (foreignItem rules) := by
  unfold foreignItem
  infer_instance

instance : IsForward libraryItem := by
  unfold libraryItem
  dsimp only
  infer_instance

instance : IsForward (staticItem rules) := by
  unfold staticItem
  infer_instance

instance : IsForward macroItem := by
  unfold macroItem
  dsimp only
  infer_instance

instance : IsForward macroDefinition := by
  unfold macroDefinition
  dsimp only
  infer_instance

instance (start attributes : Phrase) : IsForward (item rules start attributes) := by
  unfold item
  dsimp only
  infer_instance

instance : IsForward (binding rules) := by
  unfold binding
  dsimp only
  infer_instance

/-! ### Statements -/

/-- Behind the path of a macro call is further on. -/
theorem macroCall?_precedes {cursor after : Cursor} {path : Path} {named : Bool}
    (found : macroCall? cursor = some (path, after, named)) : cursor.Precedes after := by
  unfold macroCall? at found
  split at found
  · next ran =>
    have forward : cursor.Precedes _ := IsForward.forwardFrom cursor _ _ ran
    dsimp only at found
    split at found
    · split at found
      · obtain ⟨⟩ := found
        exact forward
      · split at found
        · obtain ⟨⟩ := found
          exact forward
        · cases found
    · cases found
  · cases found

instance : IsForward (statement rules) := by
  unfold statement
  refine .bind fun start => .bind fun attributes => ⟨fun cursor => .get_bind ?_⟩
  dsimp only
  split
  · next found => exact .set_bind (macroCall?_precedes found) inferInstance
  · exact IsForward.forwardFrom cursor

instance (bound : Nat) : IsForward (statementsAtMost rules bound) := by
  induction bound with
  | zero =>
    unfold statementsAtMost
    infer_instance
  | succ bound ih =>
    unfold statementsAtMost
    dsimp only
    infer_instance

instance : IsForward (statements rules) := by
  unfold statements
  infer_instance

end

/-! ### The tables -/

instance : Rules.exhausted.AreForward where
  type _ _ := inferInstanceAs (IsForward fail)
  path _ := inferInstanceAs (IsForward fail)
  expr _ := inferInstanceAs (IsForward fail)
  operand _ := inferInstanceAs (IsForward fail)
  operators _ _ _ := inferInstanceAs (IsForward fail)
  statementExpr := inferInstanceAs (IsForward fail)
  pattern := inferInstanceAs (IsForward fail)
  statements := inferInstanceAs (IsForward fail)
  item _ _ := inferInstanceAs (IsForward fail)
  importTree := inferInstanceAs (IsForward fail)

instance (inner : Rules) [inner.AreForward] : inner.extend.AreForward where
  type allowPlus allowArguments := inferInstanceAs (IsForward (type inner allowPlus allowArguments))
  path inExpr := inferInstanceAs (IsForward (path inner inExpr))
  expr allowRecord := inferInstanceAs (IsForward (expr inner allowRecord))
  operand allowRecord := inferInstanceAs (IsForward (operand inner allowRecord))
  operators allowRecord base left :=
    inferInstanceAs (IsForward (operators inner allowRecord base left))
  statementExpr := inferInstanceAs (IsForward (statementExpr inner))
  pattern := inferInstanceAs (IsForward (pattern inner))
  statements := inferInstanceAs (IsForward (statements inner))
  item start attributes := inferInstanceAs (IsForward (item inner start attributes))
  importTree := inferInstanceAs (IsForward (importTree inner))

instance (depth : Nat) : (Rules.ofDepth depth).AreForward := by
  induction depth with
  | zero => exact inferInstanceAs Rules.exhausted.AreForward
  | succ depth ih => exact inferInstanceAs (Rules.ofDepth depth).extend.AreForward

instance (phrase : Phrase) : (Rules.forPhrase phrase).AreForward :=
  inferInstanceAs (Rules.ofDepth _).AreForward

end KeyedRecord.Grammar

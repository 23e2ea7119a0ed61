/-
**Items take the same in front of rests of one outline, and so do all rules.**

Statements, and the items among them, stand in blocks, so nothing is asked about them here.
-/

import KeyedRecord.Proofs.Grammar.Outline.Expr

namespace KeyedRecord.Grammar

-- The text of a long reader is followed to its end.
set_option synthInstance.maxSize 40000

section

variable {rest other : Phrase} [SameOutline rest other] (rules : Rules) [rules.AreForward]
  [rules.AreInStep]

instance : OfOutline startsSignature := by
  refine ⟨fun phrase => ?_⟩
  unfold startsSignature
  simp only [OfOutline.outline, ← Phrase.outline_drop, ← apply_ite Phrase.outline]

instance : OfOutline endsAliasBounds := by
  unfold endsAliasBounds
  infer_instance

instance : InStep rest other (signature rules) (signature rules) := by
  unfold signature
  dsimp only
  infer_instance

instance : InStep rest other (constantItem rules) (constantItem rules) := by
  unfold constantItem
  dsimp only
  infer_instance

instance (allowBefore allowBehind : Bool) :
    InStep rest other (typeAlias rules allowBefore allowBehind)
      (typeAlias rules allowBefore allowBehind) := by
  unfold typeAlias
  dsimp only
  infer_instance

instance : InStep rest other (implItem rules) (implItem rules) := by
  unfold implItem
  dsimp only
  infer_instance

end

/-! ### The tables -/

instance : Rules.exhausted.AreInStep where
  type _ _ _ _ _ := inStep_fail
  path _ _ _ _ := inStep_fail
  expr _ _ _ _ := inStep_fail
  operand _ _ _ _ := inStep_fail
  operators _ _ _ _ _ _ := inStep_fail
  pattern _ _ _ := inStep_fail

instance (inner : Rules) [inner.AreForward] [inner.AreInStep] : inner.extend.AreInStep where
  type rest other _ allowPlus allowArguments :=
    inferInstanceAs (InStep rest other (type inner allowPlus allowArguments)
      (type inner allowPlus allowArguments))
  path rest other _ inExpr :=
    inferInstanceAs (InStep rest other (path inner inExpr) (path inner inExpr))
  expr rest other _ allowRecord :=
    inferInstanceAs (InStep rest other (expr inner allowRecord) (expr inner allowRecord))
  operand rest other _ allowRecord :=
    inferInstanceAs (InStep rest other (operand inner allowRecord) (operand inner allowRecord))
  operators rest other _ allowRecord base left :=
    inferInstanceAs (InStep rest other (operators inner allowRecord base left)
      (operators inner allowRecord base left))
  pattern rest other _ := inferInstanceAs (InStep rest other (pattern inner) (pattern inner))

instance (depth : Nat) : (Rules.ofDepth depth).AreInStep := by
  induction depth with
  | zero => exact inferInstanceAs Rules.exhausted.AreInStep
  | succ depth ih => exact inferInstanceAs (Rules.ofDepth depth).extend.AreInStep

instance (phrase : Phrase) : (Rules.forPhrase phrase).AreInStep :=
  inferInstanceAs (Rules.ofDepth _).AreInStep

end KeyedRecord.Grammar

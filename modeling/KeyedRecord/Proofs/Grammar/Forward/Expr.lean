/-
**Patterns and expressions are read forward.**

Most readers follow from those they consist of. Where one of them goes on by what another has read,
the cases are told apart here.
-/

import KeyedRecord.Proofs.Grammar.Forward.Type

namespace KeyedRecord.Grammar

-- The text of a long reader is followed to its end.
set_option synthInstance.maxSize 40000

section

variable (rules : Rules) [rules.AreForward]

/-! ### Patterns -/

instance : IsForward member := by
  refine ⟨fun cursor => .ahead_bind ?_⟩
  split
  · next stands =>
    split
    · exact .moveTo_bind (suffix_of_eq_cons stands) inferInstance
    · exact IsForward.forwardFrom cursor
  · exact IsForward.forwardFrom cursor

instance : IsForward (patterns rules) := by
  unfold patterns
  infer_instance

instance : IsForward (rangeBound rules) := by
  unfold rangeBound
  infer_instance

instance (start : Phrase) : IsForward (rangeFrom rules start) := by
  unfold rangeFrom
  refine .bind fun closed => .bind fun dotted => ?_
  dsimp only
  split
  · exact .bind fun dots => .bind fun stop => by cases stop <;> infer_instance
  · split <;> exact .bind fun dots => .bind fun stop => by cases stop <;> infer_instance

instance : IsForward (literalPattern rules) := by
  unfold literalPattern
  exact .bind fun start => by cases start <;> infer_instance

instance : IsForward (fieldPattern rules) := by
  unfold fieldPattern
  dsimp only
  infer_instance

instance (bound : Nat) : IsForward (fieldPatterns rules bound) := by
  induction bound with
  | zero =>
    unfold fieldPatterns
    infer_instance
  | succ bound ih =>
    unfold fieldPatterns
    dsimp only
    infer_instance

instance : IsForward (pathPattern rules) := by
  unfold pathPattern
  infer_instance

instance : IsForward (bindingPattern rules) := by
  unfold bindingPattern
  dsimp only
  infer_instance

instance : IsForward (sliceElement rules) := by
  unfold sliceElement
  exact .bind fun element => by split <;> infer_instance

instance : IsForward (pattern rules) := by
  unfold pattern
  have dots : IsForward (do
      let range ← rangeFrom rules []
      match range.form with
      | .openRange => return ⟨range.phrase, .rest⟩
      | _ => return ⟨range.phrase, .openRange⟩ : Reader Pattern) :=
    .bind fun range => by split <;> infer_instance
  dsimp only
  infer_instance

/-! ### Operators -/

instance (allowRecord : Bool) (precedence : Precedence) (bound : Nat) (operand : Expr) :
    IsForward (rightOperators rules allowRecord precedence bound operand) := by
  induction bound generalizing operand with
  | zero =>
    unfold rightOperators
    infer_instance
  | succ bound ih =>
    unfold rightOperators
    dsimp only
    infer_instance

instance (allowRecord : Bool) (precedence : Precedence) :
    IsForward (rightOperand rules allowRecord precedence) := by
  unfold rightOperand
  infer_instance

instance (allowRecord : Bool) (start : Phrase) : IsForward (rangeExpr rules allowRecord start) := by
  unfold rangeExpr
  dsimp only
  infer_instance

instance (allowRecord : Bool) (base : Precedence) (bound : Nat) (left : Expr) :
    IsForward (operatorsAtMost rules allowRecord base bound left) := by
  induction bound generalizing left with
  | zero =>
    unfold operatorsAtMost
    infer_instance
  | succ bound ih =>
    unfold operatorsAtMost
    refine .bind fun trees => ?_
    dsimp only
    split
    · infer_instance
    · split <;> infer_instance

instance (allowRecord : Bool) (base : Precedence) (left : Expr) :
    IsForward (operators rules allowRecord base left) := by
  unfold operators
  infer_instance

instance (allowRecord : Bool) : IsForward (expr rules allowRecord) := by
  unfold expr
  infer_instance

instance : IsForward (anyExpr rules) := by
  unfold anyExpr
  infer_instance

/-! ### Blocks and control -/

instance : IsForward (block rules) := by
  unfold block
  infer_instance

instance : IsForward (attributedBlock rules) := by
  unfold attributedBlock
  infer_instance

instance (bound : Nat) : IsForward (conditional rules bound) := by
  induction bound with
  | zero =>
    unfold conditional
    infer_instance
  | succ bound ih =>
    unfold conditional
    dsimp only
    infer_instance

instance : IsForward (arm rules) := by
  unfold arm
  dsimp only
  infer_instance

instance : IsForward (matchExpr rules) := by
  unfold matchExpr
  infer_instance

instance : IsForward (loopExpr rules) := by
  unfold loopExpr
  infer_instance

instance : IsForward (labelled rules) := by
  unfold labelled
  infer_instance

instance (allowRecord : Bool) : IsForward (operandIfAny rules allowRecord) := by
  unfold operandIfAny
  infer_instance

instance (allowRecord : Bool) : IsForward (breakExpr rules allowRecord) := by
  unfold breakExpr
  dsimp only
  infer_instance

/-! ### Closures and atoms -/

instance : IsForward (closureParameter rules) := by
  unfold closureParameter
  infer_instance

instance (allowRecord : Bool) : IsForward (closure rules allowRecord) := by
  unfold closure
  dsimp only
  infer_instance

instance : IsForward (recordField rules) := by
  unfold recordField
  dsimp only
  infer_instance

instance (bound : Nat) : IsForward (recordFields rules bound) := by
  induction bound with
  | zero =>
    unfold recordFields
    infer_instance
  | succ bound ih =>
    unfold recordFields
    infer_instance

instance (qualified : QualifiedPath) (allowRecord : Bool) :
    IsForward (afterPath rules qualified allowRecord) := by
  unfold afterPath
  dsimp only
  infer_instance

instance (allowRecord : Bool) : IsForward (capturedAtom rules allowRecord) := by
  unfold capturedAtom
  infer_instance

instance : IsForward (roundAtom rules) := by
  unfold roundAtom
  infer_instance

instance : IsForward (squareAtom rules) := by
  unfold squareAtom
  infer_instance

instance (allowRecord : Bool) : IsForward (atom rules allowRecord) := by
  unfold atom
  dsimp only
  infer_instance

/-! ### Operands -/

instance : IsForward (afterDot rules) := by
  unfold afterDot
  refine ⟨fun cursor => .ahead_bind ?_⟩
  dsimp only
  split
  · next stands =>
    split
    · split
      · exact .moveTo_bind (suffix_of_eq_cons stands) (.bind fun places => by
          split <;> infer_instance)
      · exact IsForward.forwardFrom cursor
    · exact (IsForward.bind fun places => by split <;> infer_instance).forwardFrom cursor
  · exact (IsForward.bind fun places => by split <;> infer_instance).forwardFrom cursor

instance (bound : Nat) (base : Expr) : IsForward (trailersAtMost rules bound base) := by
  induction bound generalizing base with
  | zero =>
    unfold trailersAtMost
    infer_instance
  | succ bound ih =>
    unfold trailersAtMost
    infer_instance

instance (base : Expr) : IsForward (trailers rules base) := by
  unfold trailers
  infer_instance

instance : IsForward (exprAttributes rules) := by
  unfold exprAttributes
  infer_instance

instance (allowRecord : Bool) : IsForward (operand rules allowRecord) := by
  unfold operand
  dsimp only
  infer_instance

instance : IsForward (statementExpr rules) := by
  unfold statementExpr
  dsimp only
  infer_instance

end

end KeyedRecord.Grammar

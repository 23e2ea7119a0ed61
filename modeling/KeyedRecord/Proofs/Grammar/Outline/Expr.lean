/-
**Patterns and expressions take the same in front of rests of one outline.**

Where a reader goes on by what another has read, or by the precedence of the operator that follows,
the cases are told apart here.
-/

import KeyedRecord.Proofs.Grammar.Outline.Type

namespace KeyedRecord.Grammar

-- The text of a long reader is followed to its end.
set_option synthInstance.maxSize 40000

section

variable {rest other : Phrase} [SameOutline rest other]

/-! ### Patterns -/

instance : OfOutline startsWithBar := by
  unfold startsWithBar
  infer_instance

instance : InStep rest other member member where
  forward := inferInstance
  takes {phrase more _} taken := by
    have looked := Takes.of_look looks_ahead taken
    refine .look looks_ahead rfl ?_
    rw [id] at looked ⊢
    have alike : SameOutline (phrase ++ (more ++ rest)) (phrase ++ (more ++ other)) := inferInstance
    split at looked
    case h_1 text behind stands =>
      rw [stands] at alike
      obtain ⟨last, alike⟩ := alike.exists_cons nofun
      rw [alike]
      dsimp only
      split at looked
      · exact InStep.pass inferInstance stands alike looked
      · exact absurd looked not_takes_fail
    case h_2 noPlace =>
      split
      · next stands =>
        rw [stands] at alike
        obtain ⟨behind, stands⟩ := alike.symm.exists_cons nofun
        exact absurd stands (noPlace _ _)
      · exact InStep.takes looked

variable (rules : Rules) [rules.AreForward] [rules.AreInStep]

instance : InStep rest other (patterns rules) (patterns rules) := by
  unfold patterns
  infer_instance

instance : InStep rest other (rangeBound rules) (rangeBound rules) := by
  unfold rangeBound
  infer_instance

instance (start : Phrase) : InStep rest other (rangeFrom rules start) (rangeFrom rules start) := by
  unfold rangeFrom
  refine .bind fun closed => .bind fun dotted => ?_
  dsimp only
  split
  · exact .bind fun dots => .bind fun stop => by cases stop <;> infer_instance
  · split <;> exact .bind fun dots => .bind fun stop => by cases stop <;> infer_instance

instance : InStep rest other (literalPattern rules) (literalPattern rules) := by
  unfold literalPattern
  exact .bind fun start => by cases start <;> infer_instance

instance : InStep rest other (pathPattern rules) (pathPattern rules) := by
  unfold pathPattern
  infer_instance

instance : InStep rest other (bindingPattern rules) (bindingPattern rules) := by
  unfold bindingPattern
  dsimp only
  infer_instance

instance : InStep rest other (pattern rules) (pattern rules) := by
  unfold pattern
  have dots : InStep rest other (do
      let range ← rangeFrom rules []
      match range.form with
      | .openRange => return ⟨range.phrase, .rest⟩
      | _ => return ⟨range.phrase, .openRange⟩ : Reader Pattern) (do
      let range ← rangeFrom rules []
      match range.form with
      | .openRange => return ⟨range.phrase, .rest⟩
      | _ => return ⟨range.phrase, .openRange⟩) :=
    .bind fun range => by split <;> infer_instance
  have forward := dots.forward
  dsimp only
  infer_instance

/-! ### Operators -/

theorem binaryOperator?_outline (phrase : Phrase) :
    binaryOperator? phrase.outline = binaryOperator? phrase := by
  unfold binaryOperator?
  simp only [OfOutline.outline]

instance : OfOutline binaryOperator? :=
  ⟨binaryOperator?_outline⟩

instance : OfOutline startsWithAssignment := by
  unfold startsWithAssignment
  infer_instance

instance : OfOutline nextPrecedence := by
  refine ⟨fun phrase => ?_⟩
  unfold nextPrecedence
  simp only [OfOutline.outline]

instance : OfOutline startsExpr := by
  unfold startsExpr
  infer_instance

instance (allowRecord : Bool) : OfOutline (endsRange allowRecord) := by
  refine ⟨fun phrase => ?_⟩
  unfold endsRange
  simp only [OfOutline.outline]

instance : OfOutline continuesCast := by
  unfold continuesCast
  infer_instance

instance (allowRecord : Bool) (precedence : Precedence) {bound image : Nat}
    [same : Agree bound image] (operand : Expr) :
    InStep rest other (rightOperators rules allowRecord precedence bound operand)
      (rightOperators rules allowRecord precedence image operand) := by
  obtain rfl := same.eq
  clear same
  induction bound generalizing operand with
  | zero =>
    unfold rightOperators
    infer_instance
  | succ bound ih =>
    unfold rightOperators
    refine .ahead inferInstance fun front => ?_
    have same : nextPrecedence (front ++ rest) = nextPrecedence (front ++ other) := Agree.eq
    dsimp only
    rw [same]
    infer_instance

instance (allowRecord : Bool) (precedence : Precedence) :
    InStep rest other (rightOperand rules allowRecord precedence)
      (rightOperand rules allowRecord precedence) := by
  unfold rightOperand
  infer_instance

instance (allowRecord : Bool) (start : Phrase) :
    InStep rest other (rangeExpr rules allowRecord start) (rangeExpr rules allowRecord start) := by
  unfold rangeExpr
  refine .ahead inferInstance fun front => ?_
  have same :
      startsWithOperator "..=" (front ++ rest) = startsWithOperator "..=" (front ++ other) := Agree.eq
  dsimp only
  rw [same]
  infer_instance

instance (allowRecord : Bool) (base : Precedence) {bound image : Nat} [same : Agree bound image]
    (left : Expr) : InStep rest other (operatorsAtMost rules allowRecord base bound left)
      (operatorsAtMost rules allowRecord base image left) := by
  obtain rfl := same.eq
  clear same
  induction bound generalizing left with
  | zero =>
    unfold operatorsAtMost
    infer_instance
  | succ bound ih =>
    have forward : IsForward (operatorsAtMost rules allowRecord base (bound + 1) left) :=
      inferInstance
    unfold operatorsAtMost at forward ⊢
    refine .ahead forward fun front => ?_
    have same : binaryOperator? (front ++ rest) = binaryOperator? (front ++ other) := Agree.eq
    dsimp only
    rw [same]
    split
    · infer_instance
    · split <;> infer_instance

instance (allowRecord : Bool) (base : Precedence) (left : Expr) :
    InStep rest other (operators rules allowRecord base left)
      (operators rules allowRecord base left) := by
  unfold operators
  infer_instance

instance (allowRecord : Bool) :
    InStep rest other (expr rules allowRecord) (expr rules allowRecord) := by
  unfold expr
  infer_instance

instance : InStep rest other (anyExpr rules) (anyExpr rules) := by
  unfold anyExpr
  infer_instance

/-! ### Blocks and control -/

instance : InStep rest other (block rules) (block rules) := by
  unfold block
  infer_instance

instance : InStep rest other (attributedBlock rules) (attributedBlock rules) := by
  unfold attributedBlock
  infer_instance

instance {bound image : Nat} [same : Agree bound image] :
    InStep rest other (conditional rules bound) (conditional rules image) := by
  obtain rfl := same.eq
  clear same
  induction bound with
  | zero =>
    unfold conditional
    infer_instance
  | succ bound ih =>
    unfold conditional
    dsimp only
    infer_instance

instance : InStep rest other (matchExpr rules) (matchExpr rules) := by
  unfold matchExpr
  infer_instance

instance : InStep rest other (loopExpr rules) (loopExpr rules) := by
  unfold loopExpr
  infer_instance

instance : InStep rest other (labelled rules) (labelled rules) := by
  unfold labelled
  infer_instance

instance (allowRecord : Bool) :
    InStep rest other (operandIfAny rules allowRecord) (operandIfAny rules allowRecord) := by
  unfold operandIfAny
  infer_instance

instance (allowRecord : Bool) :
    InStep rest other (breakExpr rules allowRecord) (breakExpr rules allowRecord) := by
  unfold breakExpr
  dsimp only
  infer_instance

/-! ### Closures and atoms -/

instance : InStep rest other (closureParameter rules) (closureParameter rules) := by
  unfold closureParameter
  infer_instance

instance (allowRecord : Bool) :
    InStep rest other (closure rules allowRecord) (closure rules allowRecord) := by
  unfold closure
  dsimp only
  infer_instance

instance (qualified : QualifiedPath) (allowRecord : Bool) :
    InStep rest other (afterPath rules qualified allowRecord)
      (afterPath rules qualified allowRecord) := by
  unfold afterPath
  dsimp only
  infer_instance

instance (allowRecord : Bool) :
    InStep rest other (capturedAtom rules allowRecord) (capturedAtom rules allowRecord) := by
  unfold capturedAtom
  infer_instance

instance : InStep rest other (roundAtom rules) (roundAtom rules) := by
  unfold roundAtom
  infer_instance

instance : InStep rest other (squareAtom rules) (squareAtom rules) := by
  unfold squareAtom
  infer_instance

instance : OfOutline startsClosure := by
  unfold startsClosure
  dsimp only
  infer_instance

instance (allowRecord : Bool) :
    InStep rest other (atom rules allowRecord) (atom rules allowRecord) := by
  unfold atom
  dsimp only
  infer_instance

/-! ### Operands -/

instance : InStep rest other (afterDot rules) (afterDot rules) := by
  have forward : IsForward (afterDot rules) := inferInstance
  unfold afterDot at forward ⊢
  refine ⟨forward, fun {phrase more _} taken => ?_⟩
  have looked := Takes.of_look looks_ahead taken
  refine .look looks_ahead rfl ?_
  rw [id] at looked ⊢
  -- A number that names places is no block, so it stands in front of both rests.
  have alike : SameOutline (phrase ++ (more ++ rest)) (phrase ++ (more ++ other)) := inferInstance
  dsimp only at looked ⊢
  split at looked
  case h_1 text behind stands =>
    rw [stands] at alike
    obtain ⟨last, alike⟩ := alike.exists_cons nofun
    rw [alike]
    dsimp only
    split at looked
    case isTrue isFraction =>
      rw [if_pos isFraction]
      split at looked
      · exact InStep.pass (.bind fun places => by split <;> infer_instance) stands alike looked
      · exact absurd looked not_takes_fail
    case isFalse noFraction =>
      rw [if_neg noFraction]
      exact (InStep.bind fun places => by split <;> infer_instance).takes looked
  case h_2 noPlaces =>
    split
    · next stands =>
      rw [stands] at alike
      obtain ⟨behind, stands⟩ := alike.symm.exists_cons nofun
      exact absurd stands (noPlaces _ _)
    · exact (InStep.bind fun places => by split <;> infer_instance).takes looked

instance {bound image : Nat} [same : Agree bound image] (base : Expr) :
    InStep rest other (trailersAtMost rules bound base) (trailersAtMost rules image base) := by
  obtain rfl := same.eq
  clear same
  induction bound generalizing base with
  | zero =>
    unfold trailersAtMost
    infer_instance
  | succ bound ih =>
    unfold trailersAtMost
    infer_instance

instance (base : Expr) : InStep rest other (trailers rules base) (trailers rules base) := by
  unfold trailers
  infer_instance

instance : InStep rest other (exprAttributes rules) (exprAttributes rules) := by
  unfold exprAttributes
  infer_instance

instance (allowRecord : Bool) :
    InStep rest other (operand rules allowRecord) (operand rules allowRecord) := by
  unfold operand
  dsimp only
  infer_instance

end

end KeyedRecord.Grammar

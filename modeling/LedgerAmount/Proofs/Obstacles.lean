import LedgerAmount.Proofs.DigitLimit

/-!
# Where an evaluation cannot go on

An evaluation of a postfix sequence goes on until an operator has fewer than two operands, a divisor
is zero, or a quotient is too long. All of this is decided by the tokens in front of the operator:
their numbers less their operators are the operands that are left, and the last two trees that they
list have the operands as their values. So an evaluation stops exactly at the first such obstacle.
-/

namespace LedgerAmount

open Token

/-! ## The first position with a property -/

/-- A token of a list, with those in front of it, is the first with a property of both. -/
structure FirstAt (p : List Token → Token → Prop) (tokens before : List Token) (token : Token) :
    Prop where
  split : ∃ after, tokens = before ++ token :: after
  holds : p before token
  earliest : ∀ earlier other between, before = earlier ++ other :: between → ¬p earlier other

namespace FirstAt

variable {p q : List Token → Token → Prop} {tokens before before' : List Token}
  {token token' : Token}

/-- There is only one first position. -/
theorem unique (h : FirstAt p tokens before token) (h' : FirstAt p tokens before' token') :
    before = before' ∧ token = token' := by
  obtain ⟨after, hsplit⟩ := h.split
  obtain ⟨after', hsplit'⟩ := h'.split
  rcases List.append_eq_append_iff.mp (hsplit.symm.trans hsplit') with
    ⟨between, rfl, hbetween⟩ | ⟨between, rfl, hbetween⟩
  all_goals
    cases between with
    | nil => simp_all
    | cons other between =>
      obtain ⟨rfl, -⟩ := List.cons.inj hbetween
      first
      | exact absurd h.holds (h'.earliest _ _ _ rfl)
      | exact absurd h'.holds (h.earliest _ _ _ rfl)

/-- The first position with a weaker property is the first with the stronger one if it has it. -/
theorem of_imp (h : FirstAt q tokens before token) (hp : p before token)
    (himp : ∀ earlier other, p earlier other → q earlier other) : FirstAt p tokens before token :=
  ⟨h.split, hp, fun earlier other between hsplit hother =>
    h.earliest earlier other between hsplit (himp earlier other hother)⟩

end FirstAt

/-! ## Obstacles -/

/-- An operator behind fewer than two operands. -/
def MissesOperand (before : List Token) (token : Token) : Prop :=
  token.kind = .operator ∧ count .number before < count .operator before + 2

/-- Tokens list, at their end, two trees with these values: the operands of what follows them. -/
def HasOperands (rule : DivisionRule) (before : List Token) (a b : Decimal) : Prop :=
  ∃ seen left right, before = seen ++ Tree.postorder left ++ Tree.postorder right ∧
    left.value rule = .ok a ∧ right.value rule = .ok b

/-- A division whose right operand is zero. -/
def DividesByZero (rule : DivisionRule) (before : List Token) (token : Token) : Prop :=
  token = .operator "/" ∧ ∃ a b, HasOperands rule before a b ∧ b.toRat = 0

/-- A division by another number whose quotient is too long. -/
def ExceedsLimit (rule : DivisionRule) (before : List Token) (token : Token) : Prop :=
  token = .operator "/" ∧ ∃ a b, HasOperands rule before a b ∧ b.toRat ≠ 0 ∧ a.TooLong rule b

/-- What keeps an evaluation from taking in a token, by the tokens in front of it. -/
inductive Obstacle (rule : DivisionRule) (before : List Token) (token : Token) : Stop → Prop
  | missingOperand (h : MissesOperand before token) :
      Obstacle rule before token (.rejected (.missingOperand token.text))
  | zeroDivisor (h : DividesByZero rule before token) :
      Obstacle rule before token (.rejected .divisionByZero)
  | longQuotient (h : ExceedsLimit rule before token) :
      Obstacle rule before token (.broken (.arithmetic .digitLimit))

/-- There is some obstacle to taking in a token. -/
def Obstructed (rule : DivisionRule) (before : List Token) (token : Token) : Prop :=
  ∃ stop, Obstacle rule before token stop

/-- Only operators meet obstacles. -/
theorem Obstacle.kind_eq {rule : DivisionRule} {before : List Token} {token : Token} {stop : Stop}
    (h : Obstacle rule before token stop) : token.kind = .operator := by
  cases h with
  | missingOperand hmisses => exact hmisses.1
  | zeroDivisor hzero => rw [hzero.1]; rfl
  | longQuotient hlong => rw [hlong.1]; rfl

variable {settings : EvaluatorSettings}

namespace OperandStack

variable {before ordered : List Token} {stack : OperandStack Decimal} {token : Token} {stop : Stop}

/-- The operands that the tokens list are the latest two on the stack. -/
theorem hasOperands_iff (h : run (.exact settings.rule) [] before = .ok stack) {a b : Decimal} :
    HasOperands settings.rule before a b ↔ ∃ rest, stack = b :: a :: rest := by
  constructor
  · rintro ⟨seen, left, right, rfl, hleft, hright⟩
    simp only [run_append, bind_eq_ok_iff, run_postorder, hleft, hright] at h
    obtain ⟨_, ⟨rest, -, hl⟩, hr⟩ := h
    cases hl
    cases hr
    exact ⟨rest, rfl⟩
  · rintro ⟨rest, rfl⟩
    obtain ⟨trees, hvalues, htokens⟩ := run_builds h ⟨.nil, rfl⟩
    match trees, hvalues with
    | right :: left :: trees, .cons hright (.cons hleft _) =>
      exact ⟨trees.reverse.flatMap Tree.postorder, left, right, by simpa using htokens, hleft,
        hright⟩

/-- The operands that are left are as many as the numbers less the operators. -/
theorem missesOperand_iff (h : run (.exact settings.rule) [] before = .ok stack) :
    MissesOperand before token ↔ token.kind = .operator ∧ stack.length < 2 := by
  have hlength := length_run h
  rw [List.length_nil] at hlength
  exact and_congr_right fun _ => by omega

/-- Obstacles are read off the stack: too few operands for an operator, or operands that cannot be
divided. -/
theorem obstacle_iff (h : run (.exact settings.rule) [] before = .ok stack) :
    Obstacle settings.rule before token stop ↔
      (token.kind = .operator ∧ stack.length < 2) ∧ stop = .rejected (.missingOperand token.text) ∨
      token = .operator "/" ∧ ∃ a b rest, stack = b :: a :: rest ∧
        Operator.divide.apply settings.rule a b = .error stop := by
  simp only [← missesOperand_iff h, Operator.apply_eq_error_iff, true_and]
  constructor
  · rintro (hmisses | ⟨rfl, a, b, hoperands, hzero⟩ | ⟨rfl, a, b, hoperands, hzero, hlong⟩)
    · exact .inl ⟨hmisses, rfl⟩
    · obtain ⟨rest, rfl⟩ := (hasOperands_iff h).mp hoperands
      exact .inr ⟨rfl, a, b, rest, rfl, .inl ⟨hzero, rfl⟩⟩
    · obtain ⟨rest, rfl⟩ := (hasOperands_iff h).mp hoperands
      exact .inr ⟨rfl, a, b, rest, rfl, .inr ⟨hzero, hlong, rfl⟩⟩
  · rintro (⟨hmisses, rfl⟩ | ⟨rfl, a, b, rest, rfl, ⟨hzero, rfl⟩ | ⟨hzero, hlong, rfl⟩⟩)
    · exact .missingOperand hmisses
    · exact .zeroDivisor ⟨rfl, a, b, (hasOperands_iff h).mpr ⟨rest, rfl⟩, hzero⟩
    · exact .longQuotient ⟨rfl, a, b, (hasOperands_iff h).mpr ⟨rest, rfl⟩, hzero, hlong⟩

/-- A number or one of the four operators is taken in unless there is an obstacle to it. -/
theorem step_eq_error_iff (h : run (.exact settings.rule) [] before = .ok stack)
    (htoken : token.IsEvaluable) :
    step (.exact settings.rule) stack token = .error stop ↔
      Obstacle settings.rule before token stop := by
  rw [obstacle_iff h]
  rcases htoken with hkind | ⟨op, rfl⟩
  · cases token with
    | number text value => simp [step]
    | _ => cases hkind
  · rw [operator_eq_divide_iff]
    rcases stack with _ | ⟨right, _ | ⟨left, rest⟩⟩
    · simp [step, text, eq_comm]
    · simp [step, text, eq_comm]
    · have hpure : ∀ value : Decimal,
          (pure (value :: rest) : Except Stop (OperandStack Decimal)) ≠ .error stop := by
        rintro value ⟨⟩
      have hlength : ¬(right :: left :: rest).length < 2 := by simp
      simp only [step, apply_symbol, bind_eq_error_iff, Operator.apply_eq_error_iff, hpure, hlength]
      simp

/-- An evaluation that goes through meets no obstacle. -/
theorem not_obstacle_of_run {after : List Token} (htoken : token.IsEvaluable)
    (h : run (.exact settings.rule) [] (before ++ token :: after) = .ok stack) :
    ¬Obstacle settings.rule before token stop := by
  intro hobstacle
  rw [run_append, bind_eq_ok_iff] at h
  obtain ⟨reached, hreached, hrest⟩ := h
  obtain ⟨next, hnext, -⟩ := run_cons_eq_ok_iff.mp hrest
  have hstep := (step_eq_error_iff hreached htoken).mpr hobstacle
  rw [step_eq_ok_iff.mpr hnext] at hstep
  cases hstep

/-- An evaluation that stops does so at the first obstacle. -/
theorem exists_firstAt_of_run (hordered : ∀ t ∈ ordered, t.IsEvaluable)
    (h : run (.exact settings.rule) [] ordered = .error stop) :
    ∃ before token, FirstAt (Obstructed settings.rule) ordered before token ∧
      Obstacle settings.rule before token stop := by
  obtain ⟨before, token, after, reached, rfl, hrun, hstep⟩ := foldlM_eq_error_iff.mp h
  have hobstacle := (step_eq_error_iff hrun (hordered token (by simp))).mp hstep
  refine ⟨before, token, ⟨⟨after, rfl⟩, ⟨stop, hobstacle⟩, ?_⟩, hobstacle⟩
  rintro earlier other between rfl ⟨early, hearly⟩
  exact not_obstacle_of_run (hordered other (by simp)) hrun hearly

/-- An evaluation goes through exactly if there is no obstacle. -/
theorem exists_run_iff (hordered : ∀ t ∈ ordered, t.IsEvaluable) :
    (∃ stack, run (.exact settings.rule) [] ordered = .ok stack) ↔
      ∀ before token, ¬FirstAt (Obstructed settings.rule) ordered before token := by
  constructor
  · rintro ⟨stack, hrun⟩ before token ⟨⟨after, rfl⟩, ⟨stop, hobstacle⟩, -⟩
    exact not_obstacle_of_run (hordered token (by simp)) hrun hobstacle
  · intro hnone
    cases hrun : run (.exact settings.rule) [] ordered with
    | ok stack => exact ⟨stack, rfl⟩
    | error stop =>
      obtain ⟨before, token, hfirst, -⟩ := exists_firstAt_of_run hordered hrun
      exact absurd hfirst (hnone before token)

/-- An evaluation stops exactly at the first obstacle. -/
theorem run_eq_error_iff (hordered : ∀ t ∈ ordered, t.IsEvaluable) :
    run (.exact settings.rule) [] ordered = .error stop ↔
      ∃ before token, FirstAt (Obstructed settings.rule) ordered before token ∧
        Obstacle settings.rule before token stop := by
  refine ⟨exists_firstAt_of_run hordered, ?_⟩
  rintro ⟨before, token, ⟨⟨after, rfl⟩, -, hearliest⟩, hobstacle⟩
  cases hrun : run (.exact settings.rule) [] before with
  | error early =>
    -- an evaluation that does not get as far has met an obstacle before
    obtain ⟨earlier, other, ⟨⟨between, hsplit⟩, hearly, -⟩, -⟩ :=
      exists_firstAt_of_run (fun t ht => hordered t (by simp [ht])) hrun
    exact absurd hearly (hearliest earlier other between hsplit)
  | ok stack =>
    have hstep : step (.exact settings.rule) stack token = .error stop :=
      (step_eq_error_iff hrun (hordered token (by simp))).mpr hobstacle
    exact foldlM_eq_error_iff.mpr ⟨before, token, after, stack, rfl, hrun, hstep⟩

end OperandStack

end LedgerAmount

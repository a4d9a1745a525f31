import LedgerAmount.Proofs.Acceptance
import LedgerAmount.Proofs.Lexemes

/-!
# What breaks off an evaluation

Of all that can break off an evaluation, a text and valid settings leave one thing: a quotient that
has too many digits where it is cut off. Whether a text comes to such a quotient is decided by the
operands that are on the stack at its divisions.
-/

namespace LedgerAmount

open Token

variable {settings : EvaluatorSettings}

/-! ## Quotients -/

/-- The cut quotient of two numbers has more digits than the limit. -/
def Decimal.TooLong (rule : DivisionRule) (a b : Decimal) : Prop :=
  powerOfTen digitLimit ≤ a.cutQuotient b rule.scale

/-- A cut quotient has one digit more than the whole part it is cut to. -/
theorem Decimal.tooLong_iff {rule : DivisionRule} {a b : Decimal} (hb : b.isZero = false) :
    TooLong rule a b ↔ powerOfTen (digitLimit - 1) * (a.scaledFraction b rule.scale).2 ≤
      (a.scaledFraction b rule.scale).1 := by
  have hpos : 0 < (a.scaledFraction b rule.scale).2 := scaledFraction_snd_pos hb rule.scale
  have hsucc : ∀ n, 0 < n → powerOfTen n = powerOfTen (n - 1) * 10 := by
    intro n hn
    rw [← powerOfTen_succ, Nat.sub_add_cancel hn]
  rw [TooLong, cutQuotient_eq, hsucc digitLimit (by decide), ← Nat.le_div_iff_mul_le hpos]
  generalize powerOfTen (digitLimit - 1) = bound
  split <;> omega

/-- Under valid settings a division fails by a zero divisor or by too long a quotient. -/
theorem Decimal.divide_eq_error_iff {a b : Decimal} {fault : ArithmeticFault} :
    a.divide settings.rule b = .error fault ↔ b.isZero = true ∧ fault = .zeroDivisor ∨
      b.isZero = false ∧ TooLong settings.rule a b ∧ fault = .digitLimit := by
  have hmode : RoundingMode.ofName? settings.rule.rounding = some settings.rounding :=
    RoundingMode.ofName?_name _
  by_cases hzero : b.isZero = true
  · simp [divide, hzero, eq_comm]
  · rw [divide, if_neg hzero, hmode]
    split
    next h =>
      have hlong : TooLong settings.rule a b := h
      simp [hzero, hlong, eq_comm]
    next h =>
      have hlong : ¬TooLong settings.rule a b := h
      simp [hzero, hlong]

/-- An operation stops at a zero divisor or at a quotient that is too long. -/
theorem Operator.apply_eq_error_iff {op : Operator} {a b : Decimal} {stop : Stop} :
    op.apply settings.rule a b = .error stop ↔ op = .divide ∧
      (b.toRat = 0 ∧ stop = .rejected .divisionByZero ∨
        b.toRat ≠ 0 ∧ a.TooLong settings.rule b ∧ stop = .broken (.arithmetic .digitLimit)) := by
  cases op with
  | divide =>
    simp only [Ne, ← Decimal.isZero_iff, apply]
    cases hzero : b.isZero with
    | true => simp [eq_comm]
    | false =>
      rw [if_neg (by simp), Stop.ofArithmetic, mapError_eq_error_iff]
      simp only [Decimal.divide_eq_error_iff, hzero]
      simp [eq_comm]
  | _ => simp [apply]

/-- Only a quotient that is too long breaks off an operation. -/
theorem Operator.apply_eq_broken_iff {op : Operator} {a b : Decimal} {defect : Defect} :
    op.apply settings.rule a b = .error (.broken defect) ↔ op = .divide ∧ b.isZero = false ∧
      a.TooLong settings.rule b ∧ defect = .arithmetic .digitLimit := by
  simp [apply_eq_error_iff, ← Decimal.isZero_iff]

/-! ## Postfix sequences -/

/-- An evaluation of a postfix sequence comes to a division by a number other than zero whose
quotient is too long. -/
def LongQuotient (rule : DivisionRule) (ordered : List Token) : Prop :=
  ∃ before after right left rest, ordered = before ++ .operator "/" :: after ∧
    OperandStack.run (.exact rule) [] before = .ok (right :: left :: rest) ∧
    right.isZero = false ∧ left.TooLong rule right

namespace OperandStack

/-- A number or one of the four operators breaks off an evaluation only as a division whose quotient
is too long. -/
theorem step_eq_broken_iff {stack : OperandStack Decimal} {token : Token} {defect : Defect}
    (htoken : token.IsEvaluable) :
    step (.exact settings.rule) stack token = .error (.broken defect) ↔
      defect = .arithmetic .digitLimit ∧ ∃ right left rest, token = .operator "/" ∧
        stack = right :: left :: rest ∧ right.isZero = false ∧
        left.TooLong settings.rule right := by
  rcases htoken with hkind | ⟨op, rfl⟩
  · cases token with
    | number text value => simp [step]
    | _ => cases hkind
  · rcases stack with _ | ⟨right, _ | ⟨left, rest⟩⟩
    · simp [step]
    · simp [step]
    · simp only [step, apply_symbol, bind_eq_error_iff, Operator.apply_eq_broken_iff,
        operator_eq_divide_iff]
      constructor
      · intro h
        rcases h with ⟨rfl, hzero, hlong, rfl⟩ | ⟨_, _, h⟩
        · exact ⟨rfl, right, left, rest, rfl, rfl, hzero, hlong⟩
        · cases h
      · intro h
        obtain ⟨rfl, _, _, _, rfl, ⟨⟩, hzero, hlong⟩ := h
        exact .inl ⟨rfl, hzero, hlong, rfl⟩

/-- Evaluating numbers and operators is broken off exactly where a quotient is too long. -/
theorem evaluatePostfix_eq_broken_iff {ordered : List Token} {defect : Defect}
    (hordered : ∀ t ∈ ordered, t.IsEvaluable) :
    evaluatePostfix (.exact settings.rule) ordered = .error (.broken defect) ↔
      defect = .arithmetic .digitLimit ∧ LongQuotient settings.rule ordered := by
  have hresult : ∀ stack : OperandStack Decimal,
      stack.result.mapError Stop.rejected ≠ .error (.broken defect) := by
    intro stack h
    obtain ⟨why, -, hwhy⟩ := mapError_eq_error_iff.mp h
    cases hwhy
  simp only [evaluatePostfix, bind_eq_error_iff, foldlM_eq_error_iff, hresult, and_false,
    exists_false, or_false]
  constructor
  · intro h
    obtain ⟨before, token, after, stack, rfl, hrun, hstep⟩ := h
    rw [step_eq_broken_iff (hordered token (by simp))] at hstep
    obtain ⟨rfl, right, left, rest, rfl, rfl, hzero, hlong⟩ := hstep
    exact ⟨rfl, before, after, right, left, rest, rfl, hrun, hzero, hlong⟩
  · intro h
    obtain ⟨rfl, before, after, right, left, rest, rfl, hrun, hzero, hlong⟩ := h
    refine ⟨before, _, after, _, rfl, hrun, ?_⟩
    rw [step_eq_broken_iff (hordered _ (by simp))]
    exact ⟨rfl, right, left, rest, rfl, rfl, hzero, hlong⟩

end OperandStack

/-! ## Texts -/

/-- A text comes to a quotient that is too long. -/
def ComesToLongQuotient (rule : DivisionRule) (text : String) : Prop :=
  ∃ tokens ordered, tokenize text = .ok tokens ∧ toPostfix tokens = .ok ordered ∧
    LongQuotient rule ordered

/-- Only a division comes to a quotient. -/
theorem ComesToLongQuotient.slash_mem {rule : DivisionRule} {text : String}
    (h : ComesToLongQuotient rule text) : '/' ∈ text.toList := by
  obtain ⟨tokens, ordered, ht, ho, before, after, _, _, _, rfl, -⟩ := h
  have hmem : .operator Operator.divide.symbol ∈ tokens :=
    (Reordering.reordered_of_toPostfix ho).subset _ (by simp [Operator.symbol, Operator.char])
  exact char_mem_of_tokenize ht hmem

/-- Evaluating a text under valid settings is broken off exactly if it comes to a quotient that is
too long, and by nothing else. -/
theorem evaluateText_eq_broken_iff {text : String} {defect : Defect} :
    evaluateText settings.rule text = .error (.broken defect) ↔
      defect = .arithmetic .digitLimit ∧ ComesToLongQuotient settings.rule text := by
  have hbroken : ∀ {tokens ordered : List Token}, tokenize text = .ok tokens →
      toPostfix tokens = .ok ordered →
      (evaluatePostfix (.exact settings.rule) ordered = .error (.broken defect) ↔
        defect = .arithmetic .digitLimit ∧ LongQuotient settings.rule ordered) := by
    intro tokens ordered ht ho
    exact OperandStack.evaluatePostfix_eq_broken_iff (Reordering.isEvaluable_of_tokenize ht ho)
  constructor
  · intro h
    rw [evaluateText, bind_eq_error_iff] at h
    rcases h with h | ⟨tokens, ht, h⟩
    · obtain ⟨why, -, hwhy⟩ := mapError_eq_error_iff.mp h
      cases hwhy
    · rw [mapError_eq_ok_iff] at ht
      rcases bind_eq_error_iff.mp h with h | ⟨ordered, ho, h⟩
      · exact absurd h (Reordering.toPostfix_ne_broken (isTyped_of_tokenize ht) defect)
      · obtain ⟨hdefect, hlong⟩ := (hbroken ht ho).mp h
        exact ⟨hdefect, tokens, ordered, ht, ho, hlong⟩
  · intro h
    obtain ⟨hdefect, tokens, ordered, ht, ho, hlong⟩ := h
    rw [evaluateText_eq ht, evaluateTokens, ho]
    exact (hbroken ht ho).mpr ⟨hdefect, hlong⟩

/-! ## A text with a long quotient -/

/-- The digits of a power of ten. -/
theorem ofDigits_powerOfTen (zeros : Nat) :
    ofDigits ('1' :: List.replicate zeros '0') = powerOfTen zeros := by
  induction zeros with
  | zero => rfl
  | succ zeros ih =>
    rw [List.replicate_succ', ← List.cons_append, ofDigits_append_singleton, ih, powerOfTen_succ]
    simp [Nat.mul_comm]

/-- The tokens of two rows of digits around an operator. -/
theorem tokenize_digits_operator (op : Operator) {lefts rights : List Char}
    (hl : ∀ c ∈ lefts, c.isDigit = true) (hr : ∀ c ∈ rights, c.isDigit = true)
    (hl' : lefts ≠ []) (hr' : rights ≠ []) :
    tokenize (String.ofList (lefts ++ op.char :: rights)) = .ok [
      .number (String.ofList lefts) ⟨false, ofDigits lefts, 0⟩, .operator op.symbol,
      .number (String.ofList rights) ⟨false, ofDigits rights, 0⟩] := by
  have hnumber : ∀ {cs : List Char}, (∀ c ∈ cs, c.isDigit = true) → cs ≠ [] →
      (Token.number (String.ofList cs) ⟨false, ofDigits cs, 0⟩).IsTyped := by
    intro cs hcs hne
    exact Token.isTyped_number_iff.mpr (Decimal.ofLiteral?_of_digits hcs hne)
  rw [tokenize_eq_ok_iff, lexemes_digits_operator op hl hr hl' hr']
  refine ⟨rfl, ?_⟩
  simp [hnumber hl hl', hnumber hr hr', Token.isTyped_operator op]

/-- A power of ten with as many digits as the limit is too long already where it is divided by one,
to any scale. -/
theorem Decimal.tooLong_powerOfTen (rule : DivisionRule) {zeros : Nat}
    (h : digitLimit ≤ zeros + 1) : TooLong rule ⟨false, powerOfTen zeros, 0⟩ ⟨false, 1, 0⟩ := by
  have hexponents : ((0 : Int) - 0 + (rule.scale + 1)).toNat = rule.scale + 1 ∧
      (-((0 : Int) - 0 + (rule.scale + 1))).toNat = 0 := by omega
  rw [tooLong_iff rfl]
  simp only [scaledFraction, hexponents, powerOfTen_zero, Nat.mul_one]
  calc
    powerOfTen (digitLimit - 1) ≤ powerOfTen zeros := powerOfTen_le (by omega)
    _ ≤ powerOfTen zeros * powerOfTen (rule.scale + 1) :=
      Nat.le_mul_of_pos_right _ (powerOfTen_pos _)

/-- The text of such a division comes to a long quotient. -/
theorem comesToLongQuotient_powerOfTen (rule : DivisionRule) {zeros : Nat}
    (h : digitLimit ≤ zeros + 1) :
    ComesToLongQuotient rule (String.ofList ('1' :: List.replicate zeros '0' ++ '/' :: ['1'])) := by
  have hl : ∀ c ∈ '1' :: List.replicate zeros '0', c.isDigit = true := by
    intro c hc
    rcases List.mem_cons.mp hc with rfl | hc
    · decide
    · rw [List.eq_of_mem_replicate hc]
      decide
  have hr : ∀ c ∈ ['1'], c.isDigit = true := List.forall_mem_singleton.mpr (by decide)
  have ht := tokenize_digits_operator .divide hl hr (by simp) (by simp)
  rw [ofDigits_powerOfTen] at ht
  exact ⟨_, _, ht, rfl, [_, _], [], _, _, [], rfl, rfl, rfl, Decimal.tooLong_powerOfTen rule h⟩

end LedgerAmount

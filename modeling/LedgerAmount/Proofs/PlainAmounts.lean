import LedgerAmount.Expression.Amount
import LedgerAmount.Proofs.Lexemes
import LedgerAmount.Proofs.Verdict

/-!
# Plain amounts

An amount without operators is not evaluated: what is left of it between blanks has to be one
literal. This reader and evaluation name the same lexeme where one means nothing, and read the same
number where there is nothing but a literal. They differ in what they make of parentheses: only
evaluation looks into them.
-/

namespace LedgerAmount

open Token

variable {settings : EvaluatorSettings} {rule : DivisionRule} {text lexeme : String}
  {value : Decimal}

/-- A text with an operator in it, be it only the sign of a number. -/
def HoldsOperator (text : String) : Prop := ∃ op : Operator, op.char ∈ text.toList

theorem looksLikeExpression_iff : looksLikeExpression text = true ↔ HoldsOperator text := by
  simp only [looksLikeExpression, List.any_eq_true, isOperatorChar_iff, HoldsOperator]
  constructor
  · rintro ⟨c, hc, op, rfl⟩
    exact ⟨op, hc⟩
  · rintro ⟨op, hop⟩
    exact ⟨op.char, hop, op, rfl⟩

/-- One number in parentheses that pair up, at least two of them. -/
structure Token.IsNumberInParens (tokens : List Token) : Prop where
  number : count .number tokens = 1
  operator : count .operator tokens = 0
  opened : 0 < count .leftParen tokens
  balanced : Balanced tokens

/-- How the amount follows from the lexemes of a text without operators, and what evaluation makes
of them. -/
structure PlainAgreement (text : String) (evaluated amount : Outcome) : Prop where
  unknown : (∃ lexeme ∈ lexemes text, ¬IsMeaningful lexeme) →
    ∃ why, evaluated.answer = .error why ∧ amount.answer = .error why
  blank : lexemes text = [] → evaluated.kind? = some .malformedExpression ∧
    amount.kind? = some .malformedExpression
  literal : ∀ lexeme, lexemes text = [lexeme] → Decimal.IsLiteral lexeme.toList →
    ∃ value, Decimal.ofLiteral? lexeme = some value ∧ evaluated.answer = .ok value ∧
      amount.answer = .ok value
  other : (∀ lexeme ∈ lexemes text, IsMeaningful lexeme) → lexemes text ≠ [] →
    (∀ lexeme, lexemes text = [lexeme] → ¬Decimal.IsLiteral lexeme.toList) →
    amount.kind? = some .unknownSymbol ∧
      amount.symbol? = some (String.ofList (Text.strip text.toList))

/-- How the amount that a text is read as and the outcome of evaluating it agree. -/
structure Agreement (text : String) (evaluated amount : Outcome) : Prop where
  expression : HoldsOperator text → amount.answer = evaluated.answer
  plain : ¬HoldsOperator text → PlainAgreement text evaluated amount
  sound : ∀ value, amount.answer = .ok value → evaluated.answer = .ok value
  gap : (∃ value, evaluated.answer = .ok value) ∧ (∃ why, amount.answer = .error why) ↔
    ¬HoldsOperator text ∧ ∃ tokens, tokenize text = .ok tokens ∧ IsNumberInParens tokens

/-! ## Literals as lexemes -/

/-- A literal without a sign is a run of characters that are neither blank nor delimiters. -/
theorem Decimal.IsLiteral.run {cs : List Char} (h : IsLiteral cs)
    (hop : ∀ op : Operator, op.char ∉ cs) :
    cs ≠ [] ∧ ∀ c ∈ cs, Text.isBlank c = false ∧ isDelimiter c = false := by
  cases h with
  | plus digits => exact absurd List.mem_cons_self (hop .plus)
  | minus digits => exact absurd List.mem_cons_self (hop .minus)
  | unsigned digits =>
    refine ⟨digits.ne_nil, fun c hc => ?_⟩
    rcases digits.isDigit_or_point c hc with hdigit | rfl
    · exact not_blank_of_isDigit hdigit
    · decide

/-- What is left of a text between blanks has the lexemes of the text. -/
theorem lexemes_strip (text : String) :
    lexemes (String.ofList (Text.strip text.toList)) = lexemes text := by
  rw [lexemes, String.toList_ofList, lexemeChars_strip, lexemes]

theorem tokenize_strip (text : String) :
    tokenize (String.ofList (Text.strip text.toList)) = tokenize text := by
  rw [tokenize, lexemes_strip, tokenize]

/-- A literal is the only lexeme of a text without operators exactly if it is what is left of the
text between blanks. -/
theorem lexemes_eq_singleton_iff (hop : ¬HoldsOperator text)
    (hl : Decimal.IsLiteral lexeme.toList) :
    lexemes text = [lexeme] ↔ String.ofList (Text.strip text.toList) = lexeme := by
  constructor
  · intro h
    have hlexeme : ∀ op : Operator, op.char ∉ lexeme.toList := fun op hmem =>
      hop ⟨op, mem_of_mem_lexemes (by simp [h]) hmem⟩
    obtain ⟨cs, hcs, hstring⟩ := List.map_eq_singleton_iff.mp h
    subst hstring
    rw [String.toList_ofList] at hl hlexeme
    have hstrip : lexemeChars (Text.strip text.toList) = [cs] := by rw [lexemeChars_strip, hcs]
    rw [eq_of_lexemeChars_eq_singleton (Text.strip_strip _) hstrip
      fun c hc => ((hl.run hlexeme).2 c hc).2]
  · rintro rfl
    rw [String.toList_ofList] at hl
    have hstrip : ∀ op : Operator, op.char ∉ Text.strip text.toList := fun op hmem =>
      hop ⟨op, Text.mem_of_mem_strip hmem⟩
    obtain ⟨hne, hrun⟩ := hl.run hstrip
    rw [← lexemes_strip, lexemes, String.toList_ofList, lexemeChars_of_run hrun hne,
      List.map_singleton]

/-! ## Reading without evaluating -/

/-- Nothing is entered exactly if the text has no lexemes. -/
theorem isEmpty_strip_iff :
    (String.ofList (Text.strip text.toList)).isEmpty = true ↔ lexemes text = [] := by
  rw [lexemes, List.map_eq_nil_iff, lexemeChars_eq_nil_iff, ← Text.strip_eq_nil_iff]
  simp

theorem plainAmount_of_blank (h : lexemes text = []) : plainAmount text = .error .noAmount := by
  rw [plainAmount]
  exact if_pos (isEmpty_strip_iff.mpr h)

/-- A text without operators is read as the literal that is its only lexeme. -/
theorem plainAmount_of_literal (hop : ¬HoldsOperator text) (h : lexemes text = [lexeme])
    (hvalue : Decimal.ofLiteral? lexeme = some value) : plainAmount text = .ok value := by
  have hliteral := Decimal.exists_ofLiteral?_iff.mp ⟨value, hvalue⟩
  have hempty : ¬(String.ofList (Text.strip text.toList)).isEmpty = true := by
    rw [isEmpty_strip_iff]
    simp [h]
  rw [plainAmount, if_neg hempty, (lexemes_eq_singleton_iff hop hliteral).mp h, hvalue]

/-- Any other text without operators is turned down, for a lexeme that means nothing or as a
whole. -/
theorem plainAmount_of_not_literal (hop : ¬HoldsOperator text) (hne : lexemes text ≠ [])
    (hother : ∀ lexeme, lexemes text = [lexeme] → ¬Decimal.IsLiteral lexeme.toList) :
    plainAmount text = .error (plainRejection (String.ofList (Text.strip text.toList))) := by
  have hempty : ¬(String.ofList (Text.strip text.toList)).isEmpty = true := by
    rwa [isEmpty_strip_iff]
  rw [plainAmount, if_neg hempty]
  cases hvalue : Decimal.ofLiteral? (String.ofList (Text.strip text.toList)) with
  | none => rfl
  | some value =>
    have hliteral := Decimal.exists_ofLiteral?_iff.mp ⟨value, hvalue⟩
    exact absurd hliteral (hother _ ((lexemes_eq_singleton_iff hop hliteral).mpr rfl))

/-- It is turned down as a whole where every lexeme means something. -/
theorem plainAmount_of_meaningful {tokens : List Token} (hop : ¬HoldsOperator text)
    (hne : lexemes text ≠ [])
    (hother : ∀ lexeme, lexemes text = [lexeme] → ¬Decimal.IsLiteral lexeme.toList)
    (ht : tokenize text = .ok tokens) :
    plainAmount text = .error (.unknownSymbol (String.ofList (Text.strip text.toList))) := by
  rw [plainAmount_of_not_literal hop hne hother, plainRejection, tokenize_strip, ht]

/-- A text without operators in which a lexeme means nothing is turned down for the first such
lexeme. -/
theorem plainAmount_of_unknown {why : Rejection} (hop : ¬HoldsOperator text)
    (h : tokenize text = .error why) : plainAmount text = .error why := by
  obtain ⟨before, unknown, after, hsplit, -, hunknown, -⟩ := tokenize_eq_error_iff.mp h
  have hmem : unknown ∈ lexemes text := by simp [hsplit]
  have hother : ∀ lexeme, lexemes text = [lexeme] → ¬Decimal.IsLiteral lexeme.toList := by
    rintro lexeme hlexeme hliteral
    obtain rfl := List.mem_singleton.mp (hlexeme ▸ hmem)
    exact hunknown (.inr (.inr (.inr hliteral)))
  rw [plainAmount_of_not_literal hop (List.ne_nil_of_mem hmem) hother, plainRejection,
    tokenize_strip, h]

/-! ## Evaluating without operators -/

theorem tokenize_of_literal (h : lexemes text = [lexeme])
    (hvalue : Decimal.ofLiteral? lexeme = some value) :
    tokenize text = .ok [.number lexeme value] := by
  refine tokenize_eq_ok_iff.mpr ⟨by simp [h, Token.text], ?_⟩
  simpa using isTyped_number_iff.mpr hvalue

/-- A text whose only lexeme is a literal has its value. -/
theorem evaluateText_of_literal (h : lexemes text = [lexeme])
    (hvalue : Decimal.ofLiteral? lexeme = some value) : evaluateText rule text = .ok value := by
  rw [evaluateText_eq (tokenize_of_literal h hvalue)]
  rfl

/-- Tokens that are all numbers, but no more than one, are that number. -/
theorem Token.exists_eq_number {tokens : List Token} (h : ∀ t ∈ tokens, t.kind = .number)
    (hcount : count .number tokens = 1) : ∃ text value, tokens = [.number text value] := by
  have hselect : select .number tokens = tokens :=
    List.filter_eq_self.mpr fun t ht => by simp [h t ht]
  rw [count, hselect, List.length_eq_one_iff] at hcount
  obtain ⟨token, rfl⟩ := hcount
  have hkind := h token (by simp)
  cases token with
  | number text value => exact ⟨text, value, rfl⟩
  | operator text => cases hkind
  | leftParen text => cases hkind
  | rightParen text => cases hkind

/-- Tokens without operators have a value exactly if there is one number among them and the
parentheses pair up. -/
theorem exists_value_iff {tokens : List Token} (htyped : ∀ t ∈ tokens, t.IsTyped)
    (hop : count .operator tokens = 0) : (∃ value, evaluateTokens rule tokens = .ok value) ↔
      count .number tokens = 1 ∧ Balanced tokens := by
  constructor
  · rintro ⟨value, hvalue⟩
    obtain ⟨tree, horder, -⟩ := evaluateTokens_eq_ok_iff.mp hvalue
    have hcount := count_of_toPostfix horder
    exact ⟨by omega, (Reordering.reordered_of_toPostfix horder).balanced⟩
  · rintro ⟨hnumber, hbalanced⟩
    obtain ⟨ordered, horder⟩ := (Reordering.exists_toPostfix_iff htyped).mpr hbalanced
    have hordered := Reordering.reordered_of_toPostfix horder
    have hkind : ∀ t ∈ ordered, t.kind = .number := fun t ht =>
      (hordered.ordered_kind t ht).resolve_right
        (count_eq_zero.mp hop t (hordered.subset t ht))
    have hcount : count .number ordered = 1 := by rw [count, hordered.numbers, ← count, hnumber]
    obtain ⟨text, value, rfl⟩ := exists_eq_number hkind hcount
    exact ⟨value, evaluateTokens_eq_ok_iff.mpr ⟨.number text value, horder, rfl⟩⟩

/-- A text without operators has no operator among its tokens. -/
theorem count_operator_of_tokenize {tokens : List Token} (hop : ¬HoldsOperator text)
    (h : tokenize text = .ok tokens) : count .operator tokens = 0 := by
  refine count_eq_zero.mpr fun t ht hkind => ?_
  obtain ⟨op, rfl⟩ := (isTyped_of_tokenize h t ht).isRanked hkind
  exact hop ⟨op, char_mem_of_tokenize h ht⟩

/-- A text without operators has a value exactly if its tokens are a number, alone or in parentheses
that pair up. -/
theorem exists_evaluateText_iff (hop : ¬HoldsOperator text) :
    (∃ value, evaluateText rule text = .ok value) ↔
      ∃ tokens, tokenize text = .ok tokens ∧ count .number tokens = 1 ∧ Balanced tokens := by
  constructor
  · rintro ⟨value, hvalue⟩
    obtain ⟨tokens, ht, hvalue⟩ := evaluateText_eq_ok_iff.mp hvalue
    have hnone := count_operator_of_tokenize hop ht
    exact ⟨tokens, ht, (exists_value_iff (isTyped_of_tokenize ht) hnone).mp ⟨value, hvalue⟩⟩
  · rintro ⟨tokens, ht, hcounts⟩
    have hnone := count_operator_of_tokenize hop ht
    obtain ⟨value, hvalue⟩ := (exists_value_iff (isTyped_of_tokenize ht) hnone).mpr hcounts
    exact ⟨value, evaluateText_eq_ok_iff.mpr ⟨tokens, ht, hvalue⟩⟩

/-! ## Agreement -/

/-- A text without operators whose only token is a number is that number as a plain amount. -/
theorem plainAmount_of_tokenize (hop : ¬HoldsOperator text)
    (ht : tokenize text = .ok [.number lexeme value]) : plainAmount text = .ok value := by
  obtain ⟨htexts, htyped⟩ := tokenize_eq_ok_iff.mp ht
  have hvalue : Decimal.ofLiteral? lexeme = some value :=
    isTyped_number_iff.mp (htyped (.number lexeme value) (by simp))
  exact plainAmount_of_literal hop htexts.symm hvalue

/-- A text with a parenthesis is no plain amount. -/
theorem plainAmount_of_parens {tokens : List Token} (hop : ¬HoldsOperator text)
    (ht : tokenize text = .ok tokens) (hopened : 0 < count .leftParen tokens) :
    plainAmount text = .error (.unknownSymbol (String.ofList (Text.strip text.toList))) := by
  obtain ⟨htexts, -⟩ := tokenize_eq_ok_iff.mp ht
  have hne : lexemes text ≠ [] := by
    rintro hnil
    rw [hnil, List.map_eq_nil_iff] at htexts
    simp [htexts] at hopened
  have hother : ∀ lexeme, lexemes text = [lexeme] → ¬Decimal.IsLiteral lexeme.toList := by
    intro lexeme hlexeme hliteral
    obtain ⟨value, hvalue⟩ := Decimal.exists_ofLiteral?_iff.mpr hliteral
    cases ht.symm.trans (tokenize_of_literal hlexeme hvalue)
    simp [count_cons] at hopened
  exact plainAmount_of_meaningful hop hne hother ht

/-- A text without operators has a value and yet is no plain amount exactly if it is a number in
parentheses. -/
theorem plainAmount_gap_iff (hop : ¬HoldsOperator text) :
    (∃ value, evaluateText rule text = .ok value) ∧ (∃ why, plainAmount text = .error why) ↔
      ∃ tokens, tokenize text = .ok tokens ∧ IsNumberInParens tokens := by
  rw [exists_evaluateText_iff hop]
  constructor
  · rintro ⟨⟨tokens, ht, hnumber, hbalanced⟩, why, hwhy⟩
    have hnone := count_operator_of_tokenize hop ht
    refine ⟨tokens, ht, hnumber, hnone, ?_, hbalanced⟩
    -- without parentheses the number is the whole text, and a literal is a plain amount
    by_contra hopened
    have hclosed := hbalanced.opened_eq
    have hkind : ∀ t ∈ tokens, t.kind = .number := by
      intro t hmem
      have hoperator := count_eq_zero.mp hnone t hmem
      have hleft := count_eq_zero.mp (show count .leftParen tokens = 0 by omega) t hmem
      have hright := count_eq_zero.mp (show count .rightParen tokens = 0 by omega) t hmem
      cases t <;> simp_all
    obtain ⟨lexeme, value, rfl⟩ := exists_eq_number hkind hnumber
    rw [plainAmount_of_tokenize hop ht] at hwhy
    cases hwhy
  · rintro ⟨tokens, ht, htokens⟩
    exact ⟨⟨tokens, ht, htokens.number, htokens.balanced⟩, _,
      plainAmount_of_parens hop ht htokens.opened⟩

/-- A plain amount and the evaluation of its text agree. -/
theorem plainAgreement {evaluated : Outcome} (hop : ¬HoldsOperator text)
    (he : evaluate rule text = .ok evaluated) :
    PlainAgreement text evaluated ⟨text, plainAmount text⟩ := by
  constructor
  · intro hunknown
    cases ht : tokenize text with
    | ok tokens =>
      obtain ⟨lexeme, hmem, hlexeme⟩ := hunknown
      exact absurd (exists_tokenize_iff.mp ⟨tokens, ht⟩ lexeme hmem) hlexeme
    | error why =>
      rw [evaluate, evaluateText, ht] at he
      obtain rfl := Except.ok.inj he
      rw [plainAmount_of_unknown hop ht]
      exact ⟨why, rfl, rfl⟩
  · intro hblank
    have ht : tokenize text = .ok [] := tokenize_eq_ok_iff.mpr ⟨by simp [hblank], by simp⟩
    rw [evaluate, evaluateText_eq ht] at he
    obtain rfl := Except.ok.inj he
    rw [plainAmount_of_blank hblank]
    exact ⟨rfl, rfl⟩
  · intro lexeme hlexeme hliteral
    obtain ⟨value, hvalue⟩ := Decimal.exists_ofLiteral?_iff.mpr hliteral
    rw [evaluate_eq_ok_iff.mpr (evaluateText_of_literal hlexeme hvalue)] at he
    obtain rfl := Except.ok.inj he
    rw [plainAmount_of_literal hop hlexeme hvalue]
    exact ⟨value, hvalue, rfl, rfl⟩
  · intro hall hne hother
    obtain ⟨tokens, ht⟩ := exists_tokenize_iff.mpr hall
    rw [plainAmount_of_meaningful hop hne hother ht, Outcome.kind?_error, Outcome.symbol?_error]
    exact ⟨rfl, rfl⟩

/-- A plain amount is the value of its text. -/
theorem evaluateText_of_plainAmount (hop : ¬HoldsOperator text)
    (h : plainAmount text = .ok value) : evaluateText rule text = .ok value := by
  by_cases hblank : lexemes text = []
  · rw [plainAmount_of_blank hblank] at h
    cases h
  by_cases hliteral : ∃ lexeme, lexemes text = [lexeme] ∧ Decimal.IsLiteral lexeme.toList
  · obtain ⟨lexeme, hlexeme, hliteral⟩ := hliteral
    obtain ⟨read, hread⟩ := Decimal.exists_ofLiteral?_iff.mpr hliteral
    rw [plainAmount_of_literal hop hlexeme hread] at h
    rw [← Except.ok.inj h, evaluateText_of_literal hlexeme hread]
  · push Not at hliteral
    rw [plainAmount_of_not_literal hop hblank hliteral] at h
    cases h

/-- Reading an amount and evaluating its text agree. -/
theorem agreement_of_parseAmount {evaluated amount : Outcome}
    (he : evaluate settings.rule text = .ok evaluated)
    (ha : parseAmount settings.rule text = .ok amount) : Agreement text evaluated amount := by
  by_cases hop : HoldsOperator text
  · rw [parseAmount, if_pos (looksLikeExpression_iff.mpr hop), he] at ha
    obtain rfl := Except.ok.inj ha
    refine ⟨fun _ => rfl, fun hplain => absurd hop hplain, fun _ => id, iff_of_false ?_ ?_⟩
    · rintro ⟨⟨value, hvalue⟩, why, hwhy⟩
      cases hvalue.symm.trans hwhy
    · rintro ⟨hplain, -⟩
      exact hplain hop
  · rw [parseAmount, if_neg fun h => hop (looksLikeExpression_iff.mp h)] at ha
    obtain rfl := Except.ok.inj ha
    have hanswer : ∀ value, evaluated.answer = .ok value ↔
        evaluateText settings.rule text = .ok value := by
      intro value
      rcases Outcome.ofEvaluation_eq_ok_iff.mp he with ⟨v, hv, rfl⟩ | ⟨why, hwhy, rfl⟩
      · simp [hv]
      · simp [hwhy]
    refine ⟨fun h => absurd h hop, fun _ => plainAgreement hop he, ?_, ?_⟩
    · intro value hvalue
      dsimp only at hvalue
      exact (hanswer value).mpr (evaluateText_of_plainAmount hop hvalue)
    · simp only [hanswer, plainAmount_gap_iff hop, hop, not_false_iff, true_and]

/-- A number in parentheses, ` (7) `, is evaluated, and is no plain amount. -/
theorem agreement_of_parseAmount_parens :
    let rule := EvaluatorSettings.default.rule
    let evaluated : Outcome := ⟨" (7) ", .ok ⟨false, 7, 0⟩⟩
    let amount : Outcome := ⟨" (7) ", .error (.unknownSymbol "(7)")⟩
    evaluate rule " (7) " = .ok evaluated ∧ parseAmount rule " (7) " = .ok amount ∧
      Agreement " (7) " evaluated amount := by
  intro rule evaluated amount
  have he : evaluate rule " (7) " = .ok evaluated := evaluate_eq_ok_iff.mpr (by decide +kernel)
  have ha : parseAmount rule " (7) " = .ok amount := by
    have hplain : ¬looksLikeExpression " (7) " = true := by decide
    have hanswer : plainAmount " (7) " = .error (.unknownSymbol "(7)") := by decide +kernel
    rw [parseAmount, if_neg hplain, hanswer]
  exact ⟨he, ha, agreement_of_parseAmount he ha⟩

end LedgerAmount

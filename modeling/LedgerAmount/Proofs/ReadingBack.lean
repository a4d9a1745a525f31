import LedgerAmount.Proofs.AuditTrail
import LedgerAmount.Proofs.PlainAmounts
import LedgerAmount.Proofs.WithinBounds
import LedgerAmount.Proofs.WrittenForm

/-!
# Amounts that are typed again

What is shown of an amount can be typed as an amount. Then it is the same number, with its sign and
all its places, or it is none at all: numbers that are written with an exponent of ten are no
literals. The amounts that come of an entry never have a last digit before the place of the ones, so
it is only tiny numbers and zeros with many places that cannot be typed as they are shown.
-/

namespace LedgerAmount

/-! ## Written forms as literals -/

namespace Decimal

variable {cs digits : List Char} {places : Nat} {d : Decimal}

/-- The characters of a literal: digits, the point and the two signs. -/
theorem IsLiteral.isDigit_or_mem (h : IsLiteral cs) :
    ∀ c ∈ cs, c.isDigit = true ∨ c ∈ ['.', '+', '-'] := by
  have hdigits : ∀ {cs whole fraction : List Char}, LiteralDigits cs whole fraction →
      ∀ c ∈ cs, c.isDigit = true ∨ c ∈ ['.', '+', '-'] := fun h c hc =>
    (h.isDigit_or_point c hc).imp_right fun hpoint => by simp [hpoint]
  intro c hc
  cases h with
  | unsigned digits => exact hdigits digits c hc
  | plus digits =>
    rcases List.mem_cons.mp hc with rfl | hc
    · exact .inr (by simp)
    · exact hdigits digits c hc
  | minus digits =>
    rcases List.mem_cons.mp hc with rfl | hc
    · exact .inr (by simp)
    · exact hdigits digits c hc

/-- Behind its sign, an unsigned literal is read as a number of this sign. -/
theorem ofLiteralChars?_signChars_append (h : ShowsDigits cs digits places) :
    ofLiteralChars? (d.signChars ++ cs) =
      some ⟨d.negative, ofDigits digits, -(places : Int)⟩ := by
  obtain ⟨whole, fraction, hliteral, -, hdigits, rfl⟩ := h
  rw [signChars, ← hdigits]
  cases d.negative with
  | true => exact hliteral.read true
  | false => exact hliteral.ofLiteralChars?_eq

/-- The written form of a number is read as this number where it is plain, and else not at all. -/
theorem ofLiteral?_toString (d : Decimal) : ofLiteral? (toString d) =
    if d.exponent ≤ 0 ∧ leastPlainExponent ≤ d.adjustedExponent then some d else none := by
  change ofLiteral? (String.ofList d.toChars) = _
  rcases d.toChars_cases with ⟨hexponent, hadjusted, cs, hcs, hshows⟩ | ⟨hscaled, lead, hcs, -⟩
  · have hplaces : -(((-d.exponent).toNat : Nat) : Int) = d.exponent := by omega
    rw [if_pos ⟨hexponent, hadjusted⟩, ofLiteral?, String.toList_ofList, hcs,
      ofLiteralChars?_signChars_append hshows, ofDigits_digitsOf, hplaces]
  · rw [if_neg hscaled, Option.eq_none_iff_forall_ne_some]
    intro value hvalue
    have hliteral := exists_ofLiteral?_iff.mp ⟨value, hvalue⟩
    rw [String.toList_ofList] at hliteral
    have hmark : 'E' ∈ d.toChars := by simp [hcs, exponentChars]
    rcases hliteral.isDigit_or_mem _ hmark with h | h
    · exact absurd h (by decide)
    · exact absurd h (by decide)

/-- A plus is only written of numbers whose last digit stands before the place of the ones. -/
theorem plus_not_mem_toChars (h : d.exponent ≤ 0) : '+' ∉ d.toChars := by
  have hsign : '+' ∉ d.signChars := by
    rw [signChars]
    split <;> decide
  have hdigits : ∀ {cs digits places}, ShowsDigits cs digits places → '+' ∉ cs := by
    intro cs digits places hshows hmem
    rcases hshows.isDigit_or_point _ hmem with h | h
    · exact absurd h (by decide)
    · exact absurd h (by decide)
  rcases d.toChars_cases with ⟨-, -, cs, hcs, hshows⟩ | ⟨hscaled, lead, hcs, hshows⟩
  · rw [hcs, List.mem_append, not_or]
    exact ⟨hsign, hdigits hshows⟩
  · have htiny : d.adjustedExponent < 0 := by
      have hleast : leastPlainExponent = -6 := rfl
      omega
    have hexponent : '+' ∉ exponentChars d.adjustedExponent := by
      rw [exponentChars, if_pos htiny, List.mem_cons, List.mem_cons, not_or, not_or]
      refine ⟨by decide, by decide, fun hmem => ?_⟩
      exact absurd (isDigit_of_mem_digitsOf hmem) (by decide)
    rw [hcs, List.mem_append, List.mem_append, not_or, not_or]
    exact ⟨hsign, hdigits hshows, hexponent⟩

end Decimal

/-! ## Amounts -/

variable {rule : DivisionRule} {subject : Subject} {text : String} {value : Decimal}
  {outcome : Outcome}

/-- The value of a text is whole or has places behind the point. -/
theorem exponent_le_of_evaluateText (h : evaluateText rule text = .ok value) :
    value.exponent ≤ 0 := by
  obtain ⟨tokens, ht, hvalue⟩ := evaluateText_eq_ok_iff.mp h
  obtain ⟨ordered, ho, hvalue⟩ := bind_eq_ok_iff.mp hvalue
  exact (hasWidth_of_evaluatePostfix (isPlain_of_toPostfix ht ho) hvalue).exponent_le

/-- However a text is entered, a value of its outcome is the value of the text. -/
theorem Subject.evaluateText_of_outcome (h : subject.outcome rule text = .ok outcome)
    (hvalue : outcome.answer = .ok value) : evaluateText rule text = .ok value := by
  rcases Subject.outcome_cases h with hevaluate | ⟨hplain, rfl⟩
  · rcases Outcome.ofEvaluation_eq_ok_iff.mp hevaluate with ⟨v, hv, rfl⟩ | ⟨why, -, rfl⟩
    · cases hvalue
      exact hv
    · cases hvalue
  · dsimp only at hvalue
    exact evaluateText_of_plainAmount (mt looksLikeExpression_iff.mpr hplain) hvalue

/-- An outcome that shows its value in the same way to the user and in the record, and in a way
that cannot be taken for another number. -/
structure Outcome.ShowsAmount (outcome : Outcome) (value : Decimal) : Prop where
  exponent_le : value.exponent ≤ 0
  unscaled : ¬"E+".toList <:+: (toString value).toList
  described : outcome.describe = "Amount: " ++ toString value
  recorded : ∀ about, (Event.ofOutcome about outcome).details.lookup "value" =
    some (.text (toString value))
  readBack : Decimal.ofLiteral? (toString value) =
    if -6 ≤ value.adjustedExponent then some value else none

namespace Session

variable {session after : Session} {given : Option EvaluatorSettings} {logger : Option Logger}

/-- The value of an entry is shown as a literal of just this value, or as no literal if its leading
digit stands more than six places behind the point. -/
theorem showsAmount_of_enter
    (h : Call.runIn (enter subject text given logger) session = (.ok outcome, after))
    (hvalue : outcome.answer = .ok value) : outcome.ShowsAmount value := by
  obtain ⟨settings, houtcome⟩ := exists_settings_of_enter h
  have hexponent : value.exponent ≤ 0 :=
    exponent_le_of_evaluateText (Subject.evaluateText_of_outcome houtcome hvalue)
  refine ⟨hexponent, ?_, ?_, ?_, ?_⟩
  · intro hscaled
    have hplus : '+' ∈ (String.ofList value.toChars).toList := hscaled.subset (by decide)
    rw [String.toList_ofList] at hplus
    exact Decimal.plus_not_mem_toChars hexponent hplus
  · rw [Outcome.describe, hvalue]
  · intro about
    rw [Event.ofOutcome, hvalue]
    rfl
  · rw [Decimal.ofLiteral?_toString]
    simp only [hexponent, true_and]
    rfl

/-- Half a unit below zero can be typed as it is shown, but not the tenth place behind the point. -/
theorem showsAmount_of_enter_tenth_place :
    let logger : Logger := ⟨LoggingSetup.defaultLogger, ⟨.info, true⟩⟩
    let debt : Outcome := ⟨"0-0.50", .ok ⟨true, 50, -2⟩⟩
    let tiny : Outcome := ⟨"1/9999999999", .ok ⟨false, 1, -10⟩⟩
    Call.runIn (enter .expression debt.expression (some .default) (some logger)) .initial =
        (.ok debt, ⟨[], .empty, none, none, none, logger.records [.ofOutcome .expression debt]⟩) ∧
      debt.ShowsAmount ⟨true, 50, -2⟩ ∧ debt.describe = "Amount: -0.50" ∧
      Decimal.ofLiteral? "-0.50" = some ⟨true, 50, -2⟩ ∧
      tiny.ShowsAmount ⟨false, 1, -10⟩ ∧ tiny.describe = "Amount: 1E-10" ∧
      Decimal.ofLiteral? "1E-10" = none := by
  intro logger debt tiny
  have hentered : ∀ {text value}, evaluateText EvaluatorSettings.default.rule text = .ok value →
      Call.runIn (enter .expression text (some .default) (some logger)) .initial =
        (.ok ⟨text, .ok value⟩, ⟨[], .empty, none, none, none,
          logger.records [.ofOutcome .expression ⟨text, .ok value⟩]⟩) := by
    intro text value hvalue
    have houtcome : Subject.expression.outcome EvaluatorSettings.default.rule text =
        .ok ⟨text, .ok value⟩ := evaluate_eq_ok_iff.mpr hvalue
    rw [runIn_enter, houtcome]
    rfl
  have hdebt := hentered (show evaluateText _ "0-0.50" = .ok ⟨true, 50, -2⟩ by decide +kernel)
  have htiny := hentered
    (show evaluateText _ "1/9999999999" = .ok ⟨false, 1, -10⟩ by decide +kernel)
  have hshown : toString (⟨true, 50, -2⟩ : Decimal) = "-0.50" := by decide +kernel
  have hscaled : toString (⟨false, 1, -10⟩ : Decimal) = "1E-10" := by decide +kernel
  have hdebt' := showsAmount_of_enter hdebt rfl
  have htiny' := showsAmount_of_enter htiny rfl
  refine ⟨hdebt, hdebt', ?_, ?_, htiny', ?_, ?_⟩
  · rw [hdebt'.described, hshown]
    decide
  · rw [← hshown, hdebt'.readBack, if_pos (by decide)]
  · rw [htiny'.described, hscaled]
    decide
  · rw [← hscaled, htiny'.readBack, if_neg (by decide)]

end Session

end LedgerAmount

import LedgerAmount.Proofs.AuditTrail
import LedgerAmount.Proofs.Verdict
import LedgerAmount.Proofs.WrittenForm

/-!
# Messages that can be shown

All that is said of an outcome is printable, so that no text can break a line or hide what follows
it. What the user typed stands in a message only as quoted text, where every character that is not
printable has an escape, and the rest of a message is fixed or a number.
-/

namespace LedgerAmount

/-! ## Printable texts -/

namespace Text

variable {s t : String} {c : Char}

theorem printable_iff : Printable s ↔ s.toList.all isPrintable = true := List.all_eq_true.symm

instance (s : String) : Decidable (Printable s) := decidable_of_iff _ printable_iff.symm

theorem printable_ofList {cs : List Char} :
    Printable (String.ofList cs) ↔ ∀ c ∈ cs, isPrintable c = true := by
  rw [Printable, String.toList_ofList]

theorem Printable.append (hs : Printable s) (ht : Printable t) : Printable (s ++ t) := by
  intro c hc
  rw [String.toList_append] at hc
  rcases List.mem_append.mp hc with hc | hc
  · exact hs c hc
  · exact ht c hc

theorem isPrintable_of_isDigit (h : c.isDigit = true) : isPrintable c = true := by
  have hrange := toNat_of_isDigit h
  rw [isPrintable, if_pos (by omega), decide_eq_true_eq]
  omega

/-! ## Quoted texts -/

/-- The digits of an escape are printable, whatever the code point. -/
theorem isPrintable_of_mem_hexDigits {width n : Nat} (h : c ∈ hexDigits width n) :
    isPrintable c = true := by
  have hdigit : ∀ d < 16, isPrintable (Nat.digitChar d) = true := by decide
  induction width generalizing n with
  | zero => cases h
  | succ width ih =>
    rcases List.mem_append.mp h with h | h
    · exact ih h
    · rw [List.mem_singleton.mp h]
      exact hdigit _ (Nat.mod_lt n (by decide))

theorem isPrintable_of_mem_escapeHidden {hidden : Char} (h : c ∈ escapeHidden hidden) :
    isPrintable c = true := by
  have hescape : ∀ (letter : Char) (width : Nat), isPrintable letter = true →
      c ∈ backslash :: letter :: hexDigits width hidden.toNat → isPrintable c = true := by
    intro letter width hletter hc
    rcases List.mem_cons.mp hc with rfl | hc
    · decide
    rcases List.mem_cons.mp hc with rfl | hc
    · exact hletter
    · exact isPrintable_of_mem_hexDigits hc
  rw [escapeHidden] at h
  split at h
  · exact hescape 'n' 0 (by decide) h
  split at h
  · exact hescape 'r' 0 (by decide) h
  split at h
  · exact hescape 't' 0 (by decide) h
  split at h
  · exact hescape 'x' 2 (by decide) h
  split at h
  · exact hescape 'u' 4 (by decide) h
  · exact hescape 'U' 8 (by decide) h

theorem isPrintable_of_mem_escapeChar {mark shown : Char} (hmark : isPrintable mark = true)
    (h : c ∈ escapeChar mark shown) : isPrintable c = true := by
  rw [escapeChar] at h
  split at h
  next hspecial =>
    rcases List.mem_cons.mp h with rfl | h
    · decide
    · rw [List.mem_singleton.mp h]
      rcases hspecial with rfl | rfl
      · exact hmark
      · decide
  split at h
  next hshown => rwa [List.mem_singleton.mp h]
  next => exact isPrintable_of_mem_escapeHidden h

theorem isPrintable_quoteMark (cs : List Char) : isPrintable (quoteMark cs) = true := by
  rw [quoteMark]
  split <;> decide

/-- A quoted text is printable, whatever the text. -/
theorem printable_quote (s : String) : Printable (quote s) := by
  refine printable_ofList.mpr fun c hc => ?_
  have hmark := isPrintable_quoteMark s.toList
  rcases List.mem_append.mp hc with hc | hc
  · rcases List.mem_cons.mp hc with rfl | hc
    · exact hmark
    · obtain ⟨shown, -, hshown⟩ := List.mem_flatMap.mp hc
      exact isPrintable_of_mem_escapeChar hmark hshown
  · rwa [List.mem_singleton.mp hc]

end Text

open Text

/-- The written form of a decimal is printable. -/
theorem Decimal.printable_toString (d : Decimal) : Printable (toString d) := by
  refine printable_ofList.mpr fun c hc => ?_
  rcases Extended.isNumeral_toChars d c hc with hdigit | hmark
  · exact isPrintable_of_isDigit hdigit
  · simp only [List.mem_cons, List.not_mem_nil, or_false] at hmark
    rcases hmark with rfl | rfl | rfl | rfl <;> decide

/-- What is left of a printable text where it is clipped is printable. -/
theorem Event.printable_clip {s : String} (h : Printable s) : Printable (clip s) := by
  rw [clip]
  split
  · exact h
  · refine printable_ofList.mpr fun c hc => ?_
    rcases List.mem_append.mp hc with hc | hc
    · exact h c (List.mem_of_mem_take hc)
    · simp only [List.mem_cons, List.not_mem_nil, or_false, or_self] at hc
      rw [hc]
      decide

/-! ## Rejections of texts -/

namespace Rejection

/-- All that a text can be turned down for. -/
inductive IsOfText : Rejection → Prop
  | unknownSymbol (lexeme : String) : IsOfText (.unknownSymbol lexeme)
  | strayClosing : IsOfText .strayClosing
  | unclosed : IsOfText .unclosed
  | missingOperand (symbol : String) : IsOfText (.missingOperand symbol)
  | divisionByZero : IsOfText .divisionByZero
  | emptyExpression : IsOfText .emptyExpression
  | missingOperator : IsOfText .missingOperator
  | noAmount : IsOfText .noAmount

/-- Such a rejection shows of the text only what is quoted. -/
theorem IsOfText.printable {why : Rejection} (h : why.IsOfText) : Printable why.message := by
  cases h with
  | unknownSymbol lexeme =>
    have hremark : Printable (RejectionKind.unknownSymbol.remark ++ ": ") := by decide
    exact hremark.append (printable_quote lexeme)
  | missingOperand symbol =>
    have hbefore : Printable "Operator " := by decide
    have hafter : Printable " is missing an operand" := by decide
    exact (hbefore.append (printable_quote symbol)).append hafter
  | strayClosing => decide
  | unclosed => decide
  | divisionByZero => decide
  | emptyExpression => decide
  | missingOperator => decide
  | noAmount => decide

end Rejection

variable {settings : EvaluatorSettings} {text : String} {why : Rejection} {outcome : Outcome}

theorem isOfText_of_tokenize (h : tokenize text = .error why) : why.IsOfText := by
  obtain ⟨before, lexeme, after, -, -, -, rfl⟩ := tokenize_eq_error_iff.mp h
  exact .unknownSymbol lexeme

theorem isOfText_plainRejection (text : String) : (plainRejection text).IsOfText := by
  rw [plainRejection]
  split
  next why hwhy => exact isOfText_of_tokenize hwhy
  next => exact .unknownSymbol text

theorem isOfText_of_plainAmount (h : plainAmount text = .error why) : why.IsOfText := by
  rw [plainAmount] at h
  split at h
  next =>
    rw [← Except.error.inj h]
    exact .noAmount
  next =>
    split at h
    next => cases h
    next =>
      rw [← Except.error.inj h]
      exact isOfText_plainRejection _

/-- Each stage of an evaluation turns a text down for something of its own. -/
theorem isOfText_of_evaluateText (h : evaluateText settings.rule text = .error (.rejected why)) :
    why.IsOfText := by
  rw [evaluateText] at h
  rcases bind_eq_error_iff.mp h with htokens | ⟨tokens, htokens, hrest⟩
  · obtain ⟨found, hfound, hwhy⟩ := mapError_eq_error_iff.mp htokens
    cases hwhy
    exact isOfText_of_tokenize hfound
  have htyped := isTyped_of_tokenize (mapError_eq_ok_iff.mp htokens)
  have hranked : ∀ t ∈ tokens, t.IsRanked := fun t ht => (htyped t ht).isRanked
  rcases bind_eq_error_iff.mp hrest with horder | ⟨ordered, horder, hvalue⟩
  · rcases (Reordering.toPostfix_eq_error_iff hranked).mp horder with ⟨-, hwhy⟩ | ⟨-, -, hwhy⟩
    · cases hwhy
      exact .strayClosing
    · cases hwhy
      exact .unclosed
  have hevaluable := (Reordering.reordered_of_toPostfix horder).isEvaluable hranked
  rcases rejection_of_evaluatePostfix hevaluable hvalue with
    (⟨symbol, rfl⟩ | rfl | rfl) | ⟨rfl, -⟩
  · exact .missingOperand symbol
  · exact .emptyExpression
  · exact .missingOperator
  · exact .divisionByZero

theorem isOfText_of_outcome {subject : Subject}
    (h : subject.outcome settings.rule text = .ok outcome) (hwhy : outcome.answer = .error why) :
    why.IsOfText := by
  rcases Subject.outcome_cases h with hevaluate | ⟨-, rfl⟩
  · rcases Outcome.ofEvaluation_eq_ok_iff.mp hevaluate with ⟨value, -, rfl⟩ | ⟨other, hother, rfl⟩
    · cases hwhy
    · cases hwhy
      exact isOfText_of_evaluateText hother
  · dsimp only at hwhy
    exact isOfText_of_plainAmount hwhy

/-! ## What is said of an outcome -/

namespace Outcome

/-- The prompt says nothing of any outcome that is not printable. -/
theorem printable_describe (outcome : Outcome) : Printable outcome.describe := by
  have hphrase : ∀ kind : RejectionKind, Printable kind.phrase := by
    intro kind
    cases kind <;> decide
  rw [describe]
  split
  next value _ =>
    have hamount : Printable "Amount: " := by decide
    exact hamount.append value.printable_toString
  next why _ =>
    have hbefore : Printable "Invalid amount: " := by decide
    have hbetween : Printable " in " := by decide
    have hspace : Printable " " := by decide
    refine ((hbefore.append ?_).append hbetween).append (printable_quote outcome.expression)
    split
    next => exact hphrase why.kind
    next => exact hphrase why.kind
    next symbol _ _ => exact ((hphrase why.kind).append hspace).append (printable_quote symbol)

/-- The events of any outcome have a printable description. -/
theorem printable_description (about : Subject) (outcome : Outcome) :
    Printable (Event.ofOutcome about outcome).description := by
  have hname : Printable (about.name ++ " ") := by cases about <;> decide
  have hshown := hname.append (printable_quote outcome.expression)
  rw [Event.ofOutcome]
  split
  next value _ =>
    have hequals : Printable " = " := by decide
    exact Event.printable_clip ((hshown.append hequals).append value.printable_toString)
  next =>
    have hrejected : Printable " rejected" := by decide
    exact Event.printable_clip (hshown.append hrejected)

/-- An outcome of which nothing is said or recorded for people that is not printable. -/
structure IsPrintable (outcome : Outcome) : Prop where
  message : ∀ why, outcome.answer = .error why → Printable why.message
  complaint : ∀ complaint, outcome.unwrap = .error complaint → Printable complaint
  description : ∀ about, Printable (Event.ofOutcome about outcome).description
  errorMessage : ∀ about message, (Event.ofOutcome about outcome).errorMessage = some message →
    Printable message

/-- Apart from the message of its rejection, all of this is printable for any outcome. -/
theorem isPrintable_of_message (h : ∀ why, outcome.answer = .error why → Printable why.message) :
    outcome.IsPrintable := by
  refine ⟨h, ?_, (printable_description · outcome), ?_⟩
  · intro complaint hcomplaint
    obtain ⟨why, hwhy, rfl⟩ := mapError_eq_error_iff.mp hcomplaint
    have hbefore : Printable "Invalid expression " := by decide
    have hbetween : Printable ": " := by decide
    have hshown := (hbefore.append (printable_quote outcome.expression)).append hbetween
    exact hshown.append (h why hwhy)
  · intro about message hmessage
    rw [Event.ofOutcome] at hmessage
    split at hmessage
    next => cases hmessage
    next why hwhy =>
      cases hmessage
      exact h why hwhy

end Outcome

/-- The prompt describes every outcome in printable characters, be the outcome made by hand. Of the
outcomes that an entry of a text comes to, however it is made, all messages and the descriptions of
all events are printable. -/
theorem Session.printable_of_enter :
    (∀ outcome : Outcome, Printable outcome.describe) ∧
    ∀ (subject : Subject) (text : String) (given : Option EvaluatorSettings)
      (logger : Option Logger) (session after : Session) (outcome : Outcome),
      Call.runIn (enter subject text given logger) session = (.ok outcome, after) →
        outcome.IsPrintable := by
  refine ⟨Outcome.printable_describe, ?_⟩
  intro subject text given logger session after outcome h
  obtain ⟨settings, houtcome⟩ := exists_settings_of_enter h
  exact Outcome.isPrintable_of_message fun why hwhy => (isOfText_of_outcome houtcome hwhy).printable

/-- A sequence that clears the screen and a mark that turns the line around are shown by their
escapes. -/
theorem Session.printable_of_enter_escape :
    let text := "2+\x1B[2J\u202Eb"
    let logger : Logger := ⟨LoggingSetup.defaultLogger, ⟨.info, true⟩⟩
    let outcome : Outcome := ⟨text, .error (.unknownSymbol "\x1B[2J\u202Eb")⟩
    let complaint :=
      "Invalid expression '2+\\x1b[2J\\u202eb': Unknown symbol: '\\x1b[2J\\u202eb'"
    Call.runIn (enter .expression text (some .default) (some logger)) .initial =
        (.ok outcome,
          ⟨[], .empty, none, none, none, logger.records [.ofOutcome .expression outcome]⟩) ∧
      ¬Printable text ∧ Printable outcome.describe ∧ outcome.IsPrintable ∧
      outcome.unwrap = .error complaint ∧ Printable complaint := by
  intro text logger outcome complaint
  have houtcome : Subject.expression.outcome EvaluatorSettings.default.rule text = .ok outcome :=
    evaluate_eq_rejected_iff.mpr (by decide +kernel)
  have hentered : Call.runIn (enter .expression text (some .default) (some logger)) .initial =
      (.ok outcome,
        ⟨[], .empty, none, none, none, logger.records [.ofOutcome .expression outcome]⟩) := by
    rw [runIn_enter, houtcome]
    rfl
  have hcomplaint : outcome.unwrap = .error complaint := by decide +kernel
  obtain ⟨hdescribe, hentry⟩ := printable_of_enter
  have hprintable := hentry _ _ _ _ _ _ _ hentered
  exact ⟨hentered, by decide, hdescribe outcome, hprintable, hcomplaint,
    hprintable.complaint _ hcomplaint⟩

end LedgerAmount

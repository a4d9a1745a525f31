import LedgerAmount.Proofs.Exactness
import LedgerAmount.Proofs.Reordering
import LedgerAmount.Proofs.Tree
import Mathlib.Algebra.BigOperators.Ring.List
import Mathlib.Algebra.Order.BigOperators.Group.List

/-!
# Evaluations within the bounds

Numbers that are given in writing are taken within the bounds of exponents, those of a text without
any. The numbers of a sequence are whole or have places behind the point, and operations make them
longer by no more than their operands are long, or by a rounded quotient. So a sequence that is not
too long itself comes to the same with the bounds and without them.
-/

namespace LedgerAmount

namespace Decimal

/-- At most `n` digits, and at most `n` places behind the point. -/
structure HasWidth (n : Nat) (d : Decimal) : Prop where
  coefficient_lt : d.coefficient < powerOfTen n
  neg_le_exponent : -(n : Int) ≤ d.exponent
  exponent_le : d.exponent ≤ 0

/-- The digits or the places behind the point, whichever are more. -/
def width (d : Decimal) : Nat := max (digitsOf d.coefficient).length (-d.exponent).toNat

theorem hasWidth_width {d : Decimal} (h : d.exponent ≤ 0) : d.HasWidth d.width := by
  have hdigits : 0 < (digitsOf d.coefficient).length := Nat.length_toDigits_pos
  have hwidth : 0 < d.width := by simp only [width]; omega
  refine ⟨?_, ?_, h⟩
  · rw [← length_digitsOf_le_iff hwidth]
    exact Nat.le_max_left ..
  · simp only [width]
    omega

variable {a b d : Decimal} {m n : Nat}

theorem HasWidth.mono (h : d.HasWidth m) (hmn : m ≤ n) : d.HasWidth n := by
  obtain ⟨hcoefficient, hleast, hgreatest⟩ := h
  exact ⟨hcoefficient.trans_le (powerOfTen_le hmn), by omega, hgreatest⟩

/-- Numbers that are not too long are within the bounds. -/
theorem HasWidth.isWithinBounds (h : d.HasWidth n) (hn : (n : Int) ≤ greatestDistance) :
    d.isWithinBounds = true := by
  have hdigits : (digitsOf d.coefficient).length ≤ n + 1 :=
    (length_digitsOf_le_iff n.succ_pos).mpr (h.mono n.le_succ).coefficient_lt
  obtain ⟨-, hleast, hgreatest⟩ := h
  rw [Decimal.isWithinBounds, Bool.and_eq_true, decide_eq_true_eq, decide_eq_true_eq]
  simp only [adjustedExponent, greatestExponent, leastExponent, greatestDistance] at hn ⊢
  omega

/-! ## Operations -/

theorem HasWidth.neg (h : d.HasWidth n) : (-d).HasWidth n :=
  ⟨h.coefficient_lt, h.neg_le_exponent, h.exponent_le⟩

/-- Writing a number with `n` places more makes it longer by as much. -/
theorem HasWidth.natAbs_alignedTo_lt (h : d.HasWidth m) {e : Int} (he : d.exponent - e ≤ n) :
    (d.alignedTo e).natAbs < powerOfTen (m + n) := by
  rw [alignedTo_eq, Int.natAbs_mul, natAbs_signedCoefficient, Int.natAbs_natCast, powerOfTen_add]
  calc
    d.coefficient * powerOfTen (d.exponent - e).toNat ≤ d.coefficient * powerOfTen n :=
      Nat.mul_le_mul_left _ (powerOfTen_le (by omega))
    _ < powerOfTen m * powerOfTen n :=
      Nat.mul_lt_mul_of_pos_right h.coefficient_lt (powerOfTen_pos n)

theorem HasWidth.add (ha : a.HasWidth m) (hb : b.HasWidth n) : (a + b).HasWidth (m + n + 1) := by
  have hexponents : ∀ {c d : Decimal} {k : Nat}, c.exponent ≤ 0 → -(k : Int) ≤ d.exponent →
      c.exponent - min c.exponent d.exponent ≤ k := by omega
  have hleft := ha.natAbs_alignedTo_lt (hexponents ha.exponent_le hb.neg_le_exponent)
  have hright := hb.natAbs_alignedTo_lt (hexponents hb.exponent_le ha.neg_le_exponent)
  rw [Int.min_comm, Nat.add_comm n m] at hright
  have hsum : (a + b).coefficient = (a.alignedTo (min a.exponent b.exponent) +
      b.alignedTo (min a.exponent b.exponent)).natAbs := rfl
  obtain ⟨-, hleasta, hgreatesta⟩ := ha
  obtain ⟨-, hleastb, hgreatestb⟩ := hb
  refine ⟨?_, ?_, ?_⟩
  · rw [hsum, powerOfTen_succ]
    omega
  · rw [exponent_add]
    omega
  · rw [exponent_add]
    omega

theorem HasWidth.sub (ha : a.HasWidth m) (hb : b.HasWidth n) : (a - b).HasWidth (m + n + 1) :=
  ha.add hb.neg

theorem HasWidth.mul (ha : a.HasWidth m) (hb : b.HasWidth n) : (a * b).HasWidth (m + n) := by
  refine ⟨?_, ?_, ?_⟩
  · rw [coefficient_mul, powerOfTen_add]
    exact Nat.mul_lt_mul'' ha.coefficient_lt hb.coefficient_lt
  · have hleasta := ha.neg_le_exponent
    have hleastb := hb.neg_le_exponent
    rw [exponent_mul]
    omega
  · have hgreatesta := ha.exponent_le
    have hgreatestb := hb.exponent_le
    rw [exponent_mul]
    omega

/-- A quotient has no more digits than the limit, and the places of the rule. -/
theorem hasWidth_of_divide {rule : DivisionRule} (h : a.divide rule b = .ok d) :
    d.HasWidth (digitLimit + rule.scale) := by
  rw [divide] at h
  split at h
  · cases h
  split at h
  · cases h
  next hcut =>
    split at h
    · cases h
    next mode _ =>
      cases h
      refine ⟨?_, ?_, ?_⟩
      · have htwo : 2 ≤ powerOfTen digitLimit :=
          (show 2 ≤ powerOfTen 1 by decide).trans (powerOfTen_le (by decide))
        refine Nat.lt_of_lt_of_le ?_ (powerOfTen_le (Nat.le_add_right digitLimit rule.scale))
        simp only [roundedQuotient, RoundingMode.roundHundredths]
        split <;> omega
      · simp only [roundedQuotient]
        omega
      · simp only [roundedQuotient]
        omega

/-- Sums that are not too long are the same within the bounds. -/
theorem addWithinBounds_eq (ha : a.HasWidth m) (hb : b.HasWidth n)
    (hroom : (m + n : Int) < greatestDistance) : a.addWithinBounds b = .ok (a + b) := by
  have hfar : a.isFarFrom b = false := by
    obtain ⟨-, hleasta, hgreatesta⟩ := ha
    obtain ⟨-, hleastb, hgreatestb⟩ := hb
    simp only [isFarFrom, Bool.and_eq_false_iff, decide_eq_false_iff_not]
    right
    omega
  rw [addWithinBounds, hfar, if_neg (by simp)]
  exact fit_of_isWithinBounds ((ha.add hb).isWithinBounds (by push_cast; omega))

/-- So are products. -/
theorem mulWithinBounds_eq (ha : a.HasWidth m) (hb : b.HasWidth n)
    (hroom : (m + n : Int) < greatestDistance) : a.mulWithinBounds b = .ok (a * b) :=
  fit_of_isWithinBounds ((ha.mul hb).isWithinBounds (by push_cast; omega))

end Decimal

variable {rule : DivisionRule} {a b c : Decimal} {m n : Nat}

/-- The value of an operation is as long as both operands together, and as a quotient. -/
theorem Operator.hasWidth_of_apply {op : Operator} (h : op.apply rule a b = .ok c)
    (ha : a.HasWidth m) (hb : b.HasWidth n) : c.HasWidth (m + n + (digitLimit + rule.scale)) := by
  have hlimit : 0 < digitLimit := by decide
  cases op with
  | plus =>
    cases h
    exact (ha.add hb).mono (by omega)
  | minus =>
    cases h
    exact (ha.sub hb).mono (by omega)
  | times =>
    cases h
    exact (ha.mul hb).mono (by omega)
  | divide =>
    rw [apply] at h
    split at h
    · cases h
    · rw [Stop.ofArithmetic, mapError_eq_ok_iff] at h
      exact (Decimal.hasWidth_of_divide h).mono (by omega)

/-- An operation on numbers that are not too long comes to the same within the bounds. -/
theorem Extended.operate_finite (op : Operator) (ha : a.HasWidth m) (hb : b.HasWidth n)
    (hroom : (m + n : Int) < Decimal.greatestDistance) :
    operate rule (.finite a) (.finite b) op = (op.apply rule a b).map .finite := by
  cases op with
  | plus =>
    change Stop.ofArithmetic ((a.addWithinBounds b).map finite) = _
    rw [Decimal.addWithinBounds_eq ha hb hroom]
    rfl
  | minus =>
    change Stop.ofArithmetic ((a.addWithinBounds (-b)).map finite) = _
    rw [Decimal.addWithinBounds_eq ha hb.neg hroom]
    rfl
  | times =>
    change Stop.ofArithmetic ((a.mulWithinBounds b).map finite) = _
    rw [Decimal.mulWithinBounds_eq ha hb hroom]
    rfl
  | divide =>
    have hdivide : divide rule (.finite a) (.finite b) = (a.divide rule b).map finite := by
      change a.divide rule b >>= (pure ∘ finite) = _
      cases a.divide rule b <;> rfl
    have hzero : equalsZero (.finite b) = .ok b.isZero := rfl
    rw [operate, Operator.apply, hdivide, hzero]
    cases b.isZero with
    | true => rfl
    | false => cases a.divide rule b <;> rfl

/-- So does the operator of a text. -/
theorem Extended.applySymbol_finite (symbol : String) (ha : a.HasWidth m) (hb : b.HasWidth n)
    (hroom : (m + n : Int) < Decimal.greatestDistance) :
    applySymbol rule symbol (.finite a) (.finite b) =
      (LedgerAmount.applySymbol rule symbol a b).map .finite := by
  rw [applySymbol, LedgerAmount.applySymbol]
  cases Operator.ofSymbol symbol with
  | error stop => rfl
  | ok op => exact operate_finite op ha hb hroom

/-! ## Sequences -/

/-- How much longer a token can make the operands. -/
def Token.width (rule : DivisionRule) : Token → Nat
  | .number _ value => value.width
  | .operator _ => digitLimit + rule.scale
  | .leftParen _ | .rightParen _ => 0

/-- How long the operands of a sequence can get together. -/
def totalWidth (rule : DivisionRule) (tokens : List Token) : Nat :=
  (tokens.map (Token.width rule)).sum

/-- Whole numbers, numbers with places behind the point, and tokens of other kinds. -/
def Token.IsPlain : Token → Prop
  | .number _ value => value.exponent ≤ 0
  | _ => True

instance : (token : Token) → Decidable token.IsPlain
  | .number _ value => inferInstanceAs (Decidable (value.exponent ≤ 0))
  | .operator _ | .leftParen _ | .rightParen _ => inferInstanceAs (Decidable True)

namespace OperandStack

/-- Operands that are not longer than `n` together. -/
inductive HaveWidth : Nat → OperandStack Decimal → Prop
  | nil : HaveWidth 0 []
  | cons {m n : Nat} {latest : Decimal} {others : OperandStack Decimal} (width : latest.HasWidth m)
      (widths : HaveWidth n others) : HaveWidth (m + n) (latest :: others)

variable {stack next : OperandStack Decimal} {token : Token} {tokens : List Token}

/-- A step makes the operands longer by no more than the width of the token. -/
theorem Takes.haveWidth (h : Takes (.exact rule) stack token next) (hplain : token.IsPlain)
    (hstack : HaveWidth n stack) : HaveWidth (n + token.width rule) next := by
  cases h with
  | number text value =>
    rw [Nat.add_comm]
    exact .cons (Decimal.hasWidth_width hplain) hstack
  | operator applies =>
    obtain ⟨op, -, happly⟩ := exists_operator_of_apply applies
    cases hstack with
    | @cons j _ _ _ hright hrest =>
      cases hrest with
      | @cons k l _ _ hleft hrest =>
        have hsum : j + (k + l) + (digitLimit + rule.scale) =
            k + j + (digitLimit + rule.scale) + l := by omega
        rw [Token.width, hsum]
        exact .cons (Operator.hasWidth_of_apply happly hleft hright) hrest

/-- A run makes them longer by no more than the width of its tokens. -/
theorem run_haveWidth (hplain : ∀ t ∈ tokens, t.IsPlain) (hstack : HaveWidth n stack)
    (h : run (.exact rule) stack tokens = .ok next) :
    HaveWidth (n + totalWidth rule tokens) next := by
  induction tokens generalizing stack n with
  | nil =>
    cases h
    exact hstack
  | cons token tokens ih =>
    obtain ⟨stepped, htakes, hrest⟩ := run_cons_eq_ok_iff.mp h
    have hstepped := htakes.haveWidth (hplain token List.mem_cons_self) hstack
    rw [totalWidth, List.map_cons, List.sum_cons, ← Nat.add_assoc, ← totalWidth]
    exact ih (fun t ht => hplain t (List.mem_cons_of_mem _ ht)) hstepped hrest

/-- A step on operands that are not too long comes to the same within the bounds. -/
theorem step_bounded (hstack : HaveWidth n stack) (hroom : (n : Int) < Decimal.greatestDistance) :
    step (.bounded rule) (stack.map .finite) token =
      (step (.exact rule) stack token).map (List.map .finite) := by
  cases token with
  | number text value => rfl
  | leftParen text => rfl
  | rightParen text => rfl
  | operator symbol =>
    cases hstack with
    | nil => rfl
    | @cons _ _ right _ hright hrest =>
      cases hrest with
      | nil => rfl
      | @cons _ _ left _ hleft hrest =>
        have happly : Extended.applySymbol rule symbol (.finite left) (.finite right) =
            (applySymbol rule symbol left right).map .finite :=
          Extended.applySymbol_finite symbol hleft hright (by omega)
        simp only [step, Arithmetic.bounded, Arithmetic.exact, List.map_cons, happly]
        cases applySymbol rule symbol left right <;> rfl

/-- So does a run whose tokens leave enough room. -/
theorem run_bounded (hplain : ∀ t ∈ tokens, t.IsPlain) (hstack : HaveWidth n stack)
    (hroom : (n + totalWidth rule tokens : Int) < Decimal.greatestDistance) :
    run (.bounded rule) (stack.map .finite) tokens =
      (run (.exact rule) stack tokens).map (List.map .finite) := by
  induction tokens generalizing stack n with
  | nil => rfl
  | cons token tokens ih =>
    rw [totalWidth, List.map_cons, List.sum_cons, Nat.cast_add, ← totalWidth] at hroom
    rw [run_cons, run_cons, step_bounded hstack (by omega)]
    cases hstep : step (.exact rule) stack token with
    | error stop => rfl
    | ok next =>
      have htakes := step_eq_ok_iff.mp hstep
      refine ih (fun t ht => hplain t (List.mem_cons_of_mem _ ht))
        (htakes.haveWidth (hplain token List.mem_cons_self) hstack) ?_
      push_cast
      omega

end OperandStack

/-- The value of a sequence is not longer than its operands can get together. -/
theorem hasWidth_of_evaluatePostfix {tokens : List Token} (hplain : ∀ t ∈ tokens, t.IsPlain)
    (h : evaluatePostfix (.exact rule) tokens = .ok c) : c.HasWidth (totalWidth rule tokens) := by
  have hwidth :=
    OperandStack.run_haveWidth hplain .nil (OperandStack.evaluatePostfix_eq_ok_iff_run.mp h)
  rw [Nat.zero_add] at hwidth
  generalize totalWidth rule tokens = n at hwidth ⊢
  cases hwidth with
  | cons width widths => exact width.mono (Nat.le_add_right _ _)

/-- A sequence that is not too long has the same value within the bounds and without them, or is
stopped in the same way. -/
theorem evaluatePostfix_bounded {tokens : List Token} (hplain : ∀ t ∈ tokens, t.IsPlain)
    (hroom : (totalWidth rule tokens : Int) < Decimal.greatestDistance) :
    evaluatePostfix (.bounded rule) tokens =
      (evaluatePostfix (.exact rule) tokens).map .finite := by
  have hrun := OperandStack.run_bounded hplain .nil (by simpa using hroom)
  change OperandStack.run (.bounded rule) ([] : OperandStack Extended) tokens >>= _ = _
  rw [show ([] : OperandStack Extended) = ([] : OperandStack Decimal).map .finite from rfl, hrun]
  change _ = (OperandStack.run (.exact rule) [] tokens >>= _).map _
  cases OperandStack.run (.exact rule) [] tokens with
  | error stop => rfl
  | ok stack =>
    rcases stack with _ | ⟨value, _ | ⟨other, rest⟩⟩
    all_goals rfl

/-! ## Texts -/

/-- A row of digits is less than a one with as many zeros. -/
theorem ofDigits_lt {cs : List Char} (h : ∀ c ∈ cs, c.isDigit = true) :
    ofDigits cs < powerOfTen cs.length := by
  induction cs using List.reverseRecOn with
  | nil => decide
  | append_singleton cs c ih =>
    have hdigit := toNat_of_isDigit (h c (by simp))
    have hcs := ih fun d hd => h d (by simp [hd])
    rw [ofDigits_append_singleton, List.length_append, List.length_singleton, powerOfTen_succ]
    omega

/-- What a literal shows is not longer than the literal. -/
theorem Decimal.hasWidth_asTyped (cs : List Char) : (asTyped cs).HasWidth cs.length := by
  have hdigits : ofDigits (cs.filter Char.isDigit) < powerOfTen (cs.filter Char.isDigit).length :=
    ofDigits_lt fun c hc => (List.mem_filter.mp hc).2
  have hplaces := List.length_dropWhile_le (· != '.') cs
  refine ⟨hdigits.trans_le (powerOfTen_le (List.length_filter_le _ _)), ?_, ?_⟩
  · simp only [asTyped, List.length_drop]
    omega
  · simp only [asTyped]
    omega

theorem Decimal.HasWidth.width_le {d : Decimal} (h : d.HasWidth n) (hn : 0 < n) : d.width ≤ n := by
  have hdigits := (length_digitsOf_le_iff hn).mpr h.coefficient_lt
  have hplaces := h.neg_le_exponent
  simp only [width]
  omega

theorem Token.IsTyped.isPlain {token : Token} (h : token.IsTyped) : token.IsPlain := by
  cases token with
  | number text value =>
    rw [h.eq_asTyped]
    exact (Decimal.hasWidth_asTyped _).exponent_le
  | _ => trivial

/-- A typed token makes the operands longer by no more than as many quotients as its text has
characters. -/
theorem Token.IsTyped.width_le {token : Token} (h : token.IsTyped) :
    token.width rule ≤ token.text.length * (digitLimit + rule.scale) := by
  have hlimit : 0 < digitLimit := by decide
  have hpos : 0 < token.text.length := Nat.pos_of_ne_zero h.length_ne_zero
  cases token with
  | number text value =>
    rw [h.eq_asTyped]
    change (Decimal.asTyped text.toList).width ≤ text.length * (digitLimit + rule.scale)
    calc
      (Decimal.asTyped text.toList).width ≤ text.toList.length :=
        (Decimal.hasWidth_asTyped _).width_le (String.length_toList ▸ hpos)
      _ = text.length := String.length_toList
      _ ≤ text.length * (digitLimit + rule.scale) := Nat.le_mul_of_pos_right _ (by omega)
  | operator symbol => exact Nat.le_mul_of_pos_left _ hpos
  | leftParen text => exact Nat.zero_le _
  | rightParen text => exact Nat.zero_le _

/-- The lexemes of a text are not longer than the text. -/
theorem sum_length_lexemes_le (text : String) :
    ((lexemes text).map String.length).sum ≤ text.length := by
  calc
    ((lexemes text).map String.length).sum = (lexemeChars text.toList).flatten.length := by
      simp [lexemes, Function.comp_def]
    _ = ((pieces text.toList).map (List.length ∘ Text.strip)).sum := by
      rw [lexemeChars, List.flatten_filter_not_isEmpty, List.length_flatten, List.map_map]
    _ ≤ ((pieces text.toList).map List.length).sum :=
      List.sum_le_sum fun piece _ => (Text.strip_sublist piece).length_le
    _ = text.length := by rw [← List.length_flatten, flatten_pieces, String.length_toList]

/-- The operands of a text do not get longer than as many quotients as the text has characters. -/
theorem totalWidth_le {text : String} {tokens : List Token} (ht : tokenize text = .ok tokens) :
    totalWidth rule tokens ≤ text.length * (digitLimit + rule.scale) := by
  obtain ⟨htexts, htyped⟩ := tokenize_eq_ok_iff.mp ht
  calc
    totalWidth rule tokens ≤
        (tokens.map fun t => t.text.length * (digitLimit + rule.scale)).sum :=
      List.sum_le_sum fun t hmem => (htyped t hmem).width_le
    _ = ((tokens.map Token.text).map String.length).sum * (digitLimit + rule.scale) := by
      rw [List.sum_map_mul_right, List.map_map]
      rfl
    _ ≤ text.length * (digitLimit + rule.scale) :=
      Nat.mul_le_mul_right _ (htexts ▸ sum_length_lexemes_le text)

/-- The numbers of a text are whole or have places behind the point, in whatever order. -/
theorem isPlain_of_toPostfix {text : String} {tokens ordered : List Token}
    (ht : tokenize text = .ok tokens) (ho : toPostfix tokens = .ok ordered) :
    ∀ t ∈ ordered, t.IsPlain := fun t hmem =>
  (isTyped_of_tokenize ht t ((Reordering.reordered_of_toPostfix ho).subset t hmem)).isPlain

/-- Bounds of exponents make no difference to a text that is not too long: this is why the
arithmetic of expressions does without them. -/
theorem evaluatePostfix_bounded_of_tokenize {text : String} {tokens ordered : List Token}
    (ht : tokenize text = .ok tokens) (ho : toPostfix tokens = .ok ordered)
    (hroom : ((text.length * (digitLimit + rule.scale) : Nat) : Int) < Decimal.greatestDistance) :
    evaluatePostfix (.bounded rule) ordered =
      (evaluatePostfix (.exact rule) ordered).map .finite := by
  have hwidth : totalWidth rule ordered ≤ totalWidth rule tokens := by
    obtain ⟨others, hperm, hsublist⟩ := (Reordering.reordered_of_toPostfix ho).subperm
    rw [totalWidth, ← (hperm.map _).sum_eq]
    exact (hsublist.map _).sum_le_sum fun _ _ => Nat.zero_le _
  exact evaluatePostfix_bounded (isPlain_of_toPostfix ht ho)
    ((Int.ofNat_le.mpr (hwidth.trans (totalWidth_le ht))).trans_lt hroom)

end LedgerAmount

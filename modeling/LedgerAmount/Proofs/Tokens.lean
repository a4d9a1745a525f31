import LedgerAmount.Expression.Given
import LedgerAmount.Expression.Outcome
import LedgerAmount.Proofs.Lexemes
import LedgerAmount.Proofs.Stopping

/-!
# The tokens of a text

A token that comes from a text is the token of its own text: a number with the value that was typed,
one of the four operators, or a parenthesis. Tokens are selected and counted by their kind, whatever
their text is.
-/

namespace LedgerAmount

/-! ## Tokens that are typed -/

/-- Only the four operators have a symbol. -/
theorem Operator.ofSymbol?_eq_some_iff {s : String} {op : Operator} :
    ofSymbol? s = some op ↔ s = op.symbol := by
  constructor
  · intro h
    rw [ofSymbol?] at h
    have hsymbol := List.find?_some h
    exact (eq_of_beq hsymbol).symm
  · rintro rfl
    exact ofSymbol?_symbol op

theorem Operator.symbol_injective : Function.Injective symbol := by
  intro op other h
  simpa using congrArg ofSymbol? h

namespace Token

@[simp] theorem kind_number (text : String) (value : Decimal) :
    (number text value).kind = .number := rfl
@[simp] theorem kind_operator (text : String) : (operator text).kind = .operator := rfl
@[simp] theorem kind_leftParen (text : String) : (leftParen text).kind = .leftParen := rfl
@[simp] theorem kind_rightParen (text : String) : (rightParen text).kind = .rightParen := rfl

theorem isOperator_iff {token : Token} : token.isOperator = true ↔ token.kind = .operator := by
  cases token <;> simp [isOperator]

theorem isLeftParen_iff {token : Token} : token.isLeftParen = true ↔ token.kind = .leftParen := by
  cases token <;> simp [isLeftParen]

theorem not_isLeftParen_iff {token : Token} :
    (!token.isLeftParen) = true ↔ token.kind ≠ .leftParen := by
  cases token <;> simp [isLeftParen]

/-- A token that a lexeme stands for: the one of its own text. -/
def IsTyped (token : Token) : Prop := ofLexeme? token.text = some token

instance (token : Token) : Decidable token.IsTyped :=
  inferInstanceAs (Decidable (ofLexeme? token.text = some token))

/-- A typed token is a literal with its value, one of the four operators, or a parenthesis. -/
theorem IsTyped.cases {token : Token} (h : token.IsTyped) :
    (∃ text value, Decimal.ofLiteral? text = some value ∧ token = number text value) ∨
      (∃ op : Operator, token = operator op.symbol) ∨
      token = leftParen "(" ∨ token = rightParen ")" := by
  rw [IsTyped] at h
  generalize token.text = lexeme at h
  unfold ofLexeme? at h
  split at h
  next hop =>
    obtain ⟨op, hop⟩ := Option.isSome_iff_exists.mp hop
    rw [Operator.ofSymbol?_eq_some_iff] at hop
    subst hop
    exact .inr (.inl ⟨op, (Option.some.inj h).symm⟩)
  next =>
    split at h
    next hleft => subst hleft; exact .inr (.inr (.inl (Option.some.inj h).symm))
    next =>
      split at h
      next hright => subst hright; exact .inr (.inr (.inr (Option.some.inj h).symm))
      next =>
        obtain ⟨value, hvalue, rfl⟩ := Option.map_eq_some_iff.mp h
        exact .inl ⟨lexeme, value, hvalue, rfl⟩

/-- A token that is no operator other than the four. Its text may be any if it is no operator. -/
def IsRanked (token : Token) : Prop :=
  token.kind = .operator → ∃ op : Operator, token = operator op.symbol

/-- A number of any text, or one of the four operators: what an evaluation can take in. -/
def IsEvaluable (token : Token) : Prop :=
  token.kind = .number ∨ ∃ op : Operator, token = operator op.symbol

/-- A typed operator token is one of the four operators. -/
theorem IsTyped.isRanked {token : Token} (h : token.IsTyped) : token.IsRanked := by
  intro hop
  rcases h.cases with ⟨text, value, -, rfl⟩ | hop' | rfl | rfl
  · cases hop
  · exact hop'
  · cases hop
  · cases hop

theorem IsRanked.isEvaluable {token : Token} (h : token.IsRanked)
    (hkind : token.kind = .number ∨ token.kind = .operator) : token.IsEvaluable :=
  hkind.imp_right h

/-- A number is typed exactly if its text is a literal of its value. -/
theorem isTyped_number_iff {text : String} {value : Decimal} :
    (number text value).IsTyped ↔ Decimal.ofLiteral? text = some value := by
  constructor
  · intro h
    rcases h.cases with ⟨_, _, hvalue, h⟩ | ⟨op, h⟩ | h | h <;> cases h
    exact hvalue
  · intro h
    have hliteral : (Decimal.ofLiteral? text).isSome = true := by simp [h]
    have hsymbol : Operator.ofSymbol? text = none := by
      rw [Option.eq_none_iff_forall_ne_some]
      intro op hop
      rw [Operator.ofSymbol?_eq_some_iff] at hop
      subst hop
      revert hliteral
      cases op <;> decide
    have hparens : text ≠ "(" ∧ text ≠ ")" := by
      constructor <;> rintro rfl <;> exact absurd hliteral (by decide)
    simp [IsTyped, ofLexeme?, Token.text, hsymbol, hparens, h]

/-- A typed number has the value that its text shows. -/
theorem IsTyped.eq_asTyped {text : String} {value : Decimal} (h : (number text value).IsTyped) :
    value = .asTyped text.toList :=
  Decimal.eq_asTyped_of_ofLiteral? (isTyped_number_iff.mp h)

/-- A typed token has a text. -/
theorem IsTyped.length_ne_zero {token : Token} (h : token.IsTyped) : token.text.length ≠ 0 := by
  intro hlength
  rw [IsTyped, String.length_eq_zero_iff.mp hlength] at h
  cases h

theorem operator_eq_divide_iff {op : Operator} :
    operator op.symbol = operator "/" ↔ op = .divide := by
  cases op <;> decide

theorem isTyped_operator (op : Operator) : (operator op.symbol).IsTyped := by
  cases op <;> decide

/-- The token of a lexeme keeps the lexeme as its text. -/
theorem text_of_ofLexeme? {lexeme : String} {token : Token} (h : ofLexeme? lexeme = some token) :
    token.text = lexeme := by
  unfold ofLexeme? at h
  split at h
  next => cases h; rfl
  next =>
    split at h
    next => cases h; rfl
    next =>
      split at h
      next => cases h; rfl
      next =>
        obtain ⟨value, -, rfl⟩ := Option.map_eq_some_iff.mp h
        rfl

theorem ofLexeme_eq_ok_iff {lexeme : String} {token : Token} :
    ofLexeme lexeme = .ok token ↔ ofLexeme? lexeme = some token := by
  unfold ofLexeme
  cases ofLexeme? lexeme <;> simp

end Token

/-- A lexeme that means something: an operator, a parenthesis or a literal. -/
def IsMeaningful (lexeme : String) : Prop :=
  (∃ op : Operator, lexeme = op.symbol) ∨ lexeme = "(" ∨ lexeme = ")" ∨
    Decimal.IsLiteral lexeme.toList

namespace Token

/-- The lexemes with a meaning are those that have a token. -/
theorem exists_ofLexeme?_iff {lexeme : String} :
    (∃ token, ofLexeme? lexeme = some token) ↔ IsMeaningful lexeme := by
  rw [IsMeaningful, ← Decimal.exists_ofLiteral?_iff]
  constructor
  · intro h
    obtain ⟨token, h⟩ := h
    have htext := text_of_ofLexeme? h
    subst htext
    have htyped : token.IsTyped := h
    rcases htyped.cases with ⟨text, value, hvalue, rfl⟩ | ⟨op, rfl⟩ | rfl | rfl
    · exact .inr (.inr (.inr ⟨value, hvalue⟩))
    · exact .inl ⟨op, rfl⟩
    · exact .inr (.inl rfl)
    · exact .inr (.inr (.inl rfl))
  · intro h
    rcases h with ⟨op, rfl⟩ | rfl | rfl | ⟨value, hvalue⟩
    · exact ⟨_, isTyped_operator op⟩
    · exact ⟨.leftParen "(", rfl⟩
    · exact ⟨.rightParen ")", rfl⟩
    · exact ⟨_, isTyped_number_iff.mpr hvalue⟩

theorem ofLexeme_eq_error_iff {lexeme : String} {why : Rejection} :
    ofLexeme lexeme = .error why ↔ ¬IsMeaningful lexeme ∧ why = .unknownSymbol lexeme := by
  rw [← exists_ofLexeme?_iff, ofLexeme]
  cases ofLexeme? lexeme <;> simp [eq_comm]

end Token

/-- The tokens of a text are the tokens of its lexemes, each with its lexeme as its text. -/
theorem tokenize_eq_ok_iff {text : String} {tokens : List Token} :
    tokenize text = .ok tokens ↔
      tokens.map Token.text = lexemes text ∧ ∀ token ∈ tokens, token.IsTyped := by
  rw [tokenize, mapM_eq_ok_iff]
  generalize lexemes text = words
  simp only [Token.ofLexeme_eq_ok_iff]
  constructor
  · intro h
    induction h with
    | nil => simp
    | @cons lexeme token words tokens hword _ ih =>
      have htext := Token.text_of_ofLexeme? hword
      subst htext
      simpa [ih.1, Token.IsTyped, hword] using ih.2
  · intro h
    obtain ⟨rfl, htyped⟩ := h
    induction tokens with
    | nil => simp
    | cons token tokens ih =>
      refine .cons (htyped token (by simp)) (ih ?_)
      intro other hother
      exact htyped other (by simp [hother])

/-- Every token of a text is typed. -/
theorem isTyped_of_tokenize {text : String} {tokens : List Token} (h : tokenize text = .ok tokens) :
    ∀ token ∈ tokens, token.IsTyped :=
  (tokenize_eq_ok_iff.mp h).2

/-- An operator among the tokens of a text is typed in it. -/
theorem char_mem_of_tokenize {text : String} {tokens : List Token} {op : Operator}
    (h : tokenize text = .ok tokens) (hop : .operator op.symbol ∈ tokens) :
    op.char ∈ text.toList := by
  have hlexeme : op.symbol ∈ lexemes text :=
    (tokenize_eq_ok_iff.mp h).1 ▸ List.mem_map_of_mem hop
  exact mem_of_mem_lexemes hlexeme (by cases op <;> decide)

/-- A text has tokens exactly if all of its lexemes mean something. -/
theorem exists_tokenize_iff {text : String} :
    (∃ tokens, tokenize text = .ok tokens) ↔ ∀ lexeme ∈ lexemes text, IsMeaningful lexeme := by
  simp only [tokenize, exists_mapM_eq_ok_iff, Token.ofLexeme_eq_ok_iff, Token.exists_ofLexeme?_iff]

/-- A text is turned down for the first of its lexemes that means nothing. -/
theorem tokenize_eq_error_iff {text : String} {why : Rejection} :
    tokenize text = .error why ↔ ∃ before lexeme after, lexemes text = before ++ lexeme :: after ∧
      (∀ earlier ∈ before, IsMeaningful earlier) ∧ ¬IsMeaningful lexeme ∧
      why = .unknownSymbol lexeme := by
  simp only [tokenize, mapM_eq_error_iff, Token.ofLexeme_eq_ok_iff, Token.exists_ofLexeme?_iff,
    Token.ofLexeme_eq_error_iff]

/-! ## Tokens of a kind -/

namespace Token

/-- The tokens of a kind, in order. -/
def select (kind : TokenKind) (tokens : List Token) : List Token :=
  tokens.filter (·.kind == kind)

/-- How many tokens of a kind there are. -/
def count (kind : TokenKind) (tokens : List Token) : Nat := (select kind tokens).length

variable (kind : TokenKind) (token : Token) (tokens others : List Token)

@[simp] theorem select_nil : select kind [] = [] := rfl

theorem select_cons : select kind (token :: tokens) =
    if token.kind = kind then token :: select kind tokens else select kind tokens := by
  simp [select, List.filter_cons]

@[simp] theorem select_append :
    select kind (tokens ++ others) = select kind tokens ++ select kind others :=
  List.filter_append ..

@[simp] theorem select_reverse : select kind tokens.reverse = (select kind tokens).reverse :=
  List.filter_reverse ..

variable {kind tokens others} in
theorem select_perm (h : tokens.Perm others) : (select kind tokens).Perm (select kind others) :=
  h.filter _

variable {kind token tokens} in
theorem mem_select : token ∈ select kind tokens ↔ token ∈ tokens ∧ token.kind = kind := by
  simp [select]

@[simp] theorem count_nil : count kind [] = 0 := rfl

theorem count_cons : count kind (token :: tokens) =
    count kind tokens + if token.kind = kind then 1 else 0 := by
  rw [count, select_cons]
  split <;> simp [count]

@[simp] theorem count_append :
    count kind (tokens ++ others) = count kind tokens + count kind others := by
  simp [count]

@[simp] theorem count_reverse : count kind tokens.reverse = count kind tokens := by
  simp [count]

variable {kind tokens others} in
theorem count_perm (h : tokens.Perm others) : count kind tokens = count kind others :=
  (select_perm h).length_eq

variable {kind tokens} in
theorem select_eq_nil : select kind tokens = [] ↔ ∀ t ∈ tokens, t.kind ≠ kind := by
  simp [select, List.filter_eq_nil_iff]

variable {kind tokens} in
theorem count_eq_zero : count kind tokens = 0 ↔ ∀ t ∈ tokens, t.kind ≠ kind := by
  rw [count, List.length_eq_zero_iff, select_eq_nil]

/-- The tokens other than parentheses, in order. -/
def withoutParens (tokens : List Token) : List Token :=
  tokens.filter fun t => t.kind = .number ∨ t.kind = .operator

/-- They are the numbers and the operators. -/
theorem select_append_select_perm :
    (select .number tokens ++ select .operator tokens).Perm (withoutParens tokens) := by
  induction tokens with
  | nil => rfl
  | cons t tokens ih =>
    cases t with
    | number text value => exact ih.cons _
    | operator text => exact List.perm_middle.trans (ih.cons _)
    | leftParen text => exact ih
    | rightParen text => exact ih

variable {tokens} in
theorem withoutParens_eq_self (h : ∀ t ∈ tokens, t.kind = .number ∨ t.kind = .operator) :
    withoutParens tokens = tokens :=
  List.filter_eq_self.mpr fun t ht => decide_eq_true (h t ht)

/-- Some part from the start closes more than it opens. -/
def ClosesEarly (tokens : List Token) : Prop :=
  ∃ before after, tokens = before ++ after ∧ count .leftParen before < count .rightParen before

/-- Parentheses that pair up: no part from the start closes more than it opens, and all that is
opened is closed. -/
structure Balanced (tokens : List Token) : Prop where
  closed_le : ∀ before after, tokens = before ++ after →
    count .rightParen before ≤ count .leftParen before
  opened_eq : count .leftParen tokens = count .rightParen tokens

variable {tokens} in
theorem any_isLeftParen_iff :
    tokens.any (·.isLeftParen) = true ↔ count .leftParen tokens ≠ 0 := by
  simp [count_eq_zero, isLeftParen_iff]

variable {tokens} in
theorem balanced_iff : Balanced tokens ↔
    ¬ClosesEarly tokens ∧ count .leftParen tokens = count .rightParen tokens := by
  constructor
  · intro h
    refine ⟨?_, h.opened_eq⟩
    rintro ⟨before, after, hsplit, hlt⟩
    have hle := h.closed_le before after hsplit
    omega
  · intro h
    refine ⟨fun before after hsplit => ?_, h.2⟩
    exact not_lt.mp fun hlt => h.1 ⟨before, after, hsplit, hlt⟩

end Token

end LedgerAmount

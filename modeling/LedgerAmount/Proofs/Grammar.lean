import LedgerAmount.Proofs.Exactness
import LedgerAmount.Proofs.Reordering
import LedgerAmount.Proofs.Tree
import LedgerAmount.Settings.EvaluatorSettings

/-!
# The grammar of infix expressions

An expression is a sum of terms, a term a product of factors, and a factor a number or an expression
in parentheses; sums and products lean to the left. A conversion to postfix order reads every phrase
of the grammar as the tree of its derivation, so evaluating a text gives the value of that tree.
-/

namespace LedgerAmount

/-- The phrases of the grammar. -/
inductive Phrase where
  | expression
  | term
  | factor
  deriving DecidableEq, Repr

/-- The least precedence of an operator between the parts of a phrase; nothing binds a factor. -/
def Phrase.rank : Phrase → Nat
  | expression => 1
  | term => 2
  | factor => 3

/-- The derivations of the grammar, each with its tree. -/
inductive Derives : Phrase → List Token → Tree → Prop
  | number (text : String) (value : Decimal) :
      Derives .factor [.number text value] (.number text value)
  | group {tokens : List Token} {tree : Tree} (inner : Derives .expression tokens tree) :
      Derives .factor (.leftParen "(" :: (tokens ++ [.rightParen ")"])) tree
  | factor {tokens : List Token} {tree : Tree} (whole : Derives .factor tokens tree) :
      Derives .term tokens tree
  | product {lefts rights : List Token} {left right : Tree} (op : Operator)
      (multiplies : op = .times ∨ op = .divide) (first : Derives .term lefts left)
      (last : Derives .factor rights right) :
      Derives .term (lefts ++ .operator op.symbol :: rights) (.binary op left right)
  | term {tokens : List Token} {tree : Tree} (whole : Derives .term tokens tree) :
      Derives .expression tokens tree
  | sum {lefts rights : List Token} {left right : Tree} (op : Operator)
      (adds : op = .plus ∨ op = .minus) (first : Derives .expression lefts left)
      (last : Derives .term rights right) :
      Derives .expression (lefts ++ .operator op.symbol :: rights) (.binary op left right)

namespace Token

/-- A token is one of the operators of a precedence or a higher one. -/
def BindsFrom (rank : Nat) (token : Token) : Prop :=
  ∃ op : Operator, token = .operator op.symbol ∧ rank ≤ op.precedence

/-- A token is no operator, or one of a lower precedence. -/
def BindsBelow (rank : Nat) (token : Token) : Prop :=
  token.kind = .operator → ∃ op : Operator, token = .operator op.symbol ∧ op.precedence < rank

end Token

namespace Reordering

open Token

/-- An operator that arrives places the operators that bind at least as tightly. -/
theorem takes_operator (op : Operator) {placed pending waiting : List Token}
    (hp : ∀ t ∈ pending, t.BindsFrom op.precedence)
    (hw : ∀ t ∈ waiting.head?, t.BindsBelow op.precedence) :
    Takes ⟨placed, pending ++ waiting⟩ (.operator op.symbol)
      ⟨pending.reverse ++ placed, .operator op.symbol :: waiting⟩ := by
  refine .operator op.symbol ?_ ?_
  · intro t ht
    obtain ⟨standing, rfl, hle⟩ := hp t ht
    exact ⟨rfl, _, _, precedence_operator standing, precedence_operator op, hle⟩
  · intro t ht hop
    obtain ⟨standing, rfl, hlt⟩ := hw t ht hop
    exact ⟨_, _, precedence_operator standing, precedence_operator op, hlt⟩

/-- Tokens read as a tree: put upon a stack whose top binds below the rank, they leave pending
operators of the rank, and placing these as well completes the tokens of the tree. -/
def ReadsAs (rank : Nat) (tokens : List Token) (tree : Tree) : Prop :=
  ∀ placed waiting, (∀ t ∈ waiting.head?, t.BindsBelow rank) → ∃ done pending,
    run ⟨placed, waiting⟩ tokens = .ok ⟨done, pending ++ waiting⟩ ∧
    (∀ t ∈ pending, t.BindsFrom rank) ∧
    pending.reverse ++ done = tree.postorder.reverse ++ placed

theorem readsAs_number (rank : Nat) (text : String) (value : Decimal) :
    ReadsAs rank [.number text value] (.number text value) := by
  intro placed waiting _
  exact ⟨.number text value :: placed, [], rfl, by simp, rfl⟩

theorem ReadsAs.of_succ {rank : Nat} {tokens : List Token} {tree : Tree}
    (h : ReadsAs (rank + 1) tokens tree) : ReadsAs rank tokens tree := by
  intro placed waiting hw
  have hbelow : ∀ t ∈ waiting.head?, t.BindsBelow (rank + 1) := by
    intro t ht hop
    obtain ⟨op, rfl, hlt⟩ := hw t ht hop
    exact ⟨op, rfl, by omega⟩
  obtain ⟨done, pending, hrun, hpending, hplaced⟩ := h placed waiting hbelow
  refine ⟨done, pending, hrun, ?_, hplaced⟩
  intro t ht
  obtain ⟨op, rfl, hle⟩ := hpending t ht
  exact ⟨op, rfl, by omega⟩

/-- The open parenthesis keeps what waits below it out of the group, and closing the group places
all that is pending in it. -/
theorem ReadsAs.group {rank outer : Nat} {tokens : List Token} {tree : Tree}
    (h : ReadsAs rank tokens tree) :
    ReadsAs outer (.leftParen "(" :: (tokens ++ [.rightParen ")"])) tree := by
  intro placed waiting _
  have hbarrier : ∀ t ∈ (.leftParen "(" :: waiting : List Token).head?, t.BindsBelow rank := by
    rintro t ⟨⟩ hop
    cases hop
  obtain ⟨done, pending, hrun, hpending, hplaced⟩ := h placed _ hbarrier
  refine ⟨tree.postorder.reverse ++ placed, [], ?_, by simp, rfl⟩
  refine run_cons_eq_ok_iff.mpr ⟨_, .leftParen "(", ?_⟩
  refine run_append_eq_ok_iff.mpr ⟨_, hrun, run_cons_eq_ok_iff.mpr ⟨_, ?_, rfl⟩⟩
  have hinner : ∀ t ∈ pending, t.kind ≠ .leftParen := by
    intro t ht
    obtain ⟨op, rfl, -⟩ := hpending t ht
    simp
  rw [← hplaced]
  exact .rightParen ")" hinner rfl

/-- The operator between two parts places what is pending from the left part, and waits below what
is pending from the right one. -/
theorem ReadsAs.binary {lefts rights : List Token} {left right : Tree} (op : Operator)
    (hl : ReadsAs op.precedence lefts left) (hr : ReadsAs (op.precedence + 1) rights right) :
    ReadsAs op.precedence (lefts ++ .operator op.symbol :: rights) (.binary op left right) := by
  intro placed waiting hw
  obtain ⟨done, pending, hrun, hpending, hplaced⟩ := hl placed waiting hw
  have hbelow : ∀ t ∈ (.operator op.symbol :: waiting : List Token).head?,
      t.BindsBelow (op.precedence + 1) := by
    rintro t ⟨⟩ -
    exact ⟨op, rfl, by omega⟩
  -- the operator has placed all that was pending, and waits alone below the right part
  obtain ⟨done', pending', hrun', hpending', hplaced'⟩ :=
    hr (pending.reverse ++ done) (.operator op.symbol :: waiting) hbelow
  refine ⟨done', pending' ++ [.operator op.symbol], ?_, ?_, ?_⟩
  · rw [run_append_eq_ok_iff]
    refine ⟨_, hrun, run_cons_eq_ok_iff.mpr ⟨_, takes_operator op hpending hw, ?_⟩⟩
    simpa using hrun'
  · intro t ht
    rcases List.mem_append.mp ht with ht | ht
    · obtain ⟨standing, rfl, hle⟩ := hpending' t ht
      exact ⟨standing, rfl, by omega⟩
    · exact ⟨op, List.mem_singleton.mp ht, by omega⟩
  · calc
      (pending' ++ [operator op.symbol]).reverse ++ done' =
          operator op.symbol :: (pending'.reverse ++ done') := by simp
      _ = operator op.symbol :: (right.postorder.reverse ++ (pending.reverse ++ done)) := by
        rw [hplaced']
      _ = operator op.symbol :: (right.postorder.reverse ++
          (left.postorder.reverse ++ placed)) := by rw [hplaced]
      _ = (Tree.binary op left right).postorder.reverse ++ placed := by simp [Tree.postorder]

end Reordering

namespace Derives

open Reordering

/-- Every phrase reads as the tree of its derivation. -/
theorem readsAs {phrase : Phrase} {tokens : List Token} {tree : Tree}
    (h : Derives phrase tokens tree) : ReadsAs phrase.rank tokens tree := by
  induction h with
  | number text value => exact readsAs_number _ text value
  | group _ ih => exact ih.group
  | factor _ ih => exact ih.of_succ
  | product op multiplies _ _ ihl ihr =>
    rcases multiplies with rfl | rfl
    · exact ihl.binary .times ihr
    · exact ihl.binary .divide ihr
  | term _ ih => exact ih.of_succ
  | sum op adds _ _ ihl ihr =>
    rcases adds with rfl | rfl
    · exact ihl.binary .plus ihr
    · exact ihl.binary .minus ihr

/-- The postfix order of an expression lists its tree. -/
theorem toPostfix_eq {tokens : List Token} {tree : Tree} (h : Derives .expression tokens tree) :
    toPostfix tokens = .ok tree.postorder := by
  obtain ⟨done, pending, hrun, hpending, hplaced⟩ := h.readsAs [] [] (by simp)
  rw [List.append_nil] at hrun hplaced
  refine toPostfix_eq_ok_iff.mpr ⟨_, hrun, ?_, ?_⟩
  · rw [Token.count_eq_zero]
    intro t ht
    obtain ⟨op, rfl, -⟩ := hpending t ht
    simp
  · rw [← List.reverse_inj]
    simpa using hplaced.symm

end Derives

/-- The value of a list of tokens: that of its postfix order. -/
def evaluateTokens (rule : DivisionRule) (tokens : List Token) : Except Stop Decimal := do
  let ordered ← toPostfix tokens
  evaluatePostfix (.exact rule) ordered

/-- The value of a text is that of its tokens. -/
theorem evaluateText_eq {rule : DivisionRule} {text : String} {tokens : List Token}
    (h : tokenize text = .ok tokens) : evaluateText rule text = evaluateTokens rule tokens := by
  rw [evaluateText, h]
  rfl

/-- A postfix sequence that lists a tree has the value of the tree, or stops where the tree does. -/
theorem evaluatePostfix_postorder (rule : DivisionRule) (tree : Tree) :
    evaluatePostfix (.exact rule) tree.postorder = tree.value rule := by
  change OperandStack.run (.exact rule) [] tree.postorder >>= _ = _
  rw [OperandStack.run_postorder]
  cases tree.value rule <;> rfl

/-- An expression of the grammar has the value of its tree, or stops where the tree does. -/
theorem Derives.evaluateTokens_eq {tokens : List Token} {tree : Tree}
    (h : Derives .expression tokens tree) (rule : DivisionRule) :
    evaluateTokens rule tokens = tree.value rule := by
  rw [evaluateTokens, h.toPostfix_eq, ← evaluatePostfix_postorder]
  rfl

/-- Evaluating an expression of the grammar gives what its derivation tree gives: the value, or the
first stop with left operands before right ones. The leaves of the tree are the literals, exactly as
they are typed, and the operators round nothing but quotients. -/
theorem evaluate_of_derives (settings : EvaluatorSettings) {text : String} {tokens : List Token}
    {tree : Tree} (ht : tokenize text = .ok tokens) (hd : Derives .expression tokens tree) :
    (∀ literal value, .number literal value ∈ tokens → value = .asTyped literal.toList) ∧
      (∀ (op : Operator) a b, op.Gives settings.rule a b (op.apply settings.rule a b)) ∧
      evaluate settings.rule text = Outcome.ofEvaluation text (tree.value settings.rule) := by
  refine ⟨?_, ?_, ?_⟩
  · intro literal value hmem
    exact (isTyped_of_tokenize ht _ hmem).eq_asTyped
  · intro op a b
    exact op.apply_gives settings.rule a b
  · rw [evaluate, evaluateText_eq ht, hd.evaluateTokens_eq]

/-- Differences lean to the left, and a quotient by a group comes before both. -/
theorem evaluate_of_derives_differences :
    let tokens : List Token := [.number "7" ⟨false, 7, 0⟩, .operator "-",
      .number "2" ⟨false, 2, 0⟩, .operator "-", .number "6" ⟨false, 6, 0⟩, .operator "/",
      .leftParen "(", .number "1" ⟨false, 1, 0⟩, .operator "+", .number "1" ⟨false, 1, 0⟩,
      .rightParen ")"]
    let tree : Tree := .binary .minus
      (.binary .minus (.number "7" ⟨false, 7, 0⟩) (.number "2" ⟨false, 2, 0⟩))
      (.binary .divide (.number "6" ⟨false, 6, 0⟩)
        (.binary .plus (.number "1" ⟨false, 1, 0⟩) (.number "1" ⟨false, 1, 0⟩)))
    tokenize "7 - 2 - 6/(1+1)" = .ok tokens ∧ Derives .expression tokens tree ∧
      evaluate EvaluatorSettings.default.rule "7 - 2 - 6/(1+1)" =
        .ok ⟨"7 - 2 - 6/(1+1)", .ok ⟨false, 20000000000, -10⟩⟩ := by
  intro tokens tree
  have ht : tokenize "7 - 2 - 6/(1+1)" = .ok tokens := by decide +kernel
  have hone : Derives .term [.number "1" ⟨false, 1, 0⟩] (.number "1" ⟨false, 1, 0⟩) :=
    .factor (.number ..)
  have hgroup := Derives.group (.sum .plus (.inl rfl) (.term hone) hone)
  have hquotient := Derives.product .divide (.inr rfl)
    (.factor (.number "6" ⟨false, 6, 0⟩)) hgroup
  have hdifference := Derives.sum .minus (.inr rfl)
    (.term (.factor (.number "7" ⟨false, 7, 0⟩))) (.factor (.number "2" ⟨false, 2, 0⟩))
  have hd : Derives .expression tokens tree :=
    .sum .minus (.inr rfl) hdifference hquotient
  have hvalue : tree.value EvaluatorSettings.default.rule = .ok ⟨false, 20000000000, -10⟩ := by
    decide +kernel
  refine ⟨ht, hd, (evaluate_of_derives .default ht hd).2.2.trans ?_⟩
  rw [hvalue]
  rfl

end LedgerAmount

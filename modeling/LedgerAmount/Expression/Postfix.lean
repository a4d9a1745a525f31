import LedgerAmount.Expression.Stop
import LedgerAmount.Expression.Token

/-!
# Postfix order

Reorders the tokens of an expression so that every operator follows its operands and parentheses
are no longer needed. Operators wait on a stack until one that binds no tighter arrives, a group is
closed, or the expression ends.
-/

namespace LedgerAmount

/-- The precedence of a token's text. -/
def Token.precedence (token : Token) : Except Defect Nat :=
  match Operator.ofSymbol? token.text with
  | some op => .ok op.precedence
  | none => .error (.unrankedOperator token.text)

/-- A conversion under way: the tokens already placed, the latest first, and the operators and open
parentheses that wait, the latest first. -/
structure Reordering where
  placed : List Token
  waiting : List Token
  deriving DecidableEq, Repr

namespace Reordering

/-- Nothing placed and nothing waiting. -/
def start : Reordering := ⟨[], []⟩

/-- Places the waiting operators, down to an open parenthesis, that bind at least as tightly as an
operator that arrives. -/
def release (incoming : Token) (placed : List Token) : List Token → Except Defect Reordering
  | [] => .ok ⟨placed, []⟩
  | top :: rest =>
    if top.isOperator then do
      let standing ← top.precedence
      let arriving ← incoming.precedence
      if arriving ≤ standing then release incoming (top :: placed) rest
      else .ok ⟨placed, top :: rest⟩
    else .ok ⟨placed, top :: rest⟩

/-- Places everything that waits above the latest open parenthesis, and drops that one. -/
def close (state : Reordering) : Except Rejection Reordering :=
  match state.waiting.dropWhile (!·.isLeftParen) with
  | [] => .error .strayClosing
  | _ :: rest =>
    .ok ⟨(state.waiting.takeWhile (!·.isLeftParen)).reverse ++ state.placed, rest⟩

/-- Takes in one token. -/
def step (state : Reordering) : Token → Except Stop Reordering
  | token@(.number ..) => .ok { state with placed := token :: state.placed }
  | token@(.operator _) => do
    let released ← (release token state.placed state.waiting).mapError .broken
    return { released with waiting := token :: released.waiting }
  | token@(.leftParen _) => .ok { state with waiting := token :: state.waiting }
  | .rightParen _ => state.close.mapError .rejected

/-- The postfix order after the last token: what waits follows what is placed. -/
def finish (state : Reordering) : Except Rejection (List Token) :=
  if state.waiting.any (·.isLeftParen) then .error .unclosed
  else .ok (state.placed.reverse ++ state.waiting)

end Reordering

/-- The tokens of an expression in postfix order. -/
def toPostfix (tokens : List Token) : Except Stop (List Token) := do
  let state ← tokens.foldlM Reordering.step .start
  state.finish.mapError .rejected

end LedgerAmount

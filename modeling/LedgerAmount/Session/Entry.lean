import LedgerAmount.Expression.Amount
import LedgerAmount.Session.Loading

/-!
# Entry

Evaluating expressions and taking amounts within a session: with the settings and the logger that
are given, or else with those of the session, and with a record of the outcome in the log.
-/

namespace LedgerAmount.Session

open Call

/-- Evaluates an expression. Settings are loaded before and, if no logger is given, one is made
after the evaluation. -/
def evaluate (text : String) (settings : Option EvaluatorSettings) (logger : Option Logger) :
    Call Outcome := do
  let settings ← settings.getDM evaluatorSettings
  let outcome ← unbroken (LedgerAmount.evaluate settings.rule text)
  let logger ← logger.getDM (openLogger none)
  logger.write (.ofOutcome .expression outcome)
  return outcome

/-- Takes an amount as typed. If no logger is given, one is made first; a plain number needs no
settings. -/
def parseAmount (text : String) (settings : Option EvaluatorSettings) (logger : Option Logger) :
    Call Outcome := do
  let logger ← logger.getDM (openLogger none)
  let outcome ←
    if looksLikeExpression text then evaluate text settings (some logger)
    else pure ⟨text, plainAmount text⟩
  logger.write (.ofOutcome .amount outcome)
  return outcome

end LedgerAmount.Session

import LedgerAmount.Decimal.ArithmeticFault
import LedgerAmount.Decimal.Basic
import LedgerAmount.Decimal.Bounds
import LedgerAmount.Decimal.Extended
import LedgerAmount.Decimal.Literal
import LedgerAmount.Decimal.Notation
import LedgerAmount.Decimal.NumericText
import LedgerAmount.Decimal.Quotient
import LedgerAmount.Decimal.Rounding
import LedgerAmount.Expression.Amount
import LedgerAmount.Expression.Given
import LedgerAmount.Expression.Lexeme
import LedgerAmount.Expression.OperandStack
import LedgerAmount.Expression.Operation
import LedgerAmount.Expression.Operator
import LedgerAmount.Expression.Outcome
import LedgerAmount.Expression.Postfix
import LedgerAmount.Expression.Rejection
import LedgerAmount.Expression.Stop
import LedgerAmount.Expression.Token
import LedgerAmount.Session.Basic
import LedgerAmount.Session.Entry
import LedgerAmount.Session.Loading
import LedgerAmount.Session.Request
import LedgerAmount.Settings.AppSettings
import LedgerAmount.Settings.Bindings
import LedgerAmount.Settings.EvaluatorSettings
import LedgerAmount.Settings.Reference
import LedgerAmount.Settings.SettingsFile
import LedgerAmount.Settings.Sources
import LedgerAmount.Settings.StartupReport
import LedgerAmount.Text.Blank
import LedgerAmount.Text.CodeRange
import LedgerAmount.Text.DecimalDigit
import LedgerAmount.Text.Printable
import LedgerAmount.Text.Quoted
import LedgerAmount.Text.UpperCase
import LedgerAmount.Trail.Event
import LedgerAmount.Trail.LogRecord
import LedgerAmount.Validation.Datum
import LedgerAmount.Validation.FieldFault
import LedgerAmount.Validation.IntegerText
import LedgerAmount.Validation.Reading
import LedgerAmount.Proofs.Literals
import LedgerAmount.Proofs.Tokens
import LedgerAmount.Proofs.Reordering
import LedgerAmount.Proofs.Grammar
import LedgerAmount.Proofs.Acceptance
import LedgerAmount.Proofs.SideBySide
import LedgerAmount.Proofs.DigitLimit
import LedgerAmount.Proofs.Obstacles
import LedgerAmount.Proofs.WithinBounds
import LedgerAmount.Proofs.ReversePolish
import LedgerAmount.Proofs.Entry
import LedgerAmount.Proofs.Verdict
import LedgerAmount.Proofs.Groups
import LedgerAmount.Proofs.Spacing
import LedgerAmount.Proofs.PlainAmounts
import LedgerAmount.Proofs.WrittenForm
import LedgerAmount.Proofs.Events
import LedgerAmount.Proofs.WithoutDivision
import LedgerAmount.Proofs.InForce
import LedgerAmount.Proofs.Plans
import LedgerAmount.Proofs.OwnLogger
import LedgerAmount.Proofs.Keeping
import LedgerAmount.Proofs.RoundedQuotients
import LedgerAmount.Proofs.EntryRequests
import LedgerAmount.Proofs.StartupCheck
import LedgerAmount.Proofs.SetupOfLogging
import LedgerAmount.Proofs.AuditTrail
import LedgerAmount.Proofs.LiteralReading
import LedgerAmount.Proofs.ReadingBack
import LedgerAmount.Proofs.LoadedSettings
import LedgerAmount.Proofs.PrintableMessages
import LedgerAmount.Proofs.WaitingOperators
import LedgerAmount.Proofs.TellingMessages

import MailFormula.Console
import MailFormula.Main
import MailFormula.Proofs.Evaluation.Law
import MailFormula.Proofs.Evaluation.Balance
import MailFormula.Proofs.Evaluation.Course
import MailFormula.Proofs.Evaluation.Agreement
import MailFormula.Proofs.Evaluation.Depth
import MailFormula.Proofs.Evaluation.Ending
import MailFormula.Proofs.Evaluation.Signal
import MailFormula.Proofs.Formula.Grammar
import MailFormula.Proofs.Formula.RoundTrip
import MailFormula.Proofs.Evaluation.Moves
import MailFormula.Proofs.Evaluation.Confinement
import MailFormula.Proofs.Evaluation.Requests
import MailFormula.Proofs.Evaluation.Origin
import MailFormula.Proofs.Evaluation.Variables
import MailFormula.Proofs.Formula.Rendering
import MailFormula.Proofs.Mail.Thread
import MailFormula.Proofs.Evaluation.Fragment
import MailFormula.Proofs.Evaluation.Twin
import MailFormula.Proofs.Evaluation.RuntimeText
import MailFormula.Proofs.Evaluation.Content
import MailFormula.Proofs.Evaluation.Cache
import MailFormula.Proofs.Evaluation.ReadOnly
import MailFormula.Proofs.Evaluation.Limits
import MailFormula.Proofs.Evaluation.Reserved
import MailFormula.Proofs.Evaluation.Arguments
import MailFormula.Proofs.Evaluation.Attribution
import MailFormula.Proofs.Formula.Attempts
import MailFormula.Proofs.Formula.Position
import MailFormula.Proofs.Text.Lines
import MailFormula.Proofs.Mail.Field
import MailFormula.Proofs.Mail.Leaf
import MailFormula.Proofs.Mail.Section
import MailFormula.Proofs.Mail.ContentType
import MailFormula.Proofs.Mail.Multipart
import MailFormula.Proofs.Mail.DisplayName
import MailFormula.Proofs.Formula.OpenString
import MailFormula.Proofs.Formula.OpenCall
import MailFormula.Proofs.Text.Search
import MailFormula.Proofs.Text.Decimal
import MailFormula.Proofs.Profile.Settings
import MailFormula.Proofs.Json.Scalar
import MailFormula.Proofs.Json.RoundTrip
import MailFormula.Proofs.Files
import MailFormula.Proofs.Profile.Storage
import MailFormula.Proofs.Mail.Place
import MailFormula.Proofs.Mail.Parent
import MailFormula.Proofs.Mail.Reordering
import MailFormula.Proofs.Text.Replace
import MailFormula.Proofs.Regex.Replacement
import MailFormula.Proofs.Regex.Found
import MailFormula.Proofs.Text.Folding
import MailFormula.Proofs.Formula.BadLiteral
import MailFormula.Proofs.Mail.AddressList
import MailFormula.Proofs.Evaluation.Equation
import MailFormula.Proofs.Evaluation.Rounds
import MailFormula.Proofs.Evaluation.Shadowing
import MailFormula.Proofs.Evaluation.Selection
import MailFormula.Proofs.Evaluation.Negation
import MailFormula.Proofs.Evaluation.Fetching
import MailFormula.Proofs.Mail.Numbering
import MailFormula.Proofs.Text.LeadingNumber
import MailFormula.Proofs.Mail.Nesting
import MailFormula.Proofs.Mail.Bounds
import MailFormula.Proofs.Mail.Extent

import ReviewDesk.Account
import ReviewDesk.Category
import ReviewDesk.CommandLine.Arguments
import ReviewDesk.CommandLine.Basic
import ReviewDesk.CommandLine.Command
import ReviewDesk.CommandLine.Session
import ReviewDesk.Decimal.Binary
import ReviewDesk.Decimal.Reading
import ReviewDesk.Decimal.Shortest
import ReviewDesk.Desk.Administration
import ReviewDesk.Desk.Basic
import ReviewDesk.Desk.GitHubAccess
import ReviewDesk.Desk.Reviewing
import ReviewDesk.Desk.SignIn
import ReviewDesk.Digest.Base64
import ReviewDesk.Digest.Sha256
import ReviewDesk.Failure
import ReviewDesk.Files
import ReviewDesk.Finding
import ReviewDesk.GitHub.Client
import ReviewDesk.GitHub.Fault
import ReviewDesk.GitHub.Record
import ReviewDesk.Grammar.Expression
import ReviewDesk.Grammar.Lexeme
import ReviewDesk.Grammar.Literal
import ReviewDesk.Grammar.Parameter
import ReviewDesk.Grammar.Pattern
import ReviewDesk.Grammar.Phrase
import ReviewDesk.Grammar.Statement
import ReviewDesk.Grammar.Tree
import ReviewDesk.Hiring
import ReviewDesk.Http.Message
import ReviewDesk.Http.Query
import ReviewDesk.Http.Url
import ReviewDesk.Inspection.Complexity
import ReviewDesk.Inspection.Java
import ReviewDesk.Inspection.Layering
import ReviewDesk.Inspection.Module
import ReviewDesk.Inspection.Note
import ReviewDesk.Inspection.Project
import ReviewDesk.Json.Basic
import ReviewDesk.Json.Bytes
import ReviewDesk.Json.Display
import ReviewDesk.Json.Reader
import ReviewDesk.Json.Writer
import ReviewDesk.Log
import ReviewDesk.Main
import ReviewDesk.Model.Analysis
import ReviewDesk.Model.Basic
import ReviewDesk.Model.Language
import ReviewDesk.Model.Prompt
import ReviewDesk.Model.Remote
import ReviewDesk.Model.Reply
import ReviewDesk.Model.Script
import ReviewDesk.Model.Usage
import ReviewDesk.Password
import ReviewDesk.Report.Csv
import ReviewDesk.Report.FixingPrompt
import ReviewDesk.Report.Format
import ReviewDesk.Report.Html
import ReviewDesk.Report.Markdown
import ReviewDesk.Report.Rendering
import ReviewDesk.Review
import ReviewDesk.Score
import ReviewDesk.Service.Basic
import ReviewDesk.Service.Body
import ReviewDesk.Service.Input
import ReviewDesk.Service.Message
import ReviewDesk.Service.Origin
import ReviewDesk.Service.Route
import ReviewDesk.Service.Table
import ReviewDesk.Service.View
import ReviewDesk.Settings.Basic
import ReviewDesk.Settings.DotEnv
import ReviewDesk.Severity
import ReviewDesk.SourcePath
import ReviewDesk.Store.AccountColumns
import ReviewDesk.Store.Accounts
import ReviewDesk.Store.Basic
import ReviewDesk.Store.Columns
import ReviewDesk.Store.Reviews
import ReviewDesk.Text.Blank
import ReviewDesk.Text.Digit
import ReviewDesk.Text.Identifier
import ReviewDesk.Text.LetterCase
import ReviewDesk.Text.Printable
import ReviewDesk.Text.Ranges
import ReviewDesk.Text.Scan
import ReviewDesk.Text.Utf8
import ReviewDesk.Text.Word
import ReviewDesk.Time.Moment
import ReviewDesk.Time.Reading
import ReviewDesk.Token
import ReviewDesk.Uuid
import ReviewDesk.Validation.Basic
import ReviewDesk.Validation.Field
import ReviewDesk.Workspace
import ReviewDesk.Proofs.Rows
import ReviewDesk.Proofs.Tally
import ReviewDesk.Proofs.Task
import ReviewDesk.Proofs.Making
import ReviewDesk.Proofs.Settlement
import ReviewDesk.Proofs.Stages
import ReviewDesk.Proofs.Quota
import ReviewDesk.Proofs.Removal
import ReviewDesk.Proofs.Doubles
import ReviewDesk.Proofs.Issues
import ReviewDesk.Proofs.ModelPass
import ReviewDesk.Proofs.Nesting
import ReviewDesk.Proofs.Checks
import ReviewDesk.Proofs.ProfileWrites
import ReviewDesk.Proofs.Dispatch
import ReviewDesk.Proofs.Authority
import ReviewDesk.Proofs.Steps
import ReviewDesk.Proofs.Operations
import ReviewDesk.Proofs.AccountRules
import ReviewDesk.Proofs.ReviewRules
import ReviewDesk.Proofs.Saving
import ReviewDesk.Proofs.Isolation
import ReviewDesk.Proofs.Numerals
import ReviewDesk.Proofs.Transport
import ReviewDesk.Proofs.JsonText
import ReviewDesk.Proofs.Moments
import ReviewDesk.Proofs.Scores
import ReviewDesk.Proofs.Columns
import ReviewDesk.Proofs.Bearer
import ReviewDesk.Proofs.Average
import ReviewDesk.Proofs.FaultAnswers
import ReviewDesk.Proofs.Reservation
import ReviewDesk.Proofs.Worsening
import ReviewDesk.Proofs.Charges
import ReviewDesk.Proofs.Violations
import ReviewDesk.Proofs.Records
import ReviewDesk.Proofs.Replies
import ReviewDesk.Proofs.AccountColumns
import ReviewDesk.Proofs.Markup
import ReviewDesk.Proofs.Listings
import ReviewDesk.Proofs.Upserts
import ReviewDesk.Proofs.Visits
import ReviewDesk.Proofs.Usernames
import ReviewDesk.Proofs.GitHubSignIn
import ReviewDesk.Proofs.PowersOfTwo
import ReviewDesk.Proofs.Retries
import ReviewDesk.Proofs.Fetching
import ReviewDesk.Proofs.Percent
import ReviewDesk.Proofs.Addresses
import ReviewDesk.Proofs.Chronology
import ReviewDesk.Proofs.Census
import ReviewDesk.Proofs.SourceFiles
import ReviewDesk.Proofs.Updates
import ReviewDesk.Proofs.Logins
import ReviewDesk.Proofs.Resolving
import ReviewDesk.Proofs.Admission
import ReviewDesk.Proofs.Scanning
import ReviewDesk.Proofs.Causes
import ReviewDesk.Proofs.OuterImports
import ReviewDesk.Proofs.Fences
import ReviewDesk.Proofs.FileNames
import ReviewDesk.Proofs.RollUps
import ReviewDesk.Proofs.FullNames

import StoryMend.Chat.Service
import StoryMend.Diagnose
import StoryMend.Generation.Dialogue
import StoryMend.Import.Rules
import StoryMend.Inventory
import StoryMend.Json.Form
import StoryMend.Pattern.Meaning
import StoryMend.Placeholder
import StoryMend.Proofs.Chat.Endpoint
import StoryMend.Proofs.Chat.Reply
import StoryMend.Proofs.Chat.Settings
import StoryMend.Proofs.Diagnose.Completeness
import StoryMend.Proofs.Generation.Dialogue
import StoryMend.Proofs.Http.Address
import StoryMend.Proofs.Import.Check
import StoryMend.Proofs.Import.Comments
import StoryMend.Proofs.Import.Statement
import StoryMend.Proofs.Import.Suggestion
import StoryMend.Proofs.Import.Walk
import StoryMend.Proofs.Json.Reading
import StoryMend.Proofs.Json.RoundTrip
import StoryMend.Proofs.Placeholder.Acceptance
import StoryMend.Proofs.Placeholder.Literal
import StoryMend.Proofs.Repair.Attributes
import StoryMend.Proofs.Repair.ByteReconcile
import StoryMend.Proofs.Repair.Cycle
import StoryMend.Proofs.Repair.Elements
import StoryMend.Proofs.Repair.Insertion
import StoryMend.Proofs.Repair.Passes
import StoryMend.Proofs.Repair.Preservation
import StoryMend.Proofs.Repair.Report
import StoryMend.Proofs.Repair.RuntimeImport
import StoryMend.Proofs.Repair.Scan
import StoryMend.Proofs.Repair.Strings
import StoryMend.Proofs.Repair.TagTokens
import StoryMend.Proofs.Repair.Tags
import StoryMend.Proofs.Repair.Truncation
import StoryMend.Proofs.Reply.Clean
import StoryMend.Proofs.Reply.Document
import StoryMend.Proofs.Reply.Fenced
import StoryMend.Proofs.Reply.Pairing
import StoryMend.Proofs.Server.Envelope
import StoryMend.Proofs.Server.Generation
import StoryMend.Proofs.Server.Rejection
import StoryMend.Proofs.Server.StartUp
import StoryMend.Proofs.Server.Validation
import StoryMend.Proofs.Text.Blank
import StoryMend.Proofs.Text.Lines
import StoryMend.Proofs.Title
import StoryMend.Proofs.Validator.Acceptance
import StoryMend.Proofs.Validator.Budget
import StoryMend.Proofs.Validator.ImportErrors
import StoryMend.Proofs.Validator.Inventory
import StoryMend.Proofs.Validator.Iteration
import StoryMend.Proofs.Validator.Verdict
import StoryMend.Repair.Engine
import StoryMend.Reply.Code
import StoryMend.Server.Router
import StoryMend.Settings.Environment
import StoryMend.Syntax.Reading
import StoryMend.Title
import StoryMend.Validator

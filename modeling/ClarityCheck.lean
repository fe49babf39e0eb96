import ClarityCheck.Compiler.Binary
import ClarityCheck.Contract
import ClarityCheck.Files.Change
import ClarityCheck.Host.Family
import ClarityCheck.Host.Machine
import ClarityCheck.Lint.Check
import ClarityCheck.Main
import ClarityCheck.Proofs.Compiler.FoundPath
import ClarityCheck.Proofs.Compiler.InstalledFiles
import ClarityCheck.Proofs.Compiler.ProbedFirst
import ClarityCheck.Proofs.Compiler.ProviderMemory
import ClarityCheck.Proofs.Compiler.SearchChain
import ClarityCheck.Proofs.Contract.SafeName
import ClarityCheck.Proofs.Download.ArchiveAddress
import ClarityCheck.Proofs.Download.Replacement
import ClarityCheck.Proofs.Files.DirectoriesOnly
import ClarityCheck.Proofs.Lint.Declarations
import ClarityCheck.Proofs.Lint.FunctionName
import ClarityCheck.Proofs.Lint.InsertedLines
import ClarityCheck.Proofs.Lint.JoinedLines
import ClarityCheck.Proofs.Lint.JoinedTexts
import ClarityCheck.Proofs.Lint.LineMargins
import ClarityCheck.Proofs.Lint.UnmatchedParentheses
import ClarityCheck.Proofs.Lint.WholeWord
import ClarityCheck.Proofs.Report.JsonReport
import ClarityCheck.Proofs.Report.PlainText
import ClarityCheck.Proofs.Run.BoundedCapture
import ClarityCheck.Proofs.Run.Supervision
import ClarityCheck.Proofs.Session.Endings
import ClarityCheck.Proofs.Session.SplitWords
import ClarityCheck.Proofs.Settings.OptionAndVariable
import ClarityCheck.Proofs.Settings.Precedence
import ClarityCheck.Proofs.Validation.Cleanup
import ClarityCheck.Proofs.Validation.Deadlines
import ClarityCheck.Proofs.Validation.FailureMessage
import ClarityCheck.Proofs.Validation.FailureReason
import ClarityCheck.Proofs.Validation.Journal
import ClarityCheck.Proofs.Validation.Protocol
import ClarityCheck.Proofs.Validation.SuccessViews
import ClarityCheck.Proofs.Workspace.FailedStaging
import ClarityCheck.Proofs.Workspace.Lifecycle
import ClarityCheck.Proofs.Workspace.ProjectLayout
import ClarityCheck.Proofs.Workspace.Staging
import ClarityCheck.Release
import ClarityCheck.Report
import ClarityCheck.Run.Request
import ClarityCheck.Run.Supervision
import ClarityCheck.Session
import ClarityCheck.Settings.Choice
import ClarityCheck.Settings.Load
import ClarityCheck.Validation.ResponseReader
import ClarityCheck.Validation.Run
import ClarityCheck.Validation.Setup

import LanguageClient.Main
import LanguageClient.Frame
import LanguageClient.Duration
import LanguageClient.Environment
import LanguageClient.Lifecycle
import LanguageClient.Message
import LanguageClient.Diagnostics.Published
import LanguageClient.Diagnostics.Store
import LanguageClient.Selector
import LanguageClient.Rehearsal.Run
import LanguageClient.Uri.FilePath
import LanguageClient.Proofs.Session.Phases
import LanguageClient.Proofs.Session.Progress
import LanguageClient.Proofs.Session.Superseded
import LanguageClient.Proofs.Session.Supervision
import LanguageClient.Proofs.Session.Sync
import LanguageClient.Proofs.Session.Wire
import LanguageClient.Proofs.Session.Causes
import LanguageClient.Proofs.Session.Forgotten
import LanguageClient.Proofs.Session.Writers
import LanguageClient.Proofs.Session.Inbox
import LanguageClient.Proofs.Session.Replies
import LanguageClient.Proofs.Session.Requests
import LanguageClient.Proofs.Text.Order
import LanguageClient.Proofs.Diagnostics.Published
import LanguageClient.Proofs.Diagnostics.Store
import LanguageClient.Proofs.Session.Reopening
import LanguageClient.Proofs.Session.Scope
import LanguageClient.Proofs.Session.Activation
import LanguageClient.Proofs.Session.Released
import LanguageClient.Proofs.Session.Failures
import LanguageClient.Proofs.Message.Kinds
import LanguageClient.Proofs.Selector.Rules
import LanguageClient.Proofs.Frame.Delivery
import LanguageClient.Proofs.Session.Truncation
import LanguageClient.Proofs.Session.Files
import LanguageClient.Proofs.Config.Workspace
import LanguageClient.Proofs.CommandLine.Items
import LanguageClient.Proofs.Text.Upper
import LanguageClient.Proofs.Environment.Patterns
import LanguageClient.Proofs.Diagnostics.Positions

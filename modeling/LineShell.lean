import LineShell.Main
import LineShell.Proofs.Builtin.DirectoryViews
import LineShell.Proofs.Builtin.Effects
import LineShell.Proofs.Builtin.Flags
import LineShell.Proofs.Builtin.Search
import LineShell.Proofs.Completion.Acceptance
import LineShell.Proofs.Completion.PathSuggestions
import LineShell.Proofs.Dialogue.Agreement
import LineShell.Proofs.Dialogue.Framing
import LineShell.Proofs.Dialogue.Transcript
import LineShell.Proofs.Dialogue.Truncation
import LineShell.Proofs.FileSystem.Locating
import LineShell.Proofs.FileSystem.WorkingDirectory
import LineShell.Proofs.Path.Normalization
import LineShell.Proofs.Session.History
import LineShell.Proofs.Token.Grammar
import LineShell.Proofs.Token.Writing
import LineShell.Proofs.Token.Separator
import LineShell.Proofs.Completion.Arguments
import LineShell.Proofs.Completion.TypingOn
import LineShell.Proofs.Completion.AcceptedCommand
import LineShell.Proofs.Token.Incremental
import LineShell.Proofs.Registry.Construction
import LineShell.Proofs.Duration.Order
import LineShell.Proofs.Token.Conservation
import LineShell.Proofs.Manual.Sections
import LineShell.Proofs.Calendar.Gregorian
import LineShell.Proofs.Text.Fields
import LineShell.Proofs.Calendar.Timestamp
import LineShell.Proofs.Dialogue.HistoryListing

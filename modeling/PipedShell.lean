import PipedShell.Main
import PipedShell.Script
import PipedShell.Service
import PipedShell.Proofs.Builtin.Filters
import PipedShell.Proofs.Builtin.Leaving
import PipedShell.Proofs.Builtin.Numbers
import PipedShell.Proofs.Builtin.Tame
import PipedShell.Proofs.Command.Completion
import PipedShell.Proofs.Pipe.Cursor
import PipedShell.Proofs.Pipe.Lossless
import PipedShell.Proofs.Pipe.RestOfLine
import PipedShell.Proofs.Pipe.Turns
import PipedShell.Proofs.PipeRange.Faults
import PipedShell.Proofs.PipeRange.Grammar
import PipedShell.Proofs.Service.Admission
import PipedShell.Proofs.Service.AsSent
import PipedShell.Proofs.Service.Bearer
import PipedShell.Proofs.Service.Fate
import PipedShell.Proofs.Service.Gateway
import PipedShell.Proofs.Service.History
import PipedShell.Proofs.Service.Isolation
import PipedShell.Proofs.Service.Lifetime
import PipedShell.Proofs.Service.OneLease
import PipedShell.Proofs.Service.Rate
import PipedShell.Proofs.Service.Terminated
import PipedShell.Proofs.Session.Boundaries
import PipedShell.Proofs.Session.Closing
import PipedShell.Proofs.Session.Composition
import PipedShell.Proofs.Session.Contributions
import PipedShell.Proofs.Session.Ends
import PipedShell.Proofs.Session.Filter
import PipedShell.Proofs.Session.Idle
import PipedShell.Proofs.Session.Launch
import PipedShell.Proofs.Session.Nesting
import PipedShell.Proofs.Session.ReadLoop
import PipedShell.Proofs.Session.Releasing
import PipedShell.Proofs.Session.Review
import PipedShell.Proofs.Session.Settling
import PipedShell.Proofs.Session.Skipping
import PipedShell.Proofs.Session.Steady
import PipedShell.Proofs.Session.Tame
import PipedShell.Proofs.Session.Visits
import PipedShell.Proofs.Text.Pieces
import PipedShell.Proofs.Token.Gaps
import PipedShell.Proofs.Token.Operators
import PipedShell.Proofs.Token.Quoting
import PipedShell.Proofs.Token.Spelling
import PipedShell.Proofs.Token.Stages
import PipedShell.Proofs.Token.Trimming
import PipedShell.Proofs.Token.Unbalanced
import PipedShell.Proofs.Text.Utf8
import PipedShell.Proofs.Pipe.AppendLog
import PipedShell.Proofs.Pipe.Handover
import PipedShell.Proofs.Builtin.Lines
import PipedShell.Proofs.Builtin.Progressions
import PipedShell.Proofs.Builtin.Searches
import PipedShell.Proofs.Text.Order
import PipedShell.Proofs.Command.Tables
import PipedShell.Proofs.Command.Views

import LineShell.Main
import LineShell.Proofs.Command.Decomposition
import LineShell.Proofs.Command.Detached
import LineShell.Proofs.Command.Resolution
import LineShell.Proofs.Command.Shifted
import LineShell.Proofs.Command.Variables
import LineShell.Proofs.Detached.Progress
import LineShell.Proofs.Detached.Release
import LineShell.Proofs.Options.Operands
import LineShell.Proofs.Pipeline.Cat
import LineShell.Proofs.Pipeline.Composition
import LineShell.Proofs.Pipeline.Division
import LineShell.Proofs.Pipeline.Shape
import LineShell.Proofs.SearchPath.Splitting
import LineShell.Proofs.Session.Assignment
import LineShell.Proofs.Session.Directory
import LineShell.Proofs.Session.Group
import LineShell.Proofs.Session.Script
import LineShell.Proofs.Session.Shifted
import LineShell.Proofs.Session.SingleLine
import LineShell.Proofs.Stream.Ownership
import LineShell.Proofs.Text.Basic
import LineShell.Proofs.Token.Chunks
import LineShell.Proofs.Token.Continuation
import LineShell.Proofs.Token.Form
import LineShell.Proofs.Token.History
import LineShell.Proofs.Token.Protection
import LineShell.Proofs.Token.Respelling
import LineShell.Proofs.Token.Scan
import LineShell.Proofs.Token.Spelling
import LineShell.Proofs.Utility.Content
import LineShell.Proofs.Utility.Counts
import LineShell.Proofs.Utility.Echo
import LineShell.Proofs.Utility.PerFile
import LineShell.Proofs.Utility.Selection
import LineShell.Proofs.Variable.View
import LineShell.Token.Machine
import LineShell.Unicode.Script

import DocCheck.Compiler.Scripted
import DocCheck.Main
import DocCheck.Proofs.Check.Isolation
import DocCheck.Proofs.Check.LifeCycle
import DocCheck.Proofs.Check.Outcome
import DocCheck.Proofs.Check.Relocation
import DocCheck.Proofs.Check.Trace
import DocCheck.Proofs.Cli.Session
import DocCheck.Proofs.Compiler.Program
import DocCheck.Proofs.Diagnostic.ErrorLines
import DocCheck.Proofs.Diagnostic.PathToken
import DocCheck.Proofs.Diagnostic.Recovery
import DocCheck.Proofs.Diagnostic.Rendering
import DocCheck.Proofs.Diagnostic.ScrubbedLines
import DocCheck.Proofs.Diagnostic.Terminal
import DocCheck.Proofs.Markdown.Selection
import DocCheck.Proofs.Markdown.Unclosed
import DocCheck.Proofs.Markdown.Wrapping
import DocCheck.Proofs.Package.Manifest
import DocCheck.Proofs.Package.Piecewise
import DocCheck.Proofs.Package.Replacement
import DocCheck.Proofs.Package.Resolution
import DocCheck.Proofs.Package.Spelling
import DocCheck.Proofs.Report.Listing

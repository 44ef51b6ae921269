import TemplateFile.Body.Rehearsal
import TemplateFile.Main
import TemplateFile.Source.Cursor
import TemplateFile.Proofs.Parsing.Documentation
import TemplateFile.Proofs.Parsing.Blame
import TemplateFile.Proofs.RoundTrip.Identity
import TemplateFile.Proofs.Parsing.Isolation
import TemplateFile.Proofs.Parsing.Numbering
import TemplateFile.Proofs.Parsing.History
import TemplateFile.Proofs.LineEnding.Parse
import TemplateFile.Proofs.CommandLine.Composition
import TemplateFile.Proofs.Source.LineTable
import TemplateFile.Proofs.Parsing.Names
import TemplateFile.Proofs.Parsing.RuleCalls
import TemplateFile.Proofs.Parsing.Tips
import TemplateFile.Proofs.Tree.LineNumber
import TemplateFile.Proofs.Lexical.TemplateCuts
import TemplateFile.Proofs.Diagnostic.Filling
import TemplateFile.Proofs.Grammar.Message
import TemplateFile.Proofs.Parsing.Unnamed
import TemplateFile.Proofs.Parsing.Tipless
import TemplateFile.Proofs.Lexical.Restart
import TemplateFile.Proofs.Parsing.Layout
import TemplateFile.Proofs.Parsing.BodyLines

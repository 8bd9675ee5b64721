import Tagdown.Arena.Lemmas
import Tagdown.Arena.Subtree
import Tagdown.Text.Tidy
import Tagdown.Entity.Encode
import Tagdown.Entity.Decode
import Tagdown.Text.Lowercase
import Tagdown.Text.Quoted
import Tagdown.Text.Utf8
import Tagdown.Document.NodeRef
import Tagdown.Normalize
import Tagdown.LevelOrder
import Tagdown.Regex.PropertyTables
import Tagdown.Regex.ScriptTables
import Tagdown.Regex.Property
import Tagdown.Regex.Parse
import Tagdown.Rule.RuleSetLemmas
import Tagdown.Converter
import Tagdown.Json.Token
import Tagdown.RuleSetConfig
import Tagdown.Html.Dom
import Tagdown.Main
import Tagdown.Proofs.Arena.Forest
import Tagdown.Proofs.Arena.Splice
import Tagdown.Proofs.Arena.Edits
import Tagdown.Proofs.Arena.ChildLists
import Tagdown.Proofs.Arena.Orphans
import Tagdown.Proofs.Arena.Consistency
import Tagdown.Proofs.Arena.CheckLoop
import Tagdown.Proofs.Arena.Height
import Tagdown.Proofs.Text.Tidy
import Tagdown.Proofs.Text.BlankLines
import Tagdown.Proofs.Text.Lines
import Tagdown.Proofs.Text.Words
import Tagdown.Proofs.Text.Lowercase
import Tagdown.Proofs.Text.ListMarkers
import Tagdown.Proofs.Text.NoBreakSpace
import Tagdown.Proofs.Text.Spacing
import Tagdown.Proofs.Text.Blocks
import Tagdown.Proofs.Text.Escaping
import Tagdown.Proofs.Entity.RoundTrip
import Tagdown.Proofs.Entity.References
import Tagdown.Proofs.Document.WellFormed
import Tagdown.Proofs.Document.Markup
import Tagdown.Proofs.Document.Contents
import Tagdown.Proofs.Document.Printing
import Tagdown.Proofs.Document.TagFree
import Tagdown.Proofs.Document.History
import Tagdown.Proofs.Document.Order
import Tagdown.Proofs.Document.Renaming
import Tagdown.Proofs.Document.Outline
import Tagdown.Proofs.Document.OutlineText
import Tagdown.Proofs.Document.Blocks
import Tagdown.Proofs.Document.ElementIndex
import Tagdown.Proofs.Normalize
import Tagdown.Proofs.Normalize.Row
import Tagdown.Proofs.Normalize.NormalForm
import Tagdown.Proofs.Normalize.Passes
import Tagdown.Proofs.Normalize.Trimming
import Tagdown.Proofs.Normalize.Idempotence
import Tagdown.Proofs.Normalize.Nodes
import Tagdown.Proofs.Normalize.Pieces
import Tagdown.Proofs.Normalize.Content
import Tagdown.Proofs.Normalize.Preformatted
import Tagdown.Proofs.Normalize.Words
import Tagdown.Proofs.Normalize.Spacing
import Tagdown.Proofs.Normalize.Runs
import Tagdown.Proofs.Normalize.Merging
import Tagdown.Proofs.LevelOrder
import Tagdown.Proofs.LevelOrder.Queue
import Tagdown.Proofs.Rule.Declarative
import Tagdown.Proofs.Rule.Bundled
import Tagdown.Proofs.Rule.Tags
import Tagdown.Proofs.Rule.Precedence
import Tagdown.Proofs.Rule.History
import Tagdown.Proofs.Rule.Building
import Tagdown.Proofs.Regex.Matching
import Tagdown.Proofs.Rule.TemplateGrammar
import Tagdown.Proofs.Conversion.Run
import Tagdown.Proofs.Conversion.Descendants
import Tagdown.Proofs.Conversion.Surroundings
import Tagdown.Proofs.Conversion.Failure
import Tagdown.Proofs.Conversion.Recursion
import Tagdown.Proofs.Conversion.Independence
import Tagdown.Proofs.Conversion.Unwrapping
import Tagdown.Proofs.Conversion.Keeping
import Tagdown.Proofs.Html.PlainText
import Tagdown.Proofs.Html.Link
import Tagdown.Proofs.Html.Copy
import Tagdown.Proofs.Conversion.PlainText
import Tagdown.Proofs.Conversion.Link
import Tagdown.Proofs.Conversion.RawText
import Tagdown.Proofs.Conversion.Leavings
import Tagdown.Proofs.Conversion.InlineCode
import Tagdown.Proofs.Conversion.CodeBlock
import Tagdown.Proofs.Conversion.Lists
import Tagdown.Proofs.Conversion.Blocks
import Tagdown.Proofs.Conversion.Blank
import Tagdown.Proofs.CommandLine.Stages

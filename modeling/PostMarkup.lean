import PostMarkup.BBCode.Pattern.Reader
import PostMarkup.Main
import PostMarkup.Proofs.BBCode.Crossing
import PostMarkup.Proofs.BBCode.Structure
import PostMarkup.Proofs.Emoji.Shown
import PostMarkup.Proofs.Entity.Correspondence
import PostMarkup.Proofs.Entity.Slice
import PostMarkup.Proofs.LinkTarget.RoundTrip
import PostMarkup.Proofs.Markdown.Injection
import PostMarkup.Proofs.Markup.Outermost
import PostMarkup.Proofs.Renderer.Answers
import PostMarkup.Proofs.Renderer.LoneLink
import PostMarkup.Proofs.Renderer.Note
import PostMarkup.Proofs.Renderer.PlainText
import PostMarkup.Proofs.Renderer.WellFormed
import PostMarkup.Proofs.Emoji.Visible
import PostMarkup.Proofs.Markdown.FencedCode
import PostMarkup.Proofs.Renderer.CodeBlock
import PostMarkup.Proofs.Markdown.Unsplit
import PostMarkup.Proofs.Entity.Partition
import PostMarkup.Proofs.Markdown.QuoteDepth
import PostMarkup.Proofs.Emoji.Exact
import PostMarkup.Proofs.Markdown.Indentation
import PostMarkup.Proofs.Markdown.ListMark
import PostMarkup.Proofs.Markdown.ListNesting
import PostMarkup.Proofs.Entity.Selection
import PostMarkup.Proofs.Markup.OutermostSpans
import PostMarkup.Proofs.Layout.BlankLine
import PostMarkup.Proofs.Layout.Kept
import PostMarkup.Proofs.Entity.Lines
import PostMarkup.Proofs.Markdown.Delimited
import PostMarkup.Proofs.Markdown.Quoting
import PostMarkup.Proofs.Text.Numeral
import PostMarkup.Proofs.Reference.Grammar
import PostMarkup.Proofs.Markdown.Prose
import PostMarkup.Proofs.Account
import PostMarkup.Proofs.Entity.AddressEnd
import PostMarkup.Proofs.Markdown.CodeFold
import PostMarkup.Proofs.Renderer.Name

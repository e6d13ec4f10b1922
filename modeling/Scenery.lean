import Scenery.CommandLine.Command
import Scenery.CommandLine.Grammar
import Scenery.CommandLine.Help
import Scenery.CommandLine.Run
import Scenery.Condition.Basic
import Scenery.Condition.Evaluation
import Scenery.Condition.Reading
import Scenery.Content.Basic
import Scenery.Content.Lint
import Scenery.Content.OfJson
import Scenery.Content.OfRon
import Scenery.Content.Validation
import Scenery.Context
import Scenery.Dictionary
import Scenery.Document.Json
import Scenery.Document.Ron.Basic
import Scenery.Document.Ron.Reading
import Scenery.Document.Ron.Scalar
import Scenery.Document.Toml.Basic
import Scenery.Document.Toml.Draft
import Scenery.Document.Toml.Reading
import Scenery.Document.Toml.Scalar
import Scenery.Document.Tree
import Scenery.Item
import Scenery.ItemList.Change
import Scenery.ItemList.Members
import Scenery.ItemList.Site
import Scenery.Layout.Alphanumeric
import Scenery.Layout.Fill
import Scenery.Layout.Fragment
import Scenery.Layout.LineBreak
import Scenery.Layout.LineClass
import Scenery.Layout.Minima
import Scenery.Layout.Width
import Scenery.Loading.Basic
import Scenery.Loading.Configuration
import Scenery.Main
import Scenery.Markup.Node
import Scenery.Markup.Tag
import Scenery.Markup.Token
import Scenery.Markup.Tree
import Scenery.Number.Basic
import Scenery.Number.Decimal
import Scenery.Number.Reading
import Scenery.Path
import Scenery.Proofs.Condition.Comparison
import Scenery.Proofs.Condition.Display
import Scenery.Proofs.Condition.Grammar
import Scenery.Proofs.Condition.Paths
import Scenery.Proofs.Condition.Pieces
import Scenery.Proofs.Content.Clean
import Scenery.Proofs.Content.Lookup
import Scenery.Proofs.Content.Valid
import Scenery.Proofs.Document.Flattening
import Scenery.Proofs.Document.KeyPath
import Scenery.Proofs.Document.Keys
import Scenery.Proofs.ItemList.Agreement
import Scenery.Proofs.ItemList.Capitals
import Scenery.Proofs.ItemList.Commute
import Scenery.Proofs.ItemList.Content
import Scenery.Proofs.ItemList.Copula
import Scenery.Proofs.ItemList.Edited
import Scenery.Proofs.ItemList.Entries
import Scenery.Proofs.ItemList.FirstMention
import Scenery.Proofs.ItemList.Fork
import Scenery.Proofs.ItemList.Frame
import Scenery.Proofs.ItemList.Members
import Scenery.Proofs.ItemList.Mentioned
import Scenery.Proofs.ItemList.Plan
import Scenery.Proofs.ItemList.Restored
import Scenery.Proofs.ItemList.Rewriting
import Scenery.Proofs.ItemList.Roster
import Scenery.Proofs.ItemList.Sequence
import Scenery.Proofs.ItemList.Setting
import Scenery.Proofs.ItemList.Total
import Scenery.Proofs.ItemList.Wellformed
import Scenery.Proofs.Markup.Bare
import Scenery.Proofs.Markup.Branch
import Scenery.Proofs.Markup.Cover
import Scenery.Proofs.Markup.Cursor
import Scenery.Proofs.Markup.ErrorPlace
import Scenery.Proofs.Markup.Grammar
import Scenery.Proofs.Markup.Layer
import Scenery.Proofs.Markup.Lexeme
import Scenery.Proofs.Markup.Places
import Scenery.Proofs.Markup.Shape
import Scenery.Proofs.Markup.Stack
import Scenery.Proofs.Markup.TagStart
import Scenery.Proofs.Markup.TagText
import Scenery.Proofs.Markup.Writing
import Scenery.Proofs.Number.Numeral
import Scenery.Proofs.Number.Order
import Scenery.Proofs.Number.Rounding
import Scenery.Proofs.Number.Shortest
import Scenery.Proofs.Path
import Scenery.Proofs.Prose.Capital
import Scenery.Proofs.Prose.Copula
import Scenery.Proofs.Prose.Enumeration
import Scenery.Proofs.Prose.Mention
import Scenery.Proofs.Prose.Occurrence
import Scenery.Proofs.Prose.Phrase
import Scenery.Proofs.Prose.Quantity
import Scenery.Proofs.Render.Alternatives
import Scenery.Proofs.Render.Around
import Scenery.Proofs.Render.Change
import Scenery.Proofs.Render.Connectors
import Scenery.Proofs.Render.Coverage
import Scenery.Proofs.Render.Elision
import Scenery.Proofs.Render.Members
import Scenery.Proofs.Render.Questions
import Scenery.Proofs.Render.Reading
import Scenery.Proofs.Render.RoundTrip
import Scenery.Proofs.Render.Sentence
import Scenery.Proofs.Render.Shown
import Scenery.Proofs.Render.Splicing
import Scenery.Proofs.Render.Wrapping
import Scenery.Proofs.Span
import Scenery.Proofs.Substitution
import Scenery.Proofs.Text.Case
import Scenery.Proofs.Text.Octets
import Scenery.Proofs.Text.Order
import Scenery.Proofs.Text.ParsingExpression
import Scenery.Proofs.Text.Runs
import Scenery.Prose.Copula
import Scenery.Prose.Enumeration
import Scenery.Prose.Mention
import Scenery.Prose.Quantity
import Scenery.Render
import Scenery.Span
import Scenery.Storage.Files
import Scenery.Storage.Location
import Scenery.Text.Basic
import Scenery.Text.Blank
import Scenery.Text.Case
import Scenery.Text.Identifier
import Scenery.Text.WordChar
import Scenery.Value

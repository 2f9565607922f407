import Imageboard.Command.Arguments
import Imageboard.Command.Database
import Imageboard.Command.Path
import Imageboard.Command.Report
import Imageboard.Command.Run
import Imageboard.Html.Token
import Imageboard.Journal
import Imageboard.Main
import Imageboard.Markup.Block
import Imageboard.Markup.Cursor
import Imageboard.Markup.Fence
import Imageboard.Markup.Html
import Imageboard.Markup.Line
import Imageboard.Markup.Link
import Imageboard.Markup.Reader
import Imageboard.Markup.Refusal
import Imageboard.Markup.Span
import Imageboard.Markup.SyntaxError
import Imageboard.Markup.Tree
import Imageboard.Pattern.CharTest
import Imageboard.Pattern.Compile
import Imageboard.Pattern.Fault
import Imageboard.Pattern.Matcher
import Imageboard.Pattern.Node
import Imageboard.Pattern.Reader
import Imageboard.Pattern.Source
import Imageboard.Pattern.Template
import Imageboard.Post
import Imageboard.Proofs.Markup.CharUnit
import Imageboard.Rule
import Imageboard.Settings.Check
import Imageboard.Settings.Field
import Imageboard.Settings.Load
import Imageboard.Store.Session
import Imageboard.Store.Submission
import Imageboard.Store.Tables
import Imageboard.Store.Written
import Imageboard.Text.Alphanumeric
import Imageboard.Text.Base64
import Imageboard.Text.Blank
import Imageboard.Text.CharacterName
import Imageboard.Text.CharacterName.Alphabets
import Imageboard.Text.CharacterName.Ancient
import Imageboard.Text.CharacterName.Forms
import Imageboard.Text.CharacterName.Further
import Imageboard.Text.CharacterName.Hieroglyphs
import Imageboard.Text.CharacterName.Kana
import Imageboard.Text.CharacterName.Notation
import Imageboard.Text.CharacterName.Pictographs
import Imageboard.Text.CharacterName.Signs
import Imageboard.Text.CharacterName.Syllabaries
import Imageboard.Text.Control
import Imageboard.Text.Digit
import Imageboard.Text.Identifier
import Imageboard.Text.Integer
import Imageboard.Text.LetterCase
import Imageboard.Text.Newline
import Imageboard.Text.Position
import Imageboard.Text.Printable
import Imageboard.Text.Quoted
import Imageboard.Text.Runs
import Imageboard.Text.Split
import Imageboard.Text.Utf8
import Imageboard.Yaml.BlockText
import Imageboard.Yaml.Failure
import Imageboard.Yaml.Graph
import Imageboard.Yaml.Implicit
import Imageboard.Yaml.Layout
import Imageboard.Yaml.Letter
import Imageboard.Yaml.Place
import Imageboard.Yaml.Plain
import Imageboard.Yaml.Quantity
import Imageboard.Yaml.Quoted
import Imageboard.Yaml.Tag
import Imageboard.Yaml.Timestamp
import Imageboard.Yaml.Token
import Imageboard.Yaml.Value
import Imageboard.Proofs.Markup.Reading
import Imageboard.Proofs.Markup.Pieces
import Imageboard.Proofs.Markup.Reference
import Imageboard.Proofs.Markup.LineScan
import Imageboard.Proofs.Markup.Outline
import Imageboard.Proofs.Markup.LineWalk
import Imageboard.Proofs.Markup.RoundTrip
import Imageboard.Proofs.Steady
import Imageboard.Proofs.Post.Resolution
import Imageboard.Proofs.Store.Numbering
import Imageboard.Proofs.Store.Serving
import Imageboard.Proofs.Store.Provenance
import Imageboard.Proofs.Html.Reading
import Imageboard.Proofs.Markup.Shape
import Imageboard.Proofs.Markup.Slices
import Imageboard.Proofs.Markup.Settling
import Imageboard.Proofs.Text.Newline
import Imageboard.Proofs.Markup.WellFormed
import Imageboard.Proofs.Markup.Decoding
import Imageboard.Proofs.Markup.Run
import Imageboard.Proofs.Execution
import Imageboard.Proofs.Text.FilledLines
import Imageboard.Proofs.Post.Acceptance
import Imageboard.Proofs.Markup.Asking
import Imageboard.Proofs.Post.Asking
import Imageboard.Proofs.Store.Effect
import Imageboard.Proofs.Store.Transaction
import Imageboard.Proofs.Store.Creation
import Imageboard.Proofs.Store.Consistency
import Imageboard.Proofs.TwoRuns
import Imageboard.Proofs.Markup.Unlinked
import Imageboard.Proofs.Markup.Matching
import Imageboard.Proofs.Post.Independence
import Imageboard.Proofs.Store.Resolver
import Imageboard.Proofs.Command.Work
import Imageboard.Proofs.Text.Control
import Imageboard.Proofs.Markup.Anchor
import Imageboard.Proofs.Command.Reading
import Imageboard.Proofs.Command.Turn
import Imageboard.Proofs.Command.Refinement
import Imageboard.Proofs.Command.MissingThread
import Imageboard.Proofs.Markup.LineEnd
import Imageboard.Proofs.Markup.LinkExtent
import Imageboard.Proofs.Markup.SpanExtent
import Imageboard.Proofs.Markup.RuleOrder
import Imageboard.Proofs.Markup.Appending
import Imageboard.Proofs.Command.Trouble
import Imageboard.Proofs.Keeping
import Imageboard.Proofs.Pattern.Source
import Imageboard.Proofs.Pattern.Reading
import Imageboard.Proofs.Pattern.Compile
import Imageboard.Proofs.Pattern.Rule
import Imageboard.Proofs.Command.BadRule
import Imageboard.Proofs.Yaml.Reading
import Imageboard.Proofs.Yaml.ScalarText
import Imageboard.Proofs.Yaml.Layout
import Imageboard.Proofs.Yaml.Graph
import Imageboard.Proofs.Yaml.Scalar
import Imageboard.Proofs.Yaml.Value
import Imageboard.Proofs.Settings.Load
import Imageboard.Proofs.Command.BadSettings
import Imageboard.Proofs.Markup.ErrorPlace
import Imageboard.Proofs.Text.CarriageReturn
import Imageboard.Proofs.RuleSequence
import Imageboard.Proofs.Settings.Check
import Imageboard.Proofs.Settings.Layers
import Imageboard.Proofs.Markup.Trial
import Imageboard.Proofs.Markup.Progress

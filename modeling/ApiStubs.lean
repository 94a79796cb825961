import ApiStubs.Command.Options
import ApiStubs.Command.Run
import ApiStubs.Command.Workspace
import ApiStubs.Decimal.Binary64
import ApiStubs.Decimal.Layout
import ApiStubs.Decimal.Notation
import ApiStubs.Decimal.Shortest
import ApiStubs.Description
import ApiStubs.Log.Directive
import ApiStubs.Log.Filter
import ApiStubs.Log.Record
import ApiStubs.Main
import ApiStubs.Reading
import ApiStubs.Stub
import ApiStubs.Text.Alphanumeric
import ApiStubs.Text.Blank
import ApiStubs.Text.CodePoints
import ApiStubs.Text.Digits
import ApiStubs.Text.Lines
import ApiStubs.Text.Pattern
import ApiStubs.Text.Pattern.Reading
import ApiStubs.Text.Printable
import ApiStubs.Text.Quoted
import ApiStubs.Text.Slice
import ApiStubs.Writing
import ApiStubs.Yaml.Chars
import ApiStubs.Yaml.Document
import ApiStubs.Yaml.Error
import ApiStubs.Yaml.Event
import ApiStubs.Yaml.Fault
import ApiStubs.Yaml.Grammar
import ApiStubs.Yaml.Mark
import ApiStubs.Yaml.Number
import ApiStubs.Yaml.Scalar
import ApiStubs.Yaml.Source
import ApiStubs.Yaml.Token
import ApiStubs.Yaml.Token.Block
import ApiStubs.Yaml.Token.Directive
import ApiStubs.Yaml.Token.Folding
import ApiStubs.Yaml.Token.Plain
import ApiStubs.Yaml.Token.Quoted
import ApiStubs.Yaml.Token.Tag
import ApiStubs.Yaml.Tokens
import ApiStubs.Yaml.Value
import ApiStubs.Yaml.Walk
import ApiStubs.Proofs.BlockLayout
import ApiStubs.Proofs.Command.Arguments
import ApiStubs.Proofs.Command.Degradation
import ApiStubs.Proofs.Command.Pipe
import ApiStubs.Proofs.Command.Run
import ApiStubs.Proofs.Command.Verbosity
import ApiStubs.Proofs.Command.Workspace
import ApiStubs.Proofs.FlowLayout
import ApiStubs.Proofs.IntegerItem
import ApiStubs.Proofs.ItemLayout
import ApiStubs.Proofs.LiteralComment
import ApiStubs.Proofs.Log.Level
import ApiStubs.Proofs.Reading
import ApiStubs.Proofs.Reading.Shapes
import ApiStubs.Proofs.Reading.Tags
import ApiStubs.Proofs.Stub.Annotations
import ApiStubs.Proofs.Stub.Blocks
import ApiStubs.Proofs.Stub.Comments
import ApiStubs.Proofs.Stub.Declarations
import ApiStubs.Proofs.Stub.Decoding
import ApiStubs.Proofs.Stub.Lines
import ApiStubs.Proofs.Stub.SourceLines
import ApiStubs.Proofs.Surroundings
import ApiStubs.Proofs.Text.EmptyLines
import ApiStubs.Proofs.Text.Lines
import ApiStubs.Proofs.Text.SourceLines
import ApiStubs.Proofs.ValueText
import ApiStubs.Proofs.Yaml.BlockDocument
import ApiStubs.Proofs.Yaml.BlockFault
import ApiStubs.Proofs.Yaml.BlockGrammar
import ApiStubs.Proofs.Yaml.BlockPlaces
import ApiStubs.Proofs.Yaml.BlockScalars
import ApiStubs.Proofs.Yaml.BlockTokens
import ApiStubs.Proofs.Yaml.FlowContent
import ApiStubs.Proofs.Yaml.FlowDocument
import ApiStubs.Proofs.Yaml.FlowGrammar
import ApiStubs.Proofs.Yaml.FlowTokens
import ApiStubs.Proofs.Yaml.IntegerText
import ApiStubs.Proofs.Yaml.KeyTokens
import ApiStubs.Proofs.Yaml.LiteralScalar
import ApiStubs.Proofs.Yaml.NodeFault
import ApiStubs.Proofs.Yaml.NodeValue
import ApiStubs.Proofs.Yaml.PlainScalar
import ApiStubs.Proofs.Yaml.QuotedScalar
import ApiStubs.Proofs.Yaml.ScalarText
import ApiStubs.Proofs.Yaml.Source

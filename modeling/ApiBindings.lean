import ApiBindings.Bindings.Class
import ApiBindings.Bindings.Docstring
import ApiBindings.Bindings.Module
import ApiBindings.Bindings.Prelude
import ApiBindings.Bindings.TypeText
import ApiBindings.Charset.Basic
import ApiBindings.Charset.Declared
import ApiBindings.Charset.HighTable
import ApiBindings.Charset.Utf8
import ApiBindings.Command.Args
import ApiBindings.Command.Run
import ApiBindings.Definition.Basic
import ApiBindings.Definition.OfSection
import ApiBindings.Error
import ApiBindings.Files.Fault
import ApiBindings.Files.Path
import ApiBindings.Files.Tree
import ApiBindings.Generator
import ApiBindings.Link.Address
import ApiBindings.Link.Host
import ApiBindings.Link.Join
import ApiBindings.Link.Url
import ApiBindings.Log.Logger
import ApiBindings.Log.Record
import ApiBindings.Main
import ApiBindings.Markup.CharRef
import ApiBindings.Markup.Fragment
import ApiBindings.Markup.Node
import ApiBindings.Markup.Refusal
import ApiBindings.Markup.Report
import ApiBindings.Markup.Table.NamedCharacter
import ApiBindings.Markup.Tag
import ApiBindings.Markup.Token.Basic
import ApiBindings.Markup.Token.Construct
import ApiBindings.Markup.Token.Ending
import ApiBindings.Markup.Token.Pass
import ApiBindings.Markup.Token.Reference
import ApiBindings.Markup.Tree
import ApiBindings.Naming.Affix
import ApiBindings.Naming.CamelCase
import ApiBindings.Naming.Identifier
import ApiBindings.Naming.Variant
import ApiBindings.Output.Write
import ApiBindings.Page.Read
import ApiBindings.Reference.Line
import ApiBindings.Reference.Scan
import ApiBindings.Reference.Section
import ApiBindings.Settings
import ApiBindings.Text.Affix
import ApiBindings.Text.Casing
import ApiBindings.Text.CharClass
import ApiBindings.Text.Pieces
import ApiBindings.Text.Quoted
import ApiBindings.Text.Table.Casing
import ApiBindings.Text.Table.Identifier
import ApiBindings.Text.Table.Letter
import ApiBindings.Text.Table.Printable
import ApiBindings.TypeExpr.Basic
import ApiBindings.TypeExpr.Phrase
import ApiBindings.Proofs.Reference.Outline
import ApiBindings.Proofs.Reference.Passage
import ApiBindings.Proofs.Reference.Reading
import ApiBindings.Proofs.Bindings.Display
import ApiBindings.Proofs.Bindings.Tags
import ApiBindings.Proofs.Bindings.WireNames
import ApiBindings.Proofs.Reference.Cursors
import ApiBindings.Proofs.Bindings.Leaves
import ApiBindings.Proofs.Bindings.StandIns
import ApiBindings.Proofs.Reference.ThirdCell
import ApiBindings.Proofs.Bindings.References
import ApiBindings.Proofs.Bindings.Emission
import ApiBindings.Proofs.Bindings.Interleaving
import ApiBindings.Proofs.Text.CharClass
import ApiBindings.Proofs.Naming.Affix
import ApiBindings.Proofs.Naming.Identifier
import ApiBindings.Proofs.Naming.Label
import ApiBindings.Proofs.Naming.Variant
import ApiBindings.Proofs.Bindings.Constructors
import ApiBindings.Proofs.Bindings.PrintedNames
import ApiBindings.Proofs.Reference.Joining
import ApiBindings.Proofs.Definition.Names
import ApiBindings.Proofs.Outcome
import ApiBindings.Proofs.Text.Trimming
import ApiBindings.Proofs.Reference.Bases
import ApiBindings.Proofs.Markup.Links
import ApiBindings.Proofs.Reference.Optionality
import ApiBindings.Proofs.Reference.LinesRead
import ApiBindings.Proofs.Link.Hosts
import ApiBindings.Proofs.Markup.Refusals
import ApiBindings.Proofs.Markup.LongNumbers
import ApiBindings.Proofs.Generation
import ApiBindings.Proofs.Bindings.LineBreaks
import ApiBindings.Proofs.Bindings.PageLines
import ApiBindings.Proofs.Reference.Failures
import ApiBindings.Proofs.Bindings.Registers
import ApiBindings.Proofs.Pages
import ApiBindings.Proofs.Files.Changes
import ApiBindings.Proofs.Output.Writing
import ApiBindings.Proofs.Entries
import ApiBindings.Proofs.Command.Endings
import ApiBindings.Proofs.Bindings.Literals
import ApiBindings.Proofs.Bindings.Documentation
import ApiBindings.Proofs.Reference.Kept
import ApiBindings.Proofs.Log.History
import ApiBindings.Proofs.TypeExpr.Spelling
import ApiBindings.Proofs.Bindings.UniqueReading
import ApiBindings.Proofs.Naming.SnakeCase
import ApiBindings.Proofs.Text.Indentation
import ApiBindings.Proofs.Bindings.Embedding
import ApiBindings.Proofs.Markup.DeadLinks
import ApiBindings.Proofs.Markup.LinkPlaces
import ApiBindings.Proofs.Charset.Utf8
import ApiBindings.Proofs.Page.LineEnds
import ApiBindings.Proofs.Charset.Search
import ApiBindings.Proofs.Charset.Declared
import ApiBindings.Proofs.Markup.Stripping
import ApiBindings.Proofs.TypeExpr.Levels
import ApiBindings.Proofs.Bindings.Depth
import ApiBindings.Proofs.Markup.PlainText
import ApiBindings.Proofs.Reference.DeepCells

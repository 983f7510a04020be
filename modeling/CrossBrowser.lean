import CrossBrowser.Browser.Identifier
import CrossBrowser.Browser.Listing
import CrossBrowser.Browser.ListingReading
import CrossBrowser.Browser.Target
import CrossBrowser.CSharp.Attribute
import CrossBrowser.CSharp.Layout
import CrossBrowser.CSharp.Literal
import CrossBrowser.CSharp.Source
import CrossBrowser.Command.Arguments
import CrossBrowser.Command.Basic
import CrossBrowser.Command.Report
import CrossBrowser.Command.Run
import CrossBrowser.Config
import CrossBrowser.Digest
import CrossBrowser.Discovery
import CrossBrowser.Document.Datum
import CrossBrowser.Document.Json.Basic
import CrossBrowser.Document.Json.Readable
import CrossBrowser.Document.Json.Reader
import CrossBrowser.Document.Json.Writer
import CrossBrowser.Document.Readable
import CrossBrowser.Document.Yaml.Block
import CrossBrowser.Document.Yaml.Composition
import CrossBrowser.Document.Yaml.Cursor
import CrossBrowser.Document.Yaml.Folding
import CrossBrowser.Document.Yaml.Node
import CrossBrowser.Document.Yaml.Plain
import CrossBrowser.Document.Yaml.Properties
import CrossBrowser.Document.Yaml.Quoted
import CrossBrowser.Document.Yaml.Readable
import CrossBrowser.Document.Yaml.Scalar
import CrossBrowser.Document.Yaml.Token
import CrossBrowser.Document.Yaml.Tokens
import CrossBrowser.Draft
import CrossBrowser.Encoding.TestClass
import CrossBrowser.Encoding.TestMethod
import CrossBrowser.Error
import CrossBrowser.Expansion.Fanout
import CrossBrowser.Expansion.Row
import CrossBrowser.Feature.Basic
import CrossBrowser.Feature.Reading
import CrossBrowser.Feature.Source
import CrossBrowser.Feature.Validity
import CrossBrowser.Feature.Writing
import CrossBrowser.FileTree
import CrossBrowser.Generation
import CrossBrowser.Loading
import CrossBrowser.Main
import CrossBrowser.Naming.Identifier
import CrossBrowser.Naming.Keyword
import CrossBrowser.Naming.Parameters
import CrossBrowser.Output.Generated
import CrossBrowser.Output.Naming
import CrossBrowser.Path
import CrossBrowser.Proofs.Expansion.Distinct
import CrossBrowser.Proofs.TestMethod.Cases
import CrossBrowser.Proofs.TestMethod.Run
import CrossBrowser.Provider.Basic
import CrossBrowser.Provider.Recorded
import CrossBrowser.Provider.RemoteBrowser
import CrossBrowser.TestCase
import CrossBrowser.TestClass
import CrossBrowser.TestMethod
import CrossBrowser.Text.Blank
import CrossBrowser.Text.CharRange
import CrossBrowser.Text.Difference
import CrossBrowser.Text.Hex
import CrossBrowser.Text.Letter
import CrossBrowser.Text.LetterCase
import CrossBrowser.Text.Lines
import CrossBrowser.Text.Numeral
import CrossBrowser.Text.Utf8
import CrossBrowser.Proofs.Expansion.Fanout
import CrossBrowser.Proofs.Generation.Methods
import CrossBrowser.Proofs.Feature.Validity
import CrossBrowser.Proofs.Naming.Parameters
import CrossBrowser.Proofs.Generation.Invocable
import CrossBrowser.Proofs.Path.Parts
import CrossBrowser.Proofs.Path.Components
import CrossBrowser.Proofs.Path.Joining
import CrossBrowser.Proofs.FileTree.Locating
import CrossBrowser.Proofs.FileTree.Changing
import CrossBrowser.Proofs.Path.Names
import CrossBrowser.Proofs.Output.Naming
import CrossBrowser.Proofs.Output.Contents
import CrossBrowser.Proofs.Output.Writing
import CrossBrowser.Proofs.Output.Finding
import CrossBrowser.Proofs.Output.Generating
import CrossBrowser.Proofs.Command.Check
import CrossBrowser.Proofs.TestMethod.Assembly
import CrossBrowser.Proofs.Provider.Furnishing
import CrossBrowser.Proofs.Provider.Calls
import CrossBrowser.Proofs.Text.Telling
import CrossBrowser.Proofs.CSharp.Literal
import CrossBrowser.Proofs.Text.Splitting
import CrossBrowser.Proofs.CSharp.Attribute
import CrossBrowser.Proofs.Naming.Characters
import CrossBrowser.Proofs.Generation.Shape
import CrossBrowser.Proofs.CSharp.Layout
import CrossBrowser.Proofs.CSharp.Source
import CrossBrowser.Proofs.Output.Rendering
import CrossBrowser.Proofs.Feature.Faults
import CrossBrowser.Proofs.Generation.Acceptance
import CrossBrowser.Proofs.Generation.Names
import CrossBrowser.Proofs.Output.Failing
import CrossBrowser.Proofs.Command.Effects
import CrossBrowser.Proofs.Command.Verify
import CrossBrowser.Proofs.TestMethod.Adding
import CrossBrowser.Proofs.Expansion.Rows
import CrossBrowser.Proofs.Command.Regenerate
import CrossBrowser.Proofs.Generation.Description
import CrossBrowser.Proofs.CSharp.Regular
import CrossBrowser.Proofs.Expansion.Browsers
import CrossBrowser.Proofs.Provider.Categories
import CrossBrowser.CSharp.Identifier
import CrossBrowser.Proofs.Naming.Search
import CrossBrowser.Proofs.Text.Ranges
import CrossBrowser.Proofs.Naming.CaseForms
import CrossBrowser.Proofs.Naming.Identifiers
import CrossBrowser.Proofs.Generation.Identifiers
import CrossBrowser.Proofs.CSharp.Counting
import CrossBrowser.Proofs.Generation.Counting
import CrossBrowser.Proofs.Generation.Variables
import CrossBrowser.Proofs.Text.Difference
import CrossBrowser.Proofs.Text.Showing
import CrossBrowser.Proofs.Expansion.RowNames
import CrossBrowser.Proofs.Generation.CaseNames
import CrossBrowser.Proofs.Output.Loading
import CrossBrowser.Proofs.Output.Mirroring
import CrossBrowser.Proofs.Text.Trimming
import CrossBrowser.Proofs.Browser.Label
import CrossBrowser.Proofs.Browser.Target
import CrossBrowser.Proofs.Document.Json.Strings
import CrossBrowser.Proofs.Document.Json.Values
import CrossBrowser.Proofs.Document.Records
import CrossBrowser.Proofs.Feature.Spelling
import CrossBrowser.Proofs.FileTree.Rooted
import CrossBrowser.Proofs.Output.Discovering
import CrossBrowser.Proofs.Browser.Support
import CrossBrowser.Proofs.Naming.Capitals
import CrossBrowser.Proofs.Generation.Titles
import CrossBrowser.Proofs.Command.Trees

import Hyperscript.CommandLine.Command
import Hyperscript.CommandLine.Options
import Hyperscript.Compilation
import Hyperscript.Diagnostic
import Hyperscript.FileStore
import Hyperscript.Files
import Hyperscript.Grammar.Build
import Hyperscript.Grammar.Parser
import Hyperscript.Grammar.Production
import Hyperscript.Grammar.Symbol
import Hyperscript.Grammar.Table
import Hyperscript.Grammar.Token
import Hyperscript.LogLevel
import Hyperscript.Lowering.Attribute
import Hyperscript.Lowering.Binding
import Hyperscript.Lowering.Bucket
import Hyperscript.Lowering.Child
import Hyperscript.Lowering.Config
import Hyperscript.Lowering.Element
import Hyperscript.Lowering.Lowerer
import Hyperscript.Lowering.PropGroup
import Hyperscript.Lowering.Registry
import Hyperscript.Lowering.Tag
import Hyperscript.Lowering.Workspace
import Hyperscript.Main
import Hyperscript.Number
import Hyperscript.Number.Binary64
import Hyperscript.Number.Shortest
import Hyperscript.Path
import Hyperscript.Proofs.AmbiguousStart
import Hyperscript.Proofs.BindingVisit
import Hyperscript.Proofs.BucketOrder
import Hyperscript.Proofs.CleanText
import Hyperscript.Proofs.ClosingTag
import Hyperscript.Proofs.CollapsedText
import Hyperscript.Proofs.CompactText
import Hyperscript.Proofs.CompilationOutcome
import Hyperscript.Proofs.CoreGrammar
import Hyperscript.Proofs.CoreMeaning
import Hyperscript.Proofs.CoreParsing
import Hyperscript.Proofs.CustomTag
import Hyperscript.Proofs.Derivation
import Hyperscript.Proofs.DiagnosticHistory
import Hyperscript.Proofs.DottedNumber
import Hyperscript.Proofs.EncodedText
import Hyperscript.Proofs.ExpressionText
import Hyperscript.Proofs.FactoryBinding
import Hyperscript.Proofs.FactoryScope
import Hyperscript.Proofs.FirstPlace
import Hyperscript.Proofs.FreshName
import Hyperscript.Proofs.FunctionText
import Hyperscript.Proofs.Hygiene
import Hyperscript.Proofs.Idempotence
import Hyperscript.Proofs.Ink
import Hyperscript.Proofs.LeadingBrace
import Hyperscript.Proofs.Legible
import Hyperscript.Proofs.LiteralSpelling
import Hyperscript.Proofs.LogicalMixture
import Hyperscript.Proofs.LoweredElement
import Hyperscript.Proofs.LoweredExpression
import Hyperscript.Proofs.LoweredOrigin
import Hyperscript.Proofs.LowererHistory
import Hyperscript.Proofs.LoweringCount
import Hyperscript.Proofs.MarkupFree
import Hyperscript.Proofs.NamespaceGuard
import Hyperscript.Proofs.ObjectText
import Hyperscript.Proofs.Opening
import Hyperscript.Proofs.ParameterPattern
import Hyperscript.Proofs.ParsedExpression
import Hyperscript.Proofs.ParsedRole
import Hyperscript.Proofs.Preorder
import Hyperscript.Proofs.Printable
import Hyperscript.Proofs.PrintedWords
import Hyperscript.Proofs.PureLowering
import Hyperscript.Proofs.QuotedText
import Hyperscript.Proofs.Reading
import Hyperscript.Proofs.Reclassification
import Hyperscript.Proofs.Recompilation
import Hyperscript.Proofs.RegistryRun
import Hyperscript.Proofs.ReservedWord
import Hyperscript.Proofs.RestoredClass
import Hyperscript.Proofs.RestoredExpression
import Hyperscript.Proofs.RestoredModule
import Hyperscript.Proofs.RestoredStatement
import Hyperscript.Proofs.Role
import Hyperscript.Proofs.RoundTrip
import Hyperscript.Proofs.Spelling
import Hyperscript.Proofs.SpreadGroups
import Hyperscript.Proofs.StatementText
import Hyperscript.Proofs.StringToken
import Hyperscript.Proofs.StringValue
import Hyperscript.Proofs.SuitedTree
import Hyperscript.Proofs.TagReference
import Hyperscript.Proofs.TextMeaning
import Hyperscript.Proofs.Walk
import Hyperscript.SourceFile
import Hyperscript.Text
import Hyperscript.Text.ControlSequence
import Hyperscript.Text.Digit
import Hyperscript.Text.Identifier
import Hyperscript.Text.IdentifierRanges
import Hyperscript.Text.Quoted
import Hyperscript.Text.QuotedName
import Hyperscript.Text.Reference
import Hyperscript.Text.ReferenceNames
import Hyperscript.Text.UnprintableRanges
import Hyperscript.Text.Utf8
import Hyperscript.Tree.Form
import Hyperscript.Tree.Kind
import Hyperscript.Tree.Node
import Hyperscript.Tree.Place
import Hyperscript.Tree.Printer
import Hyperscript.Tree.Walk

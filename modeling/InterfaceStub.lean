import InterfaceStub.Alignment
import InterfaceStub.CommandLine.Options
import InterfaceStub.CommandLine.Run
import InterfaceStub.CommandLine.Trees
import InterfaceStub.Conversion.Basic
import InterfaceStub.Conversion.Batch
import InterfaceStub.Conversion.Error
import InterfaceStub.Conversion.File
import InterfaceStub.Conversion.Sources
import InterfaceStub.Conversion.Tally
import InterfaceStub.Diagnostic
import InterfaceStub.Extraction.Assignment
import InterfaceStub.Extraction.BaseClass
import InterfaceStub.Extraction.Block
import InterfaceStub.Extraction.ClassBody
import InterfaceStub.Extraction.Guard
import InterfaceStub.Extraction.ImportStatement
import InterfaceStub.Extraction.LiteralType
import InterfaceStub.Extraction.ModuleBody
import InterfaceStub.Extraction.NamePath
import InterfaceStub.Extraction.Problem
import InterfaceStub.Extraction.Report
import InterfaceStub.Extraction.Signature
import InterfaceStub.Extraction.Target
import InterfaceStub.Extraction.TypeExpression
import InterfaceStub.Files.Error
import InterfaceStub.Files.FileSystem
import InterfaceStub.Files.Glob.Basic
import InterfaceStub.Files.Glob.Reader
import InterfaceStub.Files.IgnoreFile
import InterfaceStub.Files.IgnoreRules
import InterfaceStub.Files.Path
import InterfaceStub.Files.Walk
import InterfaceStub.Files.Walker
import InterfaceStub.Json.Basic
import InterfaceStub.Json.Printer
import InterfaceStub.Json.Reader
import InterfaceStub.Json.Record
import InterfaceStub.Json.Token
import InterfaceStub.Main
import InterfaceStub.Proofs.BaseForms
import InterfaceStub.Proofs.BatchReports
import InterfaceStub.Proofs.BranchSelection
import InterfaceStub.Proofs.ByteOrder
import InterfaceStub.Proofs.ClassVariables
import InterfaceStub.Proofs.Composition
import InterfaceStub.Proofs.ConverterCalls
import InterfaceStub.Proofs.CounterBalance
import InterfaceStub.Proofs.DiagnosticLines
import InterfaceStub.Proofs.DiagnosticOrder
import InterfaceStub.Proofs.EmptyBrackets
import InterfaceStub.Proofs.ErasedDeclarations
import InterfaceStub.Proofs.ErasedModules
import InterfaceStub.Proofs.Erasure
import InterfaceStub.Proofs.ErrorOrder
import InterfaceStub.Proofs.ExclusiveCreation
import InterfaceStub.Proofs.ExtractedForm
import InterfaceStub.Proofs.FileWrites
import InterfaceStub.Proofs.FindingPlaces
import InterfaceStub.Proofs.GuardNames
import InterfaceStub.Proofs.ImportOrder
import InterfaceStub.Proofs.Interleaving
import InterfaceStub.Proofs.JsonRoundTrip
import InterfaceStub.Proofs.JsonText
import InterfaceStub.Proofs.LeafStatements
import InterfaceStub.Proofs.LineBreaks
import InterfaceStub.Proofs.LineReading
import InterfaceStub.Proofs.LinkFree
import InterfaceStub.Proofs.OwnDefaults
import InterfaceStub.Proofs.Parentheses
import InterfaceStub.Proofs.ParenthesizedTargets
import InterfaceStub.Proofs.ParenthesizedValues
import InterfaceStub.Proofs.PathResolution
import InterfaceStub.Proofs.PatternPlaces
import InterfaceStub.Proofs.PrunedWalk
import InterfaceStub.Proofs.Rejections
import InterfaceStub.Proofs.Reports
import InterfaceStub.Proofs.RequiredCover
import InterfaceStub.Proofs.RequiredLines
import InterfaceStub.Proofs.RequiredNames
import InterfaceStub.Proofs.Rerun
import InterfaceStub.Proofs.RightAlignment
import InterfaceStub.Proofs.RoundTrip
import InterfaceStub.Proofs.ScheduleIndependence
import InterfaceStub.Proofs.SeparateFiles
import InterfaceStub.Proofs.SignatureGroups
import InterfaceStub.Proofs.SilentStatements
import InterfaceStub.Proofs.StandardWalker
import InterfaceStub.Proofs.StubGrowth
import InterfaceStub.Proofs.StubLines
import InterfaceStub.Proofs.StubNames
import InterfaceStub.Proofs.StubReading
import InterfaceStub.Proofs.StubTargets
import InterfaceStub.Proofs.StubWriting
import InterfaceStub.Proofs.SyntaxShape
import InterfaceStub.Proofs.TargetExpansion
import InterfaceStub.Proofs.TextOrigins
import InterfaceStub.Proofs.TreeCursor
import InterfaceStub.Proofs.TreeExistence
import InterfaceStub.Proofs.TreeNodes
import InterfaceStub.Proofs.TreeReading
import InterfaceStub.Proofs.TypeGrammar
import InterfaceStub.Proofs.TypePositions
import InterfaceStub.Proofs.TypeTexts
import InterfaceStub.Proofs.VoidTypes
import InterfaceStub.Proofs.WalkStability
import InterfaceStub.Proofs.WalkerLaws
import InterfaceStub.Proofs.WriterStates
import InterfaceStub.Settings.Basic
import InterfaceStub.Settings.Codec
import InterfaceStub.Settings.File
import InterfaceStub.Stub.Basic
import InterfaceStub.Stub.Codec
import InterfaceStub.Stub.DottedName
import InterfaceStub.Stub.Printer
import InterfaceStub.Stub.Required
import InterfaceStub.Stub.Writer
import InterfaceStub.Syntax.Acceptance
import InterfaceStub.Syntax.Codec
import InterfaceStub.Syntax.Comment
import InterfaceStub.Syntax.Expression
import InterfaceStub.Syntax.Field
import InterfaceStub.Syntax.Kind
import InterfaceStub.Syntax.Node
import InterfaceStub.Syntax.Source
import InterfaceStub.Syntax.Statement
import InterfaceStub.Text.Alphabetic
import InterfaceStub.Text.Blank
import InterfaceStub.Text.GraphemeExtend
import InterfaceStub.Text.Identifier
import InterfaceStub.Text.Numeric
import InterfaceStub.Text.Offset
import InterfaceStub.Text.Quoted
import InterfaceStub.Text.Ranges
import InterfaceStub.Text.Raw
import InterfaceStub.Text.Split
import InterfaceStub.Text.Unprintable

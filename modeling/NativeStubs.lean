import NativeStubs.Alias
import NativeStubs.Catalog
import NativeStubs.Command.Argument
import NativeStubs.Command.Basic
import NativeStubs.Command.Option
import NativeStubs.Command.Run
import NativeStubs.Config
import NativeStubs.Config.Document
import NativeStubs.Config.Storage
import NativeStubs.Decimal.Layout
import NativeStubs.Decimal.Power
import NativeStubs.Decimal.Shortest
import NativeStubs.Declaration
import NativeStubs.Error
import NativeStubs.Files.Path
import NativeStubs.Files.System
import NativeStubs.Files.Tree
import NativeStubs.Generator
import NativeStubs.Identifier
import NativeStubs.Json.Fields
import NativeStubs.Json.Number
import NativeStubs.Json.Printer
import NativeStubs.Json.Reader
import NativeStubs.Json.Text
import NativeStubs.Json.Value
import NativeStubs.Main
import NativeStubs.Memory
import NativeStubs.Native.Basic
import NativeStubs.Native.Fault
import NativeStubs.Native.Printer
import NativeStubs.Native.Reader
import NativeStubs.Native.Revision
import NativeStubs.Pointer
import NativeStubs.Promotion
import NativeStubs.Proofs.Bindings
import NativeStubs.Proofs.Collision
import NativeStubs.Proofs.ConfigFile
import NativeStubs.Proofs.Conservation
import NativeStubs.Proofs.Containment
import NativeStubs.Proofs.Delivery
import NativeStubs.Proofs.Directories
import NativeStubs.Proofs.Documents
import NativeStubs.Proofs.DryRun
import NativeStubs.Proofs.Escaping
import NativeStubs.Proofs.Except
import NativeStubs.Proofs.ExitCode
import NativeStubs.Proofs.Fields
import NativeStubs.Proofs.FileTree
import NativeStubs.Proofs.Grammar
import NativeStubs.Proofs.Handles
import NativeStubs.Proofs.InitConfig
import NativeStubs.Proofs.Journal
import NativeStubs.Proofs.JsonText
import NativeStubs.Proofs.Layout
import NativeStubs.Proofs.Merge
import NativeStubs.Proofs.MergeLaws
import NativeStubs.Proofs.MergedRun
import NativeStubs.Proofs.NameShape
import NativeStubs.Proofs.Namespace
import NativeStubs.Proofs.OneLine
import NativeStubs.Proofs.Options
import NativeStubs.Proofs.Overlay
import NativeStubs.Proofs.Overwrite
import NativeStubs.Proofs.Parents
import NativeStubs.Proofs.Partition
import NativeStubs.Proofs.Paths
import NativeStubs.Proofs.Placement
import NativeStubs.Proofs.Plan
import NativeStubs.Proofs.PointerSpelling
import NativeStubs.Proofs.Preparation
import NativeStubs.Proofs.Reading
import NativeStubs.Proofs.Record
import NativeStubs.Proofs.RecordText
import NativeStubs.Proofs.Renaming
import NativeStubs.Proofs.Reordering
import NativeStubs.Proofs.Replacement
import NativeStubs.Proofs.Revision
import NativeStubs.Proofs.Selection
import NativeStubs.Proofs.Sources
import NativeStubs.Proofs.Stored
import NativeStubs.Proofs.StubDirectory
import NativeStubs.Proofs.StubFiles
import NativeStubs.Proofs.TomlDocument
import NativeStubs.Proofs.TomlText
import NativeStubs.Proofs.Trace
import NativeStubs.Proofs.TypeCase
import NativeStubs.Proofs.Visibility
import NativeStubs.ReservedWords
import NativeStubs.Run
import NativeStubs.Signature
import NativeStubs.Source
import NativeStubs.StubDirectory
import NativeStubs.Text.Blank
import NativeStubs.Text.CaseTable
import NativeStubs.Text.CharTable
import NativeStubs.Text.Hex
import NativeStubs.Text.LetterCase
import NativeStubs.Text.Lines
import NativeStubs.Text.PrintTable
import NativeStubs.Text.Quoted
import NativeStubs.Text.Replace
import NativeStubs.Text.Utf8
import NativeStubs.Toml.Reader
import NativeStubs.Toml.Scalar
import NativeStubs.Toml.Text
import NativeStubs.Toml.Value
import NativeStubs.TypeName

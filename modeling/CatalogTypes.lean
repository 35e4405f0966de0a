import CatalogTypes.Files.Changes
import CatalogTypes.Main
import CatalogTypes.Proofs.Schema.Graph
import CatalogTypes.Proofs.Json.Strings
import CatalogTypes.Proofs.Json.Written
import CatalogTypes.Proofs.TypeBox.Shape
import CatalogTypes.Proofs.Catalog.Walk
import CatalogTypes.Proofs.Files.Memory
import CatalogTypes.Proofs.Package.Names
import CatalogTypes.Proofs.Files.Descent
import CatalogTypes.Proofs.Files.Directories
import CatalogTypes.Proofs.Files.Writing
import CatalogTypes.Proofs.Package.Stored
import CatalogTypes.Proofs.Package.Written
import CatalogTypes.Proofs.Generation.Disk
import CatalogTypes.Proofs.Catalog.Places
import CatalogTypes.Proofs.Catalog.Units
import CatalogTypes.Proofs.Package.Exports
import CatalogTypes.Proofs.Package.Comment
import CatalogTypes.Proofs.Unicode.Marks
import CatalogTypes.Proofs.Identifier.Strip
import CatalogTypes.Proofs.Catalog.Bases
import CatalogTypes.Proofs.Catalog.Growth
import CatalogTypes.Proofs.Files.Asking
import CatalogTypes.Proofs.Generation.Memory
import CatalogTypes.Proofs.Generation.Index
import CatalogTypes.Proofs.Text.Ascii
import CatalogTypes.Proofs.Generation.History
import CatalogTypes.Proofs.Status.Answers
import CatalogTypes.Proofs.Status.Listing
import CatalogTypes.Proofs.Generation.Regeneration
import CatalogTypes.Proofs.CommandLine.Reach
import CatalogTypes.Proofs.Decimal.Layout
import CatalogTypes.Proofs.TypeBox.Code
import CatalogTypes.Proofs.TypeBox.Literals
import CatalogTypes.Proofs.TypeBox.Balance
import CatalogTypes.Proofs.TypeBox.Keys
import CatalogTypes.Proofs.Text.Bytes
import CatalogTypes.Proofs.TypeBox.Bytes
import CatalogTypes.Proofs.Files.Fresh
import CatalogTypes.Proofs.Generation.Creation
import CatalogTypes.Proofs.Generation.Agreement
import CatalogTypes.Proofs.CommandLine.Appended
import CatalogTypes.Proofs.CommandLine.OutputDirectory
import CatalogTypes.Proofs.Catalog.Pruning
import CatalogTypes.Proofs.Files.Spelling
import CatalogTypes.Proofs.Files.Lasting
import CatalogTypes.Proofs.Package.Statements
import CatalogTypes.Proofs.Package.Bindings
import CatalogTypes.Proofs.Settings.Simple
import CatalogTypes.Proofs.Settings.Lines
import CatalogTypes.Proofs.Settings.Loading
import CatalogTypes.Proofs.CommandLine.Directories
import CatalogTypes.Proofs.Files.Parents
import CatalogTypes.Proofs.Text.Lines
import CatalogTypes.Proofs.Text.Trimmed
import CatalogTypes.Proofs.Schema.Part
import CatalogTypes.Proofs.TypeBox.Indentation
import CatalogTypes.Proofs.Package.CommentLines
import CatalogTypes.Proofs.Json.Keyed
import CatalogTypes.Proofs.Schema.Represented

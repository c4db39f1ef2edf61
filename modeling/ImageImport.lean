import ImageImport.Load.Binary
import ImageImport.Load.Protocol
import ImageImport.Report.Records
import ImageImport.Store.Directory
import ImageImport.Store.FileSource
import ImageImport.Store.Memory
import ImageImport.Proofs.Text.Numeral
import ImageImport.Proofs.Text.Pieces
import ImageImport.Proofs.Text.Hexadecimal
import ImageImport.Proofs.Locator.RoundTrip
import ImageImport.Proofs.Address.Written
import ImageImport.Proofs.Address.RoundTrip
import ImageImport.Proofs.Table.Order
import ImageImport.Proofs.Table.Bodies
import ImageImport.Proofs.Table.Labels
import ImageImport.Proofs.Memory.Layout
import ImageImport.Proofs.Memory.Append
import ImageImport.Proofs.Memory.Admission
import ImageImport.Proofs.Memory.Reordering
import ImageImport.Proofs.Program.Operation
import ImageImport.Proofs.Program.Step
import ImageImport.Proofs.Program.Invariant
import ImageImport.Proofs.Program.Rollback
import ImageImport.Proofs.Program.Balance
import ImageImport.Proofs.Program.Scoped
import ImageImport.Proofs.Program.Labelling
import ImageImport.Proofs.Table.Requests
import ImageImport.Proofs.Table.Pins
import ImageImport.Proofs.Program.Relabelling
import ImageImport.Proofs.Program.Anchoring
import ImageImport.Proofs.Program.Ownership
import ImageImport.Proofs.Program.Lifecycle
import ImageImport.Proofs.Program.Hearing
import ImageImport.Proofs.Program.Placement
import ImageImport.Proofs.Program.Housing
import ImageImport.Proofs.Program.DefaultBlocks
import ImageImport.Proofs.Program.Spaces
import ImageImport.Proofs.Json.Scan
import ImageImport.Proofs.Json.Parse
import ImageImport.Proofs.Json.Records
import ImageImport.Proofs.Memory.Permissions
import ImageImport.Proofs.Store.Records
import ImageImport.Proofs.Store.Files
import ImageImport.Proofs.Store.ReadBack
import ImageImport.Proofs.Store.Laws
import ImageImport.Proofs.Store.FreeName
import ImageImport.Proofs.Store.Tree
import ImageImport.Proofs.Store.Ledger
import ImageImport.Proofs.Store.Agreement
import ImageImport.Proofs.Load.Course
import ImageImport.Proofs.Load.Accounts
import ImageImport.Proofs.Load.Outcome
import ImageImport.Proofs.Load.Interruption
import ImageImport.Proofs.Load.Merge
import ImageImport.Proofs.Load.BlockName
import ImageImport.Proofs.Load.Append
import ImageImport.Proofs.Digest.Stream
import ImageImport.Proofs.Load.Extract
import ImageImport.Proofs.Load.Arguments
import ImageImport.Proofs.Load.Settings
import ImageImport.Proofs.Program.Identity
import ImageImport.Proofs.Program.Marking

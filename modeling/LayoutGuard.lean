import LayoutGuard.Archive.Memory
import LayoutGuard.Main
import LayoutGuard.Proofs.Comparison.Walk
import LayoutGuard.Proofs.Comparison.Trace
import LayoutGuard.Proofs.Comparison.Equality
import LayoutGuard.Proofs.Comparison.Attribution
import LayoutGuard.Proofs.Comparison.Unpaired
import LayoutGuard.Proofs.Comparison.Pairing
import LayoutGuard.Proofs.Comparison.Snapshots
import LayoutGuard.Proofs.Comparison.Itself
import LayoutGuard.Proofs.Gate
import LayoutGuard.Proofs.Comparison.Accounting
import LayoutGuard.Proofs.Comparison.Failures
import LayoutGuard.Proofs.Comparison.Completion
import LayoutGuard.Proofs.Comparison.Recoding
import LayoutGuard.Proofs.Comparison.Replacement
import LayoutGuard.Proofs.Comparison.AstIds
import LayoutGuard.Proofs.Json.Integers
import LayoutGuard.Proofs.Json.Scanning
import LayoutGuard.Proofs.Json.Reading
import LayoutGuard.Proofs.Json.Forms
import LayoutGuard.Proofs.JsonForm.Snapshot
import LayoutGuard.Proofs.JsonForm.Findings
import LayoutGuard.Proofs.Lineage.Impact
import LayoutGuard.Proofs.Comparison.Rearrangement
import LayoutGuard.Proofs.Comparison.Composition
import LayoutGuard.Proofs.Comparison.Lookups
import LayoutGuard.Proofs.Comparison.Renames
import LayoutGuard.Proofs.Files.Tree
import LayoutGuard.Proofs.Archive.Disk
import LayoutGuard.Proofs.Archive.Histories
import LayoutGuard.Proofs.Files.Writing
import LayoutGuard.Proofs.BuildInfo.Assembly
import LayoutGuard.Proofs.CommandLine.Arguments
import LayoutGuard.Proofs.CommandLine.SaveAndCompare
import LayoutGuard.Proofs.Lineage.Order
import LayoutGuard.Proofs.Comparison.Termination
import LayoutGuard.Proofs.Comparison.Mirror
import LayoutGuard.Proofs.Findings
import LayoutGuard.Proofs.Comparison.MovedSlots
import LayoutGuard.Proofs.Lineage.Sources
import LayoutGuard.Proofs.BuildInfo.Output
import LayoutGuard.Proofs.Text.ByteOrder
import LayoutGuard.Proofs.BuildInfo.Directory
import LayoutGuard.Proofs.Archive.Confinement
import LayoutGuard.Proofs.Lineage.Merge
import LayoutGuard.Proofs.Findings.ChangeOrder
import LayoutGuard.Proofs.Findings.Collection
import LayoutGuard.Proofs.Report.Affected
import LayoutGuard.Proofs.Text.Lines
import LayoutGuard.Proofs.Report.Text
import LayoutGuard.Proofs.JsonForm.Lineage

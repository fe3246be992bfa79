import ContactGrid.Contacts
import ContactGrid.Main
import ContactGrid.Proofs.Block
import ContactGrid.Proofs.Ownership
import ContactGrid.Proofs.BucketCode
import ContactGrid.Proofs.Launch
import ContactGrid.Proofs.PrefixSums
import ContactGrid.Proofs.StableSort
import ContactGrid.Proofs.RunEncoding
import ContactGrid.Proofs.Slots
import ContactGrid.Proofs.Groups
import ContactGrid.Proofs.BucketPairs
import ContactGrid.Proofs.Enumerating
import ContactGrid.Proofs.Stages
import ContactGrid.Proofs.Building
import ContactGrid.Proofs.Listing
import ContactGrid.Proofs.Records
import ContactGrid.Proofs.Contacts
import ContactGrid.Proofs.Reuse
import ContactGrid.Proofs.ExactGeometry
import ContactGrid.Proofs.Audit
import ContactGrid.Proofs.Coverage
import ContactGrid.Proofs.Completeness
import ContactGrid.Proofs.MachineSymmetry
import ContactGrid.Proofs.Histories
import ContactGrid.Proofs.Locality
import ContactGrid.Proofs.Modes
import ContactGrid.Proofs.Partition
import ContactGrid.Proofs.Comparison
import ContactGrid.Proofs.StageOrder
import ContactGrid.Proofs.MachineOrder
import ContactGrid.Proofs.Refusals
import ContactGrid.Proofs.TaskOrder
import ContactGrid.Proofs.Schedules
import ContactGrid.Proofs.Morton
import ContactGrid.Proofs.Footprints
import ContactGrid.Proofs.Layout
import ContactGrid.Proofs.BucketOrder
import ContactGrid.Proofs.Traces
import ContactGrid.Proofs.Binding
import ContactGrid.Proofs.CellSizes
import ContactGrid.Proofs.EndlessTape
import ContactGrid.Proofs.RecordRoom
import ContactGrid.Proofs.Accounting
import ContactGrid.Proofs.LaunchCounts
import ContactGrid.Proofs.RecordText
import ContactGrid.Proofs.HalfEven
import ContactGrid.Proofs.Doubles
import ContactGrid.Proofs.CountText
import ContactGrid.Proofs.Reductions
import ContactGrid.Proofs.Distances

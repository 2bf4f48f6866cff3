import NewGrf.Command.Version
import NewGrf.Editor.Files
import NewGrf.Main
import NewGrf.Proofs.Arguments
import NewGrf.Proofs.BaseCosts
import NewGrf.Proofs.Calendar
import NewGrf.Proofs.ChoiceCalls
import NewGrf.Proofs.ComputedValues
import NewGrf.Proofs.Confinement
import NewGrf.Proofs.Container
import NewGrf.Proofs.Coverage
import NewGrf.Proofs.Cropping
import NewGrf.Proofs.InfoTrees
import NewGrf.Proofs.ItemIds
import NewGrf.Proofs.LayoutFields
import NewGrf.Proofs.Lending
import NewGrf.Proofs.Neighbours
import NewGrf.Proofs.Nesting
import NewGrf.Proofs.NodeIds
import NewGrf.Proofs.Orders
import NewGrf.Proofs.RandomSwitches
import NewGrf.Proofs.Registers
import NewGrf.Proofs.RepeatedValues
import NewGrf.Proofs.ReservedRegisters
import NewGrf.Proofs.Scanning
import NewGrf.Proofs.SharedTexts
import NewGrf.Proofs.Snowlines
import NewGrf.Proofs.SpriteLabels
import NewGrf.Proofs.Storing
import NewGrf.Proofs.TownSplits
import NewGrf.Proofs.TrackTables
import NewGrf.Proofs.Unpacking
import NewGrf.Proofs.VehicleOrder
import NewGrf.Proofs.Volumes

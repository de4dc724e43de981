import I2cTopology.Main
import I2cTopology.Proofs.Decimal
import I2cTopology.Simulation.Setup
import I2cTopology.Simulation.Terminal
import I2cTopology.Proofs.PathText
import I2cTopology.Proofs.Forest.Lineage
import I2cTopology.Proofs.Forest.Numbering
import I2cTopology.Proofs.Forest.Growth
import I2cTopology.Proofs.Forest.Planting
import I2cTopology.Proofs.Forest.Built
import I2cTopology.Proofs.Forest.Faults
import I2cTopology.Proofs.Forest.Placement
import I2cTopology.Proofs.Forest.WellFormed
import I2cTopology.Proofs.Forest.Subtrees
import I2cTopology.Proofs.Forest.Resolution
import I2cTopology.Proofs.Forest.Embedding
import I2cTopology.Proofs.Forest.Reordering
import I2cTopology.Proofs.Forest.Arrival
import I2cTopology.Proofs.Forest.Renaming
import I2cTopology.Proofs.Forest.Pruning
import I2cTopology.Proofs.Forest.Trails
import I2cTopology.Proofs.PathCodec
import I2cTopology.Proofs.Context.Reading
import I2cTopology.Proofs.Context.Rescan
import I2cTopology.Proofs.Context.Recorded
import I2cTopology.Proofs.Context.History
import I2cTopology.Proofs.Dialogues
import I2cTopology.Proofs.Results
import I2cTopology.Proofs.Forest.Upkeep
import I2cTopology.Proofs.Survey
import I2cTopology.Proofs.Context.Atomicity
import I2cTopology.Proofs.Context.Opening
import I2cTopology.Proofs.Context.Moves
import I2cTopology.Proofs.Context.Traced
import I2cTopology.Proofs.Context.Flags
import I2cTopology.Proofs.Context.Binding
import I2cTopology.Proofs.Context.Currency
import I2cTopology.Proofs.Hexadecimal
import I2cTopology.Proofs.ConfigText
import I2cTopology.Proofs.Matching
import I2cTopology.Proofs.Account
import I2cTopology.Proofs.Context.Provenance
import I2cTopology.Proofs.FilePathText
import I2cTopology.Proofs.Yields
import I2cTopology.Proofs.Sysfs.Names
import I2cTopology.Proofs.Sysfs.Layout
import I2cTopology.Proofs.Sysfs.Recovery
import I2cTopology.Proofs.Writes
import I2cTopology.Proofs.Context.Controls
import I2cTopology.Proofs.Context.ControlSafety
import I2cTopology.Proofs.Configurable
import I2cTopology.Proofs.Context.Rounds
import I2cTopology.Proofs.Context.Worlds
import I2cTopology.Proofs.Context.Removal
import I2cTopology.Proofs.Context.Instantiation
import I2cTopology.Proofs.CNotation
import I2cTopology.Proofs.PathGrammar
import I2cTopology.Proofs.LineGrammar
import I2cTopology.Proofs.Context.Retention
import I2cTopology.Proofs.Context.Staleness
import I2cTopology.Proofs.Forest.Orphans
import I2cTopology.Proofs.ConfiguredChips
import I2cTopology.Proofs.Selectors
import I2cTopology.Proofs.Handle.Session
import I2cTopology.Proofs.Handle.Probing

import Converge.Host.Snapshot
import Converge.Main
import Converge.Proofs.Answers
import Converge.Proofs.BlockFormat
import Converge.Proofs.Blocks
import Converge.Proofs.CommandWords
import Converge.Proofs.Cycles
import Converge.Proofs.Declarations
import Converge.Proofs.Delegations
import Converge.Proofs.FileStates
import Converge.Proofs.Finalize
import Converge.Proofs.Footprints
import Converge.Proofs.Forms
import Converge.Proofs.Handovers
import Converge.Proofs.Hindrances
import Converge.Proofs.Histories
import Converge.Proofs.Interchange
import Converge.Proofs.KeepGoing
import Converge.Proofs.LeastOrder
import Converge.Proofs.Records
import Converge.Proofs.References
import Converge.Proofs.RefusedFiles
import Converge.Proofs.Scaffolding
import Converge.Proofs.ScriptFaults
import Converge.Proofs.Spellings
import Converge.Proofs.Strategies
import Converge.Proofs.UnknownTypes
import Converge.Shell.Launch

import Lineup.Main
import Lineup.Handler.Table
import Lineup.World.FileTree
import Lineup.Proofs.Scenario.Limit
import Lineup.Proofs.Scenario.Compatible
import Lineup.Proofs.Scenario.Rebuilding
import Lineup.Proofs.Roster.Fingerprint
import Lineup.Proofs.Handler.Run
import Lineup.Proofs.Scenario.SpecObject
import Lineup.Proofs.Scenario.Lossless
import Lineup.Proofs.Scenario.Agreement
import Lineup.Proofs.Command.Failing
import Lineup.Proofs.Command.Locating
import Lineup.Proofs.Command.Isolation
import Lineup.Proofs.Command.Printing
import Lineup.Proofs.Scenario.Building
import Lineup.Proofs.Handler.Outcome
import Lineup.Proofs.Scenario.Finding
import Lineup.Proofs.Roster.Replication
import Lineup.Proofs.Scenario.Normal
import Lineup.Proofs.Settings.Defaults
import Lineup.Proofs.Scenario.Format

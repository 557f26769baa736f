import Scoreboard.Command.Grammar
import Scoreboard.Dispatch.Run
import Scoreboard.Main
import Scoreboard.Proofs.Command.Derivations
import Scoreboard.Proofs.Command.RoundTrip
import Scoreboard.Proofs.Dispatch.Sequential
import Scoreboard.Proofs.Game.Invariant
import Scoreboard.Proofs.Game.DepthLimit
import Scoreboard.Proofs.Game.Endings
import Scoreboard.Proofs.Game.Faults
import Scoreboard.Proofs.Command.Stops
import Scoreboard.Proofs.Command.Overlong
import Scoreboard.Proofs.Dispatch.Ledger
import Scoreboard.Proofs.Dispatch.Queued
import Scoreboard.Proofs.Dispatch.Taken
import Scoreboard.Proofs.Command.Mistakes
import Scoreboard.Proofs.Command.Reliable
import Scoreboard.Proofs.Command.Readers
import Scoreboard.Proofs.Command.Positions
import Scoreboard.Proofs.Command.Margins
import Scoreboard.Proofs.Game.FunctionText
import Scoreboard.Proofs.Dispatch.Outputs
import Scoreboard.Proofs.Game.Machine
import Scoreboard.Proofs.Game.Cosmetics
import Scoreboard.Proofs.Datapack.FunctionPath
import Scoreboard.Proofs.Datapack.FunctionText
import Scoreboard.Proofs.Datapack.Storage
import Scoreboard.Proofs.Datapack.Layout
import Scoreboard.Proofs.Datapack.Calls
import Scoreboard.Proofs.Dispatch.Records
import Scoreboard.Proofs.Game.Operations
import Scoreboard.Proofs.Game.Adjustments
import Scoreboard.Proofs.Game.Chains
import Scoreboard.Proofs.Revisions
import Scoreboard.Proofs.Game.Definedness
import Scoreboard.Proofs.Game.Frames
import Scoreboard.Proofs.Game.Unwinding
import Scoreboard.Proofs.Dispatch.History
import Scoreboard.Proofs.Game.Commuting
import Scoreboard.Proofs.Game.Readings

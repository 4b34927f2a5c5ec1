import Roster.Client.Preparation
import Roster.Config.Writer
import Roster.Gate.Run
import Roster.Main
import Roster.Proofs.Manager.CacheFirst
import Roster.Proofs.Manager.Conservation
import Roster.Proofs.Manager.Progress
import Roster.Proofs.Manager.Rounds
import Roster.Reply
import Roster.Text.Column
import Roster.Proofs.Manager.Knowledge
import Roster.Proofs.Manager.Provenance
import Roster.Proofs.Manager.Finality
import Roster.Proofs.Manager.Confluence
import Roster.Proofs.Manager.Calls
import Roster.Proofs.Manager.Sharing
import Roster.Proofs.Manager.Ownership
import Roster.Proofs.Manager.Mirror
import Roster.Client.Action
import Roster.Proofs.Client.Frame
import Roster.Proofs.Client.Lives
import Roster.Proofs.Client.FanIn
import Roster.Proofs.Client.Questions
import Roster.Proofs.Client.Callers
import Roster.Proofs.Client.Exactness
import Roster.Proofs.Client.Callback
import Roster.Proofs.Client.Reaching
import Roster.Proofs.Client.Following
import Roster.Proofs.Client.Moving
import Roster.Proofs.Client.Lateness
import Roster.Proofs.Bus.History
import Roster.Proofs.Client.Disposal
import Roster.Proofs.Manager.Frugality
import Roster.Proofs.Cli.Agreement
import Roster.Proofs.Client.Watching
import Roster.Proofs.Client.Keeping
import Roster.Proofs.Manager.Stopping
import Roster.Proofs.Client.Doomed
import Roster.Proofs.Manager.Starting
import Roster.Proofs.Reply.Entries
import Roster.Proofs.Reply.Malformed
import Roster.Proofs.CacheFile.Decoding
import Roster.Proofs.Protocol.WellFormed
import Roster.Proofs.Param.Rereading
import Roster.Proofs.CacheFile.Lookup
import Roster.Proofs.Gate.Delivery
import Roster.Proofs.Gate.Standing
import Roster.Proofs.Json.Notation
import Roster.Proofs.Manager.Interfaces
import Roster.Proofs.Cli.Secrets
import Roster.Proofs.Name.BusNames
import Roster.Proofs.Countdown.WakeUps

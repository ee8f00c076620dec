import CloudQueue.Pipeline.Basic
import CloudQueue.Settings.Basic
import CloudQueue.Url.Parser
import CloudQueue.Metadata.Detection
import CloudQueue.Plugin.Session
import CloudQueue.Http.Script
import CloudQueue.Command.Run
import CloudQueue.Verdict.Schedule
import CloudQueue.Main
import CloudQueue.Proofs.Verdict.FirstGrant
import CloudQueue.Proofs.Verdict.Rounds
import CloudQueue.Proofs.Verdict.WriteOnce
import CloudQueue.Proofs.Http.Chain
import CloudQueue.Proofs.Http.Ending
import CloudQueue.Proofs.Metadata.Outcome
import CloudQueue.Proofs.Metadata.Protocol
import CloudQueue.Plugin.Runtime
import CloudQueue.Plugin.Host
import CloudQueue.Proofs.Plugin.Tasks
import CloudQueue.Proofs.Plugin.Kept
import CloudQueue.Proofs.Plugin.Builds
import CloudQueue.Proofs.Plugin.Turns
import CloudQueue.Proofs.Plugin.DriverCalls
import CloudQueue.Proofs.Plugin.Start
import CloudQueue.Proofs.Plugin.Alone
import CloudQueue.Proofs.Settings.Address
import CloudQueue.Proofs.Binary64.Render
import CloudQueue.Proofs.Json.Numbers
import CloudQueue.Proofs.Json.RoundTrip
import CloudQueue.Proofs.Json.Depth
import CloudQueue.Proofs.Settings.RoundTrip
import CloudQueue.Proofs.Command.ShowPipeline
import CloudQueue.Proofs.Metadata.Detour
import CloudQueue.Proofs.Settings.Agreement
import CloudQueue.Proofs.Verdict.Values
import CloudQueue.Proofs.Verdict.Waits
import CloudQueue.Proofs.Plugin.Independence
import CloudQueue.Proofs.Metadata.Log
import CloudQueue.Proofs.Plugin.Settled
import CloudQueue.Proofs.ThreeWays
import CloudQueue.Proofs.Text.Integers
import CloudQueue.Proofs.Pipeline.Integers
import CloudQueue.Proofs.Metadata.Story
import CloudQueue.Proofs.Metadata.BaseUrl
import CloudQueue.Proofs.Settings.Nulls
import CloudQueue.Proofs.Plugin.EventLog
import CloudQueue.Proofs.Settings.Composition
import CloudQueue.Proofs.Settings.Locality
import CloudQueue.Proofs.Pipeline.WrittenOut
import CloudQueue.Proofs.Text.Bytes
import CloudQueue.Proofs.Json.Listing
import CloudQueue.Proofs.Pipeline.FiniteMap

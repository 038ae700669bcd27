import CrowdSim.Number.Binary64
import CrowdSim.Number.Shortest
import CrowdSim.Number.Text
import CrowdSim.Number.Elementary
import CrowdSim.Number.Scalar
import CrowdSim.Plane.Vec
import CrowdSim.Plane.Box
import CrowdSim.Plane.Polygon
import CrowdSim.Plane.Segment
import CrowdSim.Number.Reading
import CrowdSim.Json.Value
import CrowdSim.Json.Parse
import CrowdSim.Order.Quicksort
import CrowdSim.Space.RTree
import CrowdSim.Space.Index
import CrowdSim.Force.Params
import CrowdSim.Force.Model
import CrowdSim.Text.Quote
import CrowdSim.Motion.Scheme
import CrowdSim.Space.Nearest
import CrowdSim.Wayfinding.Tuning
import CrowdSim.Wayfinding.Route
import CrowdSim.Wayfinding.RouteFollower
import CrowdSim.Wayfinding.LeaderFollower
import CrowdSim.Wayfinding.Wayfinder
import CrowdSim.Json.Record
import CrowdSim.Sim.Config
import CrowdSim.Sim.ConfigFile
import CrowdSim.Random.Scramble
import CrowdSim.Random.Source
import CrowdSim.Random.Normal
import CrowdSim.Sim.Control
import CrowdSim.Sim.Pedestrian
import CrowdSim.Motion.Body
import CrowdSim.Sim.Crowd
import CrowdSim.Sim.Simulation
import CrowdSim.Sim.Snapshot
import CrowdSim.Sim.Run
import CrowdSim.Sim.Corridor
import CrowdSim.Text.Utf8
import CrowdSim.Text.Hex
import CrowdSim.Protobuf.Wire
import CrowdSim.Broadcast.Frame
import CrowdSim.Protobuf.Struct
import CrowdSim.Broadcast.Control
import CrowdSim.Http.Octet
import CrowdSim.Http.Address
import CrowdSim.Http.Target
import CrowdSim.Http.Head
import CrowdSim.Broadcast.Handshake
import CrowdSim.Broadcast.Hub
import CrowdSim.Broadcast.Server
import CrowdSim.Main
import CrowdSim.Proofs.Interleaving
import CrowdSim.Proofs.Faults
import CrowdSim.Proofs.WireRoundTrip
import CrowdSim.Proofs.FrameRoundTrip
import CrowdSim.Proofs.FloatOrder
import CrowdSim.Proofs.RouteProgress
import CrowdSim.Proofs.FailedCalls
import CrowdSim.Proofs.EngineEpoch
import CrowdSim.Proofs.FrameGrammar
import CrowdSim.Proofs.PoolBarrier
import CrowdSim.Proofs.PoolRun
import CrowdSim.Proofs.RealPlane
import CrowdSim.Proofs.SortPermutes
import CrowdSim.Proofs.RTreeSearch
import CrowdSim.Proofs.IndexContents
import CrowdSim.Proofs.ForceSums
import CrowdSim.Proofs.NearestSearch
import CrowdSim.Proofs.HubClients
import CrowdSim.Proofs.ForceCutoff
import CrowdSim.Proofs.WaitingPeriod
import CrowdSim.Proofs.Reassignment
import CrowdSim.Proofs.OrientationCascade
import CrowdSim.Proofs.UnknownFields
import CrowdSim.Proofs.WallClasses
import CrowdSim.Proofs.Utf8RoundTrip
import CrowdSim.Proofs.StatusRoundTrip
import CrowdSim.Proofs.TargetLines
import CrowdSim.Proofs.ClippedSight
import CrowdSim.Proofs.GroupCohesion
import CrowdSim.Proofs.SnapshotQueries
import CrowdSim.Proofs.ControlKeys
import CrowdSim.Proofs.ConfigSchema
import CrowdSim.Proofs.StepCalls

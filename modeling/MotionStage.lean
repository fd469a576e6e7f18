import MotionStage.Data.IndexMap
import MotionStage.Data.Run
import MotionStage.Data.Progress
import MotionStage.Data.Exchange
import MotionStage.Data.Table
import MotionStage.Data.Journal
import MotionStage.Data.Nan
import MotionStage.Data.Mailbox
import MotionStage.Data.Threads
import MotionStage.Data.Traverse
import MotionStage.Data.Cells
import MotionStage.Data.Text
import MotionStage.Data.Strings
import MotionStage.Data.Delta
import MotionStage.Data.Usda
import MotionStage.Data.Framing
import MotionStage.Data.Blobs
import MotionStage.Protocol.Basic
import MotionStage.Core.Float
import MotionStage.Core.Model
import MotionStage.Core.Transform
import MotionStage.Core.Runtime
import MotionStage.Core.Op
import MotionStage.Core.Ownership
import MotionStage.Core.Lease
import MotionStage.Core.Lock
import MotionStage.Core.Graph
import MotionStage.Core.Update
import MotionStage.Core.Shape
import MotionStage.Core.Batch
import MotionStage.Core.Writes
import MotionStage.Core.Kind
import MotionStage.Core.Validity
import MotionStage.Core.Drift
import MotionStage.Core.Assign
import MotionStage.Core.Serving
import MotionStage.Core.Mask
import MotionStage.Core.Baseline
import MotionStage.Core.Exact
import MotionStage.Core.Nan
import MotionStage.Core.Range
import MotionStage.Core.Filters
import MotionStage.Core.Panic
import MotionStage.Core.Compose
import MotionStage.Core.Commute
import MotionStage.Core.Routing
import MotionStage.Recording.Writer
import MotionStage.Recording.Manifest
import MotionStage.Recording.Format
import MotionStage.Recording.Layout
import MotionStage.Recording.Readback
import MotionStage.Export.Usd
import MotionStage.Media.Basic
import MotionStage.Media.Negotiation
import MotionStage.Discovery.Basic
import MotionStage.Discovery.Browser
import MotionStage.Transport.Control
import MotionStage.Server.State
import MotionStage.Server.Session
import MotionStage.Server.Stage
import MotionStage.Transport.Build
import MotionStage.Server.Video
import MotionStage.Server.SessionStep
import MotionStage.Server.Names
import MotionStage.Server.Features
import MotionStage.Server.Presence
import MotionStage.Server.Atomicity
import MotionStage.Server.Expiry
import MotionStage.Server.Take
import MotionStage.Server.Recorder
import MotionStage.Server.Timeline
import MotionStage.Server.Capture
import MotionStage.Server.Footage
import MotionStage.Server.Flags
import MotionStage.Server.Admission
import MotionStage.Server.Peer
import MotionStage.Server.PeerStep
import MotionStage.Server.Teardown
import MotionStage.Server.Steering
import MotionStage.Server.Signaling
import MotionStage.Server.Lifecycle
import MotionStage.Server.VideoStep
import MotionStage.Server.VideoTrack
import MotionStage.Server.Reconnect
import MotionStage.Server.Refusal
import MotionStage.Server.Isolation
import MotionStage.Server.ControlLoop
import MotionStage.Client.Outputs
import MotionStage.Client.Discover
import MotionStage.Client.ModeRequest
import MotionStage.Sdk.EventPump
import MotionStage.Sdk.ClientMirror
import MotionStage.Sdk.LateDelegate
import MotionStage.Client.Handshake
import MotionStage.Client.Connecting
import MotionStage.Client.Admittance
import MotionStage.Client.Simulator
import MotionStage.Client.SimulatorTake
import MotionStage.Client.Filming
import MotionStage.Client.DemoStage
import MotionStage.Client.Playing
import MotionStage.Server.Dialogue
import MotionStage.Client.SwiftMode
import MotionStage.Sdk.SceneSpec
import MotionStage.Sdk.SpecKinds
import MotionStage.Sdk.ReadBack
import MotionStage.Export.Chan
import MotionStage.Sdk.Blender
import MotionStage.Client.Wave
import MotionStage.Discovery.Records

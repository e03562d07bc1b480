import RocketSurgeon.Daemon.ActiveProbes
import RocketSurgeon.Daemon.Atomicity
import RocketSurgeon.Daemon.Backward
import RocketSurgeon.Daemon.CapturedValues
import RocketSurgeon.Daemon.Checkpoints
import RocketSurgeon.Daemon.ExactStats
import RocketSurgeon.Daemon.ExecutedTicks
import RocketSurgeon.Daemon.Leftovers
import RocketSurgeon.Daemon.Notifications
import RocketSurgeon.Daemon.Panics
import RocketSurgeon.Daemon.ProbeSync
import RocketSurgeon.Daemon.SessionInvariant
import RocketSurgeon.Daemon.StoreLru
import RocketSurgeon.Daemon.TraceLog
import RocketSurgeon.Daemon.TraceReferences
import RocketSurgeon.Orchestrator.Forward
import RocketSurgeon.Probes.Mirror
import RocketSurgeon.Protocol.CheckpointLayers
import RocketSurgeon.Worker.Activation
import RocketSurgeon.Worker.Barrier
import RocketSurgeon.Worker.Bookkeeping
import RocketSurgeon.Worker.Clocks
import RocketSurgeon.Worker.Eviction
import RocketSurgeon.Worker.Hooks
import RocketSurgeon.Worker.InterventionOrder
import RocketSurgeon.Worker.InterventionTargets
import RocketSurgeon.Worker.LayerStep
import RocketSurgeon.Worker.ProbeBudget
import RocketSurgeon.Worker.ReplayVerify
import RocketSurgeon.Worker.Rollback
import RocketSurgeon.Worker.SpillFaults
import RocketSurgeon.Worker.SpillRoundTrip
import RocketSurgeon.Daemon.NearestComponents
import RocketSurgeon.Daemon.Timestamps
import RocketSurgeon.Daemon.TrackIds
import RocketSurgeon.Host.Composition
import RocketSurgeon.Host.RngState
import RocketSurgeon.Perfetto.PacketStream
import RocketSurgeon.Shm.ProbeFrame
import RocketSurgeon.Tui.TensorCache
import RocketSurgeon.Tui.Tiling

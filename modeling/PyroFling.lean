import PyroFling.Proofs.AcquireAgreement
import PyroFling.Proofs.ChainRestoration
import PyroFling.Proofs.ClientIsolation
import PyroFling.Proofs.ClockEstimate
import PyroFling.Proofs.Codec
import PyroFling.Proofs.DeviceFrames
import PyroFling.Proofs.DispatcherRuns
import PyroFling.Proofs.DuplicateDatagrams
import PyroFling.Proofs.FecCoverage
import PyroFling.Proofs.FrameCompletion
import PyroFling.Proofs.GamepadOrder
import PyroFling.Proofs.HandshakeAgreement
import PyroFling.Proofs.HostileDatagrams
import PyroFling.Proofs.IdrRateLimit
import PyroFling.Proofs.ImageConservation
import PyroFling.Proofs.ImageOwnership
import PyroFling.Proofs.IndexArena
import PyroFling.Proofs.IndexUnwrapping
import PyroFling.Proofs.LatencyReports
import PyroFling.Proofs.LatencyWaits
import PyroFling.Proofs.LostWakeup
import PyroFling.Proofs.MessageCodec
import PyroFling.Proofs.NotificationSafety
import PyroFling.Proofs.PacketRoundTrip
import PyroFling.Proofs.PhaseLock
import PyroFling.Proofs.PipelineReuse
import PyroFling.Proofs.PresentRelease
import PyroFling.Proofs.ReplyWaiting
import PyroFling.Proofs.RequestAtomicity
import PyroFling.Proofs.RingDelivery
import PyroFling.Proofs.Sampling
import PyroFling.Proofs.ScanoutPacing
import PyroFling.Proofs.SlotOrder
import PyroFling.Proofs.SlotReuse
import PyroFling.Proofs.SocketMaster
import PyroFling.Proofs.SourceSemaphores
import PyroFling.Proofs.StatusReports
import PyroFling.Proofs.StreamDelivery
import PyroFling.Proofs.StreamIntegrity
import PyroFling.Proofs.StreamOrphans
import PyroFling.Proofs.SwapchainReferences
import PyroFling.Proofs.TcpFraming
import PyroFling.Proofs.ViewFormatBounds
import PyroFling.Proofs.SwapchainTeardown

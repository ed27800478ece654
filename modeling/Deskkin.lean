import Deskkin.Application.Restart
import Deskkin.Application.Views
import Deskkin.Simulator.EffectConservation
import Deskkin.Simulator.SpanClosure
import Deskkin.Identity.CrashSafety
import Deskkin.Nvs.Provisioning
import Deskkin.Nvs.Publication
import Deskkin.Nvs.SetupRecovery
import Deskkin.Nvs.UnpairRecovery
import Deskkin.Pairing.Agreement
import Deskkin.Host.CircularWait
import Deskkin.Host.PairingTasks
import Deskkin.Host.RevocationSafety
import Deskkin.Owner.Interlock
import Deskkin.Owner.TerminalResults
import Deskkin.Device.AcknowledgedActions
import Deskkin.Device.ControlAnswers
import Deskkin.Device.RunObservation
import Deskkin.Recorder.PinnedRuns
import Deskkin.Recorder.Retention
import Deskkin.Recorder.LeftoverRuns
import Deskkin.Amp.AuthenticationString
import Deskkin.Amp.TouchDelivery
import Deskkin.Amp.StatusSnapshot
import Deskkin.Renderer.UntornBands
import Deskkin.Profiles.StoreAtomicity
import Deskkin.Host.CapabilityRouting
import Deskkin.Protocol.ReconnectSeries
import Deskkin.Protocol.SecureStream
import Deskkin.EndToEnd.AvailabilityProgress
import Deskkin.Nvs.RecordCorruption
import Deskkin.Amp.SnapshotConformance
import Deskkin.Amp.TouchRingModel
import Deskkin.Device.ResponseSearch
import Deskkin.Amp.DiagnosticRing
import Deskkin.Presentation.Outcomes
import Deskkin.Presentation.WireOrder
import Deskkin.Presentation.HiddenColors
import Deskkin.Presentation.SampleCounts
import Deskkin.Simulator.MipTextures
import Deskkin.Renderer.WorldMotion
import Deskkin.Amp.ObservedYaw
import Deskkin.Presentation.Drags
import Deskkin.Presentation.DrawableProjections
import Deskkin.Presentation.MirroredProjections
import Deskkin.Renderer.WorldScene
import Deskkin.Renderer.PieFrames

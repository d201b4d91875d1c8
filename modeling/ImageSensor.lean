import ImageSensor.Scenario
import ImageSensor.Text.Log
import ImageSensor.Proofs.Contract
import ImageSensor.Proofs.Levels
import ImageSensor.Proofs.PowerSequence
import ImageSensor.Proofs.Users
import ImageSensor.Proofs.Tuning
import ImageSensor.Proofs.Streams
import ImageSensor.Proofs.Requests
import ImageSensor.Proofs.Attaching
import ImageSensor.Proofs.Run
import ImageSensor.Proofs.Accounting
import ImageSensor.Proofs.PowerSafety
import ImageSensor.Proofs.BootStage
import ImageSensor.Proofs.ControlLimits
import ImageSensor.Proofs.Transfers
import ImageSensor.Proofs.Showing
import ImageSensor.Proofs.Elsewhere
import ImageSensor.Proofs.Holding
import ImageSensor.Proofs.Agreement
import ImageSensor.Proofs.ControlHistory
import ImageSensor.Proofs.Selection
import ImageSensor.Proofs.RoundTrip
import ImageSensor.Proofs.Occupied
import ImageSensor.Proofs.TakeOver
import ImageSensor.Proofs.Stranded
import ImageSensor.Proofs.Imprint
import ImageSensor.Proofs.Launch
import ImageSensor.Proofs.BestFit
import ImageSensor.Proofs.Deferral
import ImageSensor.Proofs.Replays
import ImageSensor.Proofs.Restraint
import ImageSensor.Proofs.Surrender
import ImageSensor.Proofs.Transcript
import ImageSensor.Proofs.ControlRequest
import ImageSensor.Proofs.InStep
import ImageSensor.Proofs.Headroom
import ImageSensor.Proofs.ModeLock
import ImageSensor.Proofs.StreamStart
import ImageSensor.Proofs.GainCurve
import ImageSensor.Proofs.WordTransport
import ImageSensor.Proofs.ProgramSteps
import ImageSensor.Proofs.ControlChange
import ImageSensor.Proofs.PublishedRanges
import ImageSensor.Proofs.Axes
import ImageSensor.Proofs.Turns
import ImageSensor.Proofs.StrayAxes
import ImageSensor.Proofs.StartUpDelay
import ImageSensor.Proofs.UsageEdges
import ImageSensor.Proofs.Admission
import ImageSensor.Proofs.Matching
import ImageSensor.Proofs.Tolerance
import ImageSensor.Proofs.SubdeviceNames

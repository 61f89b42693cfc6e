import MarineHil.Ports.MixerSpecialValues
import MarineHil.Ports.VelocityPidBounds
import MarineHil.Ports.VelocityPidRecovery
import MarineHil.Ports.VelocityPidMirror
import MarineHil.Ports.VelocityPidSync
import MarineHil.Ports.EngageGate
import MarineHil.Ports.RampGate
import MarineHil.Ports.HilComposition
import MarineHil.Ports.HydroAccumulator
import MarineHil.Ports.LoadWatchdog
import MarineHil.Ports.FlapDomain
import MarineHil.Ports.VelocityPidReferences
import MarineHil.Ports.HydroTelemetry
import MarineHil.Ports.ParameterAgreement
import MarineHil.Ports.ControlSymmetry
import MarineHil.Ports.CascadeCommand
import MarineHil.Ports.DerivativeTimeBase
import MarineHil.Ports.InnerLoopWindup
import MarineHil.Ports.MissingJointClock
import MarineHil.Ports.OuterLoopSchedule
import MarineHil.Ports.VelocityPidUpdate
import MarineHil.Ports.FlapPose
import MarineHil.Ports.SolverClock
import MarineHil.Ports.JointLookup
import MarineHil.Ports.VelocityFilter
import MarineHil.Ports.PidLinear
import MarineHil.Ports.ClipPercentage
import MarineHil.Ports.ReferenceExcursion
import MarineHil.Ports.SharedMeasurement
import MarineHil.Ports.ODriveFeedback
import MarineHil.Ports.MotorTorque
import MarineHil.Ports.SocketCan
import MarineHil.Ports.SocketRead
import MarineHil.Ports.FlapObserver
import MarineHil.Ports.ClockEpoch
import MarineHil.Ports.ODriveIsolation
import MarineHil.Ports.ODriveLoss
import MarineHil.Ports.TorqueProvenance

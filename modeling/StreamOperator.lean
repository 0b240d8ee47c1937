import StreamOperator.Cluster.Server
import StreamOperator.Command.Encode
import StreamOperator.Main
import StreamOperator.Simulation.Caller
import StreamOperator.Subscription.Follow
import StreamOperator.Proofs.Cluster.Patches
import StreamOperator.Proofs.Decision.Release
import StreamOperator.Proofs.Decision.Restraint
import StreamOperator.Proofs.Decision.Suspension
import StreamOperator.Proofs.Event.Delivery
import StreamOperator.Proofs.Handler.Formats
import StreamOperator.Proofs.Handler.StartReport
import StreamOperator.Proofs.Reconcile.CrashLoop
import StreamOperator.Proofs.Reconcile.Driving
import StreamOperator.Proofs.Reconcile.Redelivery
import StreamOperator.Proofs.Reconcile.ReloadRequest
import StreamOperator.Proofs.Reconcile.ReloadSurvival
import StreamOperator.Proofs.Reconcile.Resubscription
import StreamOperator.Proofs.Reconcile.Settling
import StreamOperator.Proofs.Reconcile.StopTarget
import StreamOperator.Proofs.Status.Merging
import StreamOperator.Proofs.StreamClass.Ownership
import StreamOperator.Proofs.Stream.Inheritance
import StreamOperator.Proofs.Stream.Secrets
import StreamOperator.Proofs.Stream.TypedView
import StreamOperator.Proofs.Subscription.Classification
import StreamOperator.Proofs.Supervisor.ClassEdits
import StreamOperator.Proofs.Supervisor.KindIndependence
import StreamOperator.Proofs.Supervisor.ReadyPhase
import StreamOperator.Proofs.Supervisor.RivalClass
import StreamOperator.Proofs.Supervisor.SharedNames
import StreamOperator.Proofs.Supervisor.Shutdown
import StreamOperator.Proofs.Supervisor.SinglePipeline

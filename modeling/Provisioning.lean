import Provisioning.Main
import Provisioning.Pipeline.Diary
import Provisioning.World
import Provisioning.Proofs.Reconcile.Plan
import Provisioning.Proofs.Reconcile.Convergence
import Provisioning.Proofs.Reconcile.Stability
import Provisioning.Proofs.Pipeline
import Provisioning.Proofs.Script.Sequence
import Provisioning.Proofs.Instance.BootScript
import Provisioning.Proofs.Registration.Store
import Provisioning.Proofs.SortedMap
import Provisioning.Proofs.Script.ShellWords
import Provisioning.Proofs.Secret
import Provisioning.Proofs.Configure.Arguments
import Provisioning.Proofs.Script.LazyCommand
import Provisioning.Proofs.Registration.Command
import Provisioning.Proofs.Registration.Identity
import Provisioning.Proofs.Deployment.Finalize
import Provisioning.Proofs.World.Basic
import Provisioning.Proofs.World.Hosting
import Provisioning.Proofs.World.Registrations
import Provisioning.Proofs.Registration.CallOrder
import Provisioning.Proofs.World.CallOrder
import Provisioning.Proofs.Script.Journal
import Provisioning.Proofs.World.Agreement
import Provisioning.Proofs.World.FailedRenders
import Provisioning.Proofs.Script.Seal
import Provisioning.Proofs.World.Seal
import Provisioning.Proofs.Configure.Program
import Provisioning.Proofs.Reconcile.Repetition
import Provisioning.Proofs.Reconcile.SharedNames
import Provisioning.Proofs.World.Dependencies
import Provisioning.Proofs.World.Frozen
import Provisioning.Proofs.World.Promises
import Provisioning.Proofs.World.Artifacts
import Provisioning.Proofs.Registration.Region
import Provisioning.Proofs.Pipeline.Course
import Provisioning.Proofs.Reconcile.InputOrder
import Provisioning.Proofs.Reconcile.AddressPattern
import Provisioning.Proofs.World.Graph
import Provisioning.Proofs.InPlace
import Provisioning.Proofs.Registration.Construction
import Provisioning.Proofs.World.Construction
import Provisioning.Proofs.Registration.Refusal
import Provisioning.Proofs.World.Refusal
import Provisioning.Proofs.Script.Behaviour
import Provisioning.Proofs.Script.Calls
import Provisioning.Proofs.World.Sequences
import Provisioning.Proofs.Configure.Outcome
import Provisioning.Proofs.Script.QuotedWord
import Provisioning.Proofs.Reconcile.ManagedNames
import Provisioning.Proofs.LogShipping
import Provisioning.Proofs.Script.Tracing
import Provisioning.Proofs.Reconcile.Acceptance
import Provisioning.Proofs.World.Contents
import Provisioning.Proofs.World.Grants
import Provisioning.Proofs.Deployment.IsoDuration
import Provisioning.Proofs.World.LogStreams
import Provisioning.Proofs.Instance.StageTrail
import Provisioning.Proofs.ResourceId

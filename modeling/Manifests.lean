import Manifests.Main
import Manifests.Proofs.Conservation
import Manifests.Proofs.References
import Manifests.Proofs.Selection
import Manifests.Proofs.ConversionOrder
import Manifests.Proofs.Faults
import Manifests.Proofs.Distinct
import Manifests.Proofs.Origin
import Manifests.Proofs.Rollout
import Manifests.Proofs.EnvFiles
import Manifests.Proofs.Selectors
import Manifests.Proofs.Scaling
import Manifests.Proofs.SharedClaims
import Manifests.Proofs.Controllers
import Manifests.Proofs.CanonicalList
import Manifests.Proofs.GroupWorkloads
import Manifests.Proofs.Startup
import Manifests.Proofs.Membership
import Manifests.Proofs.Restarts
import Manifests.Proofs.NetworkPolicies
import Manifests.Proofs.VolumeNames
import Manifests.Proofs.ClaimTemplates
import Manifests.Proofs.OutputFiles
import Manifests.Proofs.Namespaces
import Manifests.Proofs.StepOrder
import Manifests.Proofs.PodRuns
import Manifests.Proofs.OwnContainers
import Manifests.Proofs.FailedMerge
import Manifests.Proofs.FailedFill
import Manifests.Proofs.GroupModes
import Manifests.Proofs.GroupMembers
import Manifests.Proofs.Fingerprints
import Manifests.Proofs.Replicas
import Manifests.Proofs.Precedence
import Manifests.Proofs.PortNames
import Manifests.Proofs.VolumeLists
import Manifests.Proofs.ConfigDirectories
import Manifests.Proofs.ConfigKeys
import Manifests.Proofs.Probes
import Manifests.Proofs.Durations
import Manifests.Proofs.ShellReferences
import Manifests.Proofs.Placement
import Manifests.Proofs.ScaleValues
import Manifests.Proofs.SettledNames
import Manifests.Proofs.EnvNames
import Manifests.Proofs.Commands

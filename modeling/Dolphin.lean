import Dolphin.Model.HostIntersection
import Dolphin.Ingestion.TLSRoutes
import Dolphin.Reconcile.Conflicts
import Dolphin.Reconcile.ServerNameOverlap
import Dolphin.Reconcile.Acceptance
import Dolphin.Reconcile.Unaccepted
import Dolphin.Reconcile.AttachedRoutes
import Dolphin.Reconcile.PolicyAncestors
import Dolphin.Translation.ChainHosts
import Dolphin.Translation.ServicePorts
import Dolphin.Translation.InPlace
import Dolphin.IngressController.NonInterference
import Dolphin.IngressController.Passthrough
import Dolphin.IngressController.Histories
import Dolphin.IngressController.Metadata
import Dolphin.IngressController.Ports
import Dolphin.Pipeline.ServerNames
import Dolphin.Pipeline.ListOrder
import Dolphin.Pipeline.Effects
import Dolphin.Pipeline.Weights
import Dolphin.Pipeline.LastResort
import Dolphin.Pipeline.PrefixRedirect
import Dolphin.Pipeline.NoPanic
import Dolphin.Pipeline.Fixpoint
import Dolphin.Reconcile.StaleRoutes
import Dolphin.Reconcile.RouteKinds
import Dolphin.Reconcile.GatewayAdmission
import Dolphin.Watch.Backends
import Dolphin.Pipeline.GRPCMethods
import Dolphin.Auth.Identities
import Dolphin.GatewayAPI.Discovery

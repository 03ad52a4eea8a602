import Storefront.Backend.Guarded
import Storefront.Backend.Routed
import Storefront.Backend.Scripted
import Storefront.Host.App
import Storefront.Proofs.Binding
import Storefront.Proofs.Cancelling
import Storefront.Proofs.Conversing
import Storefront.Proofs.Crossing
import Storefront.Proofs.Delivery
import Storefront.Proofs.Denoting
import Storefront.Proofs.Entering
import Storefront.Proofs.Entries
import Storefront.Proofs.Fetching
import Storefront.Proofs.Gathered
import Storefront.Proofs.Handles
import Storefront.Proofs.Isolation
import Storefront.Proofs.Issuing
import Storefront.Proofs.Loading
import Storefront.Proofs.Machinery
import Storefront.Proofs.Moves
import Storefront.Proofs.Natives
import Storefront.Proofs.Normal
import Storefront.Proofs.Paths
import Storefront.Proofs.Posting
import Storefront.Proofs.Prices
import Storefront.Proofs.Protocol
import Storefront.Proofs.Routing
import Storefront.Proofs.Unbound
import Storefront.Proofs.Unreadable
import Storefront.Proofs.Verdict
import Storefront.Proofs.Wire
import Storefront.Service.Timeline

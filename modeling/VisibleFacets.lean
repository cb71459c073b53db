import VisibleFacets.Exchange.Settings
import VisibleFacets.Main
import VisibleFacets.Proofs.Command.Comparison
import VisibleFacets.Proofs.Command.Layering
import VisibleFacets.Proofs.Exchange.Restored
import VisibleFacets.Proofs.Facet.Account
import VisibleFacets.Proofs.Facet.Drilldown
import VisibleFacets.Proofs.Facet.Fallback
import VisibleFacets.Proofs.Facet.Leaders
import VisibleFacets.Proofs.Facet.Limit
import VisibleFacets.Proofs.Facet.Sharing
import VisibleFacets.Proofs.Sampling.Uniformity
import VisibleFacets.Proofs.Search.Fetches
import VisibleFacets.Proofs.Settings.Saved
import VisibleFacets.Telemetry.Stopwatch
import VisibleFacets.Proofs.Facet.Precedence
import VisibleFacets.Proofs.Facet.Staleness
import VisibleFacets.Proofs.Facet.Survivors
import VisibleFacets.Proofs.Sampling.Failing
import VisibleFacets.Proofs.Search.Language

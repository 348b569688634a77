import CatalogSearch.Main
import CatalogSearch.Engine.Script
import CatalogSearch.Json.Writer
import CatalogSearch.Web.Routes
import CatalogSearch.Proofs.Query.Reader
import CatalogSearch.Proofs.Query.ReadBack
import CatalogSearch.Proofs.Query.FilterText
import CatalogSearch.Proofs.Document.TidyRows
import CatalogSearch.Proofs.Document.EnrichedRows
import CatalogSearch.Proofs.Catalog.ShopRows
import CatalogSearch.Proofs.Catalog.LoadedRows
import CatalogSearch.Proofs.Catalog.Sound
import CatalogSearch.Proofs.Catalog.ProductDocuments
import CatalogSearch.Proofs.Catalog.SortFields
import CatalogSearch.Proofs.Catalog.StoreViews
import CatalogSearch.Proofs.Engine.Bodies
import CatalogSearch.Proofs.Engine.Runs
import CatalogSearch.Proofs.Engine.Holdings
import CatalogSearch.Proofs.Engine.Traces
import CatalogSearch.Proofs.Service.ScopedSearch
import CatalogSearch.Proofs.Service.ReindexedDocuments
import CatalogSearch.Proofs.Service.Batching
import CatalogSearch.Proofs.Service.Pages
import CatalogSearch.Proofs.Query.Operands
import CatalogSearch.Proofs.Query.Stars
import CatalogSearch.Proofs.Query.SearchText
import CatalogSearch.Proofs.Engine.Aggregations
import CatalogSearch.Proofs.Engine.Labels
import CatalogSearch.Proofs.Engine.Records
import CatalogSearch.Proofs.Engine.Summaries
import CatalogSearch.Proofs.Service.FacetedSearch
import CatalogSearch.Proofs.Service.Browsing
import CatalogSearch.Proofs.Web.FilterArguments
import CatalogSearch.Proofs.Web.OneStore
import CatalogSearch.Proofs.Web.ScopeConjuncts
import CatalogSearch.Proofs.Engine.Exchanges
import CatalogSearch.Proofs.Service.ReindexFaults
import CatalogSearch.Proofs.Service.AutomaticIndexing
import CatalogSearch.Proofs.Service.HitIdentities
import CatalogSearch.Proofs.Web.UnreadableArguments
import CatalogSearch.Proofs.Engine.CategoryCounts
import CatalogSearch.Proofs.Engine.RangeCounts
import CatalogSearch.Proofs.Engine.NumericBounds
import CatalogSearch.Proofs.Catalog.StoreOverrides
import CatalogSearch.Proofs.Number.WholeNumbers
import CatalogSearch.Proofs.Engine.SortOrder
import CatalogSearch.Proofs.Document.StoreDates
import CatalogSearch.Proofs.Catalog.ExactShopFields
import CatalogSearch.Proofs.Engine.FacetAggregations
import CatalogSearch.Proofs.Query.TextOperands
import CatalogSearch.Proofs.Query.FilledOperands
import CatalogSearch.Proofs.Engine.SuitedReplies
import CatalogSearch.Proofs.Service.SteadyHits
import CatalogSearch.Proofs.Engine.TermFacets
import CatalogSearch.Proofs.Query.LiveMarks
import CatalogSearch.Proofs.Catalog.OptionValues
import CatalogSearch.Proofs.Document.SortCollisions
import CatalogSearch.Proofs.Query.Unescaping
import CatalogSearch.Proofs.Value.PlainForms

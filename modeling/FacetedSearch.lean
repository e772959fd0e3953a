import FacetedSearch.Catalog.Table
import FacetedSearch.Engine.Elasticsearch.Body
import FacetedSearch.Engine.Elasticsearch.Response
import FacetedSearch.Engine.Solr.Parameters
import FacetedSearch.Engine.Solr.Response
import FacetedSearch.Filter.Description
import FacetedSearch.FullText.Suggestion
import FacetedSearch.Json.Text
import FacetedSearch.Proofs.Calendar.Precision
import FacetedSearch.Proofs.Engine.Agreement
import FacetedSearch.Proofs.Engine.Elasticsearch.Autocomplete
import FacetedSearch.Proofs.Engine.Elasticsearch.Crediting
import FacetedSearch.Proofs.Engine.Elasticsearch.Facets
import FacetedSearch.Proofs.Engine.Solr.Counts
import FacetedSearch.Proofs.Engine.Solr.Expressions
import FacetedSearch.Proofs.Engine.Solr.Ranges
import FacetedSearch.Proofs.Facet.Counting
import FacetedSearch.Proofs.Facet.DrillDown
import FacetedSearch.Proofs.Facet.Paging
import FacetedSearch.Proofs.Facet.Reordering
import FacetedSearch.Proofs.Filter.DateRanges
import FacetedSearch.Proofs.Filter.NumberRanges
import FacetedSearch.Proofs.Filter.RangeGrammar
import FacetedSearch.Proofs.Filter.Ranges
import FacetedSearch.Proofs.Filter.Scalars
import FacetedSearch.Proofs.FullText.Suggestions
import FacetedSearch.Proofs.FullText.Wildcards
import FacetedSearch.Proofs.Geometry.Areas
import FacetedSearch.Proofs.Geometry.Repeats
import FacetedSearch.Proofs.Query.Arrangement
import FacetedSearch.Proofs.Query.FirstRefusal
import FacetedSearch.Proofs.Query.Selections
import FacetedSearch.Proofs.Response.Cleaning
import FacetedSearch.Proofs.Response.Highlighting
import FacetedSearch.Proofs.Response.Normalization
import FacetedSearch.Proofs.Response.Suggestions
import FacetedSearch.Proofs.Search.Order
import FacetedSearch.Proofs.Service.Attribution
import FacetedSearch.Request.Document
import FacetedSearch.Request.Step
import FacetedSearch.Response.Description
import FacetedSearch.Response.Hit
import FacetedSearch.Search.Description
import FacetedSearch.Settings.Assembly

import FacetedSearch.Duration
import FacetedSearch.Parameter

/-!
Contract: everything that can go wrong between a request and its response.

Owns:
- one inductive type of faults for each stage, naming causes and not wordings;
- `SearchError` with its message, its code and the side that caused it.

Every stage also admits a fault in a caller's own words, since backends and catalogs are
supplied from outside.

Does not own: when a fault arises.
-/

namespace FacetedSearch

/-- Why a raw filter value was refused. -/
inductive ValueFault where
  /-- The value is not of the expected kind. -/
  | malformed (raw expected : String)
  /-- The value is a range, and its type has none. -/
  | rangeUnsupported (raw : String) (type : ValueType)
  /-- The negation mark has nothing after it. -/
  | nothingToNegate (raw : String)
  | stated (text : String)
deriving DecidableEq, Repr

/-- Why a spatial filter was refused. -/
inductive ShapeFault where
  /-- The text, blanks around it removed, is not a well-known text. -/
  | unreadable (text : String)
  /-- The part after the ring keyword is not a list of coordinates. -/
  | unreadableRing
  /-- The linear ring is open or too short. -/
  | openLinearRing
  /-- A polygon ring is not closed as written. -/
  | openPolygonRing
  /-- A polygon ring has too few points once repeated ones are dropped. -/
  | collapsedPolygonRing
  /-- The shape is of a kind that filters do not support. -/
  | unsupportedKind (kind : String)
  | stated (text : String)
deriving DecidableEq, Repr

/-- Why settings were refused. -/
inductive SettingsFault where
  /-- Some settings are out of bounds. -/
  | outOfBounds (failures : List String)
  /-- The range separator is also the negation mark. -/
  | separatorIsNegation
  /-- A layer of settings cannot be read. -/
  | unreadable (text : String)
  | stated (text : String)
deriving DecidableEq, Repr

/-- Why the answer of an engine was refused. -/
inductive ResponseFault where
  | bucketsNotList (aggregation : String)
  | notObject (aggregation : String)
  | unsupportedAggregation (aggregation : String)
  | bucketWithoutKey (aggregation : String)
  | bucketWithoutCount (aggregation : String)
  | countsNotList (field : String)
  | countsNotPairs (field : String)
  | badCount (key field : String)
  /-- The filter aggregation of a field lacks the aggregation inside it. -/
  | missingInner (field inner : String)
  /-- The aggregation inside a filter aggregation is itself a filter. -/
  | innerNotTerms (inner : String)
  | stated (text : String)
deriving DecidableEq, Repr

/-- What can go wrong between a request and its response. -/
inductive SearchError where
  /-- A filter value cannot be read as its parameter's type. -/
  | value (fault : ValueFault)
  /-- A spatial filter is unreadable or of an unsupported kind. -/
  | shape (fault : ShapeFault)
  /-- A facet page lies beyond the ceiling. -/
  | facetTooLarge (ceiling : UInt64)
  | settings (fault : SettingsFault)
  /-- A text in a data format cannot be read. -/
  | serialization (text : String)
  /-- The engine answered with something that has another shape than its answers have. -/
  | response (fault : ResponseFault)
  /-- The backend failed. -/
  | execution (text : String)
  /-- The backend did not answer in time. -/
  | timeout (limit : Duration)
deriving DecidableEq, Repr

/-- The wording of a refused value. -/
def ValueFault.message : ValueFault → String
  | .malformed raw expected => "'" ++ raw ++ "' is not a valid " ++ expected
  | .rangeUnsupported raw type =>
      "range '" ++ raw ++ "' is not supported for " ++ type.description ++ " values"
  | .nothingToNegate raw => "negated value '" ++ raw ++ "' has nothing to negate"
  | .stated text => text

def ShapeFault.message : ShapeFault → String
  | .unreadable text => "invalid WKT '" ++ text ++ "'"
  | .unreadableRing => "invalid WKT linear ring"
  | .openLinearRing => "linear ring must be closed and have at least 4 points"
  | .openPolygonRing => "polygon ring must be closed"
  | .collapsedPolygonRing => "polygon ring must have at least 4 distinct consecutive points"
  | .unsupportedKind kind => kind ++ " shape is not supported"
  | .stated text => text

def SettingsFault.message : SettingsFault → String
  | .outOfBounds failures => "invalid settings: " ++ ", ".intercalate failures
  | .separatorIsNegation => "range_separator and negation_prefix must differ"
  | .unreadable text => text
  | .stated text => text

/-- The wording of a refused answer. -/
def ResponseFault.message : ResponseFault → String
  | .bucketsNotList aggregation => "buckets of aggregation '" ++ aggregation ++ "' are not a list"
  | .notObject aggregation => "aggregation '" ++ aggregation ++ "' is not an object"
  | .unsupportedAggregation aggregation => aggregation ++ " aggregation not supported"
  | .bucketWithoutKey aggregation => "bucket of aggregation '" ++ aggregation ++ "' has no key"
  | .bucketWithoutCount aggregation =>
      "bucket of aggregation '" ++ aggregation ++ "' has no doc_count"
  | .countsNotList field => "facet counts of " ++ field ++ " are not a list"
  | .countsNotPairs field => "facet counts of " ++ field ++ " are not name/count pairs"
  | .badCount key field => "bad count for '" ++ key ++ "' in " ++ field
  | .missingInner field inner =>
      "filter aggregation for '" ++ field ++ "' has no '" ++ inner ++ "' aggregation"
  | .innerNotTerms inner => "'" ++ inner ++ "' is not a terms aggregation"
  | .stated text => text

namespace SearchError

def message : SearchError → String
  | .value fault => "Invalid value: " ++ fault.message
  | .shape fault => "Unsupported shape: " ++ fault.message
  | .facetTooLarge ceiling =>
      "Facets paging is only supported up to " ++ toString ceiling.toNat ++ " elements"
  | .settings fault => "Configuration error: " ++ fault.message
  | .serialization text => "Serialization error: " ++ text
  | .response fault => "Invalid backend response: " ++ fault.message
  | .execution text => "Search execution failed: " ++ text
  | .timeout limit => "Search timed out after " ++ limit.text

/-- The code of an error for programs. -/
def code : SearchError → String
  | .value _ => "INVALID_VALUE"
  | .shape _ => "UNSUPPORTED_SHAPE"
  | .facetTooLarge _ => "FACET_TOO_LARGE"
  | .settings _ => "CONFIGURATION_ERROR"
  | .serialization _ => "SERIALIZATION_ERROR"
  | .response _ => "INVALID_RESPONSE"
  | .execution _ => "EXECUTION_ERROR"
  | .timeout _ => "TIMEOUT"

/-- Whether the request itself has to change before it can succeed. -/
def isClientError : SearchError → Bool
  | .value _ | .shape _ | .facetTooLarge _ => true
  | .settings _ | .serialization _ | .response _ | .execution _ | .timeout _ => false

end SearchError

end FacetedSearch

import FacetedSearch.Response.Uniform
import FacetedSearch.Search.Completion

/-!
Contract: searches from request to uniform answer.

Owns:
- `Reply`, the answer of a backend and the time that it took;
- `SearchBackend`, an engine behind a service, which need not support unfinished words;
- `SearchService`, which compiles a request, asks its backend, waits for a bounded time and makes
  the answer uniform;
- `Exchange`, a result together with what the backend was asked, if it was asked.

Does not own: the transport between a service and an engine.
-/

namespace FacetedSearch

variable {P : Type} [SearchParameter P]

/-- The answer of a backend: a result or the causes of a failure, outermost first, after some
time. -/
structure Reply (R : Type) where
  delay : Duration
  outcome : Except (List String) R

namespace Reply

variable {R : Type}

def failure (text : String) : Reply R :=
  ⟨⟨0⟩, .error [text]⟩

/-- What a service makes of a reply that it waits for. A reply at the very end of the time still
counts. -/
def within (limit : Duration) (reply : Reply R) : Except SearchError R :=
  if limit.nanoseconds < reply.delay.nanoseconds then .error (.timeout limit)
  else
    match reply.outcome with
    | .ok result => .ok result
    | .error causes => .error (.execution (": ".intercalate causes))

end Reply

/-- An engine behind a service. -/
structure SearchBackend (P : Type) where
  search : CompiledSearch P → Reply RawResult
  autocomplete : CompiledAutocomplete → Reply RawResult :=
    fun _ => .failure "autocomplete is not supported by this backend"
  suggest : CompiledSuggest → Reply (List Hit) :=
    fun _ => .failure "completion suggest is not supported by this backend"

/-- A result and what the backend was asked for it. -/
structure Exchange (C R : Type) where
  asked : Option C
  result : Except SearchError R

/-- A service over a backend. -/
structure SearchService (P : Type) [SearchParameter P] where
  compiler : SearchCompiler P
  backend : SearchBackend P

namespace SearchService

variable {T : Type}

/-- The service of a catalog, settings and a backend, if the settings are accepted. -/
def create (catalog : FieldCatalog P) (settings : Settings) (backend : SearchBackend P) :
    Except SearchError (SearchService P) :=
  (SearchCompiler.create catalog settings).map fun compiler => ⟨compiler, backend⟩

def normalizer (service : SearchService P) : ResponseNormalizer P :=
  ⟨service.compiler.catalog, service.compiler.settings⟩

def await {R : Type} (service : SearchService P) (reply : Reply R) : Except SearchError R :=
  reply.within service.compiler.settings.executionTimeout

def search (service : SearchService P) (request : SearchRequest P) (mapper : Hit → T) :
    Exchange (CompiledSearch P) (UniformResponse T P) :=
  match service.compiler.compileSearch request with
  | .error error => ⟨none, .error error⟩
  | .ok compiled =>
      ⟨some compiled,
        (service.await (service.backend.search compiled)).map
          (service.normalizer.normalize request mapper)⟩

def facetedSearch (service : SearchService P) (request : FacetedSearchRequest P)
    (mapper : Hit → T) : Exchange (CompiledSearch P) (UniformResponse T P) :=
  match service.compiler.compileFaceted request with
  | .error error => ⟨none, .error error⟩
  | .ok compiled =>
      ⟨some compiled,
        (service.await (service.backend.search compiled)).bind
          (service.normalizer.normalizeFaceted request mapper)⟩

/-- Answers a request for documents by the beginning of a parameter's field; there are none if
the parameter has no field. -/
def autocomplete (service : SearchService P) (request : SearchRequest P) (parameter : P)
    (mapper : Hit → T) : Exchange CompiledAutocomplete (List T) :=
  match service.compiler.compileAutocomplete request parameter with
  | .error error => ⟨none, .error error⟩
  | .ok none => ⟨none, .ok []⟩
  | .ok (some compiled) =>
      ⟨some compiled,
        (service.await (service.backend.autocomplete compiled)).map fun raw =>
          mapHits false mapper raw.hits⟩

/-- Answers a request for completions of a parameter's values; there are none if the parameter has
no field. -/
def suggest (service : SearchService P) (beginning : String) (parameter : P)
    (limit : Option UInt64) (mapper : Hit → T) : Exchange CompiledSuggest (List T) :=
  match service.compiler.compileSuggest beginning parameter limit with
  | none => ⟨none, .ok []⟩
  | some compiled =>
      ⟨some compiled,
        (service.await (service.backend.suggest compiled)).map (mapHits false mapper)⟩

end SearchService

end FacetedSearch

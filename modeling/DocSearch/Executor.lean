import DocSearch.Aggregation.Basic
import DocSearch.Aggregation.Result
import DocSearch.Model
import DocSearch.Query
import DocSearch.Sort
import DocSearch.Transport

namespace DocSearch

/-! An executor gathers a query, a window of hits and sort keys for one document model, and turns
them into exchanges with the cluster. Building sends nothing; each exchange sends one call. -/

structure Executor (α : Type) where
  model : Model α
  query : Query
  limit : Option Nat := none
  offset : Option Nat := none
  sort : List SortKey := []
  scrollLifetime : Duration

def hitSources (response : Json) : Logged (Except Error (List Json)) :=
  match ((response.get? "hits").bind (·.get? "hits")).bind (·.array?) with
  | none => .silent (.error (.malformedResponse "response has no hits.hits array"))
  | some hits =>
    .after (.rawHits hits.length) <|
      hits.mapM fun hit =>
        match hit.get? "_source" with
        | some source => .ok source
        | none => .error (.malformedResponse "hit has no _source")

namespace Executor

variable {α : Type}

def new (model : Model α) (scrollLifetime : Duration) : Executor α :=
  { model, query := .empty model.fields, scrollLifetime }

def modifyQuery (executor : Executor α) (step : Query → Logged (Except Error Query)) :
    Logged (Except Error (Executor α)) :=
  (step executor.query).map fun changed => changed.map fun query => { executor with query }

def add (executor : Executor α) (occur : Occur) (expressions : List Expression)
    (clauses : List Clause) : Logged (Except Error (Executor α)) :=
  executor.modifyQuery fun query => query.add occur expressions clauses

def addClause (executor : Executor α) (occur : Occur) (clause : Clause) :
    Logged (Except Error (Executor α)) :=
  executor.modifyQuery fun query => query.addClause occur clause

def withLimit (executor : Executor α) (limit : Nat) : Executor α :=
  { executor with limit := some limit }

def withOffset (executor : Executor α) (offset : Nat) : Executor α :=
  { executor with offset := some offset }

def sortBy (executor : Executor α) (keys : List String) : Executor α :=
  { executor with sort := keys.map SortKey.parse }

def searchBody (executor : Executor α) : Json :=
  let query := ("query", executor.query.compile)
  if executor.sort.isEmpty then .obj [query]
  else .obj [query, ("sort", .arr (executor.sort.map SortKey.compile))]

def searchRequest (executor : Executor α) (fields : List String) (scroll : Option Duration) :
    SearchRequest :=
  { body := executor.searchBody
    index := executor.model.index
    size := executor.limit
    offset := executor.offset
    sourceIncludes := fields
    scroll }

/-- The search for a page of documents, on its own or at the beginning of a stream. -/
def pageRequest (executor : Executor α) (scroll : Option Duration) : SearchRequest :=
  executor.searchRequest executor.model.fields.names scroll

def searchEvent (executor : Executor α) : Event :=
  .compiledBody .search executor.model.index executor.searchBody

/-- The sources of all hits, reduced to the given fields. -/
def fetchFields (executor : Executor α) (fields : List String) : Exchange (List Json) :=
  { before := [executor.searchEvent]
    call := .search (executor.searchRequest fields none)
    read := hitSources }

def fetch (executor : Executor α) : Exchange (List α) :=
  (executor.fetchFields executor.model.fields.names).andThen fun sources =>
    sources.mapM executor.model.parse

/-- The answer to an aggregation over the matching documents; `none` when the response holds no
first level. -/
def aggregate (executor : Executor α) (aggregation : Aggregation) :
    Exchange (Option AggregationResult) :=
  let body := Json.obj [("aggs", aggregation.compile 1), ("query", executor.query.compile)]
  { before := [.compiledBody .aggregation executor.model.index body]
    call := .search { body, index := executor.model.index, size := some 0 }
    read := fun response => .silent <|
      match response.get? "aggregations" with
      | none => .error (.malformedResponse "response has no aggregations")
      | some aggregations =>
        match AggregationResult.decode aggregations 1 with
        | .ok result => .ok result
        | .error defect => .error defect.toError }

/-- A part of the answer to an aggregation, which has to be there. -/
def aggregatePart (executor : Executor α) (aggregation : Aggregation)
    (part? : AggregationResult → Option β) (lacking : String) : Exchange β :=
  (executor.aggregate aggregation).andThen fun result =>
    match result.bind part? with
    | some part => .ok part
    | none => .error (.malformedResponse lacking)

/-- How many values a field has, approximately. -/
def uniqueCount (executor : Executor α) (field : String) : Exchange Nat :=
  executor.aggregatePart (.cardinality field) (·.nat?)
    ("cardinality of `" ++ field ++ "` is not a count")

def sum (executor : Executor α) (field : String) : Exchange Double :=
  executor.aggregatePart (.sum field) (·.double?) ("sum of `" ++ field ++ "` is not a number")

def groupBy (executor : Executor α) (field : String) (maxBuckets : Nat) :
    Exchange (List (String × AggregationResult)) :=
  executor.aggregatePart (.terms field maxBuckets none) (·.buckets?)
    ("terms on `" ++ field ++ "` returned no buckets")

def count (executor : Executor α) : Exchange Nat :=
  let body := Json.obj [("query", executor.query.compile)]
  { before := [.compiledBody .count executor.model.index body]
    call := .count body executor.model.index
    read := fun response => .silent <|
      match (response.get? "count").bind Json.nat? with
      | some count => .ok count
      | none => .error (.malformedResponse "count response has no count") }

end Executor

end DocSearch

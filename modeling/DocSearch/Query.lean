import DocSearch.Clause

namespace DocSearch

/-! A query keeps three lists of expressions: all of `filter` must match, one of `union` must
match if there is any, and none of `exclude` may match. A step that fails leaves the query as it
was. -/

inductive Occur where
  | filter
  | union
  | exclude
  deriving DecidableEq, Repr

structure Query where
  fields : FieldSet
  filter : List Expression := []
  union : List Expression := []
  exclude : List Expression := []

namespace Query

def empty (fields : FieldSet) : Query := { fields }

def isEmpty (query : Query) : Bool :=
  query.filter.isEmpty && query.union.isEmpty && query.exclude.isEmpty

def append (query : Query) (occur : Occur) (expressions : List Expression) : Query :=
  match occur with
  | .filter => { query with filter := query.filter ++ expressions }
  | .union => { query with union := query.union ++ expressions }
  | .exclude => { query with exclude := query.exclude ++ expressions }

/-- Adds expressions and clauses, in this order, once all clauses have been read. -/
def add (query : Query) (occur : Occur) (expressions : List Expression) (clauses : List Clause) :
    Logged (Except Error Query) :=
  (Clause.parseAll query.fields clauses).map fun parsed =>
    parsed.map fun tail => query.append occur (expressions ++ tail)

def addClause (query : Query) (occur : Occur) (clause : Clause) : Logged (Except Error Query) :=
  (clause.parse query.fields).map fun parsed =>
    parsed.map fun expression => query.append occur [expression]

def compile (query : Query) : Json :=
  .obj [("bool", .obj [
    ("filter", .arr (query.filter.map Expression.compile)),
    ("minimum_should_match", .ofNat (if query.union.isEmpty then 0 else 1)),
    ("must_not", .arr (query.exclude.map Expression.compile)),
    ("should", .arr (query.union.map Expression.compile))])]

end Query

end DocSearch

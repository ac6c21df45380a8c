import DocSearch.Json.Basic
import DocSearch.Text.Basic

namespace DocSearch

/-! A sort key is written as a field name after an optional sign; a minus sorts downwards. -/

inductive SortOrder where
  | asc
  | desc
  deriving DecidableEq, Repr

def SortOrder.name : SortOrder → String
  | asc => "asc"
  | desc => "desc"

structure SortKey where
  field : String
  order : SortOrder
  deriving DecidableEq, Repr

namespace SortKey

def isSign (c : Char) : Bool := c == '+' || c == '-'

def trimSigns (text : String) : String :=
  String.ofList (Text.trimEnd isSign (text.toList.dropWhile isSign))

def parse (text : String) : SortKey :=
  { field := trimSigns text
    order := if text.toList.head? = some '-' then .desc else .asc }

def compile (key : SortKey) : Json := .obj [(key.field, .str key.order.name)]

end SortKey

end DocSearch

import DocSearch.Transport
import DocSearch.Url.Query

namespace DocSearch.Http

/-! A call is posted to a path below a host, with query parameters and a JSON body. The parameters
come in a fixed order, each at most once. -/

def searchParams (request : SearchRequest) : List (String × String) :=
  (request.size.map fun size => ("size", toString size)).toList ++
    (request.offset.map fun offset => ("from", toString offset)).toList ++
    (if request.sourceIncludes.isEmpty then []
      else [("_source_includes", ",".intercalate request.sourceIncludes)]) ++
    (request.scroll.map fun lifetime => ("scroll", lifetime.timeUnit)).toList

def callPath : Call → String
  | .search request => request.index ++ "/_search"
  | .count _ index => index ++ "/_count"
  | .scroll _ _ => "_search/scroll"

/-- The parameters that are handed over with a call. A search brings a list along, even if there is
nothing in it. -/
def callParams : Call → Option (List (String × String))
  | .search request => some (searchParams request)
  | .count _ _ | .scroll _ _ => none

def callUrl (url : Url) (call : Call) : Url :=
  match callParams call with
  | some params => url.withParams params
  | none => url

def callBody : Call → Json
  | .search request => request.body
  | .count body _ => body
  | .scroll id lifetime => .obj [("scroll", .str lifetime.timeUnit), ("scroll_id", .str id)]

def callEvent (url : String) : Call → Event
  | .search request => .postSearch url (searchParams request)
  | .count _ _ => .postCount url
  | .scroll _ lifetime => .postScroll url lifetime.timeUnit

end DocSearch.Http

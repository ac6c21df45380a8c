import DocSearch.Json.Printer
import DocSearch.Text.Quoted

namespace DocSearch

/-! An event is a value, and a computation that logs returns its events beside its result. Nothing
is lost when a computation fails: the failure is the result, and the events before it stay. -/

inductive Level where
  | debug
  | info
  | warn
  deriving DecidableEq, Repr

inductive BodyKind where
  | search
  | aggregation
  | count
  deriving DecidableEq, Repr

inductive Event where
  | operatorClause (field raw suffix : String)
  | phraseClause (field : String)
  | compiledBody (kind : BodyKind) (index : String) (body : Json)
  | rawHits (count : Nat)
  | sessionOpened (hosts : List String)
  | postSearch (url : String) (params : List (String × String))
  | postCount (url : String)
  | postScroll (url lifetime : String)
  | requestRejected (status body : String)
  | settingsLoaded (hosts : List String)

namespace Event

def level : Event → Level
  | sessionOpened _ => .info
  | requestRejected _ _ => .warn
  | _ => .debug

def message : Event → String
  | operatorClause _ _ _ => "parse clause"
  | phraseClause _ => "parse clause as phrase match"
  | compiledBody .search _ _ => "compiled search body"
  | compiledBody .aggregation _ _ => "compiled aggregation body"
  | compiledBody .count _ _ => "compiled count body"
  | rawHits _ => "raw hits"
  | sessionOpened _ => "search session opened"
  | postSearch _ _ => "POST search"
  | postCount _ => "POST count"
  | postScroll _ _ => "POST scroll"
  | requestRejected _ _ => "search cluster rejected request"
  | settingsLoaded _ => "loaded session configuration"

def fields : Event → List (String × String)
  | operatorClause field raw suffix => [("field", field), ("raw", raw), ("op", suffix)]
  | phraseClause field => [("field", field)]
  | compiledBody _ index body => [("index", index), ("body", body.render)]
  | rawHits count => [("count", toString count)]
  | sessionOpened hosts => [("hosts", Text.quoteList hosts)]
  | postSearch url params => [("url", url), ("params", Text.quotePairs params)]
  | postCount url => [("url", url)]
  | postScroll url lifetime => [("url", url), ("lifetime", lifetime)]
  | requestRejected status body => [("status", status), ("body", body)]
  | settingsLoaded hosts => [("hosts", Text.quoteList hosts)]

end Event

/-- A result and the events logged on the way to it. -/
structure Logged (α : Type) where
  value : α
  events : List Event

namespace Logged

def silent (value : α) : Logged α := ⟨value, []⟩

def after (event : Event) (value : α) : Logged α := ⟨value, [event]⟩

def bind (x : Logged α) (f : α → Logged β) : Logged β :=
  ⟨(f x.value).value, x.events ++ (f x.value).events⟩

def map (f : α → β) (x : Logged α) : Logged β := ⟨f x.value, x.events⟩

@[simp] theorem value_silent (value : α) : (silent value).value = value := rfl
@[simp] theorem value_bind (x : Logged α) (f : α → Logged β) :
    (x.bind f).value = (f x.value).value := rfl
@[simp] theorem events_bind (x : Logged α) (f : α → Logged β) :
    (x.bind f).events = x.events ++ (f x.value).events := rfl
@[simp] theorem value_map (f : α → β) (x : Logged α) : (x.map f).value = f x.value := rfl

end Logged

end DocSearch

import DocSearch.Executor

namespace DocSearch

/-! A scroll stream yields the hits of a query batch by batch. The first batch answers a search,
the others answer the cursor of the batch before them. The stream ends after an error, after an
empty batch, and after a page without a cursor to go on with. -/

inductive ScrollState where
  | start (request : SearchRequest)
  | next (cursor : String)
  | done

structure Scroll (α : Type) where
  parse : Json → Except Error α
  lifetime : Duration
  state : ScrollState

structure Page (α : Type) where
  cursor : Option String
  batch : List α

def Page.read (parse : Json → Except Error α) (response : Json) :
    Logged (Except Error (Page α)) :=
  (hitSources response).map fun sources =>
    (sources.bind fun sources => sources.mapM parse).map fun batch =>
      { cursor := (response.get? "_scroll_id").bind (·.string?), batch }

/-- A page is followed by another one if it has a cursor and documents. -/
def Page.nextState (page : Page α) : ScrollState :=
  match page.cursor with
  | some cursor => if cursor.isEmpty || page.batch.isEmpty then .done else .next cursor
  | none => .done

namespace Scroll

variable {α : Type}

def call? (scroll : Scroll α) : Option Call :=
  match scroll.state with
  | .start request => some (.search request)
  | .next cursor => some (.scroll cursor scroll.lifetime)
  | .done => none

/-- The next item, given the outcome of the call, and the stream after it. -/
def receive (scroll : Scroll α) : Outcome → Logged (Except Error (List α)) × Scroll α
  | .error e => (.silent (.error e), { scroll with state := .done })
  | .ok response =>
    let page := Page.read scroll.parse response
    match page.value with
    | .ok page' => (page.map fun _ => .ok page'.batch, { scroll with state := page'.nextState })
    | .error e => (page.map fun _ => .error e, { scroll with state := .done })

/-- Asks for the next item; `none` at the end, without a call. -/
def poll (scroll : Scroll α) (transport : Transport σ) (state : σ) :
    Option (Logged (Except Error (List α)) × Scroll α × σ) :=
  match scroll.call? with
  | none => none
  | some call =>
    let (answer, state) := transport.send call state
    let (item, scroll) := scroll.receive answer.value
    some (⟨item.value, answer.events ++ item.events⟩, scroll, state)

def collect (transport : Transport σ) :
    Nat → Scroll α → σ → Logged (List (Except Error (List α))) × Scroll α × σ
  | 0, scroll, state => (.silent [], scroll, state)
  | bound + 1, scroll, state =>
    match scroll.poll transport state with
    | none => (.silent [], scroll, state)
    | some (item, scroll, state) =>
      let (items, scroll, state) := collect transport bound scroll state
      (⟨item.value :: items.value, item.events ++ items.events⟩, scroll, state)

end Scroll

namespace Executor

/-- Opens a stream over the hits of the query as it stands; nothing is sent yet. -/
def scroll (executor : Executor α) (lifetime : Duration) : Logged (Scroll α) :=
  .after executor.searchEvent
    { parse := executor.model.parse
      lifetime
      state := .start (executor.pageRequest (some lifetime)) }

end Executor

end DocSearch

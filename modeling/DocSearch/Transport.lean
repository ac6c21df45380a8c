import DocSearch.Duration
import DocSearch.Error
import DocSearch.Log

namespace DocSearch

/-! A transport answers calls one after the other and may change with every call. An exchange is
one call together with the reading of its answer; a failure of the transport is passed on as it
is. -/

structure SearchRequest where
  body : Json
  index : String
  /-- How many hits are wanted; the cluster decides when this is missing. -/
  size : Option Nat := none
  offset : Option Nat := none
  /-- The fields wanted of every document; none means all. -/
  sourceIncludes : List String := []
  /-- Keeps a cursor open for this long. -/
  scroll : Option Duration := none

inductive Call where
  | search (request : SearchRequest)
  | count (body : Json) (index : String)
  | scroll (id : String) (lifetime : Duration)

abbrev Outcome := Except Error Json

/-- A way to reach a cluster; `σ` is what it remembers between calls. -/
structure Transport (σ : Type) where
  send : Call → σ → Logged Outcome × σ

structure Exchange (α : Type) where
  /-- Logged before the call is sent. -/
  before : List Event
  call : Call
  read : Json → Logged (Except Error α)

namespace Exchange

def receive (exchange : Exchange α) : Outcome → Logged (Except Error α)
  | .ok response => exchange.read response
  | .error e => .silent (.error e)

/-- The exchange with its result checked or changed further. -/
def andThen (exchange : Exchange α) (f : α → Except Error β) : Exchange β :=
  { before := exchange.before
    call := exchange.call
    read := fun response => (exchange.read response).map fun result => result.bind f }

end Exchange

namespace Transport

/-- Sends the call of an exchange, once, and reads the answer. -/
def perform (transport : Transport σ) (exchange : Exchange α) (state : σ) :
    Logged (Except Error α) × σ :=
  let (answer, state) := transport.send exchange.call state
  let result := exchange.receive answer.value
  (⟨result.value, exchange.before ++ answer.events ++ result.events⟩, state)

end Transport

/-- Outcomes that are given in order, and the calls that came. -/
structure Script where
  outcomes : List Outcome
  calls : List Call := []

def Transport.scripted : Transport Script where
  send call script :=
    let calls := script.calls ++ [call]
    match script.outcomes with
    | [] => (.silent (.error (.transport "no response left")), { outcomes := [], calls })
    | outcome :: rest => (.silent outcome, { outcomes := rest, calls })

end DocSearch

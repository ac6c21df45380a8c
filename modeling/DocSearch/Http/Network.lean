import DocSearch.Url.Basic

namespace DocSearch.Http

/-! What lies between a client and the cluster. A network says what becomes of a request; it may
change with every request. Redirects are followed on the way, and whether hosts can be spoken to in
secret is up to the network. -/

structure Request where
  url : Url
  authorization : Option String
  body : String

inductive Delivery where
  /-- The answer of what is at the URL, which is another one after a redirect. -/
  | answered (url : Url) (status : Nat) (body : String)
  | failed (cause : String)

/-- What carries requests to the cluster; `ν` is its state. -/
structure Network (ν : Type) where
  deliver : Request → ν → Delivery × ν

/-- A network with replies laid out in advance. Once they are used up, connections are closed; a
network that is down lets nothing through, and one without encryption nothing that is secret. -/
structure Replies where
  up : Bool
  encrypts : Bool
  replies : List (Nat × String)
  received : List Request := []

def Network.laidOut : Network Replies where
  deliver request state :=
    if request.url.scheme = "https" && !state.encrypts then
      (.failed "error trying to connect: invalid URL, scheme is not http", state)
    else if !state.up then
      (.failed ("error trying to connect: tcp connect error: " ++
        "Network is unreachable (os error 101)"), state)
    else
      let received := state.received ++ [request]
      match state.replies with
      | [] => (.failed "connection closed before message completed", { state with received })
      | (status, body) :: replies =>
        (.answered request.url status body, { state with replies, received })

end DocSearch.Http

import DocSearch.Http.Network
import DocSearch.Http.Status
import DocSearch.Json.Parser
import DocSearch.Transport

namespace DocSearch.Http

/-! Statuses from 400 to 599 are failures. Every other answer counts by its body, which has to be
JSON. -/

def sendFailure (url : Url) (cause : String) : Error :=
  .transport ("error sending request for url (" ++ url.text ++ "): " ++ cause)

def statusFailure (url : Url) (status : Nat) : Error :=
  let side := if Status.isClientError status then "client" else "server"
  .transport ("HTTP status " ++ side ++ " error (" ++ Status.text status ++ ") for url (" ++
    url.text ++ ")")

def buildFailure (url : Url) (cause : String) : Error :=
  .transport ("builder error for url (" ++ url.text ++ "): " ++ cause)

def schemeFailure (url : Url) : Error := buildFailure url "URL scheme is not allowed"

def readDelivery (url : Url) : Delivery → Logged Outcome
  | .failed cause => .silent (.error (sendFailure url cause))
  | .answered last status body =>
    if Status.isError status then
      .after (.requestRejected (Status.text status) body) (.error (statusFailure last status))
    else
      match Json.parse body with
      | .ok value => .silent (.ok value)
      | .error e =>
        .silent (.error (.transport ("error decoding response body: " ++ e.message)))

end DocSearch.Http

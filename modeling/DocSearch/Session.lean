import DocSearch.Http.Client
import DocSearch.Scroll

namespace DocSearch

/-! A session is a transport and the default lifetime of cursors. Every executor of a session
starts from an empty query. -/

structure Session (σ : Type) where
  transport : Transport σ
  scrollLifetime : Duration

namespace Session

def defaultScrollLifetime : Duration := .ofSeconds 60

def ofTransport (transport : Transport σ) : Session σ :=
  { transport, scrollLifetime := defaultScrollLifetime }

def connect (settings : Settings) (network : Http.Network ν) :
    Logged (Except Error (Session (Http.State ν))) :=
  match Http.Client.ofSettings settings with
  | .error e => .silent (.error e)
  | .ok client =>
    .after (.sessionOpened settings.hosts)
      (.ok { transport := client.transport network, scrollLifetime := settings.scrollDuration })

def withScrollLifetime (session : Session σ) (lifetime : Duration) : Session σ :=
  { session with scrollLifetime := lifetime }

def select (session : Session σ) (model : Model α) : Executor α :=
  .new model session.scrollLifetime

end Session

namespace Executor

/-- A stream that lives as long as the session says. -/
def scrollDefault (executor : Executor α) : Logged (Scroll α) :=
  executor.scroll executor.scrollLifetime

end Executor

end DocSearch

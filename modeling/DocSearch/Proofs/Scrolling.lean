import DocSearch.Proofs.Hits
import DocSearch.Proofs.Sorting
import DocSearch.Proofs.Workspace

namespace DocSearch

/-! A stream in a workspace that does other things as well. Whatever comes between two polls, each
poll sends one call and yields what that call came to, and a page asks for the next one under its
own cursor. -/

variable {α σ : Type}

namespace Executor

/-- The request is the search for a page of what the executor has gathered. -/
structure SearchesPage (executor : Executor α) (scroll : Option Duration)
    (request : SearchRequest) : Prop where
  body : request.body = executor.searchBody
  query : request.body.get? "query" = some executor.query.compile
  sort : request.body.get? "sort" =
    if executor.sort = [] then none else some (.arr (executor.sort.map SortKey.compile))
  index : request.index = executor.model.index
  size : request.size = executor.limit
  offset : request.offset = executor.offset
  fields : request.sourceIncludes = executor.model.fields.names
  scroll : request.scroll = scroll

theorem get?_query_searchBody (executor : Executor α) :
    executor.searchBody.get? "query" = some executor.query.compile := by
  unfold searchBody
  split <;> exact Json.get?_obj_self

theorem searchesPage (executor : Executor α) (scroll : Option Duration) :
    executor.SearchesPage scroll (executor.pageRequest scroll) where
  body := rfl
  query := executor.get?_query_searchBody
  sort := executor.get?_sort_searchBody
  index := rfl
  size := rfl
  offset := rfl
  fields := rfl
  scroll := rfl

end Executor

/-- What an outcome of a call comes to as an item of a stream. -/
inductive Yields (parse : Json → Except Error α) : Outcome → Except Error (List α) → Prop where
  | failed (e : Error) : Yields parse (.error e) (.error e)
  | answered {response : Json} {item : Except Error (List α)} :
      Batch parse response item → Yields parse (.ok response) item

/-- A page after which there is no other one. -/
inductive Final (parse : Json → Except Error α) : Outcome → Prop where
  | failed (e : Error) : Final parse (.error e)
  | unreadable {response : Json} {e : Error} :
      Batch parse response (.error e) → Final parse (.ok response)
  | empty {response : Json} : Batch parse response (.ok []) → Final parse (.ok response)
  | noCursor {response : Json} :
      (∀ cursor, response.get? "_scroll_id" ≠ some (.str cursor)) → Final parse (.ok response)
  | emptyCursor {response : Json} :
      response.get? "_scroll_id" = some (.str "") → Final parse (.ok response)

/-- The call of each page of a stream: a search at first, and then the cursor of the page before. -/
inductive Asks (request : SearchRequest) (lifetime : Duration) (outcomes : Nat → Outcome) :
    Nat → Call → Prop where
  | first : Asks request lifetime outcomes 0 (.search request)
  | further {n : Nat} {response : Json} {cursor : String} : outcomes n = .ok response →
      response.get? "_scroll_id" = some (.str cursor) →
      Asks request lifetime outcomes (n + 1) (.scroll cursor lifetime)

theorem Json.cursor_cases (response : Json) :
    (∃ cursor, response.get? "_scroll_id" = some (.str cursor)) ∨
      (response.get? "_scroll_id").bind (·.string?) = none ∧
        ∀ cursor, response.get? "_scroll_id" ≠ some (.str cursor) := by
  cases found : response.get? "_scroll_id" with
  | none => exact .inr ⟨rfl, fun _ => nofun⟩
  | some value =>
      cases value with
      | str cursor => exact .inl ⟨cursor, rfl⟩
      | _ => exact .inr ⟨rfl, fun _ => nofun⟩

namespace Scroll

variable (scroll : Scroll α)

theorem receive_of_unreadable {response : Json} {e : Error}
    (read : Page.readBatch scroll.parse response = .error e) :
    (scroll.receive (.ok response)).1.value = .error e ∧
      (scroll.receive (.ok response)).2 = { scroll with state := .done } := by
  have page := value_pageRead scroll.parse response
  rw [read] at page
  unfold receive
  simp only [page, Except.map, Logged.value_map, and_self]

theorem receive_of_readable {response : Json} {documents : List α}
    (read : Page.readBatch scroll.parse response = .ok documents) :
    (scroll.receive (.ok response)).1.value = .ok documents ∧
      (scroll.receive (.ok response)).2 = { scroll with
        state := Page.nextState {
          cursor := (response.get? "_scroll_id").bind (·.string?), batch := documents } } := by
  have page := value_pageRead scroll.parse response
  rw [read] at page
  unfold receive
  simp only [page, Except.map, Logged.value_map, and_self]

theorem value_receive (outcome : Outcome) :
    (scroll.receive outcome).1.value = outcome.bind (Page.readBatch scroll.parse) := by
  cases outcome with
  | error e => rfl
  | ok response =>
      show _ = Page.readBatch scroll.parse response
      cases read : Page.readBatch scroll.parse response with
      | error e => exact (scroll.receive_of_unreadable read).1
      | ok documents => exact (scroll.receive_of_readable read).1

theorem receive_yields (outcome : Outcome) :
    Yields scroll.parse outcome (scroll.receive outcome).1.value := by
  rw [value_receive]
  cases outcome with
  | error e => exact .failed e
  | ok response => exact .answered (batch_readBatch scroll.parse response)

theorem receive_done {outcome : Outcome} (final : Final scroll.parse outcome) :
    (scroll.receive outcome).2 = { scroll with state := .done } := by
  cases final with
  | failed e => rfl
  | unreadable batch => exact (scroll.receive_of_unreadable (batch_iff.mp batch)).2
  | empty batch =>
      rw [(scroll.receive_of_readable (batch_iff.mp batch)).2, Page.nextState]
      split <;> simp
  | @noCursor response absent =>
      cases read : Page.readBatch scroll.parse response with
      | error e => exact (scroll.receive_of_unreadable read).2
      | ok documents =>
          rcases response.cursor_cases with ⟨cursor, found⟩ | ⟨missing, -⟩
          · exact absurd found (absent cursor)
          · rw [(scroll.receive_of_readable read).2, missing]
            rfl
  | @emptyCursor response found =>
      cases read : Page.readBatch scroll.parse response with
      | error e => exact (scroll.receive_of_unreadable read).2
      | ok documents =>
          rw [(scroll.receive_of_readable read).2, found]
          rfl

theorem receive_next {outcome : Outcome} (continues : ¬ Final scroll.parse outcome) :
    ∃ response cursor, outcome = .ok response ∧
      response.get? "_scroll_id" = some (.str cursor) ∧
      (scroll.receive outcome).2 = { scroll with state := .next cursor } := by
  cases outcome with
  | error e => exact absurd (.failed e) continues
  | ok response =>
      rcases response.cursor_cases with ⟨cursor, found⟩ | ⟨-, absent⟩
      · refine ⟨response, cursor, rfl, found, ?_⟩
        cases read : Page.readBatch scroll.parse response with
        | error e => exact absurd (.unreadable (batch_iff.mpr read)) continues
        | ok documents =>
            have closed : cursor ≠ "" := fun closed =>
              continues (.emptyCursor (closed ▸ found))
            have more : documents ≠ [] := fun empty =>
              continues (.empty (batch_iff.mpr (empty ▸ read)))
            rw [(scroll.receive_of_readable read).2, found]
            simp [Page.nextState, Json.string?, closed, more]
      · exact absurd (.noCursor absent) continues

/-- A stream that is about to ask for page `n`. -/
structure Due (parse : Json → Except Error α) (request : SearchRequest) (lifetime : Duration)
    (outcomes : Nat → Outcome) (n : Nat) (scroll : Scroll α) : Prop where
  parse_eq : scroll.parse = parse
  lifetime_eq : scroll.lifetime = lifetime
  asks : ∃ call, scroll.call? = some call ∧ Asks request lifetime outcomes n call

variable {scroll} {parse : Json → Except Error α} {request : SearchRequest} {lifetime : Duration}
  {outcomes : Nat → Outcome} {n : Nat}

theorem Due.first :
    Due parse request lifetime outcomes 0 { parse, lifetime, state := .start request } :=
  ⟨rfl, rfl, _, rfl, .first⟩

theorem Due.next (due : Due parse request lifetime outcomes n scroll)
    (continues : ¬ Final parse (outcomes n)) :
    Due parse request lifetime outcomes (n + 1) (scroll.receive (outcomes n)).2 := by
  obtain ⟨rfl, rfl, -⟩ := due
  obtain ⟨response, cursor, answered, found, state⟩ := scroll.receive_next continues
  rw [state]
  exact ⟨rfl, rfl, _, rfl, .further answered found⟩

theorem Due.done (due : Due parse request lifetime outcomes n scroll)
    (final : Final parse (outcomes n)) : (scroll.receive (outcomes n)).2.call? = none := by
  obtain ⟨rfl, rfl, -⟩ := due
  rw [scroll.receive_done final]
  rfl

end Scroll

def Record.last : Record → Outcome
  | [] => .error (.transport "nothing recorded")
  | [entry] => entry.2
  | _ :: rest => Record.last rest

theorem Record.last_append (record : Record) (call : Call) (outcome : Outcome) :
    Record.last (record ++ [(call, outcome)]) = outcome := by
  induction record with
  | nil => rfl
  | cons entry rest ih =>
      cases rest with
      | nil => rfl
      | cons next rest => exact ih

namespace Workspace

variable {name : String} {stream : Scroll α}

section Poll

variable {transport : Transport σ} {workspace : Workspace α (σ × Record)}

theorem nextBatch_asked {call : Call} (kept : workspace.session.transport = transport.recording)
    (found : workspace.streams.lookup name = some stream) (asked : stream.call? = some call) :
    ∃ outcome, (workspace.take (.nextBatch name)).1.value =
        (stream.receive outcome).1.value.map .documents ∧
      (workspace.take (.nextBatch name)).2.state.2 = workspace.state.2 ++ [(call, outcome)] ∧
      (workspace.take (.nextBatch name)).2.streams.lookup name =
        some (stream.receive outcome).2 := by
  refine ⟨(transport.send call workspace.state.1).1.value, ?_⟩
  simp only [take, nextBatch, found, Scroll.poll, asked, kept, Transport.recording]
  exact ⟨rfl, rfl, Keyed.lookup_insert_self _ _ _⟩

theorem nextBatch_ended (found : workspace.streams.lookup name = some stream)
    (ended : stream.call? = none) :
    (workspace.take (.nextBatch name)).1.value = .ok .ended ∧
      (workspace.take (.nextBatch name)).2.state = workspace.state := by
  simp only [take, nextBatch, found, Scroll.poll, ended]
  exact ⟨rfl, rfl⟩

end Poll

/-- The workspace ahead of each poll of a stream, with other steps taken before every poll. -/
def atPoll (workspace : Workspace α σ) (name : String) (others : Nat → List Step) :
    Nat → Workspace α σ
  | 0 => workspace.run (others 0)
  | n + 1 => ((workspace.atPoll name others n).take (.nextBatch name)).2.run (others (n + 1))

variable {others : Nat → List Step}

theorem atPoll_session (workspace : Workspace α σ) (n : Nat) :
    (workspace.atPoll name others n).session = workspace.session := by
  induction n with
  | zero => exact workspace.run_session _
  | succ n ih => rw [atPoll, run_session, take_session, ih]

section Run

variable {transport : Transport σ} {workspace : Workspace α (σ × Record)}
  {parse : Json → Except Error α} {request : SearchRequest} {lifetime : Duration}

/-- What the calls of a stream come to, as they are recorded. -/
def pollOutcome (workspace : Workspace α (σ × Record)) (name : String)
    (others : Nat → List Step) (n : Nat) : Outcome :=
  Record.last ((workspace.atPoll name others n).take (.nextBatch name)).2.state.2

theorem atPoll_forget (kept : workspace.session.transport = transport.recording) (n : Nat) :
    (workspace.forget transport).atPoll name others n =
      (workspace.atPoll name others n).forget transport := by
  induction n with
  | zero => exact run_forget kept _
  | succ n ih =>
      have before : (workspace.atPoll name others n).session.transport = transport.recording :=
        (congrArg Session.transport (workspace.atPoll_session n)).trans kept
      rw [atPoll, ih, take_forget before]
      exact run_forget ((congrArg Session.transport (take_session _ _)).trans before) _

theorem atPoll_asked (kept : workspace.session.transport = transport.recording)
    (spared : ∀ n, ∀ step ∈ others n, step.Spares name) {n : Nat} {call : Call}
    (found : (workspace.atPoll name others n).streams.lookup name = some stream)
    (asked : stream.call? = some call) :
    let polled := (workspace.atPoll name others n).take (.nextBatch name)
    let received := stream.receive (workspace.pollOutcome name others n)
    polled.1.value = received.1.value.map .documents ∧
      polled.2.state.2 = (workspace.atPoll name others n).state.2 ++
        [(call, workspace.pollOutcome name others n)] ∧
      (workspace.atPoll name others (n + 1)).streams.lookup name = some received.2 := by
  have session : (workspace.atPoll name others n).session = workspace.session :=
    workspace.atPoll_session n
  obtain ⟨outcome, value, recorded, after⟩ :=
    nextBatch_asked ((congrArg Session.transport session).trans kept) found asked
  have same : workspace.pollOutcome name others n = outcome := by
    rw [pollOutcome, recorded, Record.last_append]
  rw [same]
  exact ⟨value, recorded, (lookup_run_of_spares _ (spared (n + 1))).trans after⟩

/-- As long as no page was final, the stream is about to ask for the next one. -/
theorem atPoll_due (kept : workspace.session.transport = transport.recording)
    (spared : ∀ n, ∀ step ∈ others n, step.Spares name)
    (opened : workspace.streams.lookup name =
      some { parse, lifetime, state := .start request }) {n : Nat}
    (continues : ∀ i < n, ¬ Final parse (workspace.pollOutcome name others i)) :
    ∃ stream, (workspace.atPoll name others n).streams.lookup name = some stream ∧
      Scroll.Due parse request lifetime (workspace.pollOutcome name others) n stream := by
  induction n with
  | zero => exact ⟨_, (workspace.lookup_run_of_spares (spared 0)).trans opened, .first⟩
  | succ n ih =>
      obtain ⟨stream, found, due⟩ := ih fun i before => continues i (by omega)
      obtain ⟨call, asked, -⟩ := due.asks
      obtain ⟨-, -, after⟩ := atPoll_asked kept spared found asked
      exact ⟨_, after, due.next (continues n (by omega))⟩

theorem atPoll_page (kept : workspace.session.transport = transport.recording)
    (spared : ∀ n, ∀ step ∈ others n, step.Spares name)
    (opened : workspace.streams.lookup name =
      some { parse, lifetime, state := .start request }) {n : Nat}
    (continues : ∀ i < n, ¬ Final parse (workspace.pollOutcome name others i)) :
    let outcomes := workspace.pollOutcome name others
    let polled := fun n => (workspace.atPoll name others n).take (.nextBatch name)
    ∃ call item, Asks request lifetime outcomes n call ∧ Yields parse (outcomes n) item ∧
      (polled n).1.value = item.map .documents ∧
      (polled n).2.state.2 =
        (workspace.atPoll name others n).state.2 ++ [(call, outcomes n)] ∧
      (Final parse (outcomes n) → (polled (n + 1)).1.value = .ok .ended ∧
        (polled (n + 1)).2.state = (workspace.atPoll name others (n + 1)).state) := by
  obtain ⟨stream, found, due⟩ := atPoll_due kept spared opened continues
  obtain ⟨call, asked, asks⟩ := due.asks
  obtain ⟨value, recorded, after⟩ := atPoll_asked kept spared found asked
  refine ⟨call, _, asks, due.parse_eq ▸ stream.receive_yields _, value, recorded, ?_⟩
  intro final
  exact nextBatch_ended after (due.done final)

end Run

/-- A stream gives the pages of the query as it stood at the opening, and stops after the last one,
whatever other steps come before its polls: to open it sends nothing, poll `n` sends the one call
that page `n` is asked for with and yields what comes of that call, and the poll after a final page
sends nothing. -/
theorem openScroll_pages (workspace : Workspace α σ) (name : String) (lifetime : Duration)
    (others : Nat → List Step) (spared : ∀ n, ∀ step ∈ others n, step.Spares name) :
    let executor := workspace.executor
    let parse := executor.model.parse
    let request := executor.pageRequest (some lifetime)
    let opened := (workspace.recording.take (.openScroll name (some lifetime))).2
    let before := opened.atPoll name others
    let polled := fun n => (before n).take (.nextBatch name)
    executor.SearchesPage (some lifetime) request ∧
      opened.state = (workspace.state, []) ∧
      (∀ n, (before n).forget workspace.session.transport =
        (workspace.take (.openScroll name (some lifetime))).2.atPoll name others n) ∧
      ∃ outcomes : Nat → Outcome, ∀ n, (∀ i < n, ¬ Final parse (outcomes i)) →
        ∃ call item, Asks request lifetime outcomes n call ∧ Yields parse (outcomes n) item ∧
          (polled n).1.value = item.map .documents ∧
          (polled n).2.state.2 = (before n).state.2 ++ [(call, outcomes n)] ∧
          (Final parse (outcomes n) → (polled (n + 1)).1.value = .ok .ended ∧
            (polled (n + 1)).2.state = (before (n + 1)).state) := by
  intro executor parse request opened before polled
  have kept : opened.session.transport = workspace.session.transport.recording := rfl
  have held : opened.streams.lookup name =
      some { parse, lifetime, state := .start request } := Keyed.lookup_insert_self _ _ _
  refine ⟨executor.searchesPage _, rfl, ?_, opened.pollOutcome name others, ?_⟩
  · intro n
    exact (atPoll_forget kept n).symm
  · intro n continues
    exact atPoll_page kept spared held continues

/-- A count before the second poll, which goes on under the cursor of the first page all the
same. -/
theorem openScroll_pages_around_count :
    let page := Json.obj [("_scroll_id", .str "c1"), ("hits", .obj [("hits", .arr [
      .obj [("_source", .obj [])]])])]
    let workspace := Workspace.new (.ofTransport .scripted) (.raw (.ofList ["path"])) {
      outcomes := [.ok page, .ok (.obj [("count", .ofNat 7)])] }
    let others := fun n => if n = 1 then [Step.count] else []
    let opened := (workspace.recording.take (.openScroll "pages" (some (.ofSeconds 30)))).2
    let before := opened.atPoll "pages" others
    (∀ n, ∀ step ∈ others n, step.Spares "pages") ∧
      (∃ request outcome, request.sourceIncludes = ["path"] ∧
        request.scroll = some (.ofSeconds 30) ∧
        ((before 0).take (.nextBatch "pages")).2.state.2 = [(.search request, outcome)]) ∧
      ∃ outcome, ((before 1).take (.nextBatch "pages")).2.state.2 =
        (before 1).state.2 ++ [(.scroll "c1" (.ofSeconds 30), outcome)] := by
  intro page workspace others opened before
  have spared : ∀ n, ∀ step ∈ others n, step.Spares "pages" := by
    intro n step member
    by_cases first : n = 1 <;> simp_all [others, Step.Spares]
  obtain ⟨searches, -, -, outcomes, pages⟩ :=
    openScroll_pages workspace "pages" (.ofSeconds 30) others spared
  obtain ⟨call, _, asks, -, -, searched, -⟩ := pages 0 (by omega)
  have answered : outcomes 0 = .ok page := by
    have last := congrArg Record.last searched
    rw [Record.last_append] at last
    exact last.symm
  have continues : ¬ Final workspace.executor.model.parse (outcomes 0) := by
    rw [answered]
    intro final
    have done := Scroll.receive_done ⟨workspace.executor.model.parse, .ofSeconds 30, .done⟩ final
    have next : ScrollState.next "c1" = .done := congrArg Scroll.state done
    contradiction
  cases asks with
  | first =>
      refine ⟨spared, ⟨_, _, searches.fields, searches.scroll, searched⟩, ?_⟩
      obtain ⟨call, _, asks, -, -, recorded, -⟩ := pages 1 (by
        intro i before
        obtain rfl : i = 0 := by omega
        exact continues)
      cases asks with
      | @further _ response cursor received found =>
          obtain rfl : page = response := by simpa [answered] using received
          obtain rfl : "c1" = cursor := by simpa [page, Json.get?] using found
          exact ⟨_, recorded⟩

end Workspace

end DocSearch

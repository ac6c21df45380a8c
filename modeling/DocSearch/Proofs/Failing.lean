import DocSearch.Proofs.Aggregation.Depth
import DocSearch.Proofs.ClauseLog
import DocSearch.Proofs.Sending

namespace DocSearch

/-! Where errors come from. What the caller gave is refused before anything is sent; afterwards an
error is either the one of the transport, or one that the model has with a document in the response,
or it says what the response lacks. None of them is changed on its way. -/

variable {α β γ σ : Type}

theorem Error.isValidation_iff {e : Error} :
    e.isValidation = true ↔
      (∃ field, e = .unknownField field) ∨ ∃ field reason, e = .invalidClause field reason := by
  cases e <;> simp [isValidation]

namespace Clause

variable {fields : FieldSet} {e : Error}

theorem isValidation_of_parse {clause : Clause} (failed : (clause.parse fields).value = .error e) :
    e.isValidation = true := by
  have parses := parses_parse fields clause
  rw [failed] at parses
  generalize (clause.parse fields).events = logged at parses
  cases parses <;> rfl

theorem isValidation_of_parseAll {clauses : List Clause}
    (failed : (parseAll fields clauses).value = .error e) : e.isValidation = true := by
  have parses := parsesAll_parseAll fields clauses
  rw [failed] at parses
  generalize (parseAll fields clauses).events = logged at parses
  cases parses <;> rfl

end Clause

theorem Edit.isValidation_of_apply {query : Query} {edit : Edit} {e : Error}
    (failed : (edit.apply query).value = .error e) : e.isValidation = true := by
  cases edit with
  | add occur expressions clauses =>
      cases parsed : (Clause.parseAll query.fields clauses).value with
      | ok expressions => simp [Edit.apply, Query.add, parsed, Except.map] at failed
      | error other =>
          simp only [Edit.apply, Query.add, Logged.value_map, parsed, Except.map,
            Except.error.injEq] at failed
          exact Clause.isValidation_of_parseAll (failed ▸ parsed)
  | addClause occur clause =>
      cases parsed : (clause.parse query.fields).value with
      | ok expression => simp [Edit.apply, Query.addClause, parsed, Except.map] at failed
      | error other =>
          simp only [Edit.apply, Query.addClause, Logged.value_map, parsed, Except.map,
            Except.error.injEq] at failed
          exact Clause.isValidation_of_parse (failed ▸ parsed)

/-- What comes of a call with a given outcome. -/
inductive Settles (parse : Json → Except Error α) : Outcome → Except Error β → Prop where
  | failed (e : Error) : Settles parse (.error e) (.error e)
  | answered {response : Json} (value : β) : Settles parse (.ok response) (.ok value)
  | unreadable {response hit source : Json} {hits : List Json} {e : Error} :
      response.hits? = some hits → hit ∈ hits → hit.get? "_source" = some source →
      parse source = .error e → Settles parse (.ok response) (.error e)
  | malformed {response : Json} (reason : String) :
      Settles parse (.ok response) (.error (.malformedResponse reason))

namespace Settles

variable {parse : Json → Except Error α} {outcome : Outcome}

theorem map {result : Except Error β} (settles : Settles parse outcome result) (f : β → γ) :
    Settles parse outcome (result.map f) := by
  cases settles with
  | failed e => exact .failed e
  | answered value => exact .answered (f value)
  | unreadable listed member found bad => exact .unreadable listed member found bad
  | malformed reason => exact .malformed reason

theorem of_isValidation {e : Error} (settles : Settles parse outcome (.error e : Except Error β))
    (validation : e.isValidation = true) :
    outcome = .error e ∨ ∃ source, parse source = .error e := by
  cases settles with
  | failed => exact .inl rfl
  | unreadable _ _ _ bad => exact .inr ⟨_, bad⟩
  | malformed reason => contradiction

theorem of_batch {response : Json} {result : Except Error (List α)}
    (batch : Batch parse response result) : Settles parse (.ok response) result := by
  cases batch with
  | noHits => exact .malformed _
  | noSource => exact .malformed _
  | documents => exact .answered _
  | @unreadable hits sources before after source documents e listed each shape good bad =>
      have taken : source ∈ sources := by simp [shape]
      obtain ⟨hit, member, found⟩ := exists_of_forall₂ each.flip taken
      exact .unreadable listed member found bad

end Settles

namespace Exchange

/-- However the call is answered, the answer settles the exchange. -/
def Settled (parse : Json → Except Error α) (exchange : Exchange β) : Prop :=
  ∀ response, Settles parse (.ok response) (exchange.read response).value

variable {parse : Json → Except Error α} {exchange : Exchange β}

theorem Settled.receive (settled : exchange.Settled parse) (outcome : Outcome) :
    Settles parse outcome (exchange.receive outcome).value := by
  cases outcome with
  | error e => exact .failed e
  | ok response => exact settled response

theorem Settled.andThen (settled : exchange.Settled parse) {f : β → Except Error γ}
    (malformed : ∀ value e, f value = .error e → ∃ reason, e = .malformedResponse reason) :
    (exchange.andThen f).Settled parse := by
  intro response
  have first := settled response
  simp only [Exchange.andThen, Logged.value_map]
  generalize (exchange.read response).value = result at first ⊢
  cases first with
  | answered value =>
      cases next : f value with
      | ok changed => simpa only [Except.bind, next] using .answered changed
      | error e =>
          obtain ⟨reason, rfl⟩ := malformed value e next
          simpa only [Except.bind, next] using .malformed reason
  | unreadable listed member found bad => exact .unreadable listed member found bad
  | malformed reason => exact .malformed reason

end Exchange

namespace Executor

variable (executor : Executor α)

theorem fetchFields_settled (fields : List String) :
    (executor.fetchFields fields).Settled executor.model.parse := by
  intro response
  change Settles _ _ (hitSources response).value
  rw [value_hitSources]
  cases response.hits? with
  | none => exact .malformed _
  | some hits =>
      cases taken : hits.mapM Json.source with
      | ok sources => simpa only [taken] using .answered sources
      | error e =>
          obtain ⟨rfl, -⟩ := error_of_sources taken
          simpa only [taken] using .malformed _

theorem fetch_settled : executor.fetch.Settled executor.model.parse :=
  fun response => .of_batch (batch_readBatch executor.model.parse response)

theorem aggregate_settled (aggregation : Aggregation) :
    (executor.aggregate aggregation).Settled executor.model.parse := by
  intro response
  simp only [aggregate, Logged.value_silent]
  cases response.get? "aggregations" with
  | none => exact .malformed _
  | some aggregations =>
      cases decoded : AggregationResult.decode aggregations 1 with
      | ok result => simpa only [decoded] using .answered result
      | error defect => simpa only [decoded] using .malformed defect.message

theorem aggregatePart_settled (aggregation : Aggregation) (part? : AggregationResult → Option β)
    (lacking : String) :
    (executor.aggregatePart aggregation part? lacking).Settled executor.model.parse := by
  refine (executor.aggregate_settled aggregation).andThen fun result e failed => ?_
  cases found : result.bind part? with
  | some part => simp [found] at failed
  | none =>
      simp only [found, Except.error.injEq] at failed
      exact ⟨lacking, failed.symm⟩

theorem count_settled : executor.count.Settled executor.model.parse := by
  intro response
  simp only [count, Logged.value_silent]
  cases (response.get? "count").bind Json.nat? with
  | some hits => exact .answered hits
  | none => exact .malformed _

end Executor

namespace Scroll

theorem receive_settles (scroll : Scroll α) (outcome : Outcome) :
    Settles scroll.parse outcome (scroll.receive outcome).1.value := by
  cases scroll.receive_yields outcome with
  | failed e => exact .failed e
  | answered batch => exact .of_batch batch

theorem Collected.settles {scroll : Scroll α} {bound : Nat} {record : Record}
    {items : List (Except Error (List α))} (collected : scroll.Collected bound record items) :
    List.Forall₂ (fun entry item => Settles scroll.parse entry.2 item) record items := by
  induction collected with
  | bound => exact .nil
  | ended => exact .nil
  | @item scroll _ _ outcome _ _ _ _ ih =>
      rw [(scroll.receive_keeps outcome).1] at ih
      exact .cons (scroll.receive_settles outcome) ih

end Scroll

namespace Step

/-- The step sends a call of the executor. -/
def isExchange : Step → Bool
  | fetch | fetchFields _ | aggregate _ | uniqueCount _ | sum _ | groupBy _ _ | count => true
  | _ => false

end Step

namespace Workspace

theorem build_error {workspace : Workspace α σ} {built : Logged (Except Error (Executor α))}
    {e : Error} (failed : (workspace.build built).1.value = .error e) :
    built.value = .error e ∧ (workspace.build built).2 = workspace := by
  cases value : built.value with
  | ok executor => simp [build, value] at failed
  | error other =>
      simp only [build, value, Except.error.injEq] at failed
      exact ⟨congrArg _ failed, by simp only [build, value]⟩

theorem modifyQuery_error {executor : Executor α} {step : Query → Logged (Except Error Query)}
    {e : Error} (failed : (executor.modifyQuery step).value = .error e) :
    (step executor.query).value = .error e := by
  cases value : (step executor.query).value with
  | ok query => simp [Executor.modifyQuery, value, Except.map] at failed
  | error other => simpa [Executor.modifyQuery, value, Except.map] using failed

/-- A step on the query that fails was given something wrong, and nothing comes of it. -/
theorem take_edit_error {workspace : Workspace α σ} {step : Step} {edit : Edit} {e : Error}
    (edits : step.edit? = some edit) (failed : (workspace.take step).1.value = .error e) :
    e.isValidation = true ∧ (workspace.take step).2 = workspace := by
  rw [workspace.take_edit edits] at failed ⊢
  obtain ⟨built, unchanged⟩ := build_error failed
  exact ⟨Edit.isValidation_of_apply (modifyQuery_error built), unchanged⟩

section Recorded

variable {transport : Transport σ} {workspace : Workspace α (σ × Record)}
  (kept : workspace.session.transport = transport.recording)
include kept

theorem exchange_settles {parse : Json → Except Error α} {exchange : Exchange β}
    (settled : exchange.Settled parse) (answer : β → Answer α) :
    ∃ call outcome, (workspace.exchange exchange answer).2.state.2 =
        workspace.state.2 ++ [(call, outcome)] ∧
      Settles parse outcome (workspace.exchange exchange answer).1.value := by
  obtain ⟨outcome, recorded, value⟩ := exchange_recorded kept exchange answer
  exact ⟨exchange.call, outcome, recorded, value ▸ (settled.receive outcome).map answer⟩

theorem take_exchange_settles {step : Step} (exchange : step.isExchange = true) :
    ∃ call outcome,
      (workspace.take step).2.state.2 = workspace.state.2 ++ [(call, outcome)] ∧
      Settles workspace.executor.model.parse outcome (workspace.take step).1.value := by
  cases step with
  | fetch => exact exchange_settles kept workspace.executor.fetch_settled _
  | fetchFields fields =>
      exact exchange_settles kept (workspace.executor.fetchFields_settled fields) _
  | aggregate aggregation =>
      exact exchange_settles kept (workspace.executor.aggregate_settled aggregation) _
  | uniqueCount | sum | groupBy =>
      exact exchange_settles kept (workspace.executor.aggregatePart_settled _ _ _) _
  | count => exact exchange_settles kept workspace.executor.count_settled _
  | _ => contradiction

end Recorded

/-- Where an error of a step comes from. A step on the query fails on what it was given, before
anything is sent. The other steps send one call for each result that they come to: a failed call is
the result as it is, and with a response the only errors are those of the model about a source in
it and those about what it lacks. So only what the transport or the model reported itself can pass
for a refusal of what was given. Reading a response is stopped by nothing else, as long as there
are depths enough for its levels. -/
theorem take_error_origin (workspace : Workspace α σ) (step : Step) :
    let taken := workspace.recording.take step
    taken.forget workspace.session.transport = workspace.take step ∧
      (∀ edit e, step.edit? = some edit → taken.1.value = .error e →
        ((∃ field, e = .unknownField field) ∨ ∃ field reason, e = .invalidClause field reason) ∧
          e.isValidation = true ∧ taken.2 = workspace.recording) ∧
      (step.isExchange = true → ∃ call outcome, taken.2.state.2 = [(call, outcome)] ∧
        Settles workspace.executor.model.parse outcome taken.1.value) ∧
      (∀ name stream call, step = .nextBatch name → workspace.streams.lookup name = some stream →
        stream.call? = some call → ∃ outcome item, taken.2.state.2 = [(call, outcome)] ∧
          taken.1.value = item.map .documents ∧ Settles stream.parse outcome item) ∧
      (∀ name bound stream, step = .drain name bound →
        workspace.streams.lookup name = some stream →
        ∃ items, taken.1.value = .ok (.batches items) ∧
          List.Forall₂ (fun entry item => Settles stream.parse entry.2 item)
            taken.2.state.2 items) ∧
      (∀ (parse : Json → Except Error α) outcome e,
        Settles parse outcome (.error e : Except Error (Answer α)) → e.isValidation = true →
          outcome = .error e ∨ ∃ source, parse source = .error e) ∧
      ∀ room aggregations, AggregationResult.NestsWithin room aggregations 1 →
        AggregationResult.decodeWithin room aggregations 1 =
          some (AggregationResult.decode aggregations 1) := by
  intro taken
  have kept : workspace.recording.session.transport = workspace.session.transport.recording := rfl
  refine ⟨(take_forget kept step).symm, ?edit, ?exchange, ?nextBatch, ?drain, ?validation, ?depth⟩
  case edit =>
    intro edit e edits failed
    obtain ⟨validation, unchanged⟩ := take_edit_error edits failed
    exact ⟨Error.isValidation_iff.mp validation, validation, unchanged⟩
  case exchange =>
    intro exchange
    exact take_exchange_settles kept exchange
  case nextBatch =>
    rintro name stream call rfl found asked
    obtain ⟨outcome, value, recorded, -⟩ := nextBatch_asked kept found asked
    exact ⟨outcome, _, recorded, value, stream.receive_settles outcome⟩
  case drain =>
    rintro name bound stream rfl found
    obtain ⟨record, items, recorded, value, collected⟩ := drain_recorded kept bound found
    have sent : taken.2.state.2 = record := recorded
    exact ⟨items, value, sent ▸ collected.settles⟩
  case validation =>
    intro parse outcome e settles validation
    exact settles.of_isValidation validation
  case depth =>
    intro room aggregations nests
    exact AggregationResult.decodeWithin_of_nestsWithin nests

/-- A transport that reports an unknown field of its own, in place of hits. -/
theorem take_error_origin_refusing :
    let refusal : Error := .unknownField "shard"
    let workspace := Workspace.new (.ofTransport .scripted) (.raw (.ofList [])) {
      outcomes := [.error refusal] }
    Step.fetch.isExchange = true ∧ refusal.isValidation = true ∧
      (workspace.take .fetch).1.value = .error refusal ∧
      ¬ ∃ source, workspace.executor.model.parse source = .error refusal := by
  intro refusal workspace
  obtain ⟨forgotten, -, exchange, -⟩ := take_error_origin workspace .fetch
  obtain ⟨call, outcome, recorded, settles⟩ := exchange rfl
  have came : outcome = .error refusal := by
    have last := congrArg Record.last recorded
    exact last.symm
  have value : (workspace.recording.take .fetch).1.value = .error refusal := by
    rw [came] at settles
    generalize (workspace.recording.take .fetch).1.value = result at settles ⊢
    cases settles with
    | failed => rfl
  refine ⟨rfl, rfl, ?_, ?_⟩
  · rw [← forgotten]
    exact value
  · rintro ⟨source, failed⟩
    contradiction

end Workspace

end DocSearch

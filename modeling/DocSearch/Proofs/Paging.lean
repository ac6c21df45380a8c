import DocSearch.Proofs.Scrolling

namespace DocSearch

/-! A page is read alike whether it is fetched or is the first one of a stream: all its documents
or none, and of several faults the same one. -/

variable {α σ τ : Type}

/-- The hit has a source, and the source is read as the document. -/
def Json.Holds (parse : Json → Except Error α) (hit : Json) (document : α) : Prop :=
  ∃ source, hit.get? "_source" = some source ∧ parse source = .ok document

/-- The result of reading a page. It depends on the hits alone. -/
structure ReadsPage (parse : Json → Except Error α) (response : Json)
    (result : Except Error (List α)) : Prop where
  batch : ∀ other, result = other ↔ Batch parse response other
  documents : ∀ documents, result = .ok documents ↔
    ∃ hits, response.hits? = some hits ∧ List.Forall₂ (Json.Holds parse) hits documents
  readable : (∃ documents, result = .ok documents) ↔
    ∃ hits, response.hits? = some hits ∧ ∀ hit ∈ hits, ∃ document, hit.Holds parse document
  hitsAlone : ∀ other : Json, other.get? "hits" = response.get? "hits" → Batch parse other result

namespace Page

variable {parse : Json → Except Error α} {response : Json}

theorem readBatch_ok_iff {documents : List α} :
    readBatch parse response = .ok documents ↔
      ∃ hits, response.hits? = some hits ∧ List.Forall₂ (Json.Holds parse) hits documents := by
  rw [← batch_iff]
  constructor
  · intro batch
    cases batch with
    | documents found each read => exact ⟨_, found, forall₂_exists_iff.mpr ⟨_, each, read⟩⟩
  · rintro ⟨hits, found, each⟩
    obtain ⟨sources, taken, read⟩ := forall₂_exists_iff.mp each
    exact .documents found taken read

theorem exists_readBatch_ok_iff :
    (∃ documents, readBatch parse response = .ok documents) ↔
      ∃ hits, response.hits? = some hits ∧ ∀ hit ∈ hits, ∃ document, hit.Holds parse document := by
  simp only [readBatch_ok_iff, ← exists_forall₂_iff]
  exact exists_comm.trans (exists_congr fun _ => exists_and_left)

theorem readBatch_congr {other : Json} (same : other.get? "hits" = response.get? "hits") :
    readBatch parse other = readBatch parse response := by
  have hits : other.hits? = response.hits? := by rw [Json.hits?, Json.hits?, same]
  rw [readBatch, readBatch, value_hitSources, value_hitSources, hits]

theorem readsPage (parse : Json → Except Error α) (response : Json) :
    ReadsPage parse response (readBatch parse response) where
  batch _ := batch_iff.symm
  documents _ := readBatch_ok_iff
  readable := exists_readBatch_ok_iff
  hitsAlone _ same := batch_iff.mpr (readBatch_congr same)

end Page

namespace Executor

variable (executor : Executor α) (lifetime : Duration)

theorem value_fetch (transport : Transport σ) (state : σ) :
    (transport.perform executor.fetch state).1.value =
      (transport.send (.search (executor.pageRequest none)) state).1.value.bind
        (Page.readBatch executor.model.parse) := by
  show (executor.fetch.receive
    (transport.send (.search (executor.pageRequest none)) state).1.value).value = _
  cases (transport.send (.search (executor.pageRequest none)) state).1.value <;> rfl

theorem poll_scroll (transport : Transport σ) (state : σ) :
    ∃ item next after,
      (executor.scroll lifetime).value.poll transport state = some (item, next, after) ∧
      item.value = (transport.send (.search (executor.pageRequest (some lifetime))) state).1.value.bind
        (Page.readBatch executor.model.parse) :=
  ⟨_, _, _, rfl, Scroll.value_receive _ _⟩

variable {executor lifetime}

/-- If the search of a fetch and the first search of a stream come to the same, then so do the fetch
and the first item of the stream. The searches differ in their lifetime alone. -/
theorem fetch_eq_first_item {transport : Transport σ} {other : Transport τ} {state : σ} {start : τ}
    {outcome : Outcome}
    (answered : (transport.send (.search (executor.pageRequest none)) state).1.value = outcome)
    (streamed : (other.send (.search (executor.pageRequest (some lifetime))) start).1.value =
      outcome) :
    let fetched := (transport.perform executor.fetch state).1.value
    executor.fetch.call = .search (executor.pageRequest none) ∧
      executor.SearchesPage none (executor.pageRequest none) ∧
      (executor.pageRequest none).scroll = none ∧
      (executor.scroll lifetime).value.call? =
        some (.search { executor.pageRequest none with scroll := some lifetime }) ∧
      (∃ item next after,
        (executor.scroll lifetime).value.poll other start = some (item, next, after) ∧
        item.value = fetched) ∧
      (∀ e, outcome = .error e → fetched = .error e) ∧
      ∀ response, outcome = .ok response → ReadsPage executor.model.parse response fetched := by
  intro fetched
  have read : fetched = outcome.bind (Page.readBatch executor.model.parse) := by
    rw [← answered]
    exact executor.value_fetch transport state
  obtain ⟨item, next, after, polled, value⟩ := executor.poll_scroll lifetime other start
  refine ⟨rfl, executor.searchesPage none, rfl, rfl, ⟨item, next, after, polled, ?_⟩, ?_, ?_⟩
  · rw [value, streamed, read]
  · rintro e rfl
    exact read
  · rintro response rfl
    have page : fetched = Page.readBatch executor.model.parse response := read
    exact page ▸ Page.readsPage _ _

/-- A hit without a source is the fault of a page, although the hit before it is no log entry. -/
theorem fetch_eq_first_item_no_source :
    let page := Json.obj [("hits", .obj [("hits", .arr [
      .obj [("_source", .obj [])], .obj []])])]
    let executor := Executor.new Model.accessLog (.ofSeconds 60)
    let script : Script := { outcomes := [.ok page] }
    let stream := (executor.scroll (.ofSeconds 60)).value
    (∃ e, Model.accessLog.parse (.obj []) = .error e) ∧
      (Transport.scripted.perform executor.fetch script).1.value =
        .error (.malformedResponse "hit has no _source") ∧
      ∃ item next after, stream.poll .scripted script = some (item, next, after) ∧
        item.value = .error (.malformedResponse "hit has no _source") := by
  intro page executor script stream
  have first : Batch Model.accessLog.parse page (.error (.malformedResponse "hit has no _source")) :=
    .noSource rfl (List.mem_cons_of_mem _ (List.mem_singleton_self _)) rfl
  have answered : (Transport.scripted.send (.search (executor.pageRequest none)) script).1.value =
    .ok page := rfl
  have streamed : (Transport.scripted.send
    (.search (executor.pageRequest (some (.ofSeconds 60)))) script).1.value = .ok page := rfl
  obtain ⟨-, -, -, -, ⟨item, next, after, polled, value⟩, -, reads⟩ :=
    fetch_eq_first_item answered streamed
  have fetched := ((reads page rfl).batch _).mpr first
  exact ⟨⟨_, rfl⟩, fetched, item, next, after, polled, value.trans fetched⟩

end Executor

end DocSearch

import DocSearch.Proofs.Traversal
import DocSearch.Scroll

namespace DocSearch

/-! What the documents of a response come to. All sources are taken out before the first of them
is read, so a hit without a source counts before any document that does not fit its model. -/

variable {α : Type}

def Json.hits? (response : Json) : Option (List Json) :=
  ((response.get? "hits").bind (·.get? "hits")).bind (·.array?)

/-- What the hits of a response come to as documents: all of them in order, or the first fault. -/
inductive Batch (parse : Json → Except Error α) (response : Json) :
    Except Error (List α) → Prop where
  | noHits : response.hits? = none →
      Batch parse response (.error (.malformedResponse "response has no hits.hits array"))
  | noSource {hits : List Json} {hit : Json} : response.hits? = some hits → hit ∈ hits →
      hit.get? "_source" = none →
      Batch parse response (.error (.malformedResponse "hit has no _source"))
  | unreadable {hits sources before after : List Json} {source : Json} {documents : List α}
      {e : Error} : response.hits? = some hits →
      List.Forall₂ (fun hit source => hit.get? "_source" = some source) hits sources →
      sources = before ++ source :: after →
      List.Forall₂ (fun source document => parse source = .ok document) before documents →
      parse source = .error e → Batch parse response (.error e)
  | documents {hits sources : List Json} {documents : List α} : response.hits? = some hits →
      List.Forall₂ (fun hit source => hit.get? "_source" = some source) hits sources →
      List.Forall₂ (fun source document => parse source = .ok document) sources documents →
      Batch parse response (.ok documents)

/-- The source of a hit, which has to be there. -/
def Json.source (hit : Json) : Except Error Json :=
  match hit.get? "_source" with
  | some source => .ok source
  | none => .error (.malformedResponse "hit has no _source")

theorem Json.source_ok_iff {hit source : Json} :
    hit.source = .ok source ↔ hit.get? "_source" = some source := by
  cases found : hit.get? "_source" <;> simp [Json.source, found]

theorem value_hitSources (response : Json) :
    (hitSources response).value =
      match response.hits? with
      | none => .error (.malformedResponse "response has no hits.hits array")
      | some hits => hits.mapM Json.source := by
  cases found : response.hits? with
  | none =>
      rw [Json.hits?] at found
      rw [hitSources, found]
      rfl
  | some hits =>
      rw [Json.hits?] at found
      rw [hitSources, found]
      rfl

theorem sources_ok_iff {hits sources : List Json} :
    hits.mapM Json.source = .ok sources ↔
      List.Forall₂ (fun hit source => hit.get? "_source" = some source) hits sources := by
  simp only [mapM_ok_iff, Json.source_ok_iff]

theorem error_of_sources {hits : List Json} {e : Error} (failed : hits.mapM Json.source = .error e) :
    e = .malformedResponse "hit has no _source" ∧ ∃ hit ∈ hits, hit.get? "_source" = none := by
  obtain ⟨before, hit, after, sources, rfl, -, raised⟩ := mapM_error_iff.mp failed
  cases found : hit.get? "_source" with
  | some source => simp [Json.source, found] at raised
  | none =>
      simp only [Json.source, found, Except.error.injEq] at raised
      exact ⟨raised.symm, hit, by simp, found⟩

theorem sources_error_of_mem {hits : List Json} {hit : Json} (member : hit ∈ hits)
    (missing : hit.get? "_source" = none) :
    hits.mapM Json.source = .error (.malformedResponse "hit has no _source") := by
  cases taken : hits.mapM Json.source with
  | ok sources =>
      obtain ⟨source, -, found⟩ := exists_of_forall₂ (sources_ok_iff.mp taken) member
      rw [missing] at found
      contradiction
  | error e => rw [(error_of_sources taken).1]

/-- The documents of a response, or why it has none. -/
def Page.readBatch (parse : Json → Except Error α) (response : Json) : Except Error (List α) :=
  (hitSources response).value.bind fun sources => sources.mapM parse

theorem value_pageRead (parse : Json → Except Error α) (response : Json) :
    (Page.read parse response).value = (Page.readBatch parse response).map fun batch =>
      { cursor := (response.get? "_scroll_id").bind (·.string?), batch } := rfl

theorem batch_readBatch (parse : Json → Except Error α) (response : Json) :
    Batch parse response (Page.readBatch parse response) := by
  rw [Page.readBatch, value_hitSources]
  cases found : response.hits? with
  | none => exact .noHits found
  | some hits =>
      simp only
      cases taken : hits.mapM Json.source with
      | error e =>
          obtain ⟨rfl, hit, member, missing⟩ := error_of_sources taken
          exact .noSource found member missing
      | ok sources =>
          have each := sources_ok_iff.mp taken
          simp only [Except.bind]
          cases read : sources.mapM parse with
          | ok documents => exact .documents found each (mapM_ok_iff.mp read)
          | error e =>
              obtain ⟨before, source, after, documents, shape, good, bad⟩ := mapM_error_iff.mp read
              exact .unreadable found each shape good bad

theorem readBatch_of_batch {parse : Json → Except Error α} {response : Json}
    {result : Except Error (List α)} (batch : Batch parse response result) :
    Page.readBatch parse response = result := by
  rw [Page.readBatch, value_hitSources]
  cases batch with
  | noHits absent =>
      rw [absent]
      rfl
  | noSource found member missing =>
      simp only [found, sources_error_of_mem member missing]
      rfl
  | unreadable found each shape good bad =>
      simp only [found, sources_ok_iff.mpr each, Except.bind]
      exact mapM_error_iff.mpr ⟨_, _, _, _, shape, good, bad⟩
  | documents found each read =>
      simp only [found, sources_ok_iff.mpr each, Except.bind]
      exact mapM_ok_iff.mpr read

/-- A response has one batch, the one that is read. -/
theorem batch_iff {parse : Json → Except Error α} {response : Json}
    {result : Except Error (List α)} :
    Batch parse response result ↔ Page.readBatch parse response = result :=
  ⟨readBatch_of_batch, fun read => read ▸ batch_readBatch parse response⟩

end DocSearch

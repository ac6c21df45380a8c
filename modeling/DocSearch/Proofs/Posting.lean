import DocSearch.Proofs.Delivering
import DocSearch.Proofs.QueryParams

namespace DocSearch.Http

/-! What is posted says which call it is. The kind of a call shows in the last part of its path, the
index in what is in front of that part, and the rest in the parameters and the body. Only the span
of a keep-alive is not told in full, but as the text of its time unit. -/

section Path

variable {index other name : List Char}

/-- A name below an index, which may be empty. -/
def below (index name : List Char) : List Char :=
  if index = [] then name else index ++ '/' :: name

theorem dropWhile_slash (bare : index.head? ≠ some '/') (named : name.head? ≠ some '/') :
    (index ++ '/' :: name).dropWhile (· == '/') = below index name := by
  cases index with
  | nil =>
      cases name with
      | nil => rfl
      | cons c rest =>
          have letter : (c == '/') = false := by simpa using named
          simp [below, letter]
  | cons c rest =>
      have letter : (c == '/') = false := by simpa using bare
      simp [below, letter]

theorem below_inj (same : below index name = below other name) : index = other := by
  -- A path below an index is longer than the name alone.
  have lengths := congrArg List.length same
  by_cases first : index = [] <;> by_cases second : other = []
  · rw [first, second]
  · simp [below, first, second] at lengths
    omega
  · simp [below, first, second] at lengths
    omega
  · simp only [below, if_neg first, if_neg second] at same
    exact List.append_cancel_right same

theorem getLast?_below (named : name ≠ []) : (below index name).getLast? = name.getLast? := by
  rw [below]
  split
  · rfl
  · obtain ⟨c, rest, rfl⟩ := List.exists_cons_of_ne_nil named
    rw [List.getLast?_append_cons, List.getLast?_cons_cons]

end Path

/-- The index does not start with a slash, and no field that is wanted has a comma in it. -/
inductive Plain : Call → Prop where
  | search {request : SearchRequest} : request.index.toList.head? ≠ some '/' →
      (∀ name ∈ request.sourceIncludes, ',' ∉ name.toList) → Plain (.search request)
  | count {body : Json} {index : String} : index.toList.head? ≠ some '/' →
      Plain (.count body index)
  | scroll {id : String} {lifetime : Duration} : Plain (.scroll id lifetime)

/-- The calls agree in everything but spans of time, and in the time unit of those. -/
inductive Alike : Call → Call → Prop where
  | search {request other : SearchRequest} : request.body = other.body →
      request.index = other.index → request.size = other.size → request.offset = other.offset →
      request.sourceIncludes = other.sourceIncludes →
      request.scroll.map Duration.timeUnit = other.scroll.map Duration.timeUnit →
      Alike (.search request) (.search other)
  | count {body : Json} {index : String} : Alike (.count body index) (.count body index)
  | scroll {id : String} {lifetime other : Duration} : lifetime.timeUnit = other.timeUnit →
      Alike (.scroll id lifetime) (.scroll id other)

section Params

variable (request : SearchRequest)

/-- Each part of a request that is told by a parameter can be looked up under its name. -/
theorem lookup_searchParams :
    (searchParams request).lookup "size" = request.size.map toString ∧
      (searchParams request).lookup "from" = request.offset.map toString ∧
      (searchParams request).lookup "_source_includes" =
        (if request.sourceIncludes = [] then none
          else some (",".intercalate request.sourceIncludes)) ∧
      (searchParams request).lookup "scroll" = request.scroll.map Duration.timeUnit := by
  obtain ⟨_, _, size, offset, fields, scroll⟩ := request
  cases size <;> cases offset <;> cases fields <;> cases scroll <;> exact ⟨rfl, rfl, rfl, rfl⟩

theorem searchParams_order : ((searchParams request).map Prod.fst).Sublist
    ["size", "from", "_source_includes", "scroll"] := by
  obtain ⟨_, _, size, offset, fields, scroll⟩ := request
  cases size <;> cases offset <;> cases fields <;> cases scroll <;>
    simp [searchParams]

theorem intercalate_inj {fields others : List String}
    (commaless : ∀ name ∈ fields, ',' ∉ name.toList)
    (commaless' : ∀ name ∈ others, ',' ∉ name.toList) (given : fields ≠ []) (given' : others ≠ [])
    (same : ",".intercalate fields = ",".intercalate others) : fields = others := by
  rw [← Text.splitAt_intercalate commaless given, ← Text.splitAt_intercalate commaless' given']
  exact congrArg (Text.splitAt ',') same

variable {request} {other : SearchRequest}

theorem sourceIncludes_inj (commaless : ∀ name ∈ request.sourceIncludes, ',' ∉ name.toList)
    (commaless' : ∀ name ∈ other.sourceIncludes, ',' ∉ name.toList)
    (same : (if request.sourceIncludes = [] then none
        else some (",".intercalate request.sourceIncludes)) =
      if other.sourceIncludes = [] then none
      else some (",".intercalate other.sourceIncludes)) :
    request.sourceIncludes = other.sourceIncludes := by
  by_cases none : request.sourceIncludes = [] <;> by_cases none' : other.sourceIncludes = []
  · rw [none, none']
  · simp [none, none'] at same
  · simp [none, none'] at same
  · simp only [if_neg none, if_neg none', Option.some.injEq] at same
    exact intercalate_inj commaless commaless' none none' same

theorem searchParams_inj (commaless : ∀ name ∈ request.sourceIncludes, ',' ∉ name.toList)
    (commaless' : ∀ name ∈ other.sourceIncludes, ',' ∉ name.toList)
    (same : searchParams request = searchParams other) :
    request.size = other.size ∧ request.offset = other.offset ∧
      request.sourceIncludes = other.sourceIncludes ∧
      request.scroll.map Duration.timeUnit = other.scroll.map Duration.timeUnit := by
  obtain ⟨size, offset, fields, scroll⟩ := lookup_searchParams request
  obtain ⟨size', offset', fields', scroll'⟩ := lookup_searchParams other
  rw [same] at size offset fields scroll
  have decimal : Function.Injective (toString : Nat → String) := fun _ _ => Numeral.decimal_inj.mp
  exact ⟨Option.map_injective decimal (size.symm.trans size'),
    Option.map_injective decimal (offset.symm.trans offset'),
    sourceIncludes_inj commaless commaless' (fields.symm.trans fields'),
    scroll.symm.trans scroll'⟩

end Params

section Place

/-- Where a call is posted to: the part of its path that names the kind, and what is before it. -/
def place : Call → String × String
  | .search request => (request.index, "_search")
  | .count _ index => (index, "_count")
  | .scroll _ _ => ("_search", "scroll")

variable {call other : Call}

theorem trimStart_callPath (plain : Plain call) :
    (trimStart (callPath call)).toList = below (place call).1.toList (place call).2.toList := by
  cases plain with
  | search bare =>
      have named : "_search".toList.head? ≠ some '/' := by decide
      simp only [trimStart, callPath, String.toList_ofList, String.toList_append]
      exact dropWhile_slash bare named
  | count bare =>
      have named : "_count".toList.head? ≠ some '/' := by decide
      simp only [trimStart, callPath, String.toList_ofList, String.toList_append]
      exact dropWhile_slash bare named
  | scroll =>
      simp only [callPath, place]
      decide

theorem kind_inj (same : (place call).2.toList.getLast? = (place other).2.toList.getLast?) :
    (place call).2 = (place other).2 := by
  -- They end in `h`, `t` and `l`.
  cases call <;> cases other <;> simp [place] at same ⊢

theorem place_ne_nil (call : Call) : (place call).2.toList ≠ [] := by
  cases call <;> simp [place]

theorem place_of_address (client : Client) {number turn : UInt64}
    (host : client.host number = client.host turn) (plain : Plain call) (plain' : Plain other)
    (same : client.address number (callPath call) = client.address turn (callPath other)) :
    place call = place other := by
  rw [Client.address, Client.address, host, String.append_right_inj, ← String.toList_inj,
    trimStart_callPath plain, trimStart_callPath plain'] at same
  have kinds : (place call).2 = (place other).2 := by
    have last := congrArg List.getLast? same
    rw [getLast?_below (place_ne_nil call), getLast?_below (place_ne_nil other)] at last
    exact kind_inj last
  rw [kinds] at same
  exact Prod.ext (String.toList_inj.mp (below_inj same)) kinds

theorem alike_of_place (plain : Plain call) (plain' : Plain other)
    (places : place call = place other)
    (params : (callParams call).getD [] = (callParams other).getD [])
    (bodies : callBody call = callBody other) : Alike call other := by
  cases plain with
  | @search request _ commaless =>
      cases plain' with
      | @search another _ commaless' =>
          obtain ⟨size, offset, fields, scroll⟩ := searchParams_inj commaless commaless' params
          exact .search bodies (congrArg Prod.fst places) size offset fields scroll
      | count | scroll => simp [place] at places
  | @count body index _ =>
      cases plain' with
      | @count body' index' _ =>
          obtain rfl : body = body' := bodies
          obtain rfl : index = index' := congrArg Prod.fst places
          exact .count
      | search | scroll => simp [place] at places
  | scroll =>
      cases plain' with
      | scroll =>
          simp only [callBody, Json.obj.injEq, List.cons.injEq, Prod.mk.injEq, Json.str.injEq,
            true_and, and_true] at bodies
          obtain ⟨units, rfl⟩ := bodies
          exact .scroll units
      | search | count => simp [place] at places

/-- Below one address, the URL of the request tells the parameters. -/
theorem callParams_of_requestUrl {parsed : Url} (places : place call = place other)
    (urls : Client.requestUrl parsed call = Client.requestUrl parsed other) :
    callParams call = callParams other := by
  cases call with
  | search request =>
      cases other with
      | search another => exact congrArg some (Url.withParams_inj urls)
      | count | scroll => simp [place] at places
  | count =>
      cases other with
      | search => simp [place] at places
      | count | scroll => rfl
  | scroll =>
      cases other with
      | search => simp [place] at places
      | count | scroll => rfl

theorem posted_of_alike (alike : Alike call other) :
    callPath call = callPath other ∧ callParams call = callParams other ∧
      callBody call = callBody other ∧ (∀ url, callEvent url call = callEvent url other) ∧
      ∀ url, callUrl url call = callUrl url other := by
  cases alike with
  | @search request another body index size offset fields scroll =>
      have lifetimes : (request.scroll.map fun lifetime => ("scroll", lifetime.timeUnit)) =
          another.scroll.map fun lifetime => ("scroll", lifetime.timeUnit) := by
        simpa [Function.comp_def] using congrArg (Option.map fun unit => ("scroll", unit)) scroll
      have params : searchParams request = searchParams another := by
        simp only [searchParams, size, offset, fields, lifetimes]
      refine ⟨?path, congrArg some params, body, fun _ => ?event, fun _ => ?url⟩
      case path => simp only [callPath, index]
      case event => simp only [callEvent, params]
      case url => simp only [callUrl, callParams, params]
  | count => exact ⟨rfl, rfl, rfl, fun _ => rfl, fun _ => rfl⟩
  | scroll units =>
      refine ⟨rfl, rfl, ?body, fun _ => ?event, fun _ => rfl⟩
      case body => simp only [callBody, units]
      case event => simp only [callEvent, units]

theorem prepare_of_alike (alike : Alike call other) (address : String) :
    Client.prepare address call = Client.prepare address other := by
  obtain ⟨-, -, -, -, url⟩ := posted_of_alike alike
  unfold Client.prepare
  cases Url.parse address with
  | error fault => rfl
  | ok parsed =>
      have same : Client.requestUrl parsed call = Client.requestUrl parsed other := url _
      simp only
      rw [same]

theorem Client.Reaches.of_alike {address : String} {parsed : Url}
    (reaches : Client.Reaches address call parsed) (alike : Alike call other) :
    Client.Reaches address other parsed := by
  have prepared := Client.prepare_ok_iff.mpr ⟨reaches, rfl⟩
  rw [prepare_of_alike alike] at prepared
  exact (Client.prepare_ok_iff.mp prepared).1

/-- No network can tell such calls apart. -/
theorem send_of_alike (client : Client) (alike : Alike call other) (network : Network ν)
    (state : State ν) : client.send network call state = client.send network other state := by
  obtain ⟨path, -, body, event, -⟩ := posted_of_alike alike
  simp only [Client.send, Client.request, path, body, event, prepare_of_alike alike]

end Place

/-- What is posted through one host tells calls apart: address, parameters and body are equal
exactly for calls of one kind that agree in all they ask for, spans of time by their unit. So they
are in the requests that are sent, where the parameters are part of the URL; and calls that agree
so far are sent alike. -/
theorem posting_faithful (client : Client) {number turn : UInt64}
    (host : client.host number = client.host turn) {call other : Call} (plain : Plain call)
    (plain' : Plain other) :
    ((client.address number (callPath call) = client.address turn (callPath other) ∧
        (callParams call).getD [] = (callParams other).getD [] ∧
        callBody call = callBody other) ↔ Alike call other) ∧
      (((callParams call).getD []).map Prod.fst).Sublist
        ["size", "from", "_source_includes", "scroll"] ∧
      (∀ parsed parsed',
        Client.Reaches (client.address number (callPath call)) call parsed →
        Client.Reaches (client.address turn (callPath other)) other parsed' →
        ((client.address number (callPath call) = client.address turn (callPath other) ∧
            Client.requestUrl parsed call = Client.requestUrl parsed' other ∧
            callBody call = callBody other) ↔ Alike call other)) ∧
      (∀ (ν : Type) (network : Network ν) (state : State (ν × List Request)) parsed,
        state.calls = number → Client.Reaches (client.address number (callPath call)) call parsed →
        (client.send network.recording call state).2.network.2 = state.network.2 ++ [{
          url := Client.requestUrl parsed call
          authorization := client.authorization parsed
          body := (callBody call).render }]) ∧
      (Alike call other → ∀ (ν : Type) (network : Network ν) (state : State ν),
        client.send network call state = client.send network other state) := by
  have place_of := place_of_address client host plain plain'
  have alikeAddress : Alike call other →
      client.address number (callPath call) = client.address turn (callPath other) := by
    intro alike
    obtain ⟨path, -⟩ := posted_of_alike alike
    simp only [Client.address, host, path]
  refine ⟨⟨?apart, ?equal⟩, ?order, fun parsed parsed' reaches reaches' => ⟨?sentApart, ?sentEqual⟩,
    ?sent, fun alike ν => send_of_alike client alike⟩
  case apart =>
    rintro ⟨addresses, params, bodies⟩
    exact alike_of_place plain plain' (place_of addresses) params bodies
  case equal =>
    intro alike
    obtain ⟨-, params, body, -⟩ := posted_of_alike alike
    exact ⟨alikeAddress alike, congrArg (·.getD []) params, body⟩
  case order =>
    cases call with
    | search request => exact searchParams_order request
    | count | scroll => exact List.nil_sublist _
  case sentApart =>
    rintro ⟨addresses, urls, bodies⟩
    rw [addresses] at reaches
    obtain rfl := reaches.parsed_eq reaches'
    have params := callParams_of_requestUrl (place_of addresses) urls
    exact alike_of_place plain plain' (place_of addresses) (congrArg (·.getD []) params) bodies
  case sentEqual =>
    intro alike
    obtain ⟨-, -, body, -, url⟩ := posted_of_alike alike
    have addresses := alikeAddress alike
    rw [addresses] at reaches
    obtain rfl := reaches.parsed_eq reaches'
    exact ⟨addresses, url _, body⟩
  case sent =>
    rintro ν network state parsed rfl reaches
    exact client.sent_of_reaches call reaches

/-- A projection to one field without a name, and two keep-alives of less than a millisecond. The
calls go to the first of two hosts, one after the other. -/
theorem posting_faithful_nameless :
    let client : Client := {
      hosts := ["http://a:9200", "https://b:9200"], hosts_pos := by decide, credentials := none }
    let search := fun nanos : Fin 1000 => Call.search {
      body := .obj [], index := "", size := some 10, sourceIncludes := [""]
      scroll := some { seconds := 0, nanos := nanos.val, nanos_lt := by omega } }
    client.host 0 = client.host 2 ∧ Plain (search 0) ∧ Plain (search 1) ∧
      Alike (search 0) (search 1) ∧
      client.address 0 (callPath (search 0)) = client.address 2 (callPath (search 1)) ∧
      ∃ parsed, Client.Reaches (client.address 0 (callPath (search 0))) (search 0) parsed ∧
        Client.Reaches (client.address 2 (callPath (search 1))) (search 1) parsed ∧
        (Client.requestUrl parsed (search 0)).query =
          some "size=10&_source_includes=&scroll=1ms" ∧
        (client.send (⟨fun _ _ => (.failed "", ())⟩ : Network Unit).recording (search 0)
          ⟨0, ((), [])⟩).2.network.2.map Request.url = [Client.requestUrl parsed (search 0)] := by
  intro client search
  have host : client.host 0 = client.host 2 := by decide
  have plain : ∀ nanos, Plain (search nanos) := fun _ => .search nofun (by simp)
  obtain ⟨faithful, -, -, sent, -⟩ := posting_faithful client host (plain 0) (plain 1)
  have alike : Alike (search 0) (search 1) := faithful.mp ⟨by decide, by decide, rfl⟩
  have addresses := (faithful.mpr alike).1
  obtain ⟨parsed, reaches, query⟩ : ∃ parsed,
      Client.Reaches (client.address 0 (callPath (search 0))) (search 0) parsed ∧
        (Client.requestUrl parsed (search 0)).query =
          some "size=10&_source_includes=&scroll=1ms" := by
    have prepared : ((Client.prepare (client.address 0 (callPath (search 0)))
        (search 0)).toOption.map fun both => both.2.query) =
          some (some "size=10&_source_includes=&scroll=1ms") := by
      decide +kernel
    cases found : Client.prepare (client.address 0 (callPath (search 0))) (search 0) with
    | error e =>
        rw [found] at prepared
        exact nomatch prepared
    | ok both =>
        obtain ⟨reaches, url⟩ := Client.prepare_ok_iff.mp found
        rw [found] at prepared
        exact ⟨both.1, reaches, url ▸ Option.some.inj prepared⟩
  have reaches' : Client.Reaches (client.address 2 (callPath (search 1))) (search 1) parsed := by
    rw [← addresses]
    exact reaches.of_alike alike
  have record := sent Unit ⟨fun _ _ => (.failed "", ())⟩ ⟨0, ((), [])⟩ parsed rfl reaches
  exact ⟨host, plain 0, plain 1, alike, addresses, parsed, reaches, reaches', query,
    congrArg (List.map Request.url) record⟩

end DocSearch.Http

import ApiClient.Proofs.Client.Dispatch
import ApiClient.Proofs.Http.Uri
import ApiClient.Proofs.Parameter.QueryNames

/-!
What becomes of a query on its way into a request. The URL takes a question mark away from its
beginning, and the request target ends it at its first number sign. Both can only come from names,
which are not encoded, so that a query arrives as a whole exactly when its names have neither where
they would be taken for a mark.
-/

namespace ApiClient

namespace Request

/-! ### Search parts -/

/-- A search part without the question mark that it may bring along. -/
def unmarked : List Char → List Char
  | '?' :: rest => rest
  | chars => chars

/-- The query that a search part comes to. -/
def arrived (search : String) : Option String :=
  if (unmarked search.toList).isEmpty then none
  else some (String.ofList ((unmarked search.toList).takeWhile (· ≠ '#')))

theorem appendSearch_eq (url search : String) :
    appendSearch url search =
      if (unmarked search.toList).isEmpty then url
      else url ++ String.ofList ('?' :: unmarked search.toList) := rfl

theorem search?_appendSearch {url : String} (h : Uri.IsPlain url.toList) (search : String) :
    (Uri.search? (appendSearch url search).toList).map String.ofList = arrived search := by
  rw [appendSearch_eq, arrived]
  split
  case isTrue => rw [Uri.search?_eq_none h, Option.map_none]
  case isFalse =>
    rw [String.toList_append, String.toList_ofList, Uri.search?_append h, Uri.search?_mark,
      Option.map_some]

theorem isPlain_joinUrl {base endpoint : String} (hbase : Uri.IsPlain base.toList)
    (hendpoint : Uri.IsPlain endpoint.toList) : Uri.IsPlain (joinUrl base endpoint).toList := by
  intro c hc
  unfold joinUrl at hc
  simp only [String.toList_append, List.mem_append] at hc
  rcases hc with (hc | hc) | hc
  · exact hbase c hc
  · split at hc
    · simp at hc
    · obtain rfl : c = '/' := by simpa using hc
      decide
  · exact hendpoint c hc

/-- The query of a target whose URL had no marks but those of its search part. -/
theorem query_of_buildUrl {base endpoint url : String} {query : Entries Json}
    {serializer : QuerySerializer} {uri : Uri} (hbase : Uri.IsPlain base.toList)
    (hendpoint : Uri.IsPlain endpoint.toList) (hempty : serializer [] = .ok "")
    (hurl : buildUrl base endpoint [] query serializer = .ok url) (huri : Uri.parse url = .ok uri) :
    ∃ search, serializer query = .ok search ∧ uri.query = arrived search := by
  have hplain := isPlain_joinUrl hbase hendpoint
  rw [Uri.query_of_parse huri]
  cases query with
  | nil =>
      cases hurl
      refine ⟨"", hempty, ?_⟩
      rw [Uri.search?_eq_none hplain]
      rfl
  | cons entry query =>
      obtain ⟨search, hsearch, hurl⟩ := bind_eq_ok_iff.mp (show (serializer (entry :: query) >>=
        fun search => pure (appendSearch (joinUrl base endpoint) search)) = .ok url from hurl)
      cases hurl
      exact ⟨search, hsearch, search?_appendSearch hplain search⟩

/-! ### What arrives as it was -/

/-- The names of a query have no mark that would be taken out of it. -/
structure Unmarked (names : List (List Char)) : Prop where
  hash : ∀ name ∈ names, '#' ∉ name
  mark : ∀ first ∈ names.head?, first.head? ≠ some '?'

theorem unmarked_eq_self {search : List Char} (h : search.head? ≠ some '?') :
    unmarked search = search := by
  unfold unmarked
  split
  case h_1 => simp at h
  case h_2 => rfl

theorem arrived_eq_some_iff {search : String} (hne : search.toList ≠ []) :
    arrived search = some search ↔ '#' ∉ search.toList ∧ search.toList.head? ≠ some '?' := by
  constructor
  · intro h
    rw [arrived] at h
    split at h
    case isTrue => cases h
    case isFalse =>
      have hwhole : (unmarked search.toList).takeWhile (· ≠ '#') = search.toList := by
        rw [← String.toList_ofList (l := List.takeWhile _ _), Option.some.inj h]
      have hmark : search.toList.head? ≠ some '?' := by
        intro hmark
        obtain ⟨rest, hrest⟩ := List.head?_eq_some_iff.mp hmark
        -- what is taken away at the front is missing at the end
        have hlength := congrArg List.length hwhole
        have hle : (rest.takeWhile (· ≠ '#')).length ≤ rest.length :=
          (List.takeWhile_sublist _).length_le
        rw [hrest, unmarked, List.length_cons] at hlength
        omega
      refine ⟨?_, hmark⟩
      rw [unmarked_eq_self hmark, List.takeWhile_eq_self_iff] at hwhole
      intro hhash
      simpa using hwhole '#' hhash
  · rintro ⟨hhash, hmark⟩
    have hkept : search.toList.takeWhile (· ≠ '#') = search.toList := by
      rw [List.takeWhile_eq_self_iff]
      intro c hc
      rw [decide_eq_true_eq]
      rintro rfl
      exact hhash hc
    rw [arrived, unmarked_eq_self hmark, if_neg (by simpa using hne), hkept, String.ofList_toList]

/-- Behind a question mark that is taken away there is still the equals sign. -/
theorem unmarked_ne_nil (first rest : List Char) : unmarked (first ++ '=' :: rest) ≠ [] := by
  cases first with
  | nil => simp [unmarked]
  | cons c first =>
      unfold unmarked
      split
      case h_1 heq =>
        obtain ⟨-, rfl⟩ := List.cons.inj heq
        simp
      case h_2 => simp

section

variable {names : List (List Char)} {search : String} (hled : Query.LedBy names search.toList)

include hled

/-- A search part with names has more than a question mark. -/
theorem arrived_eq_none_iff : arrived search = none ↔ search = "" := by
  constructor
  · intro h
    rw [arrived] at h
    split at h
    case isFalse => cases h
    case isTrue hempty =>
      cases names with
      | nil => exact String.toList_eq_nil_iff.mp hled
      | cons first names =>
          obtain ⟨rest, hrest⟩ := hled
          rw [hrest, List.isEmpty_iff] at hempty
          exact absurd hempty (unmarked_ne_nil first rest)
  · rintro rfl
    rfl

theorem head?_eq_mark_iff (hne : search.toList ≠ []) :
    search.toList.head? = some '?' ↔ ∃ first ∈ names.head?, first.head? = some '?' := by
  cases names with
  | nil => exact absurd hled hne
  | cons first names =>
      obtain ⟨rest, hrest⟩ := hled
      rw [hrest]
      cases first <;> simp

/-- Names without marks are what it takes for a search part to arrive as it is. -/
theorem arrived_eq_iff (hhash : '#' ∈ search.toList ↔ '#' ∈ names.flatten) :
    arrived search = (if search = "" then none else some search) ↔ Unmarked names := by
  split
  case isTrue hempty =>
    have hnames : names = [] := by
      cases names with
      | nil => rfl
      | cons first names =>
          obtain ⟨rest, hrest⟩ := hled
          simp [hempty] at hrest
    subst hempty hnames
    exact iff_of_true rfl ⟨by simp, by simp⟩
  case isFalse hempty =>
    have hne : search.toList ≠ [] := fun h => hempty (String.toList_eq_nil_iff.mp h)
    rw [arrived_eq_some_iff hne, hhash, Ne, head?_eq_mark_iff hled hne, List.mem_flatten]
    constructor
    · rintro ⟨hhash, hmark⟩
      exact ⟨fun name hname hmem => hhash ⟨name, hname, hmem⟩,
        fun first hfirst heq => hmark ⟨first, hfirst, heq⟩⟩
    · rintro ⟨hhash, hmark⟩
      exact ⟨fun ⟨name, hname, hmem⟩ => hhash name hname hmem,
        fun ⟨first, hfirst, heq⟩ => hmark first hfirst heq⟩

end

end Request

/-- The query of a request that was prepared from a URL without marks and without templates. -/
theorem Config.query_of_prepare_eq_ok {config : Config} {options : RequestOptions}
    {defaultTransport : Option Transport} {dispatch : Dispatch} (hpath : options.path = [])
    (hbase : Uri.IsPlain (config.baseUrlFor options).toList)
    (hurl : Uri.IsPlain options.url.toList)
    (hempty : config.querySerializerFor options [] = .ok "")
    (h : config.prepare options defaultTransport = .ok dispatch) :
    ∃ search, config.querySerializerFor options options.query = .ok search ∧
      dispatch.request.uri.query = Request.arrived search := by
  obtain ⟨method, headers, payload, url, uri, sent, -, -, -, hbuild, hparse, rfl⟩ :=
    eq_of_prepare_eq_ok h
  rw [urlFor, hpath] at hbuild
  exact Request.query_of_buildUrl hbase hurl hempty hbuild hparse

namespace Session

variable {α ε : Type}

/-- A query on its way into a request whose URL has no marks of its own. The URL's query is the
search part that the serializer gives, less a question mark at its beginning and all that follows a
number sign. It is missing exactly where the search part is empty, and it is the search part itself
exactly where no name has a number sign and the first one does not begin with a question mark. What
is sent has the same URL. -/
theorem request_delivers_query_iff (data : Decoder α) (error : Decoder ε) (s : Session)
    (id : ClientId) (options : RequestOptions) (queryOptions : QueryOptions)
    (hserializer : (s.config id).querySerializerFor options = queryOptions.serialize)
    (hreserved : queryOptions.allowReserved = false) (hpath : options.path = [])
    (hbase : Uri.IsPlain ((s.config id).baseUrlFor options).toList)
    (hurl : Uri.IsPlain options.url.toList)
    (hhandlers : (s.client id).interceptors.request.handlers = [])
    {defaultTransport : Option Transport} {x : Exchange α ε} {journal : List Event}
    (hbuilt : ((request data error id options defaultTransport).run s).1 = (.ok x, journal)) :
    ∃ search, queryOptions.serialize options.query = .ok search ∧
      x.request.uri.query = Request.arrived search ∧
      (x.request.uri.query = none ↔ search = "") ∧
      (x.request.uri.query = (if search = "" then none else some search) ↔
        Request.Unmarked (Query.writtenNames queryOptions options.query)) ∧
      ∀ sent, .sent sent ∈ journal → sent.uri = x.request.uri := by
  cases hprepare : (s.config id).prepare options defaultTransport with
  | error e =>
      rw [run_request_of_error data error hprepare] at hbuilt
      cases hbuilt
  | ok dispatch =>
      obtain ⟨x', events, hrun, hreceived⟩ := run_request_of_ok data error hprepare
      rw [hrun] at hbuilt
      obtain ⟨hx, rfl⟩ := Prod.mk.inj hbuilt
      obtain rfl := Except.ok.inj hx
      obtain ⟨search, hsearch, hquery⟩ :=
        Config.query_of_prepare_eq_ok hpath hbase hurl (by rw [hserializer]; rfl) hprepare
      rw [hserializer] at hsearch
      -- without handlers the request goes out as it was prepared
      have hrequest : x'.request = dispatch.request := by
        rw [hreceived.request_eq, Interceptors.onRequest, hhandlers]
        rfl
      rw [← hrequest] at hquery
      have hled := Query.ledBy_of_serialize_eq_ok queryOptions hsearch
      have hhash := Query.mem_iff_of_serialize_eq_ok queryOptions
        (by decide : Parameter.isMark '#' = false) hreserved hsearch
      refine ⟨search, hsearch, hquery, ?_, ?_, ?_⟩
      · rw [hquery, Request.arrived_eq_none_iff hled]
      · rw [hquery, Request.arrived_eq_iff hled hhash]
      · intro sent hsent
        rcases List.mem_append.mp hsent with hhandled | hevent
        · exact absurd hhandled (not_mem_runs _ _ _)
        · rw [hreceived.eq_duplicate_of_sent hevent, ← hreceived.request_eq]
          rfl

/-- A request with a number sign in the name of its only parameter. -/
def hashNamed : RequestOptions :=
  { url := "/x", baseUrl := some "https://a.test", method := some .get,
    transport := some fun _ => .error .unavailable, query := [("a#b", .string "1")] }

/-- All that arrives of its parameter is the beginning of the name. -/
theorem request_delivers_query_iff_hashNamed :
    ∃ (x : Exchange Json Json) (sent : HttpRequest),
      ((request Schema.value.decode Schema.value.decode defaultClient hashNamed).run {}).1 =
        (.ok x, [.sent sent]) ∧
      QueryOptions.serialize {} hashNamed.query = .ok "a#b=1" ∧
      sent.uri.query = some "a" ∧ ¬Request.Unmarked (Query.writtenNames {} hashNamed.query) := by
  have hrequest : ((request Schema.value.decode Schema.value.decode defaultClient hashNamed).run
      {}).1 = ((.ok _, [.sent _]) : Except ClientError (Exchange Json Json) × List Event) := rfl
  have hbase : Uri.IsPlain ((({} : Session).config defaultClient).baseUrlFor hashNamed).toList :=
    Uri.isPlain_iff.mpr (by decide)
  have hurl : Uri.IsPlain hashNamed.url.toList := Uri.isPlain_iff.mpr (by decide)
  obtain ⟨search, hsearch, hquery, -, hwhole, hsent⟩ :=
    request_delivers_query_iff _ _ {} defaultClient hashNamed {} rfl rfl rfl hbase hurl rfl hrequest
  have hname : QueryOptions.serialize {} hashNamed.query = .ok "a#b=1" := rfl
  obtain rfl : "a#b=1" = search := Except.ok.inj (hname.symm.trans hsearch)
  refine ⟨_, _, hrequest, rfl, (congrArg Uri.query (hsent _ (by simp))).trans hquery, ?_⟩
  rw [← hwhole, hquery]
  decide

end Session

end ApiClient

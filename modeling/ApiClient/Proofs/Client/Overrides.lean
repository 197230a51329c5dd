import ApiClient.Client.Session
import ApiClient.Proofs.Client.Prepare
import ApiClient.Proofs.Request.HeaderOverlay

/-!
Options over settings. Of what a call may set for itself, a request sees only what the options come
to over the settings. So what the options set hides the settings, and what the settings hold may as
well be passed explicitly.
-/

namespace ApiClient

/-- What the settings of a client hold and a single call may set for itself. -/
inductive Setting
  | method
  | body
  | bodySerializer
  | querySerializer
  | transformer
  | transport
  | parseMode
  deriving DecidableEq, Repr

namespace Setting

/-- What it is set to. -/
abbrev Value : Setting → Type
  | .method => Method
  | .body => RequestBody
  | .bodySerializer => BodySerializer
  | .querySerializer => QuerySerializer
  | .transformer => Transformer
  | .transport => Transport
  | .parseMode => ParseMode

/-- What the settings of a client hold for it, which for some may be nothing. -/
abbrev Held : Setting → Type
  | .method => Option Method
  | .body => Option RequestBody
  | .bodySerializer => BodySerializer
  | .querySerializer => QuerySerializer
  | .transformer => Option Transformer
  | .transport => Option Transport
  | .parseMode => ParseMode

end Setting

namespace RequestOptions

/-- What the options set it to. -/
def value? (options : RequestOptions) : (setting : Setting) → Option setting.Value
  | .method => options.method
  | .body => options.body
  | .bodySerializer => options.bodySerializer
  | .querySerializer => options.querySerializer
  | .transformer => options.transformer
  | .transport => options.transport
  | .parseMode => options.parseMode

def set (options : RequestOptions) : (setting : Setting) → setting.Value → RequestOptions
  | .method, v => { options with method := some v }
  | .body, v => { options with body := some v }
  | .bodySerializer, v => { options with bodySerializer := some v }
  | .querySerializer, v => { options with querySerializer := some v }
  | .transformer, v => { options with transformer := some v }
  | .transport, v => { options with transport := some v }
  | .parseMode, v => { options with parseMode := some v }

/-- Whether the options have an input for a header, in whatever case they write its name. -/
def Mentions (options : RequestOptions) (name : HeaderName) : Prop :=
  ∃ entry ∈ options.headers, HeaderName.parse? entry.1 = some name

theorem value?_set_self (options : RequestOptions) (setting : Setting) (v : setting.Value) :
    (options.set setting v).value? setting = some v := by
  cases setting <;> rfl

theorem value?_set_of_ne (options : RequestOptions) {setting other : Setting}
    (h : other ≠ setting) (v : setting.Value) :
    (options.set setting v).value? other = options.value? other := by
  cases setting <;> cases other <;> first | rfl | exact absurd rfl h

end RequestOptions

namespace Config

/-- What the settings have for it. -/
def value? (config : Config) : (setting : Setting) → Option setting.Value
  | .method => config.method
  | .body => config.body
  | .bodySerializer => some config.bodySerializer
  | .querySerializer => some config.querySerializer
  | .transformer => config.transformer
  | .transport => config.transport
  | .parseMode => some config.parseMode

def replace (config : Config) : (setting : Setting) → setting.Held → Config
  | .method, held => { config with method := held }
  | .body, held => { config with body := held }
  | .bodySerializer, held => { config with bodySerializer := held }
  | .querySerializer, held => { config with querySerializer := held }
  | .transformer, held => { config with transformer := held }
  | .transport, held => { config with transport := held }
  | .parseMode, held => { config with parseMode := held }

theorem value?_replace_of_ne (config : Config) {setting other : Setting} (h : other ≠ setting)
    (held : setting.Held) : (config.replace setting held).value? other = config.value? other := by
  cases setting <;> cases other <;> first | rfl | exact absurd rfl h

/-! ### What a request sees -/

/-- What the options come to over the settings. -/
def valueFor (config : Config) (options : RequestOptions) (setting : Setting) :
    Option setting.Value :=
  (options.value? setting).or (config.value? setting)

/-- All that a request sees of settings and options is the same. -/
structure SameView (config config' : Config) (options options' : RequestOptions) : Prop where
  value : ∀ setting, config.valueFor options setting = config'.valueFor options' setting
  headers : config.headers.override options.headers = config'.headers.override options'.headers
  baseUrl : config.baseUrlFor options = config'.baseUrlFor options'
  url : options.url = options'.url
  path : options.path = options'.path
  query : options.query = options'.query

section

variable (config : Config) (options : RequestOptions)

theorem valueFor_bodySerializer :
    config.valueFor options .bodySerializer = some (config.bodySerializerFor options) :=
  Option.or_some

theorem valueFor_querySerializer :
    config.valueFor options .querySerializer = some (config.querySerializerFor options) :=
  Option.or_some

theorem valueFor_parseMode :
    config.valueFor options .parseMode = some (config.parseModeFor options) :=
  Option.or_some

end

/-- Settings and options that look the same to a request are prepared alike. -/
theorem SameView.prepare_eq {config config' : Config} {options options' : RequestOptions}
    (h : SameView config config' options options') (defaultTransport : Option Transport) :
    config.prepare options defaultTransport = config'.prepare options' defaultTransport := by
  have hmethod : config.methodFor options = config'.methodFor options' := h.value .method
  have hbody : config.bodyFor options = config'.bodyFor options' :=
    congrArg (Option.filter fun body => !RequestBody.isBlank body) (h.value .body)
  have hbodySerializer := h.value .bodySerializer
  have hquerySerializer := h.value .querySerializer
  have hparseMode := h.value .parseMode
  rw [valueFor_bodySerializer, valueFor_bodySerializer, Option.some.injEq] at hbodySerializer
  rw [valueFor_querySerializer, valueFor_querySerializer, Option.some.injEq] at hquerySerializer
  rw [valueFor_parseMode, valueFor_parseMode, Option.some.injEq] at hparseMode
  have htransformer : config.transformerFor options = config'.transformerFor options' :=
    h.value .transformer
  have htransport : config.transportFor options defaultTransport =
      config'.transportFor options' defaultTransport :=
    congrArg (Option.or · defaultTransport) (h.value .transport)
  have hurl : config.urlFor options = config'.urlFor options' := by
    rw [urlFor, urlFor, h.baseUrl, h.url, h.path, h.query, hquerySerializer]
  cases hverb : config.methodFor options with
  | none =>
      rw [prepare_of_methodFor_eq_none hverb, prepare_of_methodFor_eq_none (hmethod ▸ hverb)]
  | some method =>
      rw [prepare_of_methodFor hverb, prepare_of_methodFor (hmethod ▸ hverb), h.headers,
        hbodySerializer, hbody, hurl, htransport, hparseMode, htransformer]

/-- What the options set hides what the settings hold. -/
theorem sameView_replace (config : Config) {options : RequestOptions} {setting : Setting}
    (h : (options.value? setting).isSome = true) (held : setting.Held) :
    SameView (config.replace setting held) config options options where
  value := by
    intro other
    rw [valueFor, valueFor]
    by_cases hother : other = setting
    · subst hother
      obtain ⟨v, hv⟩ := Option.isSome_iff_exists.mp h
      rw [hv, Option.some_or, Option.some_or]
    · rw [value?_replace_of_ne config hother]
  headers := by cases setting <;> rfl
  baseUrl := by cases setting <;> rfl
  url := rfl
  path := rfl
  query := rfl

/-- What the settings have may be passed by options that leave it open. -/
theorem sameView_set {config : Config} {options : RequestOptions} {setting : Setting}
    {v : setting.Value} (hopen : options.value? setting = none)
    (hv : config.value? setting = some v) :
    SameView config config (options.set setting v) options where
  value := by
    intro other
    rw [valueFor, valueFor]
    by_cases hother : other = setting
    · subst hother
      rw [RequestOptions.value?_set_self, hopen, hv, Option.some_or, Option.none_or]
    · rw [RequestOptions.value?_set_of_ne options hother]
  headers := by cases setting <;> rfl
  baseUrl := by cases setting <;> rfl
  url := by cases setting <;> rfl
  path := by cases setting <;> rfl
  query := by cases setting <;> rfl

/-- The own values of a header may be passed by options that do not mention it. -/
theorem sameView_concat_header {config : Config} {options : RequestOptions} {text : String}
    {name : HeaderName} {texts : List String} (htext : HeaderName.parse? text = some name)
    (hname : ¬options.Mentions name)
    (hvalues : (config.headers.values name).mapM HeaderValue.toText? = some texts) :
    SameView config config
      { options with headers := options.headers ++ [(text, .list texts)] } options where
  value := by
    intro setting
    cases setting <;> rfl
  headers :=
    Headers.override_concat_own_values htext (fun entry he hkey => hname ⟨entry, he, hkey⟩) hvalues
  baseUrl := rfl
  url := rfl
  path := rfl
  query := rfl

end Config

namespace Session

variable {α ε : Type}

/-- Requests that look the same and meet the same handlers come to the same. -/
theorem request_of_sameView (data : Decoder α) (error : Decoder ε) {s t : Session} {id : ClientId}
    {options options' : RequestOptions} (defaultTransport : Option Transport)
    (hview : Config.SameView (t.config id) (s.config id) options' options)
    (hhandlers : (t.client id).interceptors = (s.client id).interceptors) :
    ((request data error id options' defaultTransport).run t).1 =
      ((request data error id options defaultTransport).run s).1 := by
  show (exchange data error (t.config id) (t.client id).interceptors options'
    defaultTransport).run [] =
    (exchange data error (s.config id) (s.client id).interceptors options
      defaultTransport).run []
  rw [exchange, exchange, hview.prepare_eq defaultTransport, hhandlers]

/-- Options go before settings, and what they leave open may as well be passed. What the options set
makes the settings of no account, whatever these hold for it. What they leave open comes to the same
when it is set to what the settings have, and so does a header that they do not mention when they
are given its values as a list. Here requests come to the same when they have the same result and
run the same handlers, transports and transformers. -/
theorem request_prefers_options (data : Decoder α) (error : Decoder ε) (s : Session)
    (id : ClientId) (options : RequestOptions) (defaultTransport : Option Transport) :
    let result (t : Session) (options : RequestOptions) :=
      ((request data error id options defaultTransport).run t).1
    (∀ setting, (options.value? setting).isSome = true →
      ∀ (held : setting.Held) (t : Session),
        t.config id = (s.config id).replace setting held →
        (t.client id).interceptors = (s.client id).interceptors →
        result t options = result s options) ∧
    (∀ setting v, options.value? setting = none → (s.config id).value? setting = some v →
      result s (options.set setting v) = result s options) ∧
    (∀ text name texts, HeaderName.parse? text = some name → ¬options.Mentions name →
      ((s.config id).headers.values name).mapM HeaderValue.toText? = some texts →
      result s { options with headers := options.headers ++ [(text, .list texts)] } =
        result s options) := by
  intro result
  refine ⟨?_, ?_, ?_⟩
  · intro setting hset held t hconfig hhandlers
    refine request_of_sameView data error defaultTransport ?_ hhandlers
    rw [hconfig]
    exact Config.sameView_replace _ hset held
  · intro setting v hopen hv
    exact request_of_sameView data error defaultTransport (Config.sameView_set hopen hv) rfl
  · intro text name texts htext hname hvalues
    exact request_of_sameView data error defaultTransport
      (Config.sameView_concat_header htext hname hvalues) rfl

/-- Settings with two values of one header, and a transport that hands back the headers it gets. -/
def reflecting : Config :=
  { headers := Headers.ofList [(⟨"accept"⟩, utf8 "text/plain"), (⟨"accept"⟩, utf8 "*/*")],
    transport := some fun request => .ok { status := .ok, headers := request.headers, body := [] } }

/-- A request that names its method, over other settings and with what it leaves open. -/
theorem request_prefers_options_reflecting :
    let result (config : Config) (options : RequestOptions) :=
      ((request Schema.value.decode Schema.value.decode defaultClient options).run
        { shared := config }).1
    let options : RequestOptions := { url := "/", method := some .get }
    result { reflecting with method := some .delete } options = result reflecting options ∧
      result reflecting { options with parseMode := some .auto } = result reflecting options ∧
      result reflecting { options with headers := [("Accept", .list ["text/plain", "*/*"])] } =
        result reflecting options := by
  intro result options
  obtain ⟨hset, hopen, hheader⟩ := request_prefers_options Schema.value.decode
    Schema.value.decode { shared := reflecting } defaultClient options none
  refine ⟨?_, ?_, ?_⟩
  · exact hset .method rfl (some .delete) { shared := { reflecting with method := some .delete } }
      rfl rfl
  · exact hopen .parseMode .auto rfl rfl
  · have hname : ¬options.Mentions ⟨"accept"⟩ := by
      rintro ⟨entry, hentry, -⟩
      cases hentry
    exact hheader "Accept" ⟨"accept"⟩ ["text/plain", "*/*"] (by decide) hname (by decide)

end Session

end ApiClient

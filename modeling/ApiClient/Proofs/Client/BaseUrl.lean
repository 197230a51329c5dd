import ApiClient.Proofs.Client.ConfigScopes
import ApiClient.Proofs.Client.Prepare

/-!
The base URL that the requests of a client are joined onto. Settings are always those that were
written last, and one slash is dropped where they are written through a client. So a base URL ends
in a slash only where it was handed over with two.
-/

namespace ApiClient

/-! ### Slashes -/

/-- Whether a slash meets another one where two texts are joined. -/
def slashMeets (left right : List Char) : Bool :=
  left.getLast? = some '/' && right.head? = some '/'

/-- The number of places in a text where one slash follows another. -/
def slashPairs : List Char → Nat
  | [] => 0
  | c :: rest => slashPairs rest + (slashMeets [c] rest).toNat

theorem slashPairs_append (left right : List Char) :
    slashPairs (left ++ right) =
      slashPairs left + slashPairs right + (slashMeets left right).toNat := by
  induction left with
  | nil => simp [slashPairs, slashMeets]
  | cons c left ih =>
      rw [List.cons_append, slashPairs, ih, slashPairs]
      cases left with
      | nil => simp [slashPairs, slashMeets]
      | cons d left =>
          -- `right` is met by the end of `left`, which a character in front does not change
          have hfirst : slashMeets [c] (d :: left ++ right) = slashMeets [c] (d :: left) := rfl
          have hlast : slashMeets (c :: d :: left) right = slashMeets (d :: left) right := by
            rw [slashMeets, List.getLast?_cons_cons, slashMeets]
          rw [hfirst, hlast]
          omega

/-- One slash is dropped, so that a second one stays. -/
theorem getLast?_trimBaseUrl (url : String) :
    (trimBaseUrl url).toList.getLast? = some '/' ↔ ['/', '/'] <:+ url.toList := by
  unfold trimBaseUrl
  split
  case isTrue h =>
    obtain ⟨chars, hchars⟩ := List.getLast?_eq_some_iff.mp h
    change _ ↔ ['/'] ++ ['/'] <:+ url.toList
    rw [String.toList_ofList, hchars, List.dropLast_concat, List.getLast?_eq_some_iff,
      List.suffix_append_inj_of_length_eq rfl, and_iff_left rfl]
    exact exists_congr fun _ => eq_comm
  case isFalse h =>
    refine iff_of_false h ?_
    rintro ⟨chars, hchars⟩
    exact h (by simp [← hchars])

theorem toList_joinUrl {endpoint : String} (h : endpoint.toList.head? = some '/') (base : String) :
    (Request.joinUrl base endpoint).toList = base.toList ++ endpoint.toList := by
  simp [Request.joinUrl, h]

namespace Session

/-! ### What is written last -/

/-- Settings as a command hands them over to be written. -/
inductive Write
  /-- Written through a client, by which the base URL is trimmed. -/
  | trimmed (config : Config)
  | verbatim (config : Config)

/-- The settings that are there once they are written. -/
def Write.settled : Write → Config
  | .trimmed config => config.trimmed
  | .verbatim config => config

/-- What a command writes to the shared settings. -/
def sharedWritten (s : Session) : Command → Option Write
  | .create _ config => if config.global then some (.trimmed config) else none
  | .setSharedConfig config => some (.verbatim config)
  | .setConfig handle update =>
    if (s.lookup handle).any fun id => (s.client id).isGlobal then
      some (.trimmed (update s s.shared))
    else none
  | _ => none

/-- What a command writes to the settings that a client has of its own. -/
def ownWritten (id : ClientId) (s : Session) : Command → Option Write
  | .create _ config =>
    if id = s.clients.length ∧ config.global = false then some (.trimmed config) else none
  | .setConfig handle update =>
    if s.lookup handle = some id ∧ (s.client id).isGlobal = false then
      some (.trimmed (update s (s.config id)))
    else none
  | _ => none

/-- The last that a run writes to the settings that a client shows. -/
def lastWrite (id : ClientId) (commands : List Command) : Option Write :=
  if ((({} : Session).run commands).client id).isGlobal then
    (collect sharedWritten {} commands).getLast?
  else (collect (ownWritten id) {} commands).getLast?

/-! ### One command -/

theorem shared_step_eq (s : Session) (command : Command) :
    (s.step command).shared = ((sharedWritten s command).map Write.settled).getD s.shared := by
  rw [shared_step]
  cases command with
  | create handle config =>
      rw [sharedWrite, sharedWritten]
      split <;> rfl
  | setConfig handle update =>
      rw [sharedWrite, sharedWritten]
      split <;> rfl
  | _ => rfl

/-- Places without a client count as clients that share settings. -/
theorem own_eq_none_of_length_le {s : Session} {id : ClientId} (h : s.clients.length ≤ id) :
    (s.client id).own = none := by
  rw [client, List.getD_eq_getElem?_getD, List.getElem?_eq_none h]
  rfl

theorem own_step_eq (s : Session) (command : Command) (id : ClientId) :
    ((s.step command).client id).own =
      ((ownWritten id s command).map Write.settled).or (s.client id).own := by
  cases command with
  | create handle config =>
      rw [client_step_create, ownWritten, ite_and]
      split
      case isTrue hid =>
        rw [own_eq_none_of_length_le (Nat.le_of_eq hid.symm)]
        cases hglobal : config.global <;> simp [made, hglobal, Write.settled]
      case isFalse => rfl
  | clone source copy =>
      obtain ⟨names, hstep⟩ := exists_step_clone_eq s source copy
      rw [hstep]
      rfl
  | setSharedConfig config => rfl
  | setConfig handle update =>
      cases hlookup : s.lookup handle with
      | none =>
          rw [step_setConfig_of_eq_none hlookup]
          simp [ownWritten, hlookup]
      | some j =>
          rw [step_setConfig_of_eq_some hlookup]
          cases hglobal : (s.client j).isGlobal with
          | true =>
              -- what is written goes to the process, and no client's own settings change
              have hnone : ownWritten id s (.setConfig handle update) = none := by
                rw [ownWritten, if_neg]
                rintro ⟨hid, hown⟩
                obtain rfl := Option.some.inj (hlookup.symm.trans hid)
                rw [hglobal] at hown
                cases hown
              rw [hnone]
              rfl
          | false =>
              -- a client with settings of its own exists
              have hlt : j < s.clients.length := by
                by_contra hle
                rw [Client.isGlobal, own_eq_none_of_length_le (Nat.not_lt.mp hle)] at hglobal
                cases hglobal
              rw [if_neg (by simp), client_setClient]
              by_cases hj : j = id
              · subst hj
                simp [ownWritten, hlookup, hglobal, hlt, Write.settled]
              · simp [ownWritten, hlookup, hj]
  | _ => exact (sameSettings_step rfl s).own id

/-! ### Runs -/

/-- Of writes that each replace what was there only the last one counts. -/
theorem foldl_replace {α β : Type} (f : β → α) (a : α) (l : List β) :
    l.foldl (fun _ b => f b) a = (l.getLast?.map f).getD a := by
  induction l generalizing a with
  | nil => rfl
  | cons b l ih =>
      rw [List.foldl_cons, ih, List.getLast?_cons]
      cases l.getLast? <;> rfl

theorem shared_run_eq (commands : List Command) :
    (({} : Session).run commands).shared =
      ((collect sharedWritten {} commands).getLast?.map Write.settled).getD {} := by
  rw [← foldl_replace]
  refine run_view (fun _ => True) (fun t => t.shared) (fun _ _ _ => trivial) ?_ trivial commands
  intro t command _
  rw [shared_step_eq]
  cases sharedWritten t command <;> rfl

theorem own_run_eq (commands : List Command) (id : ClientId) :
    ((({} : Session).run commands).client id).own =
      (collect (ownWritten id) {} commands).getLast?.map Write.settled := by
  -- the default client shares its settings, and the other places have no client yet
  have hstart : (({} : Session).client id).own = none := by
    cases id <;> rfl
  have hrun : ((({} : Session).run commands).client id).own =
      (collect (ownWritten id) {} commands).foldl (fun _ write => some write.settled)
        (({} : Session).client id).own := by
    refine run_view (fun _ => True) (fun t => (t.client id).own) (fun _ _ _ => trivial) ?_ trivial
      commands
    intro t command _
    rw [own_step_eq]
    cases ownWritten id t command <;> rfl
  rw [hrun, hstart, foldl_replace]
  cases (collect (ownWritten id) {} commands).getLast? <;> rfl

/-- The settings that a client shows after a run are those that were written last. -/
theorem config_run_eq (commands : List Command) (id : ClientId) :
    (({} : Session).run commands).config id =
      ((lastWrite id commands).map Write.settled).getD {} := by
  rw [lastWrite]
  split
  case isTrue hglobal => rw [config_of_isGlobal hglobal, shared_run_eq]
  case isFalse hown =>
    obtain ⟨own, hsome⟩ := Option.ne_none_iff_exists'.mp (mt Option.isNone_iff_eq_none.mpr hown)
    rw [config, ← own_run_eq, hsome]
    rfl

/-- Base URLs over whole runs. Settings that nothing has written have none. Where the last write
went through a client, one slash at the end is dropped, so that the base URL ends in a slash just
where it was written with two, and just there a request to an endpoint that begins with a slash gets
a pair of slashes that is neither in the base URL nor in the endpoint. -/
theorem run_trims_baseUrls (commands : List Command) (name : String) (id : ClientId)
    (hname : (({} : Session).run commands).lookup name = some id) :
    ∃ config, (({} : Session).run commands).configAt name = some config ∧
      (lastWrite id commands = none → config.baseUrl = "") ∧
      ∀ written, lastWrite id commands = some (.trimmed written) →
        config.baseUrl = trimBaseUrl written.baseUrl ∧
        (config.baseUrl.toList.getLast? = some '/' ↔ ['/', '/'] <:+ written.baseUrl.toList) ∧
        ∀ options : RequestOptions, options.baseUrl = none →
          options.url.toList.head? = some '/' →
          slashPairs (Request.joinUrl (config.baseUrlFor options) options.url).toList =
            slashPairs config.baseUrl.toList + slashPairs options.url.toList +
              if ['/', '/'] <:+ written.baseUrl.toList then 1 else 0 := by
  have hconfig := config_run_eq commands id
  refine ⟨_, by rw [configAt, hname, Option.map_some], ?_, ?_⟩
  · intro hnone
    rw [hconfig, hnone]
    rfl
  intro written hwritten
  have htrim : ((({} : Session).run commands).config id).baseUrl = trimBaseUrl written.baseUrl := by
    rw [hconfig, hwritten]
    rfl
  have hends := getLast?_trimBaseUrl written.baseUrl
  rw [← htrim] at hends
  refine ⟨htrim, hends, ?_⟩
  intro options hbase hendpoint
  rw [Config.baseUrlFor, hbase, Option.map_none, Option.getD_none, toList_joinUrl hendpoint,
    slashPairs_append, slashMeets]
  simp only [hends, hendpoint, decide_true, Bool.and_true]
  split <;> simp_all

/-- A client that is made with two slashes at the end, and whose base URL is then extended through
another handle. -/
def extended : List Command :=
  [.create "api" { baseUrl := "https://a.test//", global := false }, .clone "api" "copy",
    .setConfig "copy" fun _ config => { config with baseUrl := config.baseUrl ++ "v1/" }]

theorem run_trims_baseUrls_extended :
    ∃ config, (({} : Session).run extended).configAt "api" = some config ∧
      config.baseUrl = "https://a.test/v1" ∧
      slashPairs (Request.joinUrl (config.baseUrlFor { url := "/pets" }) "/pets").toList = 1 := by
  have hwritten : lastWrite 1 extended =
      some (.trimmed { baseUrl := "https://a.test/v1/", global := false }) := by
    rfl
  obtain ⟨config, hconfig, -, hlast⟩ := run_trims_baseUrls extended "api" 1 rfl
  obtain ⟨htrim, -, hjoin⟩ := hlast _ hwritten
  have hbase : config.baseUrl = "https://a.test/v1" := htrim.trans (by decide)
  refine ⟨config, hconfig, hbase, ?_⟩
  rw [hjoin { url := "/pets" } rfl (by decide), hbase]
  decide

/-- Of two slashes one stays, and settings that are shared directly keep theirs. -/
theorem baseUrls_ending_in_slash :
    ((({} : Session).run [.create "api" { baseUrl := "https://a.test//", global := false }]
        ).configAt "api").map (·.baseUrl) = some "https://a.test/" ∧
      ((({} : Session).run [.setSharedConfig { baseUrl := "https://a.test/" }]).configAt
        "global").map (·.baseUrl) = some "https://a.test/" ∧
      slashPairs (Request.joinUrl "https://a.test/" "/pets").toList =
        slashPairs "https://a.test/".toList + slashPairs "/pets".toList + 1 := by
  refine ⟨?_, ?_, ?_⟩
  · decide
  · decide
  · decide

end Session

end ApiClient

import ApiClient.Proofs.Client.Run

/-!
Whose settings a run changes. A client with settings of its own has them as the updates issued on
it left them, and nothing else in the run matters. The shared settings are what the commands that
write them left, and all other clients have those.
-/

namespace ApiClient

namespace Config

theorem trimmed_eq_self {config : Config} (h : config.baseUrl.toList.getLast? ≠ some '/') :
    config.trimmed = config := by
  rw [trimmed, trimBaseUrl, if_neg h]

/-- Of slashes at the end one is dropped. -/
theorem trimmed_eq_of_slash {config : Config} {kept : List Char}
    (h : config.baseUrl.toList = kept ++ ['/']) :
    config.trimmed = { config with baseUrl := String.ofList kept } := by
  rw [trimmed, trimBaseUrl, h, if_pos (by simp), List.dropLast_concat]

end Config

namespace Session

/-- The settings that a handle shows. -/
def configAt (s : Session) (handle : String) : Option Config := (s.lookup handle).map s.config

/-- The update that a command issues on a client. It sees the session in which it is issued. -/
def updateOn (id : ClientId) (s : Session) : Command → Option (Config → Config)
  | .setConfig handle update => if s.lookup handle = some id then some (update s) else none
  | _ => none

/-- What a command makes of the shared settings. -/
def sharedWrite (s : Session) : Command → Option (Config → Config)
  | .create _ config => if config.global then some fun _ => config.trimmed else none
  | .setSharedConfig config => some fun _ => config
  | .setConfig handle update =>
    if (s.lookup handle).any fun id => (s.client id).isGlobal then
      some fun config => (update s config).trimmed
    else none
  | _ => none

/-- Settings after an update. -/
def updated (config : Config) (update : Config → Config) : Config := (update config).trimmed

/-! ### One command -/

theorem config_of_isGlobal {s : Session} {id : ClientId} (h : (s.client id).isGlobal = true) :
    s.config id = s.shared := by
  rw [config, Option.isNone_iff_eq_none.mp h, Option.getD_none]

/-- A client keeps its own settings but for the update that is issued on it. -/
theorem own_step {s : Session} {id : ClientId} (h : id < s.clients.length) (command : Command) :
    ((s.step command).client id).own = (s.client id).own.map fun config =>
      (updateOn id s command).toList.foldl updated config := by
  cases command with
  | create handle config =>
      rw [client_step_create, if_neg (Nat.ne_of_lt h)]
      exact Option.map_id'.symm
  | clone source copy =>
      obtain ⟨names, hstep⟩ := exists_step_clone_eq s source copy
      rw [hstep]
      exact Option.map_id'.symm
  | setSharedConfig config => exact Option.map_id'.symm
  | setConfig handle update =>
      cases hlookup : s.lookup handle with
      | none =>
          rw [step_setConfig_of_eq_none hlookup]
          simp [updateOn, hlookup]
      | some j =>
          rw [step_setConfig_of_eq_some hlookup]
          cases hown : (s.client j).own with
          | none =>
              rw [if_pos (by simp [Client.isGlobal, hown])]
              show (s.client id).own = _
              -- the update goes to the shared settings, so this client has none if it is on it
              by_cases hj : j = id
              · subst hj
                rw [hown, Option.map_none]
              · simp [updateOn, hlookup, hj]
          | some config =>
              rw [if_neg (by simp [Client.isGlobal, hown]), client_setClient]
              by_cases hj : j = id
              · subst hj
                rw [if_pos ⟨rfl, h⟩]
                simp [updateOn, hlookup, hown, Session.config, updated]
              · rw [if_neg (fun hand => hj hand.1)]
                simp [updateOn, hlookup, hj]
  | _ =>
      rw [(sameSettings_step rfl s).own]
      exact Option.map_id'.symm

theorem isGlobal_step {s : Session} {id : ClientId} (h : id < s.clients.length)
    (command : Command) : ((s.step command).client id).isGlobal = (s.client id).isGlobal := by
  rw [Client.isGlobal, own_step h, Option.isNone_map, Client.isGlobal]

theorem shared_step (s : Session) (command : Command) :
    (s.step command).shared =
      (sharedWrite s command).toList.foldl (fun config write => write config) s.shared := by
  cases command with
  | create handle config =>
      rw [step_create]
      cases hglobal : config.global <;> simp [sharedWrite, hglobal]
  | clone source copy =>
      obtain ⟨names, hstep⟩ := exists_step_clone_eq s source copy
      rw [hstep]
      rfl
  | setSharedConfig config => rfl
  | setConfig handle update =>
      cases hlookup : s.lookup handle with
      | none =>
          rw [step_setConfig_of_eq_none hlookup]
          simp [sharedWrite, hlookup]
      | some j =>
          rw [step_setConfig_of_eq_some hlookup]
          cases hglobal : (s.client j).isGlobal with
          | true => simp [sharedWrite, hlookup, hglobal, config_of_isGlobal hglobal]
          | false => simp [sharedWrite, hlookup, hglobal, setClient]
  | _ => exact (sameSettings_step rfl s).shared

/-! ### Runs -/

/-- There is a client with settings of its own at this place. -/
structure IsOwner (id : ClientId) (s : Session) : Prop where
  lt : id < s.clients.length
  own : (s.client id).isGlobal = false

theorem IsOwner.step {id : ClientId} {s : Session} (h : IsOwner id s) (command : Command) :
    IsOwner id (s.step command) where
  lt := Nat.lt_of_lt_of_le h.lt (length_le_length_step s command)
  own := by rw [isGlobal_step h.lt, h.own]

theorem IsOwner.config_step {id : ClientId} {s : Session} (h : IsOwner id s) (command : Command) :
    (s.step command).config id = (updateOn id s command).toList.foldl updated (s.config id) := by
  obtain ⟨config, hown⟩ : ∃ config, (s.client id).own = some config := by
    have hown := h.own
    rw [Client.isGlobal] at hown
    exact Option.isSome_iff_exists.mp (by simpa using hown)
  rw [Session.config, own_step h.lt, Session.config, hown]
  rfl

/-- Settings of its own are what the updates on the client make of them. -/
theorem IsOwner.config_run {id : ClientId} {s : Session} (h : IsOwner id s)
    (commands : List Command) :
    (s.run commands).config id = (collect (updateOn id) s commands).foldl updated (s.config id) :=
  run_view (IsOwner id) (fun t => t.config id) (fun _ command h => h.step command)
    (fun _ command h => h.config_step command) h commands

/-- The shared settings are what the commands that write them make of them. -/
theorem shared_run (s : Session) (commands : List Command) :
    (s.run commands).shared =
      (collect sharedWrite s commands).foldl (fun config write => write config) s.shared :=
  run_view (fun _ => True) (fun t => t.shared) (fun _ _ _ => trivial)
    (fun s command _ => shared_step s command) trivial commands

theorem isGlobal_run {s : Session} {id : ClientId} (h : id < s.clients.length)
    (commands : List Command) :
    ((s.run commands).client id).isGlobal = (s.client id).isGlobal := by
  refine (run_keeps (fun t => id < t.clients.length ∧
    (t.client id).isGlobal = (s.client id).isGlobal) ?_ ⟨h, rfl⟩ commands).2
  intro t command ⟨hlt, heq⟩
  exact ⟨Nat.lt_of_lt_of_le hlt (length_le_length_step t command),
    (isGlobal_step hlt command).trans heq⟩

theorem isGlobal_made (config : Config) : (made config).isGlobal = config.global := by
  cases h : config.global <;> simp [made, h, Client.isGlobal]

/-- An update sees the session as it was before. -/
theorem config_step_setConfig {s : Session} {handle : String} {id : ClientId}
    (h : s.lookup handle = some id) (hlt : id < s.clients.length)
    (update : Session → Config → Config) :
    (s.step (.setConfig handle update)).config id = (update s (s.config id)).trimmed := by
  cases hglobal : (s.client id).isGlobal with
  | true =>
      have hstep : ((s.step (.setConfig handle update)).client id).isGlobal = true := by
        rw [isGlobal_step hlt, hglobal]
      rw [config_of_isGlobal hstep, shared_step, config_of_isGlobal hglobal]
      simp [sharedWrite, h, hglobal]
  | false =>
      rw [IsOwner.config_step ⟨hlt, hglobal⟩]
      simp [updateOn, h, updated]

/-- The handle under which a client is made is the only one that stands for it then. -/
theorem lookup_step_create_eq_length {s : Session} (h : s.HandlesBound) (handle : String)
    (config : Config) (name : String) :
    (s.step (.create handle config)).lookup name = some s.clients.length ↔ name = handle := by
  rw [lookup_step_create]
  split
  case isTrue hname => exact iff_of_true rfl hname
  case isFalse hname =>
    refine iff_of_false ?_ hname
    intro hlookup
    exact Nat.lt_irrefl _ (h name _ hlookup)

/-- Settings over whole runs. What a client that is made with settings of its own shows under any
of its handles is what the updates issued on it make of them. The shared settings are what the
commands that write them make of the ones at the start, and every other client shows those. An
update sees the settings as they were before it. Whether a client shares settings is settled when
it is made. Requests and handlers change no settings. Where settings are trimmed, a slash at the end
of their base URL is dropped, one at most, and nothing else. -/
theorem run_isolates_configs (before after : List Command) :
    let s := ({} : Session).run before
    (∀ handle config, config.global = false →
      let id := s.clients.length
      let t := s.step (.create handle config)
      (∀ name, t.lookup name = some id ↔ name = handle) ∧
      ∀ name, (t.run after).lookup name = some id → (t.run after).configAt name =
        some ((collect (updateOn id) t after).foldl updated config.trimmed)) ∧
    (∀ source copy id, s.lookup source = some id →
      (s.step (.clone source copy)).lookup copy = some id) ∧
    s.shared = (collect sharedWrite {} before).foldl (fun config write => write config) {} ∧
    (∀ name id, s.lookup name = some id → (s.client id).isGlobal = true →
      s.configAt name = some s.shared) ∧
    (∀ handle name id, s.lookup handle = some id → s.lookup name = some id →
      ∀ update : Option Config → Config → Config,
        (s.step (.setConfig handle fun seen => update (seen.configAt name))).configAt name =
          some (update (some (s.config id)) (s.config id)).trimmed) ∧
    (∀ handle config,
      ((s.step (.create handle config)).client s.clients.length).isGlobal = config.global) ∧
    (∀ id < s.clients.length, ((s.run after).client id).isGlobal = (s.client id).isGlobal) ∧
    (∀ command : Command, command.configures = false → (s.step command).shared = s.shared ∧
      ∀ name, (s.step command).configAt name = s.configAt name) ∧
    (∀ config : Config, config.baseUrl.toList.getLast? ≠ some '/' → config.trimmed = config) ∧
    ∀ (config : Config) (kept : List Char), config.baseUrl.toList = kept ++ ['/'] →
      config.trimmed = { config with baseUrl := String.ofList kept } := by
  intro s
  have hbound : s.HandlesBound := handlesBound_run before
  refine ⟨?_, ?_, shared_run {} before, ?_, ?_, ?_, ?_, ?_, fun _ => Config.trimmed_eq_self,
    fun _ _ => Config.trimmed_eq_of_slash⟩
  · intro handle config hlocal id t
    have hclient : t.client id = made config :=
      (client_step_create s handle config id).trans (if_pos rfl)
    -- a client stays an owner, so that from here on only updates on it count
    have howner : IsOwner id t := by
      refine ⟨?_, ?_⟩
      · simp [t, id, step_create]
      · rw [hclient, isGlobal_made, hlocal]
    have hconfig : t.config id = config.trimmed := by
      rw [Session.config, hclient]
      simp [made, hlocal]
    refine ⟨lookup_step_create_eq_length hbound handle config, ?_⟩
    intro name hname
    rw [configAt, hname, Option.map_some, howner.config_run, hconfig]
  · intro source copy id hsource
    rw [lookup_step_clone, if_pos rfl, hsource, Option.some_or]
  · intro name id hname hglobal
    rw [configAt, hname, Option.map_some, config_of_isGlobal hglobal]
  · intro handle name id hhandle hname update
    have hlookup : (s.step (.setConfig handle fun seen =>
        update (seen.configAt name))).lookup name = some id := by
      rw [lookup_step_of_ne (by simp) (by simp), hname]
    rw [configAt, hlookup, Option.map_some,
      config_step_setConfig hhandle (hbound handle id hhandle), configAt, hname, Option.map_some]
  · intro handle config
    rw [client_step_create, if_pos rfl, isGlobal_made]
  · intro id hid
    exact isGlobal_run hid after
  · intro command hcommand
    have hsame := sameSettings_step hcommand s
    refine ⟨hsame.shared, ?_⟩
    intro name
    have hlookup : (s.step command).lookup name = s.lookup name := by
      rw [lookup, hsame.names, lookup]
    rw [configAt, hlookup, configAt]
    exact congrArg (fun f => (s.lookup name).map f) (funext hsame.config)

end Session

end ApiClient

import ApiClient.Client.Session

/-!
Runs of a program that works with clients. A command goes to the client that a handle stands for,
and does nothing where it stands for none. What a run makes of its session is read off the
commands one after the other, each in the session in which it is issued.
-/

namespace ApiClient

/-- What a program does with clients. -/
inductive Command : Type 1
  | create (handle : String) (config : Config)
  | clone (source copy : String)
  | setConfig (handle : String) (update : Session → Config → Config)
  | setSharedConfig (config : Config)
  | register (handle : String) (handler : Handler)
  | eject (handle : String) (stage : Stage) (number : HandlerId)
  | contains (handle : String) (stage : Stage) (number : HandlerId)
  | clear (handle : String) (stage : Stage)
  | size (handle : String) (stage : Stage)
  | request {α ε : Type} (data : Decoder α) (error : Decoder ε) (handle : String)
      (options : RequestOptions) (defaultTransport : Option Transport)
  | send {α ε : Type} (data : Decoder α) (error : Decoder ε) (handle : Option String)
      (method : Method) (url : String) (shape : Shape) (parts : Except String DataParts)
      (options : RequestOptions) (defaultTransport : Option Transport)

namespace Session

/-- The client that a handle stands for. -/
def lookup (s : Session) (handle : String) : Option ClientId := s.names.find? handle

/-- Does something with the client of a handle. The answer is dropped. -/
def onClient {α : Type} (handle : String) (act : ClientId → SessionM α) : SessionM Unit := do
  match (← get).lookup handle with
  | some id => discard (act id)
  | none => return

end Session

open Session

def Command.execute : Command → SessionM Unit
  | .create handle config => do nameClient handle (← newClient config)
  | .clone source copy => onClient source (nameClient copy)
  | .setConfig handle update => onClient handle (updateConfig · update)
  | .setSharedConfig config => Session.setSharedConfig config
  | .register handle handler => onClient handle (Session.register · handler)
  | .eject handle stage number => onClient handle (Session.eject · stage number)
  | .contains handle stage number => onClient handle fun id => do
    return ((← get).client id).interceptors.contains stage number
  | .clear handle stage => onClient handle (Session.clear · stage)
  | .size handle stage => onClient handle fun id => do
    return ((← get).client id).interceptors.size stage
  | .request data error handle options defaultTransport =>
    onClient handle fun id => Session.request data error id options defaultTransport
  | .send data error (some handle) method url shape parts options defaultTransport =>
    onClient handle fun id =>
      Session.send data error method url shape parts ⟨options, some id⟩ defaultTransport
  | .send data error none method url shape parts options defaultTransport =>
    discard (Session.send data error method url shape parts ⟨options, none⟩ defaultTransport)

/-- Commands that send requests or ask for handlers. -/
def Command.asks : Command → Bool
  | .contains .. | .size .. | .request .. | .send .. => true
  | _ => false

/-- Commands that make clients, name them or write settings; all others send requests or are about
handlers. -/
def Command.configures : Command → Bool
  | .create .. | .clone .. | .setConfig .. | .setSharedConfig _ => true
  | _ => false

namespace Session

/-- The session after a command. -/
def step (s : Session) (command : Command) : Session := (command.execute.run s).2

/-- The session after commands, in order. -/
def run (s : Session) (commands : List Command) : Session := commands.foldl step s

theorem run_cons (s : Session) (command : Command) (commands : List Command) :
    s.run (command :: commands) = (s.step command).run commands := rfl

/-- What is seen of the commands of a run, each in the session in which it is issued. -/
def collect {β : Type} (see : Session → Command → Option β) (s : Session) :
    List Command → List β
  | [] => []
  | command :: commands => (see s command).toList ++ collect see (s.step command) commands

/-- What holds of a session and is kept by every command holds after a run. -/
theorem run_keeps (P : Session → Prop) (hstep : ∀ s command, P s → P (s.step command))
    {s : Session} (h : P s) (commands : List Command) : P (s.run commands) := by
  induction commands generalizing s with
  | nil => exact h
  | cons command commands ih =>
      rw [run_cons]
      exact ih (hstep s command h)

/-- A view of the session that every command changes by what is seen of it is changed by a run by
all that is seen of it, in order. -/
theorem run_view {β σ : Type} (P : Session → Prop) (view : Session → σ)
    {see : Session → Command → Option β} {change : σ → β → σ}
    (hkeep : ∀ s command, P s → P (s.step command))
    (hstep : ∀ s command, P s →
      view (s.step command) = (see s command).toList.foldl change (view s))
    {s : Session} (h : P s) (commands : List Command) :
    view (s.run commands) = (collect see s commands).foldl change (view s) := by
  induction commands generalizing s with
  | nil => rfl
  | cons command commands ih =>
      rw [run_cons, ih (hkeep s command h), hstep s command h, collect, List.foldl_append]

/-! ### One command -/

theorem run_onClient_of_eq_some {α : Type} {handle : String} {act : ClientId → SessionM α}
    {s : Session} {id : ClientId} (h : s.lookup handle = some id) :
    ((onClient handle act).run s).2 = ((act id).run s).2 := by
  show ((match s.lookup handle with
    | some id => discard (act id)
    | none => return : SessionM Unit).run s).2 = _
  rw [h]
  rfl

theorem run_onClient_of_eq_none {α : Type} {handle : String} {act : ClientId → SessionM α}
    {s : Session} (h : s.lookup handle = none) : ((onClient handle act).run s).2 = s := by
  show ((match s.lookup handle with
    | some id => discard (act id)
    | none => return : SessionM Unit).run s).2 = _
  rw [h]
  rfl

theorem run_onClient_eq_self {α : Type} {handle : String} {act : ClientId → SessionM α}
    {s : Session} (h : ∀ id, ((act id).run s).2 = s) : ((onClient handle act).run s).2 = s := by
  cases hid : s.lookup handle with
  | none => exact run_onClient_of_eq_none hid
  | some id => exact (run_onClient_of_eq_some hid).trans (h id)

/-- Requests and questions leave a session as it is. -/
theorem step_eq_self {command : Command} (h : command.asks = true) (s : Session) :
    s.step command = s := by
  cases command with
  | create | clone | setConfig | setSharedConfig | register | eject | clear => cases h
  | contains | size | request => exact run_onClient_eq_self fun _ => rfl
  | send data error handle method url shape parts options defaultTransport =>
      have hsend : ∀ client, ((Session.send data error method url shape parts ⟨options, client⟩
          defaultTransport).run s).2 = s := by
        intro client
        cases parts <;> rfl
      cases handle with
      | none => exact hsend none
      | some handle => exact run_onClient_eq_self fun id => hsend (some id)

theorem client_setClient (s : Session) (j : ClientId) (c : Client) (id : ClientId) :
    (s.setClient j c).client id = if j = id ∧ j < s.clients.length then c else s.client id := by
  simp only [client, setClient, List.getD_eq_getElem?_getD, List.getElem?_set]
  split
  case isTrue hj =>
    subst hj
    split
    case isTrue h => simp [h]
    case isFalse h => simp [h]
  case isFalse hj => simp [hj]

/-! ### Commands that change no settings -/

/-- Sessions that differ in handlers only. -/
structure SameSettings (s t : Session) : Prop where
  shared : t.shared = s.shared
  names : t.names = s.names
  length : t.clients.length = s.clients.length
  own : ∀ id, (t.client id).own = (s.client id).own

namespace SameSettings

theorem refl (s : Session) : SameSettings s s := ⟨rfl, rfl, rfl, fun _ => rfl⟩

theorem updateInterceptors (s : Session) (id : ClientId) (update : Interceptors → Interceptors) :
    SameSettings s ((Session.updateInterceptors id update).run s).2 where
  shared := rfl
  names := rfl
  length := List.length_set
  own := by
    intro j
    show ((s.setClient id _).client j).own = _
    rw [client_setClient]
    split
    case isTrue h => rw [h.1]
    case isFalse => rfl

theorem onClient {α : Type} {s : Session} {handle : String} {act : ClientId → SessionM α}
    (h : ∀ id, SameSettings s ((act id).run s).2) :
    SameSettings s ((Session.onClient handle act).run s).2 := by
  cases hid : s.lookup handle with
  | none =>
      rw [run_onClient_of_eq_none hid]
      exact refl s
  | some id =>
      rw [run_onClient_of_eq_some hid]
      exact h id

theorem config {s t : Session} (h : SameSettings s t) (id : ClientId) :
    t.config id = s.config id := by
  rw [Session.config, Session.config, h.own, h.shared]

end SameSettings

/-- Requests and what is done to handlers change no settings. -/
theorem sameSettings_step {command : Command} (h : command.configures = false) (s : Session) :
    SameSettings s (s.step command) := by
  cases command with
  | create | clone | setConfig | setSharedConfig => cases h
  | register handle handler => exact .onClient fun id => .updateInterceptors s id _
  | eject handle stage number => exact .onClient fun id => .updateInterceptors s id _
  | clear handle stage => exact .onClient fun id => .updateInterceptors s id _
  | _ =>
      rw [step_eq_self rfl]
      exact .refl s

/-! ### Commands that change settings -/

/-- The client that `create` makes. -/
def made (config : Config) : Client := if config.global then {} else { own := some config.trimmed }

theorem newClient_run (s : Session) (config : Config) :
    (newClient config).run s = (s.clients.length,
      { s with
        shared := if config.global then config.trimmed else s.shared
        clients := s.clients ++ [made config] }) := by
  show (if config.trimmed.global then _ else _) = _
  rw [show config.trimmed.global = config.global from rfl]
  split
  case isTrue h => simp [made, h]
  case isFalse h => simp [made, h]

theorem step_create (s : Session) (handle : String) (config : Config) :
    s.step (.create handle config) =
      { shared := if config.global then config.trimmed else s.shared
        clients := s.clients ++ [made config]
        names := s.names.insert handle s.clients.length } := by
  show ((nameClient handle ((newClient config).run s).1).run ((newClient config).run s).2).2 = _
  rw [newClient_run]
  rfl

theorem client_step_create (s : Session) (handle : String) (config : Config) (id : ClientId) :
    (s.step (.create handle config)).client id =
      if id = s.clients.length then made config else s.client id := by
  rw [step_create]
  show (s.clients ++ [made config]).getD id {} = ite _ _ (s.clients.getD id {})
  rw [List.getD_eq_getElem?_getD, List.getD_eq_getElem?_getD]
  rcases Nat.lt_trichotomy id s.clients.length with hlt | rfl | hgt
  · rw [List.getElem?_append_left hlt, if_neg (Nat.ne_of_lt hlt)]
  · simp
  · have hlength : (s.clients ++ [made config]).length ≤ id := by
      rw [List.length_append]
      exact hgt
    rw [List.getElem?_eq_none hlength, List.getElem?_eq_none (Nat.le_of_lt hgt),
      if_neg (Nat.ne_of_gt hgt)]

theorem step_clone_of_eq_some {s : Session} {source : String} {id : ClientId}
    (h : s.lookup source = some id) (copy : String) :
    s.step (.clone source copy) = { s with names := s.names.insert copy id } :=
  run_onClient_of_eq_some h

theorem step_clone_of_eq_none {s : Session} {source : String} (h : s.lookup source = none)
    (copy : String) : s.step (.clone source copy) = s :=
  run_onClient_of_eq_none h

theorem step_setConfig_of_eq_some {s : Session} {handle : String} {id : ClientId}
    (h : s.lookup handle = some id) (update : Session → Config → Config) :
    s.step (.setConfig handle update) =
      if (s.client id).isGlobal then { s with shared := (update s (s.config id)).trimmed }
      else s.setClient id { s.client id with own := some (update s (s.config id)).trimmed } :=
  run_onClient_of_eq_some h

theorem step_setConfig_of_eq_none {s : Session} {handle : String} (h : s.lookup handle = none)
    (update : Session → Config → Config) : s.step (.setConfig handle update) = s :=
  run_onClient_of_eq_none h

/-- A copy changes nothing but the handles. -/
theorem exists_step_clone_eq (s : Session) (source copy : String) :
    ∃ names, s.step (.clone source copy) = { s with names } := by
  cases h : s.lookup source with
  | none => exact ⟨s.names, step_clone_of_eq_none h copy⟩
  | some id => exact ⟨s.names.insert copy id, step_clone_of_eq_some h copy⟩

/-- An update makes no clients and names none. -/
theorem step_setConfig_keeps (s : Session) (handle : String)
    (update : Session → Config → Config) :
    (s.step (.setConfig handle update)).names = s.names ∧
      (s.step (.setConfig handle update)).clients.length = s.clients.length := by
  cases h : s.lookup handle with
  | none =>
      rw [step_setConfig_of_eq_none h]
      exact ⟨rfl, rfl⟩
  | some id =>
      rw [step_setConfig_of_eq_some h]
      split
      case isTrue => exact ⟨rfl, rfl⟩
      case isFalse => exact ⟨rfl, List.length_set⟩

/-! ### Clients and their handles -/

theorem lookup_insert (s : Session) (shared : Config) (clients : List Client) (name : String)
    (id : ClientId) (handle : String) :
    lookup ⟨shared, clients, s.names.insert name id⟩ handle =
      if handle = name then some id else s.lookup handle := by
  split
  case isTrue h =>
    rw [h]
    exact Entries.find?_insert_self name id s.names
  case isFalse h => exact Entries.find?_insert_of_ne h id s.names

theorem lookup_step_create (s : Session) (name : String) (config : Config) (handle : String) :
    (s.step (.create name config)).lookup handle =
      if handle = name then some s.clients.length else s.lookup handle := by
  rw [step_create, lookup_insert]

/-- A copy stands for what its source stands for. -/
theorem lookup_step_clone (s : Session) (source copy handle : String) :
    (s.step (.clone source copy)).lookup handle =
      if handle = copy then (s.lookup source).or (s.lookup handle) else s.lookup handle := by
  cases h : s.lookup source with
  | none =>
      rw [step_clone_of_eq_none h, Option.none_or, ite_self]
  | some id =>
      rw [step_clone_of_eq_some h, Option.some_or]
      exact lookup_insert s s.shared s.clients copy id handle

/-- Only `create` and `clone` name clients. -/
theorem lookup_step_of_ne {command : Command}
    (hcreate : ∀ handle config, command ≠ .create handle config)
    (hclone : ∀ source copy, command ≠ .clone source copy) (s : Session) (handle : String) :
    (s.step command).lookup handle = s.lookup handle := by
  cases command with
  | create name config => exact absurd rfl (hcreate name config)
  | clone source copy => exact absurd rfl (hclone source copy)
  | setSharedConfig config => rfl
  | setConfig name update => rw [lookup, lookup, (step_setConfig_keeps s name update).1]
  | _ => rw [lookup, lookup, (sameSettings_step rfl s).names]

/-- Clients are not dropped. -/
theorem length_le_length_step (s : Session) (command : Command) :
    s.clients.length ≤ (s.step command).clients.length := by
  cases command with
  | create name config =>
      rw [step_create, List.length_append]
      exact Nat.le_add_right _ _
  | clone source copy =>
      obtain ⟨names, hstep⟩ := exists_step_clone_eq s source copy
      exact Nat.le_of_eq (by rw [hstep])
  | setSharedConfig config => exact Nat.le_refl _
  | setConfig name update => exact Nat.le_of_eq (step_setConfig_keeps s name update).2.symm
  | _ => exact Nat.le_of_eq (sameSettings_step rfl s).length.symm

/-- Every handle stands for a client that there is. -/
def HandlesBound (s : Session) : Prop :=
  ∀ handle id, s.lookup handle = some id → id < s.clients.length

theorem HandlesBound.step {s : Session} (h : s.HandlesBound) (command : Command) :
    (s.step command).HandlesBound := by
  intro handle id hid
  have hlength := length_le_length_step s command
  cases command with
  | create name config =>
      rw [lookup_step_create] at hid
      split at hid
      case isTrue =>
        obtain rfl := Option.some.inj hid
        simp [step_create]
      case isFalse => exact Nat.lt_of_lt_of_le (h handle id hid) hlength
  | clone source copy =>
      rw [lookup_step_clone] at hid
      split at hid
      case isTrue =>
        rcases Option.or_eq_some_iff.mp hid with hid | ⟨-, hid⟩
        · exact Nat.lt_of_lt_of_le (h source id hid) hlength
        · exact Nat.lt_of_lt_of_le (h handle id hid) hlength
      case isFalse => exact Nat.lt_of_lt_of_le (h handle id hid) hlength
  | _ =>
      rw [lookup_step_of_ne (by simp) (by simp)] at hid
      exact Nat.lt_of_lt_of_le (h handle id hid) hlength

theorem handlesBound_run (commands : List Command) :
    (({} : Session).run commands).HandlesBound := by
  refine run_keeps HandlesBound (fun s command h => h.step command) ?_ commands
  intro handle id hid
  simp only [lookup, Entries.find?] at hid
  split at hid
  case isTrue =>
    obtain rfl := Option.some.inj hid
    exact Nat.one_pos
  case isFalse => cases hid

end Session

end ApiClient

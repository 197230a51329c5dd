import ApiClient.Proofs.Client.Exchange
import ApiClient.Proofs.Client.Registry
import ApiClient.Proofs.Client.Run

/-!
What a run does to the handlers of a client, and what its requests make of them.
-/

namespace ApiClient

/-- What is run at a stage. -/
abbrev Stage.Run : Stage → Type
  | .request => RequestHandler
  | .response => ResponseHandler
  | .failure => FailureHandler

/-- What a handler runs at a stage, if it belongs to that. -/
def Handler.runAt? : Handler → (stage : Stage) → Option stage.Run
  | .request run, .request => some run
  | .response run, .response => some run
  | .failure run, .failure => some run
  | _, _ => none

namespace Interceptors

def registry (i : Interceptors) : (stage : Stage) → Registry stage.Run
  | .request => i.request
  | .response => i.response
  | .failure => i.failure

theorem registry_register (i : Interceptors) (handler : Handler) (stage : Stage) :
    (i.register handler).registry stage =
      ((handler.runAt? stage).map (.registered (i.next handler.stage))).toList.foldl
        Registry.change (i.registry stage) := by
  cases handler <;> cases stage <;> rfl

theorem registry_eject (i : Interceptors) (other stage : Stage) (number : HandlerId) :
    (i.eject other number).registry stage =
      if other = stage then (i.registry stage).eject number else i.registry stage := by
  cases other <;> cases stage <;> rfl

theorem registry_clear (i : Interceptors) (other stage : Stage) :
    (i.clear other).registry stage =
      if other = stage then (i.registry stage).clear else i.registry stage := by
  cases other <;> cases stage <;> rfl

theorem contains_eq (i : Interceptors) (stage : Stage) (number : HandlerId) :
    i.contains stage number = (i.registry stage).contains number := by
  cases stage <;> rfl

theorem size_eq (i : Interceptors) (stage : Stage) : i.size stage = (i.registry stage).size := by
  cases stage <;> rfl

theorem next_eq {handler : Handler} {stage : Stage} {run : stage.Run} (i : Interceptors)
    (h : handler.runAt? stage = some run) : i.next handler.stage = ⟨(i.registry stage).next⟩ := by
  cases handler <;> cases stage <;> first | rfl | cases h

end Interceptors

namespace Session

def registry (s : Session) (id : ClientId) (stage : Stage) : Registry stage.Run :=
  (s.client id).interceptors.registry stage

/-- What a command does to a registry of a client. A handler has the number that `register`
answers. -/
def changeOf (id : ClientId) (stage : Stage) (s : Session) :
    Command → Option (Registry.Change stage.Run)
  | .register handle handler =>
    if s.lookup handle = some id then
      (handler.runAt? stage).map (.registered ((Session.register id handler).run s).1)
    else none
  | .eject handle other number =>
    if s.lookup handle = some id ∧ other = stage then some (.ejected number) else none
  | .clear handle other => if s.lookup handle = some id ∧ other = stage then some .cleared else none
  | _ => none

/-- What a run does to a registry of a client. -/
def history (id : ClientId) (stage : Stage) (commands : List Command) :
    List (Registry.Change stage.Run) :=
  collect (changeOf id stage) {} commands

/-! ### One command -/

theorem interceptors_updateInterceptors {s : Session} {j : ClientId} (h : j < s.clients.length)
    (update : Interceptors → Interceptors) (id : ClientId) :
    (((updateInterceptors j update).run s).2.client id).interceptors =
      if j = id then update (s.client id).interceptors else (s.client id).interceptors := by
  show ((s.setClient j { s.client j with interceptors := update (s.client j).interceptors }).client
    id).interceptors = _
  rw [client_setClient]
  by_cases hj : j = id
  · subst hj
    rw [if_pos ⟨rfl, h⟩, if_pos rfl]
  · rw [if_neg fun hand => hj hand.1, if_neg hj]

/-- An act of a client only changes its own handlers, and only where there is that client. -/
theorem interceptors_onClient {α : Type} {s : Session} (h : s.HandlesBound) (handle : String)
    {act : ClientId → SessionM α} (update : Interceptors → Interceptors)
    (hact : ∀ j, ((act j).run s).2 = ((updateInterceptors j update).run s).2) (id : ClientId) :
    (((onClient handle act).run s).2.client id).interceptors =
      if s.lookup handle = some id then update (s.client id).interceptors
      else (s.client id).interceptors := by
  cases hlookup : s.lookup handle with
  | none =>
      rw [run_onClient_of_eq_none hlookup]
      rfl
  | some j =>
      rw [run_onClient_of_eq_some hlookup, hact,
        interceptors_updateInterceptors (h handle j hlookup)]
      simp only [Option.some.injEq]

theorem interceptors_step_create (s : Session) (handle : String) (config : Config)
    (id : ClientId) :
    ((s.step (.create handle config)).client id).interceptors = (s.client id).interceptors := by
  rw [client_step_create]
  split
  case isTrue hid =>
    have hmade : (made config).interceptors = {} := by
      rw [made]
      split <;> rfl
    have hnone : s.client id = {} := by
      rw [client, hid, List.getD_eq_getElem?_getD, List.getElem?_eq_none (Nat.le_refl _)]
      rfl
    rw [hmade, hnone]
  case isFalse => rfl

theorem interceptors_step_setConfig (s : Session) (handle : String)
    (update : Session → Config → Config) (id : ClientId) :
    ((s.step (.setConfig handle update)).client id).interceptors =
      (s.client id).interceptors := by
  cases hlookup : s.lookup handle with
  | none => rw [step_setConfig_of_eq_none hlookup]
  | some j =>
      rw [step_setConfig_of_eq_some hlookup]
      split
      case isTrue => rfl
      case isFalse =>
        rw [client_setClient]
        split
        case isTrue hj => rw [hj.1]
        case isFalse => rfl

/-- A command changes a registry by what it does to that. -/
theorem registry_step {s : Session} (h : s.HandlesBound) (command : Command) (id : ClientId)
    (stage : Stage) :
    (s.step command).registry id stage =
      (changeOf id stage s command).toList.foldl Registry.change (s.registry id stage) := by
  cases command with
  | create handle config =>
      rw [registry, interceptors_step_create, registry]
      rfl
  | clone source copy =>
      obtain ⟨names, hstep⟩ := exists_step_clone_eq s source copy
      rw [hstep]
      rfl
  | setConfig handle update =>
      rw [registry, interceptors_step_setConfig, registry]
      rfl
  | setSharedConfig config => rfl
  | register handle handler =>
      have hstep : ((s.step (.register handle handler)).client id).interceptors = _ :=
        interceptors_onClient h handle (·.register handler) (fun _ => rfl) id
      rw [registry, hstep, changeOf]
      split
      case isTrue => exact Interceptors.registry_register _ handler stage
      case isFalse => rfl
  | eject handle other number =>
      have hstep : ((s.step (.eject handle other number)).client id).interceptors = _ :=
        interceptors_onClient h handle (·.eject other number) (fun _ => rfl) id
      rw [registry, hstep, changeOf, ite_and]
      split
      case isTrue =>
        rw [Interceptors.registry_eject]
        split <;> rfl
      case isFalse => rfl
  | clear handle other =>
      have hstep : ((s.step (.clear handle other)).client id).interceptors = _ :=
        interceptors_onClient h handle (·.clear other) (fun _ => rfl) id
      rw [registry, hstep, changeOf, ite_and]
      split
      case isTrue =>
        rw [Interceptors.registry_clear]
        split <;> rfl
      case isFalse => rfl
  | _ =>
      rw [step_eq_self rfl]
      rfl

/-! ### Runs -/

theorem registry_run {s : Session} (h : s.HandlesBound) (commands : List Command) (id : ClientId)
    (stage : Stage) :
    (s.run commands).registry id stage =
      (collect (changeOf id stage) s commands).foldl Registry.change (s.registry id stage) :=
  run_view HandlesBound (fun t => t.registry id stage) (fun _ command h => h.step command)
    (fun _ command h => registry_step h command id stage) h commands

theorem eq_next_of_changeOf {s : Session} {command : Command} {id : ClientId} {stage : Stage}
    {c : Registry.Change stage.Run} (h : changeOf id stage s command = some c) :
    ∀ number ∈ c.given?, number = ⟨(s.registry id stage).next⟩ := by
  intro number hnumber
  cases command with
  | register handle handler =>
      rw [changeOf] at h
      split at h
      case isTrue =>
        obtain ⟨run, hrun, rfl⟩ := Option.map_eq_some_iff.mp h
        cases hnumber
        exact Interceptors.next_eq _ hrun
      case isFalse => cases h
  | eject handle other ejected =>
      rw [changeOf] at h
      split at h <;> cases h
      cases hnumber
  | clear handle other =>
      rw [changeOf] at h
      split at h <;> cases h
      cases hnumber
  | _ => cases h

/-- Handlers are registered under the numbers that their registry gives. -/
theorem numbered_collect {s : Session} (h : s.HandlesBound) (commands : List Command)
    (id : ClientId) (stage : Stage) :
    (s.registry id stage).Numbered (collect (changeOf id stage) s commands) := by
  induction commands generalizing s with
  | nil => trivial
  | cons command commands ih =>
      have hlater := ih (h.step command)
      rw [registry_step h] at hlater
      rw [collect]
      cases hchange : changeOf id stage s command with
      | none =>
          rw [hchange] at hlater
          exact hlater
      | some c =>
          rw [hchange] at hlater
          exact ⟨eq_next_of_changeOf hchange, hlater⟩

theorem registry_start (id : ClientId) (stage : Stage) :
    ({} : Session).registry id stage = {} := by
  cases id <;> cases stage <;> rfl

theorem numbered_history (commands : List Command) (id : ClientId) (stage : Stage) :
    ({} : Registry stage.Run).Numbered (history id stage commands) := by
  have hbound : ({} : Session).HandlesBound := handlesBound_run []
  rw [← registry_start id stage]
  exact numbered_collect hbound commands id stage

theorem registry_run_eq (commands : List Command) (id : ClientId) (stage : Stage) :
    (({} : Session).run commands).registry id stage =
      (history id stage commands).foldl Registry.change {} := by
  have hbound : ({} : Session).HandlesBound := handlesBound_run []
  rw [registry_run hbound, registry_start, history]

/-- A registry follows what a run does to it. -/
theorem follows_run (commands : List Command) {id : ClientId} {stage : Stage}
    (h : (Registry.given (history id stage commands)).length < UInt64.size) :
    ((({} : Session).run commands).registry id stage).Follows (history id stage commands) := by
  rw [registry_run_eq]
  exact Registry.follows_foldl_change (numbered_history commands id stage) h

end Session

end ApiClient

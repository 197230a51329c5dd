import ApiClient.Proofs.Client.HandlerRuns

/-!
Numbers in registries that did not give them. Every registry counts its handlers from zero, and a
number does not tell where it comes from. So in another registry it stands for the handler that came
in the same place there, and only while there is no such handler does the other registry refuse it.
-/

namespace ApiClient

namespace Registry

variable {α : Type} {changes : List (Change α)} {number : HandlerId}

/-- The handler that was registered in a place, counted from zero, has not been taken away since. -/
def IsLiveAt (place : Nat) (changes : List (Change α)) : Prop :=
  ∃ before number handler later, changes = before ++ .registered number handler :: later ∧
    (given before).length = place ∧ ∀ c ∈ later, c.removes number = false

/-- The numbers are the places. -/
theorem eq_of_getElem?_given (h : Numbered {} changes) {place : Nat}
    (hgiven : (given changes)[place]? = some number) : number = ⟨UInt64.ofNat place⟩ := by
  obtain ⟨hlt, -⟩ := List.getElem?_eq_some_iff.mp hgiven
  rw [given_eq_map_range h, List.getElem?_map, List.getElem?_range hlt] at hgiven
  obtain rfl := Option.some.inj hgiven
  exact congrArg HandlerId.mk (UInt64.zero_add _)

/-- Places give the same number when they are a multiple of 2^64 apart. -/
theorem handlerId_ofNat_inj {j k : Nat} :
    (⟨UInt64.ofNat j⟩ : HandlerId) = ⟨UInt64.ofNat k⟩ ↔ j % UInt64.size = k % UInt64.size := by
  rw [HandlerId.mk.injEq, UInt64.ofNat_eq_iff_mod_eq_toNat, UInt64.toNat_ofNat']

/-- A live number is that of a live place. -/
theorem isLive_iff_exists_isLiveAt (h : Numbered {} changes) :
    IsLive number changes ↔ ∃ place, number = ⟨UInt64.ofNat place⟩ ∧ IsLiveAt place changes := by
  have hplace : ∀ before number handler later,
      changes = before ++ .registered number handler :: later →
        number = ⟨UInt64.ofNat (given before).length⟩ := by
    rintro before number handler later rfl
    refine eq_of_getElem?_given h ?_
    simp [given, Change.given?]
  constructor
  · rintro ⟨before, handler, later, hchanges, hlater⟩
    exact ⟨_, hplace _ _ _ _ hchanges, before, number, handler, later, hchanges, rfl, hlater⟩
  · rintro ⟨_, hnumber, before, other, handler, later, hchanges, rfl, hlater⟩
    obtain rfl := hnumber.trans (hplace _ _ _ _ hchanges).symm
    exact ⟨before, handler, later, hchanges, hlater⟩

/-- A live handler goes by the number of a place. With less than 2^64 registrations it can only be
the handler that was registered there. -/
def HasTwin (place : Nat) (changes : List (Change α)) : Prop :=
  ∃ twin, twin % UInt64.size = place % UInt64.size ∧ IsLiveAt twin changes

theorem isLive_ofNat_iff (h : Numbered {} changes) {place : Nat} :
    IsLive ⟨UInt64.ofNat place⟩ changes ↔ HasTwin place changes := by
  rw [isLive_iff_exists_isLiveAt h]
  exact exists_congr fun twin => and_congr_left' (handlerId_ofNat_inj.trans eq_comm)

theorem contains_foldl_change_iff (h : Numbered {} changes) :
    (changes.foldl change {}).contains number = true ↔ IsLive number changes := by
  rw [contains_eq_true_iff, handlers_foldl_change h, List.filter_nil, List.nil_append, mem_live_iff]

end Registry

namespace Session

/-- A registry of a client has no handler of this number and does not change when the number is to
be ejected from it. -/
structure Refuses (s : Session) (id : ClientId) (stage : Stage) (number : HandlerId) : Prop where
  contains : (s.client id).interceptors.contains stage number = false
  answer : ((eject id stage number).run s).1 = false
  registry : ((eject id stage number).run s).2.registry id stage = s.registry id stage

theorem refuses_iff {s : Session} {id : ClientId} (h : id < s.clients.length) {stage : Stage}
    {number : HandlerId} :
    s.Refuses id stage number ↔ (s.registry id stage).contains number = false := by
  constructor
  · intro hrefuses
    rw [← hrefuses.contains, Interceptors.contains_eq]
    rfl
  · intro habsent
    refine ⟨?_, ?_, ?_⟩
    · rw [Interceptors.contains_eq]
      exact habsent
    · rw [answer_eject h, habsent]
    · rw [registry_eject h, if_pos ⟨rfl, rfl⟩, Registry.eject_of_contains_eq_false habsent]

theorem contains_run_iff (commands : List Command) {id : ClientId} {stage : Stage}
    {number : HandlerId} :
    ((({} : Session).run commands).registry id stage).contains number = true ↔
      Registry.IsLive number (history id stage commands) := by
  rw [registry_run_eq]
  exact Registry.contains_foldl_change_iff (numbered_history commands id stage)

/-- Numbers of one registry in another one, over whole runs. The other registry refuses the number
exactly while it has no live handler of its own in the same place. Else it shows that handler under
the number and takes it away when the number is ejected. The registry that gave the number keeps its
handlers either way. -/
theorem run_refuses_foreign_iff (commands : List Command) {i j : ClientId} {a b : Stage}
    (hother : ¬(j = i ∧ b = a)) (hj : j < (({} : Session).run commands).clients.length)
    {place : Nat} {number : HandlerId}
    (hgiven : (Registry.given (history i a commands))[place]? = some number) :
    let s := ({} : Session).run commands
    let twin := Registry.HasTwin place (history j b commands)
    (s.Refuses j b number ↔ ¬twin) ∧
      ((s.client j).interceptors.contains b number = true ↔ twin) ∧
      (((eject j b number).run s).1 = true ↔ twin) ∧
      (((eject j b number).run s).2.registry j b).handlers =
        (Registry.live (history j b commands)).filter (·.1 ≠ number) ∧
      ((eject j b number).run s).2.registry i a = s.registry i a := by
  intro s twin
  have hcontains : (s.registry j b).contains number = true ↔ twin := by
    rw [Registry.eq_of_getElem?_given (numbered_history commands i a) hgiven, contains_run_iff]
    exact Registry.isLive_ofNat_iff (numbered_history commands j b)
  have hhandlers : (s.registry j b).handlers = Registry.live (history j b commands) := by
    rw [registry_run_eq, Registry.handlers_foldl_change (numbered_history commands j b)]
    rfl
  refine ⟨?_, ?_, ?_, ?_, ?_⟩
  · rw [refuses_iff hj, ← hcontains, Bool.not_eq_true]
  · rw [Interceptors.contains_eq]
    exact hcontains
  · rw [answer_eject hj]
    exact hcontains
  · rw [registry_eject hj, if_pos ⟨rfl, rfl⟩, Registry.eject, hhandlers]
  · rw [registry_eject hj, if_neg hother]

/-- A handler of requests and one of responses on the same client. -/
def oneEach : List Command :=
  [.create "api" { global := false }, .register "api" (.request fun request => request),
    .register "api" (.response fun response _ => response)]

/-- The number of the handler of requests takes away the handler of responses. -/
theorem run_refuses_foreign_iff_oneEach :
    let s := ({} : Session).run oneEach
    Registry.given (history 1 .request oneEach) = [⟨0⟩] ∧
      (s.client 1).interceptors.contains .response ⟨0⟩ = true ∧
      ((eject 1 .response ⟨0⟩).run s).1 = true ∧
      (((eject 1 .response ⟨0⟩).run s).2.registry 1 .response).handlers = [] := by
  intro s
  have hgiven : Registry.given (history 1 .request oneEach) = [⟨0⟩] := rfl
  have hfirst : (Registry.given (history 1 .request oneEach))[0]? = some ⟨0⟩ := by
    rw [hgiven]
    rfl
  have htwin : Registry.HasTwin 0 (history 1 .response oneEach) :=
    ⟨0, rfl, [], ⟨0⟩, _, [], rfl, rfl, by simp⟩
  obtain ⟨-, hcontains, hanswer, hhandlers, -⟩ :=
    run_refuses_foreign_iff oneEach (by decide : ¬(1 = 1 ∧ Stage.response = Stage.request))
      (by decide) hfirst
  exact ⟨hgiven, hcontains.mpr htwin, hanswer.mpr htwin, hhandlers⟩

end Session

end ApiClient

import ApiClient.Client.Registry
import Mathlib.Data.List.Nodup

/-!
The history of a registry. Its handlers are those that were registered and that nothing has taken
away since, in the order in which they came. As long as there are fewer than 2^64 of them, no two
handlers get the same number.
-/

namespace ApiClient.Registry

variable {α : Type}

/-- What happens to a registry. A handler comes with the number that it was given. -/
inductive Change (α : Type)
  | registered (id : HandlerId) (handler : α)
  | ejected (id : HandlerId)
  | cleared

namespace Change

/-- The number that a change gives. -/
def given? : Change α → Option HandlerId
  | .registered id _ => some id
  | _ => none

/-- Whether a change takes away the handler of a number. -/
def removes (id : HandlerId) : Change α → Bool
  | .registered _ _ => false
  | .ejected other => id = other
  | .cleared => true

@[simp] theorem removes_registered (id other : HandlerId) (handler : α) :
    (registered other handler).removes id = false := rfl

@[simp] theorem removes_ejected (id other : HandlerId) :
    (ejected other : Change α).removes id = decide (id = other) := rfl

@[simp] theorem removes_cleared (id : HandlerId) : (cleared : Change α).removes id = true := rfl

end Change

/-- A registry after a change. -/
def change (r : Registry α) : Change α → Registry α
  | .registered _ handler => r.register handler
  | .ejected id => r.eject id
  | .cleared => r.clear

/-- The numbers that were given, in order. -/
def given (changes : List (Change α)) : List HandlerId := changes.filterMap Change.given?

/-- The handlers that were registered and that no later change took away, in order. -/
def live : List (Change α) → List (HandlerId × α)
  | [] => []
  | .registered id handler :: later =>
    if later.any (·.removes id) then live later else (id, handler) :: live later
  | _ :: later => live later

/-- A number was given and its handler not taken away since. -/
def IsLive (id : HandlerId) (changes : List (Change α)) : Prop :=
  ∃ before handler later, changes = before ++ .registered id handler :: later ∧
    ∀ c ∈ later, c.removes id = false

/-- Handlers are registered under the numbers that the registry gives. -/
def Numbered : Registry α → List (Change α) → Prop
  | _, [] => True
  | r, c :: later => (∀ id ∈ c.given?, id = ⟨r.next⟩) ∧ Numbered (r.change c) later

/-! ### Live handlers -/

theorem isLive_cons {id : HandlerId} {c : Change α} {later : List (Change α)} :
    IsLive id (c :: later) ↔
      ((∃ handler, c = .registered id handler) ∧ ∀ d ∈ later, d.removes id = false) ∨
        IsLive id later := by
  constructor
  · rintro ⟨before, handler, rest, h, hrest⟩
    cases before with
    | nil =>
        obtain ⟨rfl, rfl⟩ := List.cons.inj h
        exact .inl ⟨⟨handler, rfl⟩, hrest⟩
    | cons d before =>
        obtain ⟨rfl, rfl⟩ := List.cons.inj h
        exact .inr ⟨before, handler, rest, rfl, hrest⟩
  · rintro (⟨⟨handler, rfl⟩, hlater⟩ | ⟨before, handler, rest, rfl, hrest⟩)
    · exact ⟨[], handler, later, rfl, hlater⟩
    · exact ⟨c :: before, handler, rest, rfl, hrest⟩

theorem mem_live_iff {id : HandlerId} {changes : List (Change α)} :
    id ∈ (live changes).map (·.1) ↔ IsLive id changes := by
  induction changes with
  | nil =>
      refine iff_of_false List.not_mem_nil ?_
      rintro ⟨before, handler, later, h, -⟩
      simp at h
  | cons c later ih =>
      rw [isLive_cons, ← ih]
      cases c with
      | registered other handler =>
          rw [live]
          split
          case isTrue hremoved =>
            obtain ⟨d, hd, hremoves⟩ := List.any_eq_true.mp hremoved
            refine (or_iff_right ?_).symm
            rintro ⟨⟨handler', h⟩, hlater⟩
            cases h
            rw [hlater d hd] at hremoves
            cases hremoves
          case isFalse hkept =>
            have hlater : ∀ d ∈ later, d.removes other = false := by simpa using hkept
            rw [List.map_cons, List.mem_cons]
            refine or_congr_left ?_
            constructor
            · rintro rfl
              exact ⟨⟨handler, rfl⟩, hlater⟩
            · rintro ⟨⟨handler', h⟩, -⟩
              cases h
              rfl
      | ejected | cleared => simp [live]

/-- What is left of the handlers after changes, and what they brought. -/
theorem handlers_foldl_change {r : Registry α} {changes : List (Change α)}
    (h : Numbered r changes) :
    (changes.foldl change r).handlers =
      (r.handlers.filter fun entry => !changes.any (·.removes entry.1)) ++ live changes := by
  induction changes generalizing r with
  | nil => simp [live]
  | cons c later ih =>
      rw [List.foldl_cons, ih h.2]
      cases c with
      | registered id handler =>
          obtain rfl := h.1 id rfl
          -- the new handler stays unless a later change takes it away
          rw [live, change, register, List.filter_append, List.append_assoc]
          simp only [List.any_cons, Change.removes_registered, Bool.false_or]
          split
          case isTrue hremoved => simp [hremoved]
          case isFalse hkept => simp [hkept]
      | ejected id => simp [change, eject, live, Bool.and_comm]
      | cleared => simp [change, clear, live]

/-! ### Numbers -/

/-- Numbers are given one after the other. -/
theorem given_eq_map_range {r : Registry α} {changes : List (Change α)} (h : Numbered r changes) :
    given changes =
      (List.range (given changes).length).map fun k => ⟨r.next + UInt64.ofNat k⟩ := by
  induction changes generalizing r with
  | nil => rfl
  | cons c later ih =>
      have hlater := ih h.2
      cases c with
      | registered id handler =>
          obtain rfl := h.1 id rfl
          -- the later numbers are counted from the next one on
          show ⟨r.next⟩ :: given later = (List.range ((given later).length + 1)).map _
          rw [List.range_succ_eq_map, List.map_cons, List.map_map]
          refine congrArg₂ List.cons (by simp) (hlater.trans (List.map_congr_left fun k _ => ?_))
          show (⟨r.next + 1 + UInt64.ofNat k⟩ : HandlerId) = ⟨r.next + UInt64.ofNat (k + 1)⟩
          rw [UInt64.ofNat_add, UInt64.add_assoc, UInt64.add_comm 1]
          rfl
      | ejected | cleared => exact hlater

theorem nodup_given {r : Registry α} {changes : List (Change α)} (h : Numbered r changes)
    (hlength : (given changes).length < UInt64.size) : (given changes).Nodup := by
  rw [given_eq_map_range h]
  refine List.Nodup.map_on ?_ List.nodup_range
  intro j hj k hk heq
  have heq : UInt64.ofNat j = UInt64.ofNat k := by simpa using heq
  have hsmall {k : Nat} (h : k ∈ List.range (given changes).length) : k < UInt64.size :=
    Nat.lt_trans (List.mem_range.mp h) hlength
  rw [← UInt64.toNat_ofNat_of_lt' (hsmall hj), heq, UInt64.toNat_ofNat_of_lt' (hsmall hk)]

theorem live_sublist_given (changes : List (Change α)) :
    ((live changes).map (·.1)).Sublist (given changes) := by
  induction changes with
  | nil => exact .slnil
  | cons c later ih =>
      cases c with
      | registered id handler =>
          rw [live]
          split
          case isTrue => exact ih.cons id
          case isFalse => exact ih.cons_cons id
      | ejected | cleared => exact ih

/-! ### Registries and their histories -/

theorem contains_eq_true_iff {r : Registry α} {id : HandlerId} :
    r.contains id = true ↔ id ∈ r.handlers.map (·.1) := by
  simp [contains]

/-- What a registry is after all that has happened to it: it has the handlers that are live, and no
number was given twice. -/
structure Follows (r : Registry α) (changes : List (Change α)) : Prop where
  nodup : (given changes).Nodup
  handlers : r.handlers = live changes

theorem follows_foldl_change {changes : List (Change α)} (h : Numbered {} changes)
    (hlength : (given changes).length < UInt64.size) :
    (changes.foldl change {}).Follows changes where
  nodup := nodup_given h hlength
  handlers := handlers_foldl_change h

theorem Follows.contains_iff {r : Registry α} {changes : List (Change α)} (h : r.Follows changes)
    {id : HandlerId} : r.contains id = true ↔ IsLive id changes := by
  rw [contains_eq_true_iff, h.handlers, mem_live_iff]

/-- That a handler is ejected shows in the number of handlers. -/
theorem size_eject_ne_iff {r : Registry α} {id : HandlerId} :
    (r.eject id).size ≠ r.size ↔ r.contains id = true := by
  rw [size, size, eject, Ne, List.length_filter_eq_length_iff]
  simp [contains]

/-- Of handlers with numbers of their own just the one is ejected. -/
theorem Follows.handlers_eject {r : Registry α} {changes : List (Change α)} (h : r.Follows changes)
    {before after : List (HandlerId × α)} {id : HandlerId} {handler : α}
    (hlive : live changes = before ++ (id, handler) :: after) :
    (r.eject id).handlers = before ++ after := by
  have hnodup : ((live changes).map (·.1)).Nodup := h.nodup.sublist (live_sublist_given changes)
  rw [hlive, List.map_append, List.map_cons, List.nodup_middle, List.nodup_cons,
    List.mem_append] at hnodup
  have hne : ∀ entry ∈ before ++ after, entry.1 ≠ id := by
    rintro entry hentry rfl
    rcases List.mem_append.mp hentry with hbefore | hafter
    · exact hnodup.1 (.inl (List.mem_map.mpr ⟨entry, hbefore, rfl⟩))
    · exact hnodup.1 (.inr (List.mem_map.mpr ⟨entry, hafter, rfl⟩))
  rw [eject, h.handlers, hlive, List.filter_append, List.filter_cons_of_neg (by simp),
    ← List.filter_append, List.filter_eq_self]
  intro entry hentry
  exact decide_eq_true (hne entry hentry)

/-- A number that stands for nothing changes nothing. -/
theorem eject_of_contains_eq_false {r : Registry α} {id : HandlerId}
    (h : r.contains id = false) : r.eject id = r := by
  have hhandlers : r.handlers.filter (·.1 ≠ id) = r.handlers := by
    rw [List.filter_eq_self]
    simpa [contains] using h
  rw [eject, hhandlers]

end ApiClient.Registry

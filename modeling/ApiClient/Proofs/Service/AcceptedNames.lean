import ApiClient.Proofs.Service.EmittedModule

/-!
Names that the emitter picks and names that it accepts. Every name that it picks is an identifier,
so none of them is ever the reason to refuse operations.
-/

namespace ApiClient.Service

open Code

theorem parse?_of_isIdent {name : String} (h : isIdent name = true) :
    ∃ ident, Ident.parse? name = some ident ∧ ident.name = name := by
  obtain ⟨ident, hident⟩ := Option.isSome_iff_exists.mp (Ident.parse?_isSome.trans h)
  exact ⟨ident, hident, Ident.name_of_parse? hident⟩

/-- The first fault of operations is not the name of a function. -/
theorem emitFault?_ne_invalidFunctionName (operations : List Operation) (options : EmitOptions)
    (name : String) : emitFault? operations options ≠ some (.invalidFunctionName name) := by
  intro hfault
  rw [emitFault?] at hfault
  split at hfault
  case isTrue => cases hfault
  case isFalse =>
    obtain ⟨o, -, hpart⟩ := List.exists_of_findSome?_eq_some hfault
    obtain ⟨part, -, hpart⟩ := List.exists_of_findSome?_eq_some hpart
    have htype : ∀ text, typeFault? text ≠ some (.invalidFunctionName name) := by
      intro text htext
      rw [typeFault?] at htext
      split at htext <;> cases htext
    cases part with
    | data => exact htype _ hpart
    | response => exact htype _ hpart
    | error => exact htype _ hpart
    | method =>
        rw [Operation.fault?] at hpart
        split at hpart <;> cases hpart

/-- Every name that is picked for an operation id, whatever names are used already, is accepted as
one identifier, so no operations are refused for the name of a function. Nothing is asked of the
way in which ids are brought to ASCII, since what is no ASCII letter or digit behind it is no part
of a name. -/
theorem picked_names_accepted (toAscii : List Char → List Char) :
    (∀ operationId used, ∃ base unique,
      Ident.parse? (fnName operationId toAscii) = some base ∧
      base.name = fnName operationId toAscii ∧
      Ident.parse? (ensureUnique (fnName operationId toAscii) used) = some unique ∧
      unique.name = ensureUnique (fnName operationId toAscii) used) ∧
    ∀ operations options name,
      emit operations options toAscii ≠ .error (.invalidFunctionName name) := by
  refine ⟨fun operationId used => ?_, fun operations options name hemit => ?_⟩
  · obtain ⟨base, hbase, hbaseName⟩ := parse?_of_isIdent (isIdent_candidate_fnName operationId 0)
    obtain ⟨unique, hunique, huniqueName⟩ :=
      parse?_of_isIdent (isIdent_ensureUnique_fnName operationId used)
    exact ⟨base, unique, hbase, hbaseName, hunique, huniqueName⟩
  · rw [emit] at hemit
    split at hemit
    case h_1 e hmodule =>
      obtain rfl := Except.error.inj hemit
      rw [← fault?_eq_some_iff, fault?_emitModule] at hmodule
      exact emitFault?_ne_invalidFunctionName operations options name hmodule
    case h_2 =>
      split at hemit
      · split at hemit <;> cases hemit
      · cases hemit

end ApiClient.Service

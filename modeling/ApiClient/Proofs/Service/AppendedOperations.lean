import ApiClient.Proofs.Service.EmittedModule

/-!
Operations behind others. Functions are made one after the other, each from its operation and the
names used before it. So what is emitted for operations does not depend on those that follow, and no
operation that follows hides a fault.
-/

namespace ApiClient.Service

open Code

variable {toAscii : List Char → List Char}

/-- The names that are used when functions have been made for operations. -/
def usedAfter (toAscii : List Char → List Char) (used : List String)
    (operations : List Operation) : List String :=
  operations.foldl (fun used o => ensureUnique (fnName o.id toAscii) used :: used) used

theorem usedAfter_cons (used : List String) (o : Operation) (rest : List Operation) :
    usedAfter toAscii used (o :: rest) =
      usedAfter toAscii (ensureUnique (fnName o.id toAscii) used :: used) rest := rfl

/-- Functions of operations behind others are made with the names of those before among the used
ones. -/
theorem functions_append (visibility : Visibility) (used : List String) (xs ys : List Operation) :
    functions toAscii visibility used (xs ++ ys) =
      functions toAscii visibility used xs >>= fun before =>
        (functions toAscii visibility (usedAfter toAscii used xs) ys).map (before ++ ·) := by
  induction xs generalizing used with
  | nil =>
      change functions toAscii visibility used ys =
        (functions toAscii visibility used ys).map ([] ++ ·)
      cases functions toAscii visibility used ys <;> rfl
  | cons o xs ih =>
      -- the first name depends on the used names alone, and both sides go on with the same ones
      rw [List.cons_append, functions, functions, usedAfter_cons, ih]
      cases o.function (ensureUnique (fnName o.id toAscii) used) visibility with
      | error e => rfl
      | ok f =>
          cases functions toAscii visibility
            (ensureUnique (fnName o.id toAscii) used :: used) xs with
          | error e => rfl
          | ok before =>
              cases functions toAscii visibility
                (usedAfter toAscii (ensureUnique (fnName o.id toAscii) used :: used) xs) ys <;> rfl

theorem length_functions {visibility : Visibility} {used : List String}
    {operations : List Operation} {fs : List Function}
    (h : functions toAscii visibility used operations = .ok fs) :
    fs.length = operations.length := by
  rw [← List.length_map (f := fun f : Function => f.name), functions_names h, length_assign,
    List.length_map]

/-- A module for operations behind others is the module of those before, with more functions at its
end. -/
theorem emitModule_append (xs ys : List Operation) (options : EmitOptions) :
    emitModule (xs ++ ys) options toAscii =
      emitModule xs options toAscii >>= fun m =>
        (functions toAscii options.visibility (usedAfter toAscii importedFunctions xs) ys).map
          fun after => ⟨m.imported, m.functions ++ after⟩ := by
  rw [emitModule, emitModule]
  cases Path.parse? options.runtime with
  | none => rfl
  | some runtime =>
      simp only
      rw [functions_append]
      cases functions toAscii options.visibility importedFunctions xs with
      | error e => rfl
      | ok before =>
          cases functions toAscii options.visibility
            (usedAfter toAscii importedFunctions xs) ys <;> rfl

/-- However ids are brought to ASCII, operations that follow change nothing of what is emitted for
those before them. When all of them are emitted, so are those before, with the same import and with
one function for each, the same as in the whole, in tokens too. When those before are refused, all
are, for the same reason. -/
theorem emitModule_append_keeps (toAscii : List Char → List Char) (xs ys : List Operation)
    (options : EmitOptions) :
    (∀ whole, emitModule (xs ++ ys) options toAscii = .ok whole → ∃ m,
      emitModule xs options toAscii = .ok m ∧ m.imported = whole.imported ∧
      m.functions.length = xs.length ∧ m.functions <+: whole.functions ∧
      m.tokens <+: whole.tokens) ∧
    ∀ e, emitModule xs options toAscii = .error e →
      emitModule (xs ++ ys) options toAscii = .error e := by
  rw [emitModule_append]
  refine ⟨fun whole hwhole => ?_, fun e he => by rw [he]; rfl⟩
  obtain ⟨m, hm, hafter⟩ := bind_eq_ok_iff.mp hwhole
  obtain ⟨after, -, rfl⟩ := map_eq_ok_iff.mp hafter
  have hlength : m.functions.length = xs.length := by
    obtain ⟨runtime, fs, -, hfs, rfl⟩ := emitModule_eq_ok hm
    exact length_functions hfs
  refine ⟨m, hm, rfl, hlength, List.prefix_append _ _, ?_⟩
  rw [Module.tokens, Module.tokens, List.flatMap_append, ← List.append_assoc]
  exact List.prefix_append _ _

/-- An operation keeps its name before another with the same id, and its fault before one without
any. -/
theorem emitModule_append_keeps_pings :
    (∃ whole m, emitModule ([ping] ++ [ping]) {} = .ok whole ∧
      whole.functions.map (fun f => f.name) = ["ping", "ping2"] ∧ emitModule [ping] {} = .ok m ∧
      m.imported = whole.imported ∧ m.functions.length = 1 ∧ m.functions <+: whole.functions ∧
      m.tokens <+: whole.tokens) ∧
    emitModule [{ ping with errorType := some "Vec<" }] {} = .error (.invalidType "Vec<") ∧
    emitModule ([{ ping with errorType := some "Vec<" }] ++ [ping]) {} =
      .error (.invalidType "Vec<") := by
  constructor
  · have hfault : fault? (emitModule ([ping] ++ [ping]) {}) = none := by
      rw [fault?_emitModule]
      decide +kernel
    obtain ⟨whole, hwhole⟩ := fault?_eq_none_iff.mp hfault
    have hnames : whole.functions.map (fun f => f.name) = ["ping", "ping2"] := by
      rw [emitModule_names hwhole]
      decide +kernel
    obtain ⟨m, hm, hkept⟩ :=
      (emitModule_append_keeps Transliteration.toAscii [ping] [ping] {}).1 whole hwhole
    exact ⟨whole, m, hwhole, hnames, hm, hkept⟩
  · have hrefused : emitModule [{ ping with errorType := some "Vec<" }] {} =
        .error (.invalidType "Vec<") := by
      rw [← fault?_eq_some_iff, fault?_emitModule]
      decide +kernel
    exact ⟨hrefused, (emitModule_append_keeps Transliteration.toAscii _ [ping] {}).2 _ hrefused⟩

end ApiClient.Service

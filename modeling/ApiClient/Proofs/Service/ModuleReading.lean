import ApiClient.Proofs.Service.FunctionReading

/-!
The module that operations are emitted as, as the rules of files read it: the import from a plain
path, then one function for each operation.
-/

namespace ApiClient.Service

open Code ApiClient.Code.Parser ApiClient.Code.Grammar

/-! ### The import -/

/-- `{Method, …, send}`. -/
def importedGroup : List Token :=
  inBraces (word "Method" ++ comma ++ word "Options" ++ comma ++ word "ResponseFuture" ++ comma ++
    word "Value" ++ comma ++ word "send")

/-- What stands between `use` and the semicolon. -/
def useTokens (names : List String) : List Token :=
  names.flatMap (fun name => word name ++ sym "::") ++ importedGroup

theorem identOr_of_isPathWord {name : String} (h : IsPathWord name) (ts : List Token) :
    identOr ["self", "super", "crate", "try"] (word name ++ ts) = some (name, ts) := by
  refine bind_step rfl (guardThat_step ?_ rfl)
  rcases h with hname | hscope
  · rw [isIdentToken_word hname, Bool.true_or]
  · have hwords : ["super", "self", "crate"] ⊆ ["self", "super", "crate", "try"] := by decide
    rw [isOneOf_word (hwords hscope), Bool.or_true]

/-- What an import is read as. -/
def useTreeOf : List String → UseTree
  | [] => .group (importedNames.map .name) false
  | name :: names => .path name (useTreeOf names)

theorem useTree_names {names : List String} (h : ∀ name ∈ names, IsPathWord name) {n : Nat}
    (hn : names.length + 2 ≤ n) (allowRooted : Bool) (hrooted : names = [] → allowRooted = false)
    (ts : List Token) :
    useTree allowRooted n (useTokens names ++ ts) = some ((useTreeOf names, false), ts) := by
  induction names generalizing n allowRooted with
  | nil =>
      obtain ⟨n, rfl⟩ : ∃ m, n = m + 2 := ⟨n - 2, by simp at hn; omega⟩
      rw [hrooted rfl]
      rfl
  | cons name names ih =>
      obtain ⟨n, rfl⟩ : ∃ m, n = m + 1 := ⟨n - 1, by simp at hn; omega⟩
      have hrest := ih (fun m hm => h m (List.mem_cons_of_mem name hm)) (n := n)
        (by simpa using hn) false fun _ => rfl
      have htokens : useTokens (name :: names) ++ ts =
          word name ++ (sym "::" ++ (useTokens names ++ ts)) := by
        simp [useTokens]
      rw [htokens]
      refine bind_step rfl (bind_step rfl
        (bind_step (identOr_of_isPathWord (h name List.mem_cons_self) _) ?_))
      exact bind_step rfl (bind_step hrest rfl)

theorem separated_append {sep part : List Token} {parts : List (List Token)} :
    separated sep false (part :: parts) ++ sep = (part :: parts).flatMap (· ++ sep) := by
  induction parts generalizing part with
  | nil => simp [separated]
  | cons next parts ih =>
      rw [separated, List.flatMap_cons, ← ih, List.append_assoc]
      exact List.cons_ne_nil _ _

theorem importTokens_eq (rooted : Bool) {names : List String} (hne : names ≠ []) :
    importTokens (.ofNames rooted names) =
      sym "#" ++ (inBrackets (word "allow" ++ inParens (word "unused_imports")) ++
        (word "use" ++ ((if rooted then sym "::" else []) ++ (useTokens names ++ sym ";")))) := by
  obtain ⟨first, names, rfl⟩ := List.exists_cons_of_ne_nil hne
  have hnames : separated (sym "::") false (segmentList
      ((first :: names).map fun name => .mk name .none)) ++ sym "::" =
        (first :: names).flatMap fun name => word name ++ sym "::" := by
    rw [segmentList_eq_map, List.map_map, List.map_cons, separated_append, ← List.map_cons,
      List.flatMap_map]
    simp [Segment.tokens, SegmentArgs.tokens]
  rw [useTokens, ← hnames]
  simp only [importTokens, importedGroup, Path.ofNames, Path.tokens, List.append_assoc]

theorem length_useTokens (names : List String) : names.length < (useTokens names).length := by
  induction names with
  | nil => exact Nat.zero_lt_one
  | cons name names ih =>
      simp only [useTokens, List.flatMap_cons, List.length_append, List.length_cons] at ih ⊢
      have hword : (word name).length = 1 := rfl
      omega

theorem useItem_names (rooted : Bool) {names : List String} (hne : names ≠ [])
    (h : ∀ name ∈ names, IsPathWord name) (ts : List Token) :
    useItem (word "use" ++ ((if rooted then sym "::" else []) ++
      (useTokens names ++ (sym ";" ++ ts)))) = some (some (.use rooted (useTreeOf names)), ts) := by
  have hlength := length_useTokens names
  have hcount := length_le_countAll (useTokens names ++ (sym ";" ++ ts))
  rw [List.length_append] at hcount
  have htree := useTree_names h (n := Token.countAll (useTokens names ++ (sym ";" ++ ts)) + 1)
    (by omega) (!rooted) (fun hnil => absurd hnil hne) (sym ";" ++ ts)
  have hrooted : opIf "::" ((if rooted then sym "::" else []) ++
      (useTokens names ++ (sym ";" ++ ts))) =
        some (rooted, useTokens names ++ (sym ";" ++ ts)) := by
    obtain ⟨name, names, rfl⟩ := List.exists_cons_of_ne_nil hne
    cases rooted
    · rw [useTokens, List.flatMap_cons]
      simp only [List.append_assoc]
      rfl
    · rfl
  exact bind_step rfl (bind_step hrooted (bind_step rfl (bind_step htree rfl)))

/-- The import from a plain path is read as an item in front of anything. -/
theorem anyItem_import (n : Nat) {p : Path} (h : p.isWords = true) :
    ∃ item, ∀ ts, anyItem (.ofFuel (n + 2)) (importTokens p ++ ts) = some (item, ts) := by
  obtain ⟨rooted, names, rfl, hne, hnames⟩ := Path.eq_ofNames_of_isWords h
  refine ⟨.mk [⟨⟨false, ["allow"]⟩, .group .paren (word "unused_imports")⟩] .inherited false
    (.use rooted (useTreeOf names)), fun ts => ?_⟩
  rw [importTokens_eq rooted hne]
  simp only [List.append_assoc]
  have hkind : itemKind (.ofFuel (n + 1)) .inherited
      (word "use" ++ ((if rooted then sym "::" else []) ++
        (useTokens names ++ (sym ";" ++ ts)))) =
        some ((false, some (.use rooted (useTreeOf names))), ts) :=
    bind_step rfl (bind_step (useItem_names rooted hne hnames ts) rfl)
  refine bind_step rfl (bind_step rfl ?_)
  exact bind_step rfl (bind_step hkind rfl)

/-! ### Functions -/

theorem not_reserved_of_isIdent {name : String} (h : isIdent name = true) :
    name ∉ reservedWords := by
  rw [isIdent] at h
  split at h
  case h_1 word hword =>
    have hhash : ∀ w ∈ reservedWords, '#' ∉ w.toList := by decide
    intro hmem
    have hname := hhash name hmem
    rw [hword] at hname
    simp at hname
  case h_2 => simpa using (Bool.and_eq_true_iff.mp h).2

theorem anyItem_function {n : Nat} {o : Operation} {visibility : Visibility} {name : String}
    {tokens : List Token} (h : o.IsEmitted visibility name tokens) (hname : isIdent name = true)
    (htypes : ∀ types, o.HasTypes types → types.ReadBack ∧ 4 * types.count + 16 ≤ n) :
    ∃ item, ∀ ts, anyItem (.ofFuel (n + 4)) (tokens ++ ts) = some (item, ts) := by
  obtain ⟨docs, types, path, -, hhas, hmethod, -, rfl⟩ := h
  obtain ⟨hread, hn⟩ := htypes types hhas
  obtain ⟨kind, hkind⟩ := item_function (not_reserved_of_isIdent hname) hmethod hread hn visibility
    path
  obtain ⟨attrs, hattrs⟩ := attributes_docs (n + 3) docs
  refine ⟨.mk attrs visibility.access false kind, fun ts => ?_⟩
  simp only [List.append_assoc]
  have hhead : isOp "#" (visibilityTokens visibility ++
      (signatureTokens name types ++ (bodyTokens types o.method path ++ ts))) = false := by
    cases visibility <;> rfl
  exact bind_step rfl (bind_step (hattrs _ hhead) (hkind _ _ ts))

/-! ### Modules -/

variable {toAscii : List Char → List Char}

theorem exists_of_mem_functions {visibility : Visibility} {used : List String}
    {operations : List Operation} {fs : List Function}
    (h : functions toAscii visibility used operations = .ok fs) {f : Function} (hf : f ∈ fs) :
    ∃ o ∈ operations, ∃ name, isIdent name = true ∧ o.function name visibility = .ok f := by
  induction operations generalizing used fs with
  | nil =>
      obtain rfl : [] = fs := by simpa [functions] using h
      cases hf
  | cons o rest ih =>
      obtain ⟨first, fs', hfirst, hfs', rfl⟩ := functions_cons_eq_ok h
      rcases List.mem_cons.mp hf with rfl | hf
      · exact ⟨o, List.mem_cons_self, _, isIdent_ensureUnique_fnName o.id used, hfirst⟩
      · obtain ⟨o', ho', hfunction⟩ := ih hfs' hf
        exact ⟨o', List.mem_cons_of_mem o ho', hfunction⟩

theorem Operation.HasTypes.unique {o : Operation} {types types' : Types} (h : o.HasTypes types)
    (h' : o.HasTypes types') : types = types' := by
  obtain ⟨data, response, error⟩ := types
  obtain ⟨data', response', error'⟩ := types'
  congr
  · exact Option.some.inj (h.data.symm.trans h'.data)
  · exact Option.some.inj (h.response.symm.trans h'.response)
  · exact Option.some.inj (h.error.symm.trans h'.error)

/-- A function has at least one token more than the types that stand in its signature. -/
theorem count_lt_of_isEmitted {o : Operation} {visibility : Visibility} {name : String}
    {tokens : List Token} {types : Types} (h : o.IsEmitted visibility name tokens)
    (htypes : o.HasTypes types) : types.count < Token.countAll tokens := by
  obtain ⟨docs, types', path, -, htypes', -, -, rfl⟩ := h
  obtain rfl : types' = types := htypes'.unique htypes
  simp only [countAll_append, signatureTokens, inParens, Token.countAll, Token.count, Types.count]
  omega

theorem exists_forall₂ {α β : Type} {r : α → β → Prop} {l : List α} (h : ∀ a ∈ l, ∃ b, r a b) :
    ∃ bs, List.Forall₂ r l bs := by
  induction l with
  | nil => exact ⟨[], .nil⟩
  | cons a l ih =>
      obtain ⟨b, hb⟩ := h a List.mem_cons_self
      obtain ⟨bs, hbs⟩ := ih fun a ha => h a (List.mem_cons_of_mem _ ha)
      exact ⟨b :: bs, .cons hb hbs⟩

theorem anyItem_nil (n : Nat) : anyItem (.ofFuel (n + 1)) [] = none := rfl

/-- A module is a valid one if it begins with no attribute of its own and each of its parts is read
as an item in front of anything. -/
theorem isValid_of_parts {m : Module}
    (hinner : (isOp "#" m.tokens && isOp "!" (skip m.tokens)) = false)
    (h : ∀ part ∈ m.imported.tokens :: m.functions.map Function.tokens,
      ∃ item, ∀ ts, anyItem (.for m.tokens) (part ++ ts) = some (item, ts)) :
    m.isValid = true := by
  have htokens : m.tokens = (m.imported.tokens :: m.functions.map Function.tokens).flatten := by
    rw [Module.tokens, List.flatten_cons, List.flatMap_def]
  have hitems : ∃ items, List.Forall₂ (ReadsWhile (!·.isEmpty) (anyItem (.for m.tokens))
      fun _ => True) (m.imported.tokens :: m.functions.map Function.tokens) items := by
    refine exists_forall₂ fun part hpart => ?_
    obtain ⟨item, hitem⟩ := h part hpart
    have hne : part ≠ [] := by
      rintro rfl
      cases (hitem []).symm.trans (anyItem_nil (4 * Token.countAll m.tokens + 15))
    exact ⟨item, fun _ => by simpa using fun hnil => absurd hnil hne, fun _ => trivial,
      fun {ts} _ => hitem ts⟩
  obtain ⟨items, hitems⟩ := hitems
  have hend : (!([] : List Token).isEmpty) = false := rfl
  have hmany := manyWhile_flatten (fun _ => True) hend trivial hitems
  rw [List.append_nil, ← htokens] at hmany
  have hattrs : innerAttributes (.for m.tokens) m.tokens = some ([], m.tokens) :=
    bind_step rfl (bind_step rfl (else_step hinner rfl))
  have hfile : fileItems (.for m.tokens) m.tokens = some (([], items), []) :=
    bind_step hattrs (bind_step hmany rfl)
  rw [Module.isValid, run?, hfile]
  rfl

/-- Modules of operations whose types read back are read as files. -/
theorem isValid_of_emitModule {operations : List Operation} {options : EmitOptions} {m : Module}
    (h : emitModule operations options toAscii = .ok m)
    (hruntime : m.imported.path.isWords = true)
    (hread : ∀ o ∈ operations, ∀ types, o.HasTypes types → types.ReadBack) : m.isValid = true := by
  obtain ⟨runtime, fs, -, hfs, rfl⟩ := emitModule_eq_ok h
  refine isValid_of_parts ?_ fun part hpart => ?_
  · rw [Module.tokens, tokens_import]
    obtain ⟨rooted, names, hnames, hne, -⟩ := Path.eq_ofNames_of_isWords hruntime
    rw [show runtime = _ from hnames, importTokens_eq rooted hne]
    rfl
  · have hcount := countAll_le_flatten hpart
    rw [List.flatten_cons, ← List.flatMap_def, ← Module.tokens] at hcount
    rw [Grammar.for]
    generalize Token.countAll (Module.tokens ⟨⟨[allowUnused], runtime, importedNames⟩, fs⟩) = size
      at hcount ⊢
    rcases List.mem_cons.mp hpart with rfl | hpart
    · rw [tokens_import]
      exact anyItem_import (4 * size + 14) hruntime
    · obtain ⟨f, hf, rfl⟩ := List.mem_map.mp hpart
      obtain ⟨o, ho, name, hname, hfunction⟩ := exists_of_mem_functions hfs hf
      have hemitted := o.isEmitted_of_function_eq_ok hfunction
      refine anyItem_function (n := 4 * size + 12) hemitted hname fun types htypes =>
        ⟨hread o ho types htypes, ?_⟩
      have := count_lt_of_isEmitted hemitted htypes
      omega

end ApiClient.Service

import ApiClient.Proofs.Code.TypeLayout
import ApiClient.Proofs.Code.TypeSplicing
import ApiClient.Proofs.Service.ModuleReading

/-!
Which modules can be laid out: whatever is emitted around the types of operations has a layout, so
that a module has one where these types have.
-/

namespace ApiClient.Service

open Code Layout

/-! ### Documentation -/

theorem isComplete_of_docPieces? {inner : Bool} {doc : String} {comment : List Piece}
    (h : docPieces? inner doc = some comment) : isComplete comment = true := by
  simp only [docPieces?] at h
  split at h
  · cases h
    simp
  · split at h
    · cases h
      simp
    · cases h

theorem comment?_doc (inner : Bool) (l : Literal) :
    Attribute.comment? inner ⟨⟨false, ["doc"]⟩, .value (.ofLiteral l)⟩ =
      l.stringValue?.bind (docPieces? inner) := rfl

/-- Documentation can be laid out, as a comment or as it is. -/
theorem isComplete_documentation (d : Documentation) :
    isComplete (attributePieces d.attributes) = true := by
  rw [attributePieces, Documentation.attributes, isComplete_flatMap, List.all_map, List.all_eq_true]
  intro line _
  simp only [Function.comp_apply, Attribute.pieces, comment?_doc]
  split
  case h_1 comment hcomment =>
    obtain ⟨value, -, hvalue⟩ := Option.bind_eq_some_iff.mp hcomment
    exact isComplete_of_docPieces? hvalue
  case h_2 => simp [PlainPath.pieces, Fragment.ofLiteral]

/-! ### Functions -/

/-- Whether all types of an operation can be laid out. -/
def Types.haveLayout (types : Types) : Bool :=
  types.data.hasLayout && types.response.hasLayout && types.error.hasLayout

@[simp]
theorem hasLayout_generic (name : String) (args : List Ty) :
    (generic name args).hasLayout = args.all Ty.hasLayout := by
  rw [generic, Ty.hasLayout_plain]
  simp [List.all_map, Function.comp_def]

theorem isComplete_signature (name : String) (types : Types) :
    isComplete (Signature.pieces {
      name := name
      parameters := [.ofName "options" (generic "Options" [types.data])]
      output := some (generic "ResponseFuture" [types.response, types.error]) }) =
      types.haveLayout := by
  have hname : isComplete (Pat.ident false false "options").pieces = true := rfl
  have hoptions : isComplete (Parameter.ofName "options" (generic "Options" [types.data])).pieces =
      types.data.hasLayout := by
    simp [Parameter.ofName, Parameter.pieces, attributePieces, hname]
  simp [Signature.pieces, Types.haveLayout, FnQualifiers.pieces, abiPieces, GenericParams.pieces,
    parameterPieces, hoptions, isComplete_outputPieces, Bool.and_assoc]

/-- The call that sends a request can be laid out if the types can. -/
theorem isComplete_sendCall (o : Operation) (types : Types) :
    isComplete ((Call.build (o.sendPlan types).name (argExprs (o.sendPlan types).args)
      (o.sendPlan types).types).toExpr.pieces .plain) = types.haveLayout := by
  let callee : Expr := .path (.plain false
    [.mk "send" (.angle true ([types.response, types.error, types.data].map .type) false)])
  let args := [methodExpr o.method, pathLiteral o.path, .path (.ofName "options")]
  have hcall : (Call.build (o.sendPlan types).name (argExprs (o.sendPlan types).args)
      (o.sendPlan types).types).toExpr = .call callee args false := by
    rw [argExprs_sendPlan]
    rfl
  have hcallee : isComplete (callee.pieces .plain) = types.haveLayout := by
    rw [isComplete_path]
    simp [Types.haveLayout, Bool.and_assoc, Bool.and_comm, Bool.and_left_comm]
  have hargs : isComplete (argPieces args) = true := by
    have hpieces : argPieces args = delimited (args.map (Expr.pieces .plain)) := rfl
    rw [hpieces]
    simp [args, methodExpr, pathLiteral, Path.ofName, isComplete_path, isComplete_lit]
  have hpieces : (Expr.call callee args false).pieces .plain = Place.plain.around
      (.call callee args false) (callee.pieces .plain ++ text "(" ++ argPieces args ++ text ")") :=
    rfl
  rw [hcall, hpieces]
  simp [hcallee, hargs]

theorem isComplete_return (e : Expr) :
    isComplete (Block.mk [] [Return.stmt ⟨some e⟩]).linePieces = isComplete (e.pieces .plain) := by
  have hpieces : (Block.mk [] [Return.stmt ⟨some e⟩]).linePieces =
      filled 0 (Place.lineStart.around (.returnOut (some e))
        (text "return" ++ (nbsp ++ e.pieces .plain)) ++ text ";") ++ hardBreak ++ [] := rfl
  rw [hpieces]
  simp

/-- The statement that sends a request can be laid out if the types can. -/
theorem isComplete_sendPlan (o : Operation) (types : Types) :
    isComplete (Block.mk [] [(o.sendPlan types).toReturn.stmt]).linePieces = types.haveLayout := by
  rw [CallPlan.toReturn, Return.ofCall, isComplete_return, isComplete_sendCall]

theorem isComplete_access (visibility : Visibility) :
    isComplete visibility.access.pieces = true := by
  cases visibility <;> rfl

theorem hasLayout_function {o : Operation} {name : String} {visibility : Visibility} {f : Function}
    {types : Types} (h : o.function name visibility = .ok f) (htypes : o.HasTypes types) :
    isComplete f.item.pieces = types.haveLayout := by
  obtain ⟨types', htypes', -, rfl⟩ := o.eq_of_function_eq_ok h
  obtain rfl : types' = types := (Operation.hasTypes_of_types_eq_ok htypes').unique htypes
  have hbody := isComplete_sendPlan o types'
  rw [Function.item, Item.pieces, ItemKind.pieces]
  simp [isComplete_documentation, isComplete_signature, isComplete_access, hbody,
    WhereClause.beforeBody, WhereClause.pieces, bodyPieces]

/-! ### Modules -/

theorem isComplete_import {p : Path} (h : p.isWords = true) :
    isComplete (Import.pieces ⟨[allowUnused], p, importedNames⟩) = true := by
  have hallow : isComplete (attributePieces [allowUnused]) = true := by decide
  have hgroup : isComplete (Import.group ⟨[allowUnused], p, importedNames⟩).pieces = true := by
    change isComplete (UseTree.pieces (.group (importedNames.map .name) false)) = true
    decide
  obtain ⟨rooted, names, rfl, -, -⟩ := Path.eq_ofNames_of_isWords h
  have hpath : isComplete ((Path.ofNames rooted names).pieces false) = true := by
    rw [Path.ofNames, isComplete_plain]
    simp
  simp [Import.pieces, hpath, hallow, hgroup]

variable {toAscii : List Char → List Char}

theorem all_functions {visibility : Visibility} {used : List String} {operations : List Operation}
    {fs : List Function} (h : functions toAscii visibility used operations = .ok fs) :
    (fs.all fun f => isComplete f.item.pieces) = true ↔
      ∀ o ∈ operations, ∀ types, o.HasTypes types → types.haveLayout = true := by
  induction operations generalizing used fs with
  | nil =>
      obtain rfl : [] = fs := by simpa [functions] using h
      simp
  | cons o rest ih =>
      obtain ⟨f, fs', hf, hfs', rfl⟩ := functions_cons_eq_ok h
      obtain ⟨types, htypes, -⟩ := o.eq_of_function_eq_ok hf
      have htypes := Operation.hasTypes_of_types_eq_ok htypes
      have ho : isComplete f.item.pieces = true ↔
          ∀ types, o.HasTypes types → types.haveLayout = true := by
        rw [hasLayout_function hf htypes]
        exact ⟨fun h types' htypes' => htypes.unique htypes' ▸ h, fun h => h types htypes⟩
      rw [List.all_cons, Bool.and_eq_true, ih hfs', ho, List.forall_mem_cons]

/-- A module can be laid out if and only if the types of its operations can. -/
theorem hasLayout_of_emitModule {operations : List Operation} {options : EmitOptions} {m : Module}
    (h : emitModule operations options toAscii = .ok m)
    (hruntime : m.imported.path.isWords = true) :
    m.hasLayout = true ↔
      ∀ o ∈ operations, ∀ types, o.HasTypes types → types.haveLayout = true := by
  obtain ⟨runtime, fs, -, hfs, rfl⟩ := emitModule_eq_ok h
  rw [Module.hasLayout, Module.pieces, isComplete_append, isComplete_flatMap,
    isComplete_import hruntime, Bool.true_and, all_functions hfs]

/-! ### Emission -/

/-- Operations without faults are those with types and a method that has a name of its own. -/
theorem emitFault?_eq_none {operations : List Operation} {options : EmitOptions} {p : Path}
    (hruntime : Path.parse? options.runtime = some p)
    (h : ∀ o ∈ operations, o.method ∈ Method.standard ∧ ∃ types, o.HasTypes types) :
    emitFault? operations options = none := by
  rw [emitFault?, hruntime, if_neg (by simp), List.findSome?_eq_none_iff]
  intro o ho
  obtain ⟨hmethod, types, htypes⟩ := h o ho
  simp [Operation.Part.all, Operation.fault?, typeFault?, htypes.data, htypes.response,
    htypes.error, hmethod]

/-- Whether the texts of an operation all spell types that pass a test. -/
def Operation.hasTypesThat (p : Ty → Bool) (o : Operation) : Bool :=
  [o.dataText, o.responseText, o.errorText].all fun text => (Ty.parse? text).any p

theorem Operation.exists_hasTypes {p : Ty → Bool} {o : Operation} (h : o.hasTypesThat p = true) :
    ∃ types, o.HasTypes types ∧ p types.data = true ∧ p types.response = true ∧
      p types.error = true := by
  simp only [hasTypesThat, List.all_cons, List.all_nil, Bool.and_true, Bool.and_eq_true,
    Option.any_eq_true] at h
  obtain ⟨⟨data, hdata, hdata'⟩, ⟨response, hresponse, hresponse'⟩, error, herror, herror'⟩ := h
  exact ⟨⟨data, response, error⟩, ⟨hdata, hresponse, herror⟩, hdata', hresponse', herror'⟩

/-- Whether the types of an operation are read as types again, each by itself. -/
def Types.reread (types : Types) : Bool :=
  types.data.rereads && types.response.rereads && types.error.rereads

theorem Types.readBack_of_reread {types : Types} (h : types.reread = true) : types.ReadBack := by
  rw [reread, Bool.and_eq_true, Bool.and_eq_true] at h
  exact ⟨Ty.readsBack_of_rereads h.1.1, Ty.readsBack_of_rereads h.1.2,
    Ty.readsBack_of_rereads h.2⟩

/-- Whether no type of an operation holds code. -/
def Operation.isPlain (o : Operation) : Bool := o.hasTypesThat (Ty.isPlain true)

theorem Operation.exists_hasTypes_of_isPlain {o : Operation} (h : o.isPlain = true) :
    ∃ types, o.HasTypes types ∧ types.reread = true ∧ types.haveLayout = true := by
  obtain ⟨types, htypes, hdata, hresponse, herror⟩ := o.exists_hasTypes h
  refine ⟨types, htypes, ?_, ?_⟩
  · rw [Types.reread, Ty.rereads_of_isPlain hdata, Ty.rereads_of_isPlain hresponse,
      Ty.rereads_of_isPlain herror]
    rfl
  · rw [Types.haveLayout, Ty.hasLayout_of_isPlain _ hdata, Ty.hasLayout_of_isPlain _ hresponse,
      Ty.hasLayout_of_isPlain _ herror]
    rfl

/-- Two kinds of texts whose types are read again from their tokens: types without code, and types
that are spelled as they are printed. -/
def SpellsType (text : String) : Prop :=
  ∃ t, Ty.parse? text = some t ∧ (t.isPlain true = true ∨ Token.ofText? text = some t.tokens)

theorem rereads_of_spellsType {text : String} {t : Ty} (h : SpellsType text)
    (ht : Ty.parse? text = some t) : t.rereads = true := by
  obtain ⟨t', ht', hspells⟩ := h
  obtain rfl : t' = t := Option.some.inj (ht'.symm.trans ht)
  rcases hspells with hplain | hprinted
  · exact Ty.rereads_of_isPlain hplain
  · exact Ty.rereads_of_printed ht hprinted

def Operation.SpellsTypes (o : Operation) : Prop :=
  SpellsType o.dataText ∧ SpellsType o.responseText ∧ SpellsType o.errorText

theorem Operation.reread_of_spellsTypes {o : Operation} {types : Types} (h : o.SpellsTypes)
    (htypes : o.HasTypes types) : types.reread = true := by
  obtain ⟨hdata, hresponse, herror⟩ := h
  rw [Types.reread, rereads_of_spellsType hdata htypes.data,
    rereads_of_spellsType hresponse htypes.response, rereads_of_spellsType herror htypes.error]
  rfl

section

variable {operations : List Operation} {options : EmitOptions}

/-- What is emitted for operations with types and methods that have names of their own, when names
may be imported from the runtime's path: the text of a module that is valid and can be laid out. -/
theorem emit_eq_ite (hruntime : (Path.parse? options.runtime).any Path.isWords = true)
    (h : ∀ o ∈ operations, o.method ∈ Method.standard ∧ ∃ types, o.HasTypes types) :
    ∃ m : Module,
      emit operations options toAscii =
        (if m.isValid then if m.hasLayout then .ok m.text else .error .noLayout
          else .error .invalidModule) ∧
      ((∀ o ∈ operations, ∀ types, o.HasTypes types → types.reread = true) → m.isValid = true) ∧
      (m.hasLayout = true ↔
        ∀ o ∈ operations, ∀ types, o.HasTypes types → types.haveLayout = true) := by
  obtain ⟨p, hparse, hruntime⟩ := Option.any_eq_true _ _ |>.mp hruntime
  have hnone : ApiClient.fault? (emitModule operations options toAscii) = none := by
    rw [fault?_emitModule]
    exact emitFault?_eq_none hparse h
  obtain ⟨m, hm⟩ := fault?_eq_none_iff.mp hnone
  have himport : m.imported.path.isWords = true := by
    obtain ⟨runtime, fs, hpath, -, rfl⟩ := emitModule_eq_ok hm
    obtain rfl : p = runtime := Option.some.inj (hparse.symm.trans hpath)
    exact hruntime
  refine ⟨m, ?_, fun hreread => ?_, hasLayout_of_emitModule hm himport⟩
  · simp only [emit, hm]
  · exact isValid_of_emitModule hm himport fun o ho types htypes =>
      Types.readBack_of_reread (hreread o ho types htypes)

/-- Operations whose types parse are emitted, unless one of these types cannot be laid out or is not
read as a type again. The latter takes a type that holds code and is spelled in another way than it
is printed, and neither happens to types without code. -/
theorem emit_outcomes (toAscii : List Char → List Char)
    (hruntime : (Path.parse? options.runtime).any Path.isWords = true)
    (h : ∀ o ∈ operations, o.method ∈ Method.standard ∧ ∃ types, o.HasTypes types) :
    (∀ e, emit operations options toAscii = .error e → e = .noLayout ∨
      e = .invalidModule ∧ ∃ o ∈ operations, ¬o.SpellsTypes ∧
        ∃ types, o.HasTypes types ∧ types.reread = false) ∧
      ((∀ o ∈ operations, ∀ types, o.HasTypes types → types.reread = true) →
        ((∃ text, emit operations options toAscii = .ok text) ↔
          ∀ o ∈ operations, ∀ types, o.HasTypes types → types.haveLayout = true)) ∧
      ((∀ o ∈ operations, o.SpellsTypes) →
        ((∃ text, emit operations options toAscii = .ok text) ↔
          ∀ o ∈ operations, ∀ types, o.HasTypes types → types.haveLayout = true)) ∧
      ((∀ o ∈ operations, o.isPlain = true) →
        ∃ text, emit operations options toAscii = .ok text) := by
  obtain ⟨m, hemit, hvalid, hlayout⟩ := @emit_eq_ite toAscii operations options hruntime h
  have hiff (hreread : ∀ o ∈ operations, ∀ types, o.HasTypes types → types.reread = true) :
      (∃ text, emit operations options toAscii = .ok text) ↔
        ∀ o ∈ operations, ∀ types, o.HasTypes types → types.haveLayout = true := by
    rw [← hlayout, hemit, if_pos (hvalid hreread)]
    cases m.hasLayout <;> simp
  refine ⟨fun e he => ?_, hiff, fun hspells => hiff fun o ho types htypes => ?_,
    fun hplain => (hiff fun o ho types htypes => ?_).mpr ?_⟩
  · rw [hemit] at he
    split at he
    case isTrue =>
      split at he
      · cases he
      · exact .inl (Except.error.inj he).symm
    case isFalse hinvalid =>
      refine .inr ⟨(Except.error.inj he).symm, ?_⟩
      by_contra hnone
      refine hinvalid (hvalid fun o ho types htypes => ?_)
      by_contra hreread
      refine hnone ⟨o, ho, fun hspells => ?_, types, htypes, eq_false_of_ne_true hreread⟩
      exact hreread (Operation.reread_of_spellsTypes hspells htypes)
  · exact Operation.reread_of_spellsTypes (hspells o ho) htypes
  · obtain ⟨types', htypes', hreread, -⟩ := Operation.exists_hasTypes_of_isPlain (hplain o ho)
    exact htypes'.unique htypes ▸ hreread
  · intro o ho types htypes
    obtain ⟨types', htypes', -, hlayout⟩ := Operation.exists_hasTypes_of_isPlain (hplain o ho)
    exact htypes'.unique htypes ▸ hlayout

end

/-- An operation whose types hold functions and code. -/
def listPets : Operation :=
  ⟨"listPets", .get, "/pets", none, none, some "Box<dyn Fn(&'a str) -> Option<u8> + Send>",
    some "[u8; { let n = 2; n * 2 }]", some "Vec<Option<crate::Pet>>"⟩

/-- An operation that takes functions of a mutable `self`. -/
def pingSelf : Operation := { ping with dataType := some "fn(mut self)" }

/-- The first is emitted, but not together with the second, which has a type that cannot be laid
out. -/
theorem emit_listPets_not_pingSelf :
    (∃ text, emit [listPets] {} = .ok text) ∧
      emit [listPets, pingSelf] {} = .error .noLayout := by
  have hruntime : (Path.parse? ({} : EmitOptions).runtime).any Path.isWords = true := by
    decide +kernel
  have hpets : listPets.hasTypesThat (fun t => t.rereads && t.hasLayout) = true := by
    decide +kernel
  have hping : pingSelf.hasTypesThat Ty.rereads = true := by decide +kernel
  have hself : (Ty.parse? pingSelf.dataText).any (!Ty.hasLayout ·) = true := by decide +kernel
  obtain ⟨pets, hpetsTypes, hdata, hresponse, herror⟩ := Operation.exists_hasTypes hpets
  rw [Bool.and_eq_true] at hdata hresponse herror
  have hpetsReread : pets.reread = true := by
    rw [Types.reread, hdata.1, hresponse.1, herror.1]
    rfl
  have hpetsLayout : pets.haveLayout = true := by
    rw [Types.haveLayout, hdata.2, hresponse.2, herror.2]
    rfl
  obtain ⟨self, hselfTypes, hdata, hresponse, herror⟩ := Operation.exists_hasTypes hping
  have hselfReread : self.reread = true := by
    rw [Types.reread, hdata, hresponse, herror]
    rfl
  have hselfLayout : self.haveLayout = false := by
    rw [hselfTypes.data, Option.any_some, Bool.not_eq_true'] at hself
    rw [Types.haveLayout, hself]
    rfl
  constructor
  · have h : ∀ o ∈ [listPets], o.method ∈ Method.standard ∧ ∃ types, o.HasTypes types :=
      List.forall_mem_singleton.mpr ⟨by decide, pets, hpetsTypes⟩
    refine ((emit_outcomes Transliteration.toAscii hruntime h).2.1 ?_).mpr ?_
    · exact List.forall_mem_singleton.mpr fun types htypes => hpetsTypes.unique htypes ▸ hpetsReread
    · exact List.forall_mem_singleton.mpr fun types htypes => hpetsTypes.unique htypes ▸ hpetsLayout
  · have h : ∀ o ∈ [listPets, pingSelf], o.method ∈ Method.standard ∧ ∃ types, o.HasTypes types :=
      List.forall_mem_cons.mpr ⟨⟨by decide, pets, hpetsTypes⟩,
        List.forall_mem_singleton.mpr ⟨by decide, self, hselfTypes⟩⟩
    have hreread : ∀ o ∈ [listPets, pingSelf], ∀ types, o.HasTypes types → types.reread = true :=
      List.forall_mem_cons.mpr ⟨fun types htypes => hpetsTypes.unique htypes ▸ hpetsReread,
        List.forall_mem_singleton.mpr fun types htypes => hselfTypes.unique htypes ▸ hselfReread⟩
    obtain ⟨herror, hok, -, -⟩ := emit_outcomes Transliteration.toAscii hruntime h
    cases hemit : emit [listPets, pingSelf] {} with
    | error e =>
        rcases herror e hemit with rfl | ⟨-, o, ho, -, types, htypes, hfalse⟩
        · rfl
        · cases hfalse.symm.trans (hreread o ho types htypes)
    | ok text =>
        have hlayout := (hok hreread).mp ⟨text, hemit⟩ pingSelf (by simp) self hselfTypes
        cases hselfLayout.symm.trans hlayout

end ApiClient.Service

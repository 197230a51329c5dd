import ApiClient.Proofs.Code.CallTokens
import ApiClient.Proofs.Except
import ApiClient.Proofs.Service.Paragraphs
import ApiClient.Proofs.Service.ValidNames
import ApiClient.Proofs.Text.Quoted
import Mathlib.Data.List.Forall2

/-!
What is emitted for operations, token by token, and when nothing is. The texts of paths and types
and the methods are all that can be wrong, since every function gets a name that is an identifier,
in whatever way ids are brought to ASCII.
-/

namespace ApiClient.Service

open Code

variable {toAscii : List Char → List Char}

/-! ### Faults -/

namespace Operation

/-! The types of an operation, with those that stand for missing ones. -/

def dataText (o : Operation) : String := o.dataType.getD "()"

def responseText (o : Operation) : String := o.responseType.getD "Value"

def errorText (o : Operation) : String := o.errorType.getD "Value"

/-- The parts of an operation that can be wrong. -/
inductive Part
  | data
  | response
  | error
  | method
  deriving DecidableEq, Repr

/-- All parts in the order in which they are checked. -/
def Part.all : List Part := [.data, .response, .error, .method]

end Operation

/-- What is wrong with the text of a type. -/
def typeFault? (text : String) : Option EmitError :=
  if (Ty.parse? text).isNone then some (.invalidType text) else none

/-- What is wrong with a part of an operation. -/
def Operation.fault? (o : Operation) : Part → Option EmitError
  | .data => typeFault? o.dataText
  | .response => typeFault? o.responseText
  | .error => typeFault? o.errorText
  | .method => if o.method ∈ Method.standard then none else some (.unsupportedMethod o.id o.method)

/-- The first fault of operations that are to be emitted. -/
def emitFault? (operations : List Operation) (options : EmitOptions) : Option EmitError :=
  if (Path.parse? options.runtime).isNone then some (.invalidRuntime options.runtime)
  else operations.findSome? fun o => Operation.Part.all.findSome? o.fault?

theorem fault?_readType (text : String) : fault? (readType text) = typeFault? text := by
  rw [readType, typeFault?]
  cases Ty.parse? text <;> rfl

theorem Operation.fault?_types (o : Operation) :
    ApiClient.fault? o.types =
      (o.fault? .data).or ((o.fault? .response).or (o.fault? .error)) := by
  refine fault?_bind (fault?_readType _) fun data _ => ?_
  refine fault?_bind (fault?_readType _) fun response _ => ?_
  rw [← Option.or_none (o := o.fault? .error)]
  exact fault?_bind (fault?_readType _) fun error _ => rfl

/-- A function that has an identifier for its name fails with the first fault of its operation. -/
theorem Operation.fault?_function (o : Operation) {name : String} (h : isIdent name = true)
    (visibility : Visibility) :
    ApiClient.fault? (o.function name visibility) = Part.all.findSome? o.fault? := by
  have hall : Part.all.findSome? o.fault? = (ApiClient.fault? o.types).or (o.fault? .method) := by
    rw [fault?_types, Option.or_assoc, Option.or_assoc]
    simp only [Part.all, findSome?_cons_eq_or, List.findSome?_nil, Option.or_none]
  rw [hall, function, Ident.parse?, dif_pos h]
  cases o.types with
  | error e => rfl
  | ok types =>
      by_cases hmethod : o.method ∈ Method.standard
      · simp [Operation.fault?, ApiClient.fault?, hmethod]
      · simp [Operation.fault?, ApiClient.fault?, hmethod]

/-- Functions fail with the first fault of the operations in their order. -/
theorem fault?_functions (visibility : Visibility) (used : List String)
    (operations : List Operation) :
    fault? (functions toAscii visibility used operations) =
      operations.findSome? fun o => Operation.Part.all.findSome? o.fault? := by
  induction operations generalizing used with
  | nil => rfl
  | cons o rest ih =>
      rw [findSome?_cons_eq_or, ← o.fault?_function (isIdent_ensureUnique_fnName o.id used)
        visibility, functions]
      cases o.function (ensureUnique (fnName o.id toAscii) used) visibility with
      | error e => rfl
      | ok f => exact (fault?_map _ _).trans (ih _)

theorem fault?_emitModule (operations : List Operation) (options : EmitOptions) :
    fault? (emitModule operations options toAscii) = emitFault? operations options := by
  rw [emitModule, emitFault?]
  cases Path.parse? options.runtime with
  | none => rfl
  | some runtime => exact (fault?_map _ _).trans (fault?_functions _ _ _)

/-! ### Tokens -/

/-- A literal that is read as this text. -/
def Spells (l : Literal) (text : String) : Prop :=
  l.kind = .string ∧
    ∃ body, l.text.toList = '"' :: body ∧ Quoted.read .text body = some (text.toList, [])

theorem spells_textLiteral (text : String) : Spells (Documentation.textLiteral text) text :=
  ⟨rfl, Quoted.read_literal text⟩

/-- `#[allow(unused_imports)] use runtime::{…};`. -/
def importTokens (runtime : Path) : List Token :=
  sym "#" ++ inBrackets (word "allow" ++ inParens (word "unused_imports")) ++
    word "use" ++ runtime.tokens ++ sym "::" ++
    inBraces (word "Method" ++ comma ++ word "Options" ++ comma ++ word "ResponseFuture" ++ comma ++
      word "Value" ++ comma ++ word "send") ++ sym ";"

/-- `#[doc = line]`. -/
def docTokens (line : Literal) : List Token :=
  sym "#" ++ inBrackets (word "doc" ++ sym "=" ++ [.literal line])

def visibilityTokens : Visibility → List Token
  | .everyone => word "pub"
  | .crate => word "pub" ++ inParens (word "crate")
  | .file => []

/-- `fn name(options: Options<D>) -> ResponseFuture<R, E>`. -/
def signatureTokens (name : String) (types : Types) : List Token :=
  word "fn" ++ word name ++
    inParens (word "options" ++ sym ":" ++ word "Options" ++ sym "<" ++ types.data.tokens ++
      sym ">") ++
    sym "->" ++ word "ResponseFuture" ++ sym "<" ++ types.response.tokens ++ comma ++
      types.error.tokens ++ sym ">"

/-- `{ return send::<R, E, D>(Method::M, path, options); }`. -/
def bodyTokens (types : Types) (method : Method) (path : Literal) : List Token :=
  inBraces (word "return" ++ word "send" ++ sym "::" ++ sym "<" ++ types.response.tokens ++ comma ++
    types.error.tokens ++ comma ++ types.data.tokens ++ sym ">" ++
    inParens (word "Method" ++ sym "::" ++ word method.name ++ comma ++ [.literal path] ++ comma ++
      word "options") ++ sym ";")

/-- The types that the texts of an operation spell. -/
structure Operation.HasTypes (o : Operation) (types : Types) : Prop where
  data : Ty.parse? o.dataText = some types.data
  response : Ty.parse? o.responseText = some types.response
  error : Ty.parse? o.errorText = some types.error

/-- The lines that document an operation: those of its summary and of its description, as far as it
has them, then its method and path, with an empty line between two paragraphs. -/
def Operation.docLines (o : Operation) : List String :=
  Documentation.joined [.ofOption o.summary, .ofOption o.description,
    ⟨["`" ++ o.method.name ++ " " ++ o.path ++ "`"]⟩]

/-- Tokens of the function that an operation is emitted as under a name: its documentation, one
literal for each line, its visibility, its signature, and the call that it returns, for the same
types and with a literal for its path. -/
def Operation.IsEmitted (o : Operation) (visibility : Visibility) (name : String)
    (tokens : List Token) : Prop :=
  ∃ docs types path,
    List.Forall₂ Spells docs (o.docLines.map Documentation.lineText) ∧
    o.HasTypes types ∧ o.method ∈ Method.standard ∧ Spells path o.path ∧
    tokens = docs.flatMap docTokens ++ visibilityTokens visibility ++ signatureTokens name types ++
      bodyTokens types o.method path

theorem Operation.lines_documentation (o : Operation) : o.documentation.lines = o.docLines :=
  Documentation.lines_foldl_pushParagraph [.ofOption o.description, ⟨[o.route]⟩]
    (.ofOption o.summary)

theorem parse?_of_readType_eq_ok {text : String} {t : Ty} (h : readType text = .ok t) :
    Ty.parse? text = some t := by
  rw [readType] at h
  split at h
  case h_1 t' ht => rw [ht, Except.ok.inj h]
  case h_2 => cases h

theorem Operation.hasTypes_of_types_eq_ok {o : Operation} {types : Types}
    (h : o.types = .ok types) : o.HasTypes types := by
  rw [Operation.types] at h
  obtain ⟨data, hdata, h⟩ := bind_eq_ok_iff.mp h
  obtain ⟨response, hresponse, h⟩ := bind_eq_ok_iff.mp h
  obtain ⟨error, herror, h⟩ := bind_eq_ok_iff.mp h
  cases h
  exact ⟨parse?_of_readType_eq_ok hdata, parse?_of_readType_eq_ok hresponse,
    parse?_of_readType_eq_ok herror⟩

/-- The literals that document, one for each line. -/
def docLiterals (d : Documentation) : List Literal :=
  d.lines.map fun line => Documentation.textLiteral (Documentation.lineText line)

theorem forall₂_spells_docLiterals (d : Documentation) :
    List.Forall₂ Spells (docLiterals d) (d.lines.map Documentation.lineText) := by
  rw [docLiterals, List.forall₂_map_left_iff, List.forall₂_map_right_iff]
  exact List.forall₂_same.mpr fun line _ => spells_textLiteral _

theorem tokens_documentation (d : Documentation) :
    attributeTokens d.attributes = (docLiterals d).flatMap docTokens := by
  rw [attributeTokens, Documentation.attributes, docLiterals, List.flatMap_map, List.flatMap_map]
  rfl

theorem tokens_access (visibility : Visibility) :
    visibility.access.tokens = visibilityTokens visibility := by
  cases visibility <;> rfl

theorem tokens_generic (name : String) (types : List Ty) :
    (generic name types).tokens =
      word name ++ (sym "<" ++ separated comma false (types.map Ty.tokens) ++ sym ">") := by
  rw [generic, Ty.tokens, tokens_path_types]
  rfl

theorem argExprs_sendPlan (o : Operation) (types : Types) :
    argExprs (o.sendPlan types).args =
      [methodExpr o.method, pathLiteral o.path, .path (.ofName "options")] := by
  have hoptions : Ident.parse? "options" = some ⟨"options", by decide⟩ := rfl
  simp [argExprs, Operation.sendPlan, Arg.toExpr?, hoptions]

theorem tokens_sendPlan (o : Operation) (types : Types) :
    inBraces (o.sendPlan types).toReturn.tokens =
      bodyTokens types o.method (Documentation.textLiteral o.path) := by
  rw [CallPlan.toReturn, argExprs_sendPlan, tokens_ofCall _ _ (by simp [Operation.sendPlan])]
  simp [Operation.sendPlan, bodyTokens, sendName, separated, methodExpr, pathLiteral, Path.ofName,
    Expr.tokens, Path.tokens, segmentList, Segment.tokens, SegmentArgs.tokens]

theorem tokens_signature (name : String) (types : Types) :
    Signature.tokens {
      name := name
      parameters := [.ofName "options" (generic "Options" [types.data])]
      output := some (generic "ResponseFuture" [types.response, types.error]) } =
      signatureTokens name types := by
  simp [Signature.tokens, signatureTokens, tokens_generic, FnQualifiers.tokens, wordIf,
    GenericParams.tokens, WhereClause.tokens, Parameter.tokens, Parameter.ofName, Pat.tokens,
    attributeTokens, outputTokens, Fragment.optionTokens, separated]

theorem Operation.isEmitted_of_function_eq_ok {o : Operation} {name : String}
    {visibility : Visibility} {f : Function} (h : o.function name visibility = .ok f) :
    o.IsEmitted visibility name f.tokens := by
  obtain ⟨types, htypes, hmethod, rfl⟩ := o.eq_of_function_eq_ok h
  refine ⟨docLiterals o.documentation, types, Documentation.textLiteral o.path,
    o.lines_documentation ▸ forall₂_spells_docLiterals o.documentation,
    hasTypes_of_types_eq_ok htypes, hmethod, spells_textLiteral _, ?_⟩
  have hbody : (Block.mk [] [(o.sendPlan types).toReturn.stmt]).tokens =
      inBraces (o.sendPlan types).toReturn.tokens := by
    simp [Block.tokens, innerAttributeTokens, stmtList, Return.tokens, inBraces]
  rw [Function.tokens, Function.item, Item.tokens, ItemKind.tokens, tokens_documentation,
    tokens_access, tokens_signature]
  simp [hbody, tokens_sendPlan, wordIf]

/-- Functions are emitted under the names that are assigned to them. -/
theorem forall₂_isEmitted_of_functions_eq_ok {visibility : Visibility} {used : List String}
    {operations : List Operation} {fs : List Function}
    (h : functions toAscii visibility used operations = .ok fs) :
    List.Forall₂ (fun (name, o) tokens => Operation.IsEmitted o visibility name tokens)
      ((assign used (operations.map fun o => fnName o.id toAscii)).zip operations)
      (fs.map Function.tokens) := by
  induction operations generalizing used fs with
  | nil =>
      obtain rfl : [] = fs := by simpa [functions] using h
      exact .nil
  | cons o rest ih =>
      obtain ⟨f, fs', hf, hfs', rfl⟩ := functions_cons_eq_ok h
      exact .cons (o.isEmitted_of_function_eq_ok hf) (ih hfs')

theorem tokens_import (runtime : Path) :
    Import.tokens ⟨[allowUnused], runtime, importedNames⟩ = importTokens runtime := by
  simp [Import.tokens, importTokens, allowUnused, importedNames, attributeTokens, Attribute.tokens,
    PlainPath.tokens, Import.group, UseTree.tokens, useTreeList, separated, word, inParens,
    inBrackets]

/-! ### Modules -/

theorem length_assign (used bases : List String) : (assign used bases).length = bases.length := by
  induction bases generalizing used with
  | nil => rfl
  | cons base bases ih => rw [assign, List.length_cons, ih, List.length_cons]

/-- Operations with the names of their functions. -/
def named (toAscii : List Char → List Char) (operations : List Operation) :
    List (String × Operation) :=
  (names toAscii operations).zip operations

theorem map_snd_named (operations : List Operation) :
    (named toAscii operations).map (·.2) = operations := by
  have hlength : (names toAscii operations).length = operations.length := by
    rw [names, length_assign, List.length_map]
  exact List.map_snd_zip hlength.ge

/-- However ids are brought to ASCII, operations are refused for their first fault, and there is no
other reason. Otherwise what is emitted for them are the tokens of the import and, in their order,
those of one function for each, under the name that it is given. -/
theorem emitModule_refuses_or_emits (toAscii : List Char → List Char)
    (operations : List Operation) (options : EmitOptions) :
    (∀ e, emitModule operations options toAscii = .error e ↔
      emitFault? operations options = some e) ∧
      (emitFault? operations options = none → ∃ runtime m functions,
        Path.parse? options.runtime = some runtime ∧
        emitModule operations options toAscii = .ok m ∧
        m.tokens = importTokens runtime ++ functions.flatten ∧
        (named toAscii operations).map (·.2) = operations ∧
        List.Forall₂ (fun (name, o) tokens => Operation.IsEmitted o options.visibility name tokens)
          (named toAscii operations) functions) := by
  rw [← fault?_emitModule]
  refine ⟨fun e => fault?_eq_some_iff.symm, fun hnone => ?_⟩
  obtain ⟨m, hm⟩ := fault?_eq_none_iff.mp hnone
  obtain ⟨runtime, fs, hruntime, hfs, rfl⟩ := emitModule_eq_ok hm
  refine ⟨runtime, _, fs.map Function.tokens, hruntime, hm, ?_, map_snd_named operations,
    forall₂_isEmitted_of_functions_eq_ok hfs⟩
  rw [Module.tokens, tokens_import, List.flatMap_def]

/-- An operation that has nothing but a method and a path. -/
def ping : Operation := ⟨"ping", .head, "/ping", none, none, none, none, none⟩

/-- It is emitted, but not with an operation behind it that has a bad type and a bad method. -/
theorem emitModule_refuses_or_emits_ping :
    (∃ runtime m tokens, Path.parse? "fetchgen_client" = some runtime ∧
      emitModule [ping] {} = .ok m ∧ m.tokens = importTokens runtime ++ tokens ∧
      ping.IsEmitted .everyone "ping" tokens) ∧
    emitModule [ping, { ping with method := ⟨"PURGE"⟩, responseType := some "Vec<" }] {} =
      .error (.invalidType "Vec<") := by
  constructor
  · obtain ⟨-, hemit⟩ := emitModule_refuses_or_emits Transliteration.toAscii [ping] {}
    obtain ⟨runtime, m, functions, hruntime, hm, htokens, -, hfunctions⟩ :=
      hemit (by decide +kernel)
    have hnamed : named Transliteration.toAscii [ping] = [("ping", ping)] := by
      have hnames : names Transliteration.toAscii [ping] = ["ping"] := by decide +kernel
      rw [named, hnames]
      rfl
    rw [hnamed] at hfunctions
    cases hfunctions with
    | cons hping hrest =>
        cases hrest
        exact ⟨runtime, m, _, hruntime, hm, by simpa using htokens, hping⟩
  · exact ((emitModule_refuses_or_emits _ _ _).1 _).mpr (by decide +kernel)

end ApiClient.Service

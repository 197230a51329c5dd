import ApiClient.Code.Module
import ApiClient.Http.Method
import ApiClient.Service.CallPlan
import ApiClient.Service.Documentation
import ApiClient.Service.Name

/-!
From operations of an API to a module with one function for each. A function takes the options of
its operation and returns the call that sends them.
-/

namespace ApiClient.Service

open Code

structure Operation where
  id : String
  method : Method
  /-- Path template. -/
  path : String
  summary : Option String
  description : Option String
  dataType : Option String
  responseType : Option String
  errorType : Option String

namespace Operation

/-- Method and path in one line. -/
def route (o : Operation) : String := s!"`{o.method.name} {o.path}`"

def documentation (o : Operation) : Documentation :=
  ((Documentation.ofOption o.summary).pushParagraph (.ofOption o.description)).pushParagraph
    ⟨[o.route]⟩

end Operation

structure EmitOptions where
  visibility : Visibility := .everyone
  /-- Path of the module that the imported names come from. -/
  runtime : String := "fetchgen_client"

def importedNames : List String := ["Method", "Options", "ResponseFuture", "Value", "send"]

/-- Imported names that a function could have. -/
def importedFunctions : List String := ["send"]

inductive EmitError
  | invalidRuntime (text : String)
  | invalidFunctionName (name : String)
  | invalidType (text : String)
  | unsupportedMethod (operationId : String) (method : Method)
  | invalidModule
  /-- The module is a valid one, but a part of it cannot be laid out. This is no answer: the program
  gives up. -/
  | noLayout
  deriving DecidableEq, Repr

/-- The part of the message that does not depend on the parser. -/
def EmitError.message : EmitError → String
  | .invalidRuntime text => s!"invalid runtime crate path `{text}`"
  | .invalidFunctionName name => s!"`{name}` is not a valid function name"
  | .invalidType text => s!"failed to parse type `{text}`"
  | .unsupportedMethod id method =>
    s!"operation `{id}` cannot be emitted: method `{method.name}` " ++
      "has no constant on the runtime's `Method`"
  | .invalidModule => "generated services are not a valid module"
  | .noLayout => "not implemented"

def readType (text : String) : Except EmitError Ty :=
  match Ty.parse? text with
  | some t => .ok t
  | none => .error (.invalidType text)

def generic (name : String) (args : List Ty) : Ty :=
  .path (.plain false [.mk name (.angle false (args.map .type) false)])

def methodExpr (m : Method) : Expr := .path (.plain false [.mk "Method" .none, .mk m.name .none])

def pathLiteral (path : String) : Expr := .lit (Documentation.textLiteral path)

def sendName : Ident := ⟨"send", by decide⟩

structure Types where
  data : Ty
  response : Ty
  error : Ty

/-- Reads data, response and error type, in this order. -/
def Operation.types (o : Operation) : Except EmitError Types := do
  let data ← readType (o.dataType.getD "()")
  let response ← readType (o.responseType.getD "Value")
  let error ← readType (o.errorType.getD "Value")
  return ⟨data, response, error⟩

/-- `return send::<R, E, D>(Method::M, PATH, options);`. -/
def Operation.sendPlan (o : Operation) (types : Types) : CallPlan where
  name := sendName
  args := [.expression (methodExpr o.method), .expression (pathLiteral o.path),
    .identifier "options"]
  types := [types.response, types.error, types.data]

def Operation.function (o : Operation) (name : String) (visibility : Visibility) :
    Except EmitError Function :=
  match Ident.parse? name with
  | none => .error (.invalidFunctionName name)
  | some ident =>
    match o.types with
    | .error e => .error e
    | .ok types =>
      if Method.standard.contains o.method then
        .ok {
          attrs := o.documentation.attributes
          visibility := visibility
          name := ident.name
          parameters := [.ofName "options" (generic "Options" [types.data])]
          output := some (generic "ResponseFuture" [types.response, types.error])
          body := (o.sendPlan types).toReturn }
      else .error (.unsupportedMethod o.id o.method)

/-- The functions of operations in order, each under a name that is not used yet. -/
def functions (toAscii : List Char → List Char) (visibility : Visibility) (used : List String) :
    List Operation → Except EmitError (List Function)
  | [] => .ok []
  | o :: rest =>
    let name := ensureUnique (fnName o.id toAscii) used
    match o.function name visibility with
    | .error e => .error e
    | .ok f => (functions toAscii visibility (name :: used) rest).map (f :: ·)

def allowUnused : Attribute := ⟨⟨false, ["allow"]⟩, .group .paren [.ident "unused_imports"]⟩

/-- The module of the operations, which need not be a valid one. -/
def emitModule (operations : List Operation) (options : EmitOptions)
    (toAscii : List Char → List Char := Transliteration.toAscii) : Except EmitError Module :=
  match Path.parse? options.runtime with
  | none => .error (.invalidRuntime options.runtime)
  | some runtime =>
    (functions toAscii options.visibility importedFunctions operations).map fun fs =>
      ⟨⟨[allowUnused], runtime, importedNames⟩, fs⟩

/-- The text of the operations' module. -/
def emit (operations : List Operation) (options : EmitOptions)
    (toAscii : List Char → List Char := Transliteration.toAscii) : Except EmitError String :=
  match emitModule operations options toAscii with
  | .error e => .error e
  | .ok m =>
    if m.isValid then if m.hasLayout then .ok m.text else .error .noLayout
    else .error .invalidModule

end ApiClient.Service

import ApiClient.Response.Body

/-!
Handlers that a client runs over its requests, its responses and the bodies of failures. Each
registry numbers its handlers on its own and runs them in the order in which they came.
-/

namespace ApiClient

/-- The number that a registry gave a handler. -/
structure HandlerId where
  number : UInt64
  deriving DecidableEq, Repr

/-- Handlers in the order of their registration, and the number of the next one. -/
structure Registry (α : Type) where
  next : UInt64 := 0
  handlers : List (HandlerId × α) := []

namespace Registry

variable {α : Type}

def register (handler : α) (r : Registry α) : Registry α :=
  ⟨r.next + 1, r.handlers ++ [(⟨r.next⟩, handler)]⟩

def contains (id : HandlerId) (r : Registry α) : Bool := r.handlers.any (·.1 = id)

def eject (id : HandlerId) (r : Registry α) : Registry α :=
  { r with handlers := r.handlers.filter (·.1 ≠ id) }

/-- Ejects all handlers. Numbers are not given again. -/
def clear (r : Registry α) : Registry α := { r with handlers := [] }

def size (r : Registry α) : Nat := r.handlers.length

end Registry

abbrev RequestHandler := HttpRequest → HttpRequest

/-- Sees the request that was answered. -/
abbrev ResponseHandler := HttpResponse → HttpRequest → HttpResponse

/-- Sees the response that failed and its request. -/
abbrev FailureHandler := ResponseBody → HttpResponse → HttpRequest → ResponseBody

inductive Stage
  | request
  | response
  | failure
  deriving DecidableEq, Repr

structure Interceptors where
  request : Registry RequestHandler := {}
  response : Registry ResponseHandler := {}
  failure : Registry FailureHandler := {}

inductive Handler
  | request (run : RequestHandler)
  | response (run : ResponseHandler)
  | failure (run : FailureHandler)

namespace Interceptors

def register (handler : Handler) (i : Interceptors) : Interceptors :=
  match handler with
  | .request run => { i with request := i.request.register run }
  | .response run => { i with response := i.response.register run }
  | .failure run => { i with failure := i.failure.register run }

def eject (stage : Stage) (id : HandlerId) (i : Interceptors) : Interceptors :=
  match stage with
  | .request => { i with request := i.request.eject id }
  | .response => { i with response := i.response.eject id }
  | .failure => { i with failure := i.failure.eject id }

def clear (stage : Stage) (i : Interceptors) : Interceptors :=
  match stage with
  | .request => { i with request := i.request.clear }
  | .response => { i with response := i.response.clear }
  | .failure => { i with failure := i.failure.clear }

def contains (stage : Stage) (id : HandlerId) (i : Interceptors) : Bool :=
  match stage with
  | .request => i.request.contains id
  | .response => i.response.contains id
  | .failure => i.failure.contains id

def size (stage : Stage) (i : Interceptors) : Nat :=
  match stage with
  | .request => i.request.size
  | .response => i.response.size
  | .failure => i.failure.size

def next (stage : Stage) (i : Interceptors) : HandlerId :=
  match stage with
  | .request => ⟨i.request.next⟩
  | .response => ⟨i.response.next⟩
  | .failure => ⟨i.failure.next⟩

end Interceptors

def Handler.stage : Handler → Stage
  | .request _ => .request
  | .response _ => .response
  | .failure _ => .failure

end ApiClient

import ApiClient.Client.Exchange
import ApiClient.Client.OperationOptions

/-!
Clients over time. A client either has settings of its own or shares those of the whole process;
copies of a client are the same client under another name. A session holds the shared settings and
all clients, and its operations are what a program can do with them.
-/

namespace ApiClient

structure Client where
  /-- Settings of its own; without them the client shares those of the process. -/
  own : Option Config := none
  interceptors : Interceptors := {}

def Client.isGlobal (c : Client) : Bool := c.own.isNone

abbrev ClientId := Nat

/-- The first client is the default one. -/
structure Session where
  shared : Config := {}
  clients : List Client := [{}]
  names : Entries ClientId := [("global", 0)]

namespace Session

def defaultClient : ClientId := 0

def client (s : Session) (id : ClientId) : Client := s.clients.getD id {}

/-- The settings that a client's requests start from. -/
def config (s : Session) (id : ClientId) : Config := (s.client id).own.getD s.shared

def setClient (s : Session) (id : ClientId) (c : Client) : Session :=
  { s with clients := s.clients.set id c }

end Session

abbrev SessionM := StateM Session

namespace Session

def nameClient (name : String) (id : ClientId) : SessionM Unit :=
  modify fun s => { s with names := s.names.insert name id }

/-- Makes a client. Settings that are to be global become those of the process. -/
def newClient (config : Config) : SessionM ClientId :=
  modifyGet fun s =>
    let config := config.trimmed
    let id := s.clients.length
    if config.global then (id, { s with shared := config, clients := s.clients ++ [{}] })
    else (id, { s with clients := s.clients ++ [{ own := some config }] })

def setSharedConfig (config : Config) : SessionM Unit := modify fun s => { s with shared := config }

/-- Changes a client's settings. The change sees the session as it is while it runs, in which the
client still has its old settings. -/
def updateConfig (id : ClientId) (update : Session → Config → Config) : SessionM Unit :=
  modify fun s =>
    let config := (update s (s.config id)).trimmed
    let c := s.client id
    if c.isGlobal then { s with shared := config }
    else s.setClient id { c with own := some config }

def updateInterceptors (id : ClientId) (update : Interceptors → Interceptors) : SessionM Unit :=
  modify fun s =>
    let c := s.client id
    s.setClient id { c with interceptors := update c.interceptors }

def register (id : ClientId) (handler : Handler) : SessionM HandlerId := do
  let number := ((← get).client id).interceptors.next handler.stage
  updateInterceptors id (·.register handler)
  return number

/-- Whether the handler was there, which the number of handlers tells. -/
def eject (id : ClientId) (stage : Stage) (handler : HandlerId) : SessionM Bool := do
  let before := ((← get).client id).interceptors.size stage
  updateInterceptors id (·.eject stage handler)
  return ((← get).client id).interceptors.size stage ≠ before

def clear (id : ClientId) (stage : Stage) : SessionM Unit :=
  updateInterceptors id (·.clear stage)

variable {α ε : Type}

/-- Sends a request through a client. The result comes with the journal of what was run. -/
def request (data : Decoder α) (error : Decoder ε) (id : ClientId) (options : RequestOptions)
    (defaultTransport : Option Transport := none) :
    SessionM (Except ClientError (Exchange α ε) × List Event) := do
  let s ← get
  return (exchange data error (s.config id) (s.client id).interceptors options
    defaultTransport).run []

/-- Sends an operation through its client or the default one. Data that cannot be taken apart sends
nothing. -/
def send (data : Decoder α) (error : Decoder ε) (method : Method) (url : String) (shape : Shape)
    (parts : Except String DataParts) (operation : OperationOptions ClientId)
    (defaultTransport : Option Transport := none) :
    SessionM (Except ClientError (Exchange α ε) × List Event) :=
  match parts with
  | .error message => return (.error (.data message), [])
  | .ok parts =>
    request data error (operation.client.getD defaultClient)
      { operation.toRequestOptions shape parts url with method := some method } defaultTransport

end Session

end ApiClient

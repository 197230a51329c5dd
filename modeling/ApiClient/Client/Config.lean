import ApiClient.Request.Options

/-!
The settings that all requests of a client start from.
-/

namespace ApiClient

structure Config where
  baseUrl : String := ""
  headers : Headers := Headers.empty.append .contentType (utf8 "application/json")
  /-- The method of requests that name none. -/
  method : Option Method := none
  body : Option RequestBody := none
  bodySerializer : BodySerializer := BodySerializer.json
  querySerializer : QuerySerializer := QueryOptions.serialize {}
  transformer : Option Transformer := none
  transport : Option Transport := none
  parseMode : ParseMode := .auto
  /-- Whether a client that is made with these settings shares them with the whole process. -/
  global : Bool := true

/-- Drops one slash at the end. -/
def trimBaseUrl (url : String) : String :=
  if url.toList.getLast? = some '/' then String.ofList url.toList.dropLast else url

def Config.trimmed (c : Config) : Config := { c with baseUrl := trimBaseUrl c.baseUrl }

end ApiClient

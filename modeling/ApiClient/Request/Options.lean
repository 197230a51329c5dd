import ApiClient.Http.Message
import ApiClient.Parameter.Query
import ApiClient.Request.Body
import ApiClient.Request.HeaderInput
import ApiClient.Response.ParseMode

/-!
What a single call may say about its request. What it leaves open is taken from the client's
configuration.
-/

namespace ApiClient

/-- Changes the JSON of a success before it is decoded, or says why it cannot. -/
abbrev Transformer := Json → Except String Json

structure RequestOptions where
  /-- The endpoint, with its templates. -/
  url : String := ""
  baseUrl : Option String := none
  headers : Entries HeaderInput := []
  method : Option Method := none
  body : Option RequestBody := none
  bodySerializer : Option BodySerializer := none
  querySerializer : Option QuerySerializer := none
  transformer : Option Transformer := none
  transport : Option Transport := none
  parseMode : Option ParseMode := none
  path : Entries Json := []
  query : Entries Json := []

end ApiClient

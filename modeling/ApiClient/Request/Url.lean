import ApiClient.Parameter.Query
import ApiClient.Parameter.Template

/-!
The URL of a request: the base, the endpoint with its templates filled in, and the search part.
-/

namespace ApiClient.Request

/-- One slash at least stands between the base and the endpoint. -/
def joinUrl (base endpoint : String) : String :=
  base ++ (if endpoint.toList.head? = some '/' then "" else "/") ++ endpoint

/-- A search part may bring its question mark along; an empty one adds nothing. -/
def appendSearch (url search : String) : String :=
  let search := match search.toList with
    | '?' :: rest => rest
    | chars => chars
  if search.isEmpty then url else url ++ String.ofList ('?' :: search)

def buildUrl (base endpoint : String) (path query : Entries Json) (serializer : QuerySerializer) :
    Except NestedParameter String := do
  let url := joinUrl base endpoint
  let url ← if path.isEmpty then pure url else Parameter.substitute path url
  if query.isEmpty then return url else return appendSearch url (← serializer query)

end ApiClient.Request

/-!
Request methods. Any word of token characters is one; nine of them are standard.
-/

namespace ApiClient

/-- Characters of methods and header names. -/
def isTokenChar (c : Char) : Bool := c.isAlphanum || "!#$%&'*+-.^_`|~".toList.contains c

/-- A request method, spelled as given. -/
structure Method where
  name : String
  deriving DecidableEq, Repr

namespace Method

def connect : Method := ⟨"CONNECT"⟩
def delete : Method := ⟨"DELETE"⟩
def get : Method := ⟨"GET"⟩
def head : Method := ⟨"HEAD"⟩
def options : Method := ⟨"OPTIONS"⟩
def patch : Method := ⟨"PATCH"⟩
def post : Method := ⟨"POST"⟩
def put : Method := ⟨"PUT"⟩
def trace : Method := ⟨"TRACE"⟩

def standard : List Method := [connect, delete, get, head, options, patch, post, put, trace]

/-- A method from its text: at least one character, all of them token characters. -/
def parse? (text : String) : Option Method :=
  if !text.isEmpty && text.toList.all isTokenChar then some ⟨text⟩ else none

end Method

end ApiClient

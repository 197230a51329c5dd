/-!
Request targets: `scheme://authority/path?query`, a path with its query, an authority alone, or an
asterisk. A fragment is dropped. The parser says why it refuses a text.
-/

namespace ApiClient

/-- Why a text is no request target. -/
inductive UriFault
  | invalidChar
  | invalidAuthority
  | invalidFormat
  | empty
  | tooLong
  | schemeTooLong
  deriving DecidableEq, Repr

def UriFault.message : UriFault → String
  | .invalidChar => "invalid uri character"
  | .invalidAuthority => "invalid authority"
  | .invalidFormat => "invalid format"
  | .empty => "empty string"
  | .tooLong => "uri too long"
  | .schemeTooLong => "scheme too long"

structure Uri where
  scheme : Option String
  authority : String
  path : String
  query : Option String
  deriving DecidableEq, Repr

namespace Uri

/-- An empty path is a slash where a scheme or a query stands beside it. -/
def text (u : Uri) : String :=
  let path :=
    if u.path.isEmpty && (u.scheme.isSome || u.query.isSome) then "/" else u.path
  let scheme := match u.scheme with
    | some s => s ++ "://"
    | none => ""
  let query := match u.query with
    | some q => "?" ++ q
    | none => ""
  scheme ++ u.authority ++ path ++ query

/-! ### Scheme -/

def maxSchemeLength : Nat := 64

def isSchemeChar (c : Char) : Bool := c.isAlphanum || c = '+' || c = '-' || c = '.'

def takeScheme (text : List Char) : Except UriFault (Option String × List Char) :=
  let word := text.takeWhile isSchemeChar
  match text.dropWhile isSchemeChar with
  | ':' :: '/' :: '/' :: rest =>
    let lower := String.ofList (word.map Char.toLower)
    if lower = "http" || lower = "https" then .ok (some lower, rest)
    else if text.length ≤ 3 then .ok (none, text)
    else if maxSchemeLength < word.length then .error .schemeTooLong
    else .ok (some (String.ofList word), rest)
  | _ => .ok (none, text)

/-! ### Authority -/

/-- What was seen of an authority. Colons and percent signs before an `@` belong to the user and
those in brackets to the address, so neither counts. -/
structure AuthorityScan where
  colons : Nat := 0
  opened : Bool := false
  closed : Bool := false
  percent : Bool := false
  deriving DecidableEq, Repr

def maxColons : Nat := 8

def isAuthorityChar (c : Char) : Bool := c.isAlphanum || "!$&'()*+,-.;=_~".toList.contains c

def AuthorityScan.step (s : AuthorityScan) (c : Char) : Except UriFault AuthorityScan :=
  if c = ':' then
    if maxColons ≤ s.colons then .error .invalidAuthority
    else .ok { s with colons := s.colons + 1 }
  else if c = '[' then
    if s.percent || s.opened then .error .invalidAuthority else .ok { s with opened := true }
  else if c = ']' then
    if !s.opened || s.closed then .error .invalidAuthority
    else .ok { s with closed := true, colons := 0, percent := false }
  else if c = '@' then .ok { s with colons := 0, percent := false }
  else if c = '%' then .ok { s with percent := true }
  else if isAuthorityChar c then .ok s
  else .error .invalidChar

def endsAuthority (c : Char) : Bool := c = '/' || c = '?' || c = '#'

def takeAuthority (text : List Char) : Except UriFault (String × List Char) := do
  let authority := text.takeWhile (!endsAuthority ·)
  let scan ← authority.foldlM AuthorityScan.step {}
  if scan.opened != scan.closed || 1 < scan.colons || authority.getLast? = some '@' || scan.percent
  then .error .invalidAuthority
  else return (String.ofList authority, text.dropWhile (!endsAuthority ·))

/-! ### Path and query -/

/-- Characters of a path. Quotes and braces are let through, and all that is not ASCII. -/
def isPathChar (c : Char) : Bool :=
  let n := c.toNat
  n = 0x21 || (0x24 ≤ n && n ≤ 0x3B) || n = 0x3D || (0x40 ≤ n && n ≤ 0x5F)
    || (0x61 ≤ n && n ≤ 0x7E) || c = '"' || 0x80 ≤ n

def isQueryChar (c : Char) : Bool :=
  let n := c.toNat
  n = 0x21 || (0x24 ≤ n && n ≤ 0x3B) || n = 0x3D || (0x3F ≤ n && n ≤ 0x7E) || 0x80 ≤ n

/-- The path and the query that make up a text, without its fragment. -/
def splitPath (text : List Char) : Except UriFault (String × Option String) :=
  let path := text.takeWhile isPathChar
  match text.dropWhile isPathChar with
  | [] => .ok (String.ofList path, none)
  | '#' :: _ => .ok (String.ofList path, none)
  | '?' :: rest =>
    let query := rest.takeWhile isQueryChar
    match rest.dropWhile isQueryChar with
    | [] | '#' :: _ => .ok (String.ofList path, some (String.ofList query))
    | _ => .error .invalidChar
  | _ => .error .invalidChar

def maxLength : Nat := 65534

/-- A target with a scheme, or an authority alone. -/
def parseAbsolute (text : List Char) : Except UriFault Uri := do
  let (scheme, rest) ← takeScheme text
  let (authority, rest) ← takeAuthority rest
  if scheme.isNone then
    if rest.isEmpty then return ⟨none, authority, "", none⟩ else .error .invalidFormat
  else if authority.isEmpty then .error .invalidFormat
  else
    let (path, query) ← splitPath rest
    return ⟨scheme, authority, path, query⟩

def parse (s : String) : Except UriFault Uri :=
  if maxLength < s.utf8ByteSize then .error .tooLong
  else
    match s.toList with
    | [] => .error .empty
    | ['*'] => .ok ⟨none, "", "*", none⟩
    | [c] =>
      if c = '/' then .ok ⟨none, "", "/", none⟩
      else if endsAuthority c then .error .invalidChar
      else parseAbsolute [c]
    | '/' :: rest => do
      let (path, query) ← splitPath ('/' :: rest)
      return ⟨none, "", path, query⟩
    | text => parseAbsolute text

end Uri

end ApiClient

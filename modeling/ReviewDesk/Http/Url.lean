import ReviewDesk.Json.Display
import ReviewDesk.Text.Utf8

/-!
Addresses. Text goes into an address in percent form, and an address without a host is completed by
that of a service, with its dot segments taken out.
-/
namespace ReviewDesk.Http

/-- Two hexadecimal digits in upper case. -/
def percentByte (b : UInt8) : List Char :=
  '%' :: (Json.hexText 2 b.toNat).toList.map Char.toUpper

def percentChar (c : Char) : List Char := (Text.utf8Bytes (String.singleton c)).flatMap percentByte

/-- Characters that never need the percent form. -/
def isUnreserved (c : Char) : Bool :=
  c.isAlphanum || c == '-' || c == '.' || c == '_' || c == '~'

/-- Puts into percent form all that is neither unreserved nor `kept`. -/
def percentEncode (kept : Char → Bool) (s : String) : String :=
  .ofList (s.toList.flatMap fun c => if isUnreserved c || kept c then [c] else percentChar c)

/-- For one segment or one value of a query. -/
def encodeSegment (s : String) : String := percentEncode (fun _ => false) s

/-- For a path of several segments. -/
def encodePath (s : String) : String := percentEncode (· == '/') s

/-- Puts into percent form what a path or a query cannot hold; the percent form itself stays. -/
def tidy (refused : List Char) (cs : List Char) : List Char :=
  cs.flatMap fun c =>
    if 32 ≤ c.toNat && c.toNat < 127 && !refused.contains c then [c] else percentChar c

def tidyPath : List Char → List Char := tidy " \"#<>?`\x7b\x7d".toList

def tidyQuery : List Char → List Char := tidy " \"#<>".toList

/-- Takes out `.` segments, and `..` segments together with the segment in front of them. -/
def removeDots : List String → List String → List String
  | out, [] => out.reverse
  | out, "." :: rest => removeDots out rest
  | out, ".." :: rest =>
    match out with
    | [] => removeDots [] rest
    | [""] => removeDots [""] rest
    | _ :: before => removeDots before rest
  | out, s :: rest => removeDots (s :: out) rest

def normalizePath (path : String) : String :=
  let segments := path.splitOn "/"
  if segments.contains "." || segments.contains ".." then "/".intercalate (removeDots [] segments)
  else path

inductive UrlFault where
  | tooLong
  | unprintable (c : Char) (position : Nat)
  deriving Repr, DecidableEq

def UrlFault.message : UrlFault → String
  | tooLong => "URL too long"
  | unprintable c position =>
    "Invalid non-printable ASCII character in URL, " ++ Json.displayQuoted (String.singleton c) ++
      s!" at position {position}."

def maxUrlLength : Nat := 65536

def isControl (c : Char) : Bool := c.toNat < 32 || c.toNat == 127

/-- An address is neither too long nor holds control characters. -/
def checkUrl (url : String) : Except UrlFault Unit :=
  if maxUrlLength < url.length then .error .tooLong
  else match url.toList.zipIdx.find? fun (c, _) => isControl c with
    | some (c, i) => .error (.unprintable c i)
    | none => .ok ()

/-- The address of an endpoint, which is a path with perhaps a query, at a host. A fragment is cut
off. -/
def resolve (host endpoint : String) : Except UrlFault String := do
  checkUrl endpoint
  let cs := endpoint.toList.takeWhile (· != '#')
  let path := tidyPath (cs.takeWhile (· != '?'))
  let path := '/' :: path.dropWhile (· == '/')
  let query := match cs.dropWhile (· != '?') with
    | _ :: query => '?' :: tidyQuery query
    | [] => []
  return host ++ normalizePath (.ofList path) ++ .ofList query

end ReviewDesk.Http

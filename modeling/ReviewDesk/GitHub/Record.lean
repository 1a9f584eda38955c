import ReviewDesk.GitHub.Fault
import ReviewDesk.Text.LetterCase

/-!
Records that GitHub gives: profiles, repositories and listings of files.
-/
namespace ReviewDesk.GitHub

abbrev Fields := List (String × Json)

/-- A record is read from the fields of an object; the endpoint is named in faults. -/
abbrev Reading (α : Type) := Except Fault α

def value (fields : Fields) (key : String) : Json := (Json.lookup? fields key).getD .null

def requireText (endpoint : String) (fields : Fields) (key : String) : Reading String :=
  match value fields key with
  | .str s => .ok s
  | _ => .error (.shape (.text key) endpoint)

def optionalText (endpoint : String) (fields : Fields) (key : String) : Reading (Option String) :=
  match value fields key with
  | .str s => .ok (some s)
  | .null => .ok none
  | _ => .error (.shape (.textOrNull key) endpoint)

def requireBoolean (endpoint : String) (fields : Fields) (key : String) : Reading Bool :=
  match value fields key with
  | .bool b => .ok b
  | _ => .error (.shape (.boolean key) endpoint)

def requireInteger (endpoint : String) (fields : Fields) (key : String) : Reading Int :=
  match value fields key with
  | .int n => .ok n
  | _ => .error (.shape (.integer key) endpoint)

def requireObject (endpoint : String) : Json → Reading Fields
  | .obj fields => .ok fields
  | _ => .error (.shape (.object endpoint) endpoint)

/-- The profile behind a token. -/
structure Profile where
  id : Int
  login : String
  name : Option String
  email : Option String
  avatarUrl : Option String
  pageUrl : Option String
  deriving Repr, DecidableEq

def Profile.read (endpoint : String) (fields : Fields) : Reading Profile := do
  return {
    id := ← requireInteger endpoint fields "id"
    login := ← requireText endpoint fields "login"
    name := ← optionalText endpoint fields "name"
    email := ← optionalText endpoint fields "email"
    avatarUrl := ← optionalText endpoint fields "avatar_url"
    pageUrl := ← optionalText endpoint fields "html_url" }

def Profile.json (p : Profile) : Json :=
  .obj [("id", .int p.id), ("login", .str p.login), ("name", Json.ofText p.name),
    ("email", Json.ofText p.email), ("avatar_url", Json.ofText p.avatarUrl),
    ("html_url", Json.ofText p.pageUrl)]

structure Repository where
  id : Int
  name : String
  fullName : String
  description : Option String
  url : String
  language : Option String
  defaultBranch : String
  isPrivate : Bool
  deriving Repr, DecidableEq

def Repository.read (endpoint : String) (fields : Fields) : Reading Repository := do
  return {
    id := ← requireInteger endpoint fields "id"
    name := ← requireText endpoint fields "name"
    fullName := ← requireText endpoint fields "full_name"
    description := ← optionalText endpoint fields "description"
    url := ← requireText endpoint fields "html_url"
    language := ← optionalText endpoint fields "language"
    defaultBranch := ← requireText endpoint fields "default_branch"
    isPrivate := ← requireBoolean endpoint fields "private" }

def Repository.json (r : Repository) : Json :=
  .obj [("id", .int r.id), ("name", .str r.name), ("full_name", .str r.fullName),
    ("description", Json.ofText r.description), ("url", .str r.url),
    ("language", Json.ofText r.language), ("default_branch", .str r.defaultBranch),
    ("is_private", .bool r.isPrivate)]

/-- One entry of a listing. -/
structure TreeEntry where
  path : String
  kind : String
  sha : String
  size : Option Int
  deriving Repr, DecidableEq

def TreeEntry.read (endpoint : String) (v : Json) : Reading TreeEntry := do
  let fields ← requireObject endpoint v
  return {
    path := ← requireText endpoint fields "path"
    kind := ← requireText endpoint fields "type"
    sha := ← requireText endpoint fields "sha"
    size := match value fields "size" with
      | .int n => some n
      | _ => none }

def TreeEntry.json (e : TreeEntry) : Json :=
  .obj [("path", .str e.path), ("type", .str e.kind), ("sha", .str e.sha),
    ("size", Json.ofOption .int e.size)]

/-- All files and folders of a repository. -/
structure Tree where
  sha : String
  entries : List TreeEntry
  truncated : Bool
  deriving Repr, DecidableEq

def Tree.read (endpoint : String) (fields : Fields) : Reading Tree := do
  let .arr items := value fields "tree" | .error (.shape (.arrayField "tree") endpoint)
  let entries ← items.mapM (TreeEntry.read endpoint)
  let truncated := match value fields "truncated" with
    | .bool b => b
    | _ => false
  return { sha := ← requireText endpoint fields "sha", entries, truncated }

/-- The files whose path ends in one of the suffixes, whatever the case of its letters. -/
def Tree.filesEnding (suffixes : List String) (t : Tree) : List TreeEntry :=
  t.entries.filter fun e =>
    e.kind == "blob" && suffixes.any fun s => s.toList.isSuffixOf (Text.lower e.path).toList

end ReviewDesk.GitHub

import ReviewDesk.Account
import ReviewDesk.Files

/-!
Bodies of requests. Every field has a name in mixed case, and may also come under the same name with
underscores.
-/
namespace ReviewDesk.Service

def emailPattern : String := "^[^@\\s]+@[^@\\s]+\\.[^@\\s]+$"

/-- A part of an address: not empty, and without blanks. -/
def isAddressPart (cs : List Char) : Bool := !cs.isEmpty && !cs.any Text.isWhiteSpace

/-- Whether a text is one part, an at sign and another part that has a dot inside. -/
def isEmail (s : String) : Bool :=
  match s.toList.splitOn '@' with
  | [name, domain] =>
    isAddressPart name && isAddressPart domain && (domain.drop 1).dropLast.contains '.'
  | _ => false

def readEmail : Field.Reader String := fun v =>
  (Field.textBetween none (some 100) v).andThen fun s =>
    if isEmail s then .good s else .fail (.patternMismatch emailPattern)

def readFullName : Field.Reader (Option String) :=
  Field.nullable (Field.textBetween none (some 100))

def readLimit : Field.Reader (Option Int) := Field.nullable (Field.integerFrom 1)

def fullNameKey : Field.Key := ⟨["fullName", "full_name"]⟩
def usageLimitKey : Field.Key := ⟨["usageLimit", "usage_limit"]⟩

structure Credentials where
  username : String
  password : String
  deriving Repr, DecidableEq

def Credentials.read (fields : List (String × Json)) : Checked Credentials :=
  (fun username password => ⟨username, password⟩)
  <$> Field.required fields "username" (Field.textBetween (some 1) none)
  <*> Field.required fields "password" (Field.textBetween (some 1) none)

def Credentials.json (c : Credentials) : Json :=
  .obj [("username", .str c.username), ("password", .str c.password)]

structure Registration where
  username : String
  email : String
  password : String
  fullName : Option String
  deriving Repr, DecidableEq

def Registration.read (fields : List (String × Json)) : Checked Registration :=
  (fun username email password fullName => ⟨username, email, password, fullName⟩)
  <$> Field.required fields "username" (Field.textBetween (some 3) (some 50))
  <*> Field.required fields "email" readEmail
  <*> Field.required fields "password" (Field.textBetween (some 6) (some 72))
  <*> Field.optional fields fullNameKey none readFullName

def Registration.fields (r : Registration) : List (String × Json) :=
  [("username", .str r.username), ("email", .str r.email), ("password", .str r.password),
    ("fullName", Json.ofText r.fullName)]

def Registration.json (r : Registration) : Json := .obj r.fields

/-- The registration of an account with a quota of its own. -/
structure SpecialRegistration extends Registration where
  usageLimit : Option Int
  deriving Repr, DecidableEq

def SpecialRegistration.read (fields : List (String × Json)) : Checked SpecialRegistration :=
  (fun registration usageLimit => { registration with usageLimit })
  <$> Registration.read fields
  <*> Field.optional fields usageLimitKey none readLimit

def SpecialRegistration.json (r : SpecialRegistration) : Json :=
  .obj (r.fields ++ [("usageLimit", Json.ofOption .int r.usageLimit)])

def readUpdate (fields : List (String × Json)) : Checked Account.Update :=
  (fun fullName role tier isActive isSpecial usageLimit =>
    { fullName, role, tier, isActive, isSpecial, usageLimit })
  <$> Field.optional fields fullNameKey none readFullName
  <*> Field.optional fields "role" none (Field.nullable Account.readRole)
  <*> Field.optional fields ⟨["subscriptionTier", "subscription_tier"]⟩ none
    (Field.nullable Account.readTier)
  <*> Field.optional fields ⟨["isActive", "is_active"]⟩ none (Field.nullable Field.boolean)
  <*> Field.optional fields ⟨["isSpecialUser", "is_special_user"]⟩ none
    (Field.nullable Field.boolean)
  <*> Field.optional fields usageLimitKey none readLimit

def updateJson (u : Account.Update) : Json :=
  .obj [("fullName", Json.ofText u.fullName), ("role", Json.ofOption (.str ·.name) u.role),
    ("subscriptionTier", Json.ofOption (.str ·.name) u.tier),
    ("isActive", Json.ofOption .bool u.isActive),
    ("isSpecialUser", Json.ofOption .bool u.isSpecial),
    ("usageLimit", Json.ofOption .int u.usageLimit)]

/-- Most files in one request. -/
def fileLimit : Nat := 100

/-- Paths and their contents: some, not too many, and no path that is blank. -/
def readFiles : Field.Reader Files
  | .obj fields =>
    (contents fields).andThen fun files =>
      if files.isEmpty then .fail (.refused "at least one file is required")
      else if fileLimit < files.length then
        .fail (.refused s!"at most {fileLimit} files per review")
      else if files.any fun f => Text.isBlankText f.1 then
        .fail (.refused "file paths must not be blank")
      else .good files
  | _ => .fail .notDictionary
where
  contents : List (String × Json) → Checked Files
    | [] => .good []
    | (path, v) :: rest =>
      (fun text files => (path, text) :: files) <$> (Field.text v).under path <*> contents rest

/-- Files to be reviewed, under a title. -/
structure ReviewOrder where
  title : String
  description : Option String
  files : Files
  deriving Repr, DecidableEq

def ReviewOrder.read (fields : List (String × Json)) : Checked ReviewOrder :=
  (fun title description files => ⟨title, description, files⟩)
  <$> Field.required fields "title" (Field.textBetween (some 3) (some 200))
  <*> Field.optional fields "description" none
    (Field.nullable (Field.textBetween none (some 1000)))
  <*> Field.required fields "files" readFiles

def ReviewOrder.json (o : ReviewOrder) : Json :=
  .obj [("title", .str o.title), ("description", Json.ofText o.description),
    ("files", .obj (o.files.map fun f => (f.1, .str f.2)))]

/-- Paths of files that are asked for: one at least, and not too many. -/
def readPaths : Field.Reader (List String)
  | .arr items =>
    if fileLimit < items.length then .fail (.listTooLong fileLimit items.length)
    else (Field.list Field.text (.arr items)).andThen fun paths =>
      if paths.isEmpty then .fail (.listTooShort 1 0) else .good paths
  | _ => .fail .notList

structure PathOrder where
  files : List String
  deriving Repr, DecidableEq

def PathOrder.read (fields : List (String × Json)) : Checked PathOrder :=
  PathOrder.mk <$> Field.required fields "files" readPaths

def PathOrder.json (o : PathOrder) : Json := .obj [("files", .arr (o.files.map .str))]

end ReviewDesk.Service

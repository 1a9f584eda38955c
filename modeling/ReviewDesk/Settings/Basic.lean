import ReviewDesk.Settings.DotEnv
import ReviewDesk.SourcePath
import ReviewDesk.Validation.Field

/-!
Settings of the service, from variables of the environment and values that are given directly.
-/
namespace ReviewDesk

structure Settings where
  databasePath : String := ".data/devmentor.sqlite"
  /-- The secret that bearer tokens are signed with. -/
  secret : String
  /-- How many seconds a token is good for. -/
  tokenLifetime : Int := 86400
  passwordRounds : Int := 12
  apiPath : String := "/api"
  logLevel : String := "INFO"
  /-- Where pages may come from that call the service from a browser. -/
  origins : List String := ["http://localhost:3000"]
  githubId : Option String := none
  githubSecret : Option String := none
  modelKey : Option String := none
  modelName : String := "claude-sonnet-4-20250514"
  modelTokens : Int := 8192
  modelTemperature : Float := 0.3
  modelTimeout : Float := 300.0

namespace Settings

def secretLength : Nat := 32

/-- The model that reviews if nothing is said. -/
def defaultModel : String := "claude-sonnet-4-20250514"

/-- Each setting with the variable that it comes from. -/
def sources : List (String × String) := [
  ("db_path", "DEVMENTOR_DB_PATH"),
  ("jwt_secret", "DEVMENTOR_JWT_SECRET"),
  ("jwt_expiration_seconds", "DEVMENTOR_JWT_EXPIRATION_SECONDS"),
  ("bcrypt_rounds", "DEVMENTOR_BCRYPT_ROUNDS"),
  ("api_prefix", "DEVMENTOR_API_PREFIX"),
  ("log_level", "DEVMENTOR_LOG_LEVEL"),
  ("cors_origins", "DEVMENTOR_CORS_ORIGINS"),
  ("github_client_id", "GITHUB_OAUTH_CLIENT_ID"),
  ("github_client_secret", "GITHUB_OAUTH_CLIENT_SECRET"),
  ("anthropic_api_key", "ANTHROPIC_API_KEY"),
  ("review_model", "DEVMENTOR_REVIEW_MODEL"),
  ("review_max_tokens", "DEVMENTOR_REVIEW_MAX_TOKENS"),
  ("review_temperature", "DEVMENTOR_REVIEW_TEMPERATURE"),
  ("llm_timeout_seconds", "DEVMENTOR_LLM_TIMEOUT_SECONDS")]

inductive Fault where
  | missingSecret
  /-- Variables, or settings given directly, whose values do not fit. -/
  | invalid (names : List String)
  | missingModelKey
  deriving Repr, DecidableEq

def Fault.message : Fault → String
  | missingSecret =>
    s!"Missing JWT secret. Set DEVMENTOR_JWT_SECRET (at least {secretLength} characters)."
  | invalid names => "Invalid configuration for: " ++ ", ".intercalate names ++ "."
  | missingModelKey => "Missing ANTHROPIC_API_KEY; reviews cannot run without a model."

/-- Both parts that signing in with GitHub needs. -/
def github? (s : Settings) : Option (String × String) :=
  match s.githubId.filter (!·.isEmpty), s.githubSecret.filter (!·.isEmpty) with
  | some id, some secret => some (id, secret)
  | _, _ => none

/-- A share between 0 and 1. What is no number passes. -/
def share : Field.Reader Float := fun v =>
  (Field.real v).andThen fun x =>
    if 1 < x then .fail (.tooLarge 1) else if x < 0 then .fail (.tooSmall 0) else .good x

def positive : Field.Reader Float := fun v =>
  (Field.real v).andThen fun x => if x ≤ 0 then .fail (.notAbove 0) else .good x

/-- Settings have no other names than these. -/
def checkNames (fields : List (String × Json)) : Checked Unit :=
  match fields.filter fun (name, _) => (sources.lookup name).isNone with
  | [] => .good ()
  | unknown => .bad (unknown.map fun (name, _) => ⟨[name], .unexpected⟩)

def read (fields : List (String × Json)) : Checked Settings :=
  (fun databasePath secret tokenLifetime passwordRounds apiPath logLevel origins githubId
      githubSecret modelKey modelName modelTokens modelTemperature modelTimeout _ =>
    { databasePath := SourcePath.normal databasePath, secret, tokenLifetime, passwordRounds,
      apiPath, logLevel, origins, githubId, githubSecret, modelKey, modelName, modelTokens,
      modelTemperature, modelTimeout })
  <$> Field.optional fields "db_path" ".data/devmentor.sqlite" Field.text
  <*> Field.required fields "jwt_secret" (Field.textBetween (some secretLength) none)
  <*> Field.optional fields "jwt_expiration_seconds" 86400 (Field.integerFrom 60)
  <*> Field.optional fields "bcrypt_rounds" 12 (Field.integerBetween 4 31)
  <*> Field.optional fields "api_prefix" "/api" Field.text
  <*> Field.optional fields "log_level" "INFO" Field.text
  <*> Field.optional fields "cors_origins" ["http://localhost:3000"] (Field.list Field.text)
  <*> Field.optional fields "github_client_id" none (Field.nullable Field.text)
  <*> Field.optional fields "github_client_secret" none (Field.nullable Field.text)
  <*> Field.optional fields "anthropic_api_key" none (Field.nullable Field.text)
  <*> Field.optional fields "review_model" defaultModel Field.text
  <*> Field.optional fields "review_max_tokens" 8192 (Field.integerFrom 1)
  <*> Field.optional fields "review_temperature" 0.3 share
  <*> Field.optional fields "llm_timeout_seconds" 300.0 positive
  <*> checkNames fields

/-- The parts between commas that are not blank. -/
def splitOrigins (text : String) : List String :=
  ((text.splitOn ",").map Text.trim).filter (!·.isEmpty)

/-- The settings that the environment names. -/
def ofEnvironment (environment : Environment) : List (String × Json) :=
  sources.filterMap fun (name, source) =>
    (environment.get? source).map fun text =>
      (name, if name == "cors_origins" then .arr ((splitOrigins text).map .str) else .str text)

/-- The variable that a setting comes from, else its own name. -/
def shownName (setting : String) : String := (sources.lookup setting).getD setting

/-- Settings from the environment; values given directly come in the place of its own. -/
def load (environment : Environment) (given : List (String × Json)) : Except Fault Settings :=
  let fields := given.foldl (fun fields (name, v) => Json.insert name v fields)
    (ofEnvironment environment)
  if (Json.lookup? fields "jwt_secret").isNone then .error .missingSecret
  else match read fields with
    | .good s => .ok s
    | .bad problems =>
      let names := problems.filterMap fun p => p.path.head?.map shownName
      .error (.invalid (names.mergeSort fun a b => decide (a ≤ b)))

def json (s : Settings) : Json :=
  .obj [("db_path", .str s.databasePath), ("jwt_secret", .str s.secret),
    ("jwt_expiration_seconds", .int s.tokenLifetime), ("bcrypt_rounds", .int s.passwordRounds),
    ("api_prefix", .str s.apiPath), ("log_level", .str s.logLevel),
    ("cors_origins", .arr (s.origins.map .str)), ("github_client_id", Json.ofText s.githubId),
    ("github_client_secret", Json.ofText s.githubSecret),
    ("anthropic_api_key", Json.ofText s.modelKey), ("review_model", .str s.modelName),
    ("review_max_tokens", .int s.modelTokens), ("review_temperature", .real s.modelTemperature),
    ("llm_timeout_seconds", .real s.modelTimeout)]

end Settings

/-- A personal token for GitHub and the variable that it comes from. -/
def Environment.githubToken? (environment : Environment) : Option (String × String) :=
  ["GITHUB_TOKEN", "GH_TOKEN"].findSome? fun name =>
    (environment.get? name).map fun token => (token, name)

/-- The key for the review model. -/
def Environment.modelKey? (environment : Environment) : Option String :=
  environment.get? "ANTHROPIC_API_KEY"

def missingGithubToken : String :=
  "Missing GitHub token. Set GITHUB_TOKEN (preferred) or GH_TOKEN."

def missingModelKey : String := "Missing model API key. Set ANTHROPIC_API_KEY."

end ReviewDesk

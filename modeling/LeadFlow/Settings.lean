import LeadFlow.Decode.Basic
import LeadFlow.Text.Blank

set_option autoImplicit false

/-!
# Settings

What an operator can set: limits and defaults of the engine, the addresses and keys of outside
services, the scheduling zone and the logging level.  Settings come as fields under upper-case
names; fields of other names are ignored, and every setting has a default.
-/

namespace LeadFlow

/-- Settings of the service. -/
structure Settings where
  appName : String
  appVersion : String
  apiPrefix : String
  debug : Bool
  environment : String
  databaseUrl : String
  databaseEcho : Bool
  batchTimeout : Float
  stepTimeout : Float
  hoursPerRecord : Float
  fallbackRetryDelay : Float
  schedulingZone : String
  newStatus : String
  tag : String
  templateId : String
  storageRetries : Int
  storageRetryDelay : Float
  executionLogLimit : Int
  nodeWindow : Int
  emailUrl : String
  emailToken : String
  emailTimeout : Float
  modelKey : String
  modelName : String
  modelMaxTokens : Int
  modelTemperature : Float
  modelTimeout : Int
  modelAttempts : Int
  modelRetryDelay : Float
  modelSystemPrompt : String
  allowedOrigins : String
  logLevel : String
  logFormat : String
  deriving Repr

namespace Settings

/-- What the model is told about its task unless the operator says otherwise. -/
def defaultSystemPrompt : String :=
  "You are a B2B outreach copywriter. You rewrite email drafts so they " ++
  "speak directly to one prospect, using only the facts provided. " ++
  "Keep the sender's intent, keep it short, and never invent details."

/-- The settings of an operator who says nothing. -/
def default : Settings where
  appName := "Lead Automation Engine"
  appVersion := "1.0.0"
  apiPrefix := "/api/v1"
  debug := false
  environment := "development"
  databaseUrl := "sqlite+aiosqlite:///./automation.db"
  databaseEcho := false
  batchTimeout := 30
  stepTimeout := 10
  hoursPerRecord := 2.2
  fallbackRetryDelay := 3600
  schedulingZone := "UTC"
  newStatus := "Contacted"
  tag := "Automated"
  templateId := "welcome"
  storageRetries := 2
  storageRetryDelay := 0.5
  executionLogLimit := 50
  nodeWindow := 200
  emailUrl := ""
  emailToken := ""
  emailTimeout := 15
  modelKey := ""
  modelName := "claude-sonnet-4-5-20250929"
  modelMaxTokens := 1024
  modelTemperature := 0.7
  modelTimeout := 30
  modelAttempts := 2
  modelRetryDelay := 1
  modelSystemPrompt := defaultSystemPrompt
  allowedOrigins := "http://localhost:3000"
  logLevel := "INFO"
  logFormat := "json"

/-- Decodes the fields of settings. -/
def ofFields (fs : Fields) : Decode.Checked Settings :=
  let word (name default : String) := Decode.defaulted fs name name default Decode.text
  let flag (name : String) (default : Bool) := Decode.defaulted fs name name default Decode.truth
  let real (name : String) (default : Float) := Decode.defaulted fs name name default Decode.number
  let whole (name : String) (default : Int) := Decode.defaulted fs name name default Decode.whole
  mk <$> word "APP_NAME" default.appName
    <*> word "APP_VERSION" default.appVersion
    <*> word "API_V1_PREFIX" default.apiPrefix
    <*> flag "DEBUG" default.debug
    <*> word "ENVIRONMENT" default.environment
    <*> word "DATABASE_URL" default.databaseUrl
    <*> flag "SQLALCHEMY_ECHO" default.databaseEcho
    <*> real "BATCH_TIMEOUT_SECONDS" default.batchTimeout
    <*> real "STEP_TIMEOUT_SECONDS" default.stepTimeout
    <*> real "TIME_SAVED_PER_RECORD_HRS" default.hoursPerRecord
    <*> real "FALLBACK_RETRY_DELAY_SECONDS" default.fallbackRetryDelay
    <*> word "SCHEDULING_TIMEZONE" default.schedulingZone
    <*> word "DEFAULT_NEW_STATUS" default.newStatus
    <*> word "DEFAULT_TAG" default.tag
    <*> word "DEFAULT_TEMPLATE_ID" default.templateId
    <*> whole "STORAGE_RETRY_ATTEMPTS" default.storageRetries
    <*> real "STORAGE_RETRY_DELAY_SECONDS" default.storageRetryDelay
    <*> whole "EXECUTION_LOG_LIMIT" default.executionLogLimit
    <*> whole "NODE_ANALYTICS_WINDOW" default.nodeWindow
    <*> word "EMAIL_API_URL" default.emailUrl
    <*> word "EMAIL_API_TOKEN" default.emailToken
    <*> real "EMAIL_TIMEOUT_SECONDS" default.emailTimeout
    <*> word "ANTHROPIC_API_KEY" default.modelKey
    <*> word "CLAUDE_MODEL" default.modelName
    <*> whole "CLAUDE_MAX_TOKENS" default.modelMaxTokens
    <*> real "CLAUDE_TEMPERATURE" default.modelTemperature
    <*> whole "CLAUDE_TIMEOUT" default.modelTimeout
    <*> whole "CLAUDE_MAX_RETRIES" default.modelAttempts
    <*> real "CLAUDE_RETRY_DELAY" default.modelRetryDelay
    <*> word "CLAUDE_SYSTEM_PROMPT" default.modelSystemPrompt
    <*> word "ALLOWED_ORIGINS" default.allowedOrigins
    <*> word "LOG_LEVEL" default.logLevel
    <*> word "LOG_FORMAT" default.logFormat

/-- Reads settings from fields. -/
def read (fs : Fields) : Outcome Settings := (ofFields fs).toOutcome Decode.malformed

/-- The settings as fields under their names. -/
def toFields (s : Settings) : Fields :=
  [("APP_NAME", .str s.appName), ("APP_VERSION", .str s.appVersion),
    ("API_V1_PREFIX", .str s.apiPrefix), ("DEBUG", .bool s.debug),
    ("ENVIRONMENT", .str s.environment), ("DATABASE_URL", .str s.databaseUrl),
    ("SQLALCHEMY_ECHO", .bool s.databaseEcho), ("BATCH_TIMEOUT_SECONDS", .float s.batchTimeout),
    ("STEP_TIMEOUT_SECONDS", .float s.stepTimeout),
    ("TIME_SAVED_PER_RECORD_HRS", .float s.hoursPerRecord),
    ("FALLBACK_RETRY_DELAY_SECONDS", .float s.fallbackRetryDelay),
    ("SCHEDULING_TIMEZONE", .str s.schedulingZone), ("DEFAULT_NEW_STATUS", .str s.newStatus),
    ("DEFAULT_TAG", .str s.tag), ("DEFAULT_TEMPLATE_ID", .str s.templateId),
    ("STORAGE_RETRY_ATTEMPTS", .int s.storageRetries),
    ("STORAGE_RETRY_DELAY_SECONDS", .float s.storageRetryDelay),
    ("EXECUTION_LOG_LIMIT", .int s.executionLogLimit),
    ("NODE_ANALYTICS_WINDOW", .int s.nodeWindow), ("EMAIL_API_URL", .str s.emailUrl),
    ("EMAIL_API_TOKEN", .str s.emailToken), ("EMAIL_TIMEOUT_SECONDS", .float s.emailTimeout),
    ("ANTHROPIC_API_KEY", .str s.modelKey), ("CLAUDE_MODEL", .str s.modelName),
    ("CLAUDE_MAX_TOKENS", .int s.modelMaxTokens), ("CLAUDE_TEMPERATURE", .float s.modelTemperature),
    ("CLAUDE_TIMEOUT", .int s.modelTimeout), ("CLAUDE_MAX_RETRIES", .int s.modelAttempts),
    ("CLAUDE_RETRY_DELAY", .float s.modelRetryDelay),
    ("CLAUDE_SYSTEM_PROMPT", .str s.modelSystemPrompt), ("ALLOWED_ORIGINS", .str s.allowedOrigins),
    ("LOG_LEVEL", .str s.logLevel), ("LOG_FORMAT", .str s.logFormat)]

/-- The service runs for development. -/
def isDevelopment (s : Settings) : Bool := s.environment == "development"

/-- The service runs in production. -/
def isProduction (s : Settings) : Bool := s.environment == "production"

/-- The origins allowed to call the service: parts between commas, trimmed, empty ones dropped. -/
def origins (s : Settings) : List String :=
  ((Text.split ',' s.allowedOrigins).map Text.trim).filter (· != "")

/-- An address for email delivery is set. -/
def deliversEmail (s : Settings) : Bool := s.emailUrl != ""

/-- What follows from the settings, under its names. -/
def derived (s : Settings) : Fields :=
  [("is_development", .bool s.isDevelopment), ("is_production", .bool s.isProduction),
    ("cors_origins_list", .list (s.origins.map .str)),
    ("email_transport_configured", .bool s.deliversEmail)]

/-- The setting, or what follows from the settings, that a value names. -/
def valueOf (s : Settings) (key : Value) : Outcome Value :=
  match key with
  | .str k =>
    match (s.toFields ++ s.derived).lookup k with
    | some v => .ok v
    | none => .error (.lacks "Settings" k)
  | v => .error (.nameless v.kindName)

end Settings

end LeadFlow

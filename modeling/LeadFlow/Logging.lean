import LeadFlow.Settings
import LeadFlow.Text.Casing
import LeadFlow.Text.Placeholder
import LeadFlow.Text.Search
import LeadFlow.Value.Part

set_option autoImplicit false

/-!
# Logging

Every event goes to one sink as a line of fields: the event, its level and logger, the fields given
with it and those bound around it.  A logger drops what is below its level; one without a level of
its own takes that of the nearest ancestor in its dotted name, and in the end that of the root.

A structured logger makes the line before it looks at the level, so that a text its arguments do not
fit is a fault.  A plain logger looks at the level first, and a text that cannot be filled costs it
no more than the line.
-/

namespace LeadFlow.Logging

/-- How much an event matters. -/
inductive Level where
  | unset
  | debug
  | info
  | warning
  | error
  | critical
  deriving DecidableEq, Repr

namespace Level

/-- Place in the order of levels. -/
def severity : Level → Nat
  | unset => 0
  | debug => 10
  | info => 20
  | warning => 30
  | error => 40
  | critical => 50

/-- The upper-case name. -/
def name : Level → String
  | unset => "NOTSET"
  | debug => "DEBUG"
  | info => "INFO"
  | warning => "WARNING"
  | error => "ERROR"
  | critical => "CRITICAL"

/-- The names a level may be set by. -/
def names : List (String × Level) :=
  [("NOTSET", unset), ("DEBUG", debug), ("INFO", info), ("WARNING", warning), ("WARN", warning),
    ("ERROR", error), ("CRITICAL", critical), ("FATAL", critical)]

/-- The names that are known but stand for no level. -/
def notLevels : List (String × Fault) :=
  [("BASIC_FORMAT", .of .value "Unknown level: '%(levelname)s:%(name)s:%(message)s'"),
    ("_STYLES", .of .type ("Level not an integer or a valid string: \x7b" ++ ", ".intercalate
      ["'%': (<class 'logging.PercentStyle'>, '%(levelname)s:%(name)s:%(message)s')",
        "'\x7b': (<class 'logging.StrFormatStyle'>, '\x7blevelname\x7d:\x7bname\x7d:\x7bmessage\x7d')",
        "'$': (<class 'logging.StringTemplateStyle'>, '$\x7blevelname\x7d:$\x7bname\x7d:$\x7bmessage\x7d')"]
      ++ "\x7d"))]

/-- The level of a name in any case; unknown names stand for `INFO`. -/
def ofName (s : String) : Outcome Level :=
  let name := Text.upper s
  match notLevels.lookup name with
  | some f => .error f
  | none => .ok ((names.lookup name).getD info)

end Level

/-- Levels of the root and of single loggers. -/
structure Levels where
  root : Level
  loggers : List (String × Level)
  deriving DecidableEq, Repr

namespace Levels

/-- Loggers of libraries that say too much. -/
def noisy : List String := ["uvicorn.access", "httpx", "httpcore", "hpack", "aiosqlite"]

/-- The levels that settings ask for. -/
def ofSettings (s : Settings) : Outcome Levels := do
  let root ← Level.ofName s.logLevel
  return {
    root
    loggers := noisy.map (·, .warning) ++
      [("sqlalchemy.engine", if s.databaseEcho then .info else .warning)] }

/-- The name of the root. -/
def rootName : String := "root"

/-- The level set for a logger itself. -/
def own (l : Levels) (logger : String) : Level :=
  if logger == rootName || logger == "" then l.root else (l.loggers.lookup logger).getD .unset

/-- A dotted name and its ancestors, nearest first. -/
def ancestry (logger : String) : List String :=
  let parts := Text.split '.' logger
  (List.range parts.length).map fun i => ".".intercalate (parts.take (parts.length - i))

/-- The level in force for a logger. -/
def effective (l : Levels) (logger : String) : Level :=
  (((ancestry logger).map l.own).find? (· != .unset)).getD l.root

/-- The logger lets events of a level through. -/
def admits (l : Levels) (logger : String) (level : Level) : Bool :=
  (l.effective logger).severity ≤ level.severity

end Levels

/-- The kinds of loggers. -/
inductive Source where
  | structured
  | plain
  deriving DecidableEq, Repr

/-- What a logger is asked to note: a level, and whether with a trace of the fault at hand. -/
structure Note where
  level : Level
  traced : Bool
  deriving DecidableEq, Repr

/-- The names of notes. -/
def Note.names : List (String × Note) :=
  [("debug", ⟨.debug, false⟩), ("info", ⟨.info, false⟩), ("warning", ⟨.warning, false⟩),
    ("warn", ⟨.warning, false⟩), ("error", ⟨.error, false⟩), ("critical", ⟨.critical, false⟩),
    ("fatal", ⟨.critical, false⟩), ("exception", ⟨.error, true⟩)]

/-- The word for a kind of loggers. -/
def Source.word (source : Source) (logger : String) : String :=
  match source with
  | .structured => "BoundLogger"
  | .plain => if logger == Levels.rootName then "RootLogger" else "Logger"

/-- The note of a name. -/
def Note.named (source : Source) (logger name : String) : Outcome Note :=
  match names.lookup name with
  | some n => .ok n
  | none => .error (.lacks (source.word logger) name)

/-- Something that happened. -/
structure Event where
  source : Source
  logger : String
  note : Note
  /-- mostly a text, which may hold placeholders for the arguments -/
  event : Value
  arguments : List Value
  fields : Fields
  deriving Repr

namespace Event

/-- The text of an event, or the event itself if it is none. -/
def filled (e : Event) : Outcome Value :=
  match e.source, e.event with
  | .structured, .str s => do return .str (← Text.place s e.arguments)
  | .structured, v =>
    if e.arguments.isEmpty then .ok v
    else if v.isNull then .error (.of .key "event")
    else
      let filling := match e.arguments with
        | [.object (_ :: _)] => "dict"
        | _ => "tuple"
      .error (.noOperation "%=" v.kindName filling)
  | .plain, v => do return .str (← Text.place v.display e.arguments)

/-- What stands for the trace: there never is a fault at hand. -/
def trace (e : Event) : Fields :=
  match e.source with
  | .structured => [("exc_info", .bool true)]
  | .plain => [("exc_info", .list [.null, .null, .null])]

/-- The fields given with an event; only structured loggers take them. -/
def given (e : Event) : Fields :=
  let own := if e.source = .structured then e.fields else []
  if e.note.traced && !own.has "exc_info" then own ++ e.trace else own

/-- The line of an event: bound fields, then its own, then what every line has. -/
def line (e : Event) (bound : Fields) : Outcome Fields := do
  let event ← e.filled
  let required := (if event.isNull then [] else [("event", event)]) ++
    [("logger", .str e.logger), ("level", .str (e.note.level.name.map Char.toLower))]
  let fields := (e.given ++ required).foldl (fun fs (k, v) => Fields.put k v fs) bound
  return fields.without ["stack_info", "timestamp"]

/-- The line of an event, if one reaches the sink. -/
def line? (e : Event) (levels : Levels) (bound : Fields) : Outcome (Option Fields) := do
  let admitted := levels.admits e.logger e.note.level
  match e.source with
  | .structured =>
    let line ← e.line bound
    return if admitted then some line else none
  | .plain => return if admitted then (e.line bound).toOption else none

/-- An event written down as fields. -/
def ofFields (source : Source) (fs : Fields) : Outcome Event := do
  let logger := if fs.textPart "logger" == "" then Levels.rootName else fs.textPart "logger"
  let note ← Note.named source logger (fs.textPart "level" "info")
  return {
    source, logger, note
    event := fs.part "event", arguments := fs.listPart "args", fields := fs.fieldsPart "kw" }

end Event

/-- The lines that reach the sink, of events written down as fields. -/
def lines (levels : Levels) (bound : Fields) (events : List (Source × Fields)) :
    Outcome (List Fields) := do
  let ls ← events.mapM fun (source, fs) => do (← Event.ofFields source fs).line? levels bound
  return ls.filterMap id

end LeadFlow.Logging

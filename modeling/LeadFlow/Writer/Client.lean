import LeadFlow.Execution.Call
import LeadFlow.Http.Exchange
import LeadFlow.Http.Header
import LeadFlow.Json.Embedded
import LeadFlow.Writer.Prompt
import LeadFlow.Writer.Usage

set_option autoImplicit false

/-!
# Writer: the writing model

Requests to the model are repeated while the host is busy, with growing waits, and every request is
accounted for.  An answer is structured by a tool that the model is told to use; a model that does
not use it may still answer with JSON in its text.
-/

namespace LeadFlow.Writer

open Http

/-- The address of the model. -/
def address : String := "https://api.anthropic.com/v1/messages"

/-- The fault of a collaborator. -/
def collaboratorFault (text : String) : Fault := .of .collaborator text

/-- A key for the model is set. -/
def isConfigured (s : Settings) : Bool := s.modelKey != ""

/-- The fault of a model without a key. -/
def notConfigured : Fault := collaboratorFault "Claude API key not configured"

/-- Why no connection to the model can be opened: there is no key, the time limit is no double, or the
key cannot stand in a header. -/
def connectFault? (s : Settings) : Option Fault :=
  if !isConfigured s then some notConfigured
  else match doubleOf s.modelTimeout with
    | .error f => some f
    | .ok _ => asciiFault? s.modelKey

/-- What is asked: messages, and perhaps instructions, tools and the choice of a tool. -/
structure Question where
  messages : Value
  system : Value
  tools : Value
  toolChoice : Value
  deriving Repr

/-- Fields for the values that say something. -/
def present (fs : Fields) : Fields := fs.filter fun f => f.2.isTruthy

/-- The request for a question. -/
def Question.request (q : Question) (s : Settings) : Request where
  url := address
  headers := [("x-api-key", s.modelKey), ("anthropic-version", "2023-06-01"),
    ("content-type", "application/json")]
  body := .object ([("model", .str s.modelName), ("max_tokens", .int s.modelMaxTokens),
      ("temperature", .float s.modelTemperature), ("messages", q.messages)] ++
    present [("system", q.system), ("tools", q.tools), ("tool_choice", q.toolChoice)])

/-- The statuses of a host that is busy. -/
def busyStatuses : List Int := [429, 500, 502, 503, 529]

/-- What an answer of the host comes to. -/
inductive Judgement where
  | answered (data : Fields) (input output : Value)
  | broken (f : Fault)
  | refused (reason : String) (busy : Bool)

/-- The fields of something that should have some. -/
def fieldsIn (v : Value) : Outcome Fields :=
  match v with
  | .object fs => .ok fs
  | v => .error (.noFields v.kindName)

/-- The input and output tokens that the data of an answer say it took. -/
def countsIn (data : Fields) : Outcome (Value × Value) := do
  let usage ← fieldsIn ((Fields.get? data "usage").getD (.object []))
  let count (key : String) := (Fields.get? usage key).getD (.int 0)
  return (count "input_tokens", count "output_tokens")

/-- Reads a successful answer: its data and the tokens it says it took. -/
def readAnswer (r : Response) : Outcome (Fields × Value × Value) := do
  let data ← fieldsIn (← r.json)
  return (data, ← countsIn data)

/-- Judges an answer of the host. -/
def judge : Outcome Response → Judgement
  | .ok r =>
    if r.status = 200 then
      match readAnswer r with
      | .ok (data, input, output) => .answered data input output
      | .error f => .broken f
    else .refused s!"API error {r.status}: {Text.take 200 r.text}" (busyStatuses.contains r.status)
  | .error f =>
    match f.kind.network? with
    | some cause => .refused (if cause.isTimeout then "Request timed out" else f.text) true
    | none => .broken f

/-- The fault after the last attempt. -/
def exhausted (attempts : Nat) (reason : String) : Fault :=
  collaboratorFault s!"Claude API failed after {attempts} attempt(s): {reason}"

/-- What the last attempt comes to, and the totals after it. -/
def concluded (attempt : Nat) (u : Usage) : Judgement → Outcome Fields × Usage
  | .broken f => (.error f, u)
  | .answered data input output =>
    let (counted, u) := u.answered input output
    (counted.map fun _ => data, u)
  | .refused reason _ => (.error (exhausted attempt reason), u.failed)

/-- Sends a request, with up to `left` further attempts after attempt number `attempt`. -/
def requestFrom (s : Settings) (r : Request) : Nat → Nat → Usage → Talk (Outcome Fields × Usage)
  | 0, attempt, u => .call r fun answer => .done (concluded attempt u (judge answer))
  | left + 1, attempt, u => .call r fun answer =>
    match judge answer with
    | .refused _ true =>
      match (RetryStrategy.forModel s).waitFor attempt with
      | .ok seconds => .pause seconds (requestFrom s r left (attempt + 1) u.failed)
      | .error f => .done (.error f, u.failed)
    | last => .done (concluded attempt u last)

/-- Asks a question. -/
def ask (s : Settings) (q : Question) (u : Usage) : Talk (Outcome Fields × Usage) :=
  match connectFault? s, (q.request s).written with
  | some f, _ | none, .error f => .done (.error f, u)
  | none, .ok r => requestFrom s r (RetryStrategy.forModel s).limit 1 u

/-! ## Connections -/

/-- A connection to the model, and what the model has been used for over it. -/
structure Connection where
  isOpen : Bool
  usage : Usage
  deriving Repr

namespace Connection

/-- A connection that was never opened. -/
def fresh : Connection := ⟨false, .zero⟩

/-- Opens the connection. -/
def opened (c : Connection) (s : Settings) : Outcome Connection :=
  match connectFault? s with
  | none => .ok { c with isOpen := true }
  | some f => .error f

/-- Closes the connection; what the model has been used for stays known. -/
def closed (c : Connection) : Connection := { c with isOpen := false }

/-- Talks over the connection, which is opened for it if it can be. -/
def talk {α : Type} (c : Connection) (s : Settings) (t : Usage → Talk (Outcome α × Usage)) :
    Talk (Outcome α × Connection) := do
  let (answer, usage) ← t c.usage
  return (answer, ⟨c.isOpen || (connectFault? s).isNone, usage⟩)

end Connection

/-! ## Structured answers -/

/-- A tool for a structured answer. -/
structure Tool where
  name : String
  description : String
  schema : Value
  deriving Repr

/-- The question whose answer is to use a tool. -/
def Tool.question (t : Tool) (prompt : String) (system : String) : Question where
  messages := .list [.object [("role", .str "user"), ("content", .str prompt)]]
  system := .str system
  tools := .list [.object [("name", .str t.name), ("description", .str t.description),
    ("input_schema", t.schema)]]
  toolChoice := .object [("type", .str "tool"), ("name", .str t.name)]

/-- The blocks of an answer. -/
def blocksOf (data : Fields) : Outcome (List Value) :=
  match (Fields.get? data "content").getD (.list []) with
  | .list vs => .ok vs
  | .str s => .ok (s.toList.map fun c => .str (String.singleton c))
  | .object fs => .ok (fs.map fun f => .str f.1)
  | v => .error (.notIterable v.kindName)

/-- The block is of a type. -/
def isOfType (type : String) (block : Fields) : Bool :=
  match Fields.get? block "type" with
  | some (.str t) => t == type
  | _ => false

/-- The block uses the tool. -/
def Tool.isUsedIn (t : Tool) (block : Fields) : Bool :=
  isOfType "tool_use" block &&
    match Fields.get? block "name" with
    | some (.str n) => n == t.name
    | _ => false

/-- The first block that uses the tool; a block before it that has no fields is a fault. -/
def Tool.firstUse (t : Tool) : List Value → Outcome (Option Fields)
  | [] => .ok none
  | v :: vs => do
    let b ← fieldsIn v
    if t.isUsedIn b then return some b else t.firstUse vs

/-- The value in the text of a block. -/
def blockValue (block : Fields) : Outcome Value := do
  Json.embeddedIn (← StepResult.needed block "text")

/-- The first value in the text blocks; blocks without one are passed over. -/
def firstEmbedded : List Fields → Outcome (Option Value)
  | [] => .ok none
  | b :: bs =>
    if isOfType "text" b then
      match blockValue b with
      | .ok v => .ok (some v)
      | .error f => if f.kind.isValueFault then firstEmbedded bs else .error f
    else firstEmbedded bs

/-- The structured answer in the blocks. -/
def structured (t : Tool) (data : Fields) : Outcome Value := do
  let blocks ← blocksOf data
  match ← t.firstUse blocks with
  | some b => return (Fields.get? b "input").getD (.object [])
  | none =>
    let blocks ← blocks.mapM fieldsIn
    match ← firstEmbedded blocks with
    | some v => return v
    | none =>
      let types := blocks.map fun b => (Fields.get? b "type").getD .null
      .error (collaboratorFault
        s!"Claude did not return structured output. Response blocks: {(Value.list types).inspect}")

/-- Asks for a structured answer. -/
def askStructured (s : Settings) (t : Tool) (prompt : String) (system : String) (u : Usage) :
    Talk (Outcome Value × Usage) := do
  let system := if system = "" then s.modelSystemPrompt else system
  let (data, u) ← ask s (t.question prompt system) u
  return (data.bind (structured t), u)

/-! ## Rewording a message -/

/-- The tool for a reworded message. -/
def emailTool : Tool :=
  ⟨"personalized_email", "Return the personalized email subject and body", answerSchema⟩

/-- A part of the answer, trimmed; empty values of any kind are no text. -/
def partText (fs : Fields) (key : String) : String :=
  let v := (Fields.get? fs key).getD .null
  if v.isTruthy then Text.trim v.display else ""

/-- The message in a structured answer. -/
def contentOf (answer : Value) : Outcome Execution.Content := do
  let fs ← fieldsIn answer
  let subject := partText fs "subject"
  let body := partText fs "body"
  if subject = "" || body = "" then
    .error (collaboratorFault "Claude returned an incomplete email")
  else return .ofTexts subject body

/-- Has a message reworded for a lead. -/
def reword (s : Settings) (lead : Lead) (brief : Fields) (u : Usage) :
    Talk (Outcome Execution.Content × Usage) := do
  let (answer, u) ← askStructured s emailTool (prompt lead brief) "" u
  return (answer.bind contentOf, u)

end LeadFlow.Writer

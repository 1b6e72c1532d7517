import LeadFlow.Service.Form
import LeadFlow.Service.Handler
import LeadFlow.Storage.Seed
import Std.Time.DateTime.Timestamp

set_option autoImplicit false

/-!
# Command line

Seeds an empty database, prints the report, and then answers requests from standard input, one JSON
object a line, until it ends.  Settings come from the environment, and so does the owner of the data
to try, `SEED_OWNER_ID`.  No host can be reached from here, so messages stay undelivered.
-/

namespace LeadFlow.Main

open Calendar Http Service Storage

/-- The time by the clock of the machine, in microseconds. -/
def clock : IO Int := do
  let passed ← Std.Time.Timestamp.now
  return wallOf ⟨1970, 1, 1⟩ .midnight + passed.toNanosecondsSinceUnixEpoch.val / 1000

/-- The settings that the environment has. -/
def environment (names : List String) : IO Fields := do
  let found ← names.mapM fun name => do
    return ((← IO.getEnv name).map fun v => (name, Value.str v)).toList
  return found.flatten

/-- The service with these settings. -/
def setup (s : Settings) : Setup Float Unit :=
  ⟨s, ⟨unreachable, unreachable⟩, numbered "row", numbered "run", numbered "req"⟩

/-- Nothing has been asked for yet. -/
def start (now : Int) : Site Float Unit :=
  ⟨.fresh now 0 ⟨Line.fresh (), Line.fresh (), .zero⟩, 0⟩

/-- The answer to a line at a time, and what lasts. -/
def answerLine (u : Setup Float Unit) (now : Int) (line : String) (site : Site Float Unit) :
    String × Site Float Unit :=
  match Json.read line with
  | .ok v =>
    let site := { site with deployment := { site.deployment with clock := now } }
    let (r, site) := u.respond (.ofFields [] (Fields.fieldsOf v)) site
    (Json.print (.object r.toFields), site)
  | .error e => (e.message line, site)

/-- Answers lines until they end. -/
partial def serve (u : Setup Float Unit) (input output : IO.FS.Stream) (site : Site Float Unit) : IO Unit := do
  let line ← input.getLine
  if line.isEmpty then return
  let (answer, site) := answerLine u (← clock) line site
  output.putStrLn answer
  output.flush
  serve u input output site

/-- Seeds and serves with these settings. -/
def run (s : Settings) (owner : String) : IO UInt32 := do
  let site := start (← clock)
  let (report, d) := site.deployment.seeded (setup s).rowId owner
  match report with
  | .error f =>
    IO.eprintln f.summary
    return 1
  | .ok lines =>
    lines.forM IO.println
    serve (setup s) (← IO.getStdin) (← IO.getStdout) { site with deployment := d }
    return 0

end LeadFlow.Main

/-- Runs the service with the settings of the environment. -/
def main : IO UInt32 := do
  let defaults := (LeadFlow.Settings.read []).toOption.map LeadFlow.Settings.toFields
  let names := (defaults.getD []).map (·.1)
  match LeadFlow.Settings.read (← LeadFlow.Main.environment names) with
  | .error f =>
    IO.eprintln f.text
    return 1
  | .ok s => LeadFlow.Main.run s ((← IO.getEnv "SEED_OWNER_ID").getD "")

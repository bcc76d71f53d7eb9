import TypedSearch.CommandLine.Run
import TypedSearch.Journal.Threshold
import TypedSearch.Settings.Dotenv
import TypedSearch.Text.Utf8

/-!
# The program

Reads the environment, runs the command line and reports. The way to the server is left to the
caller: the message is written to standard error, and its answer is expected on standard input, the
status on the first line and the text after it. What is sent does not depend on the answer, so a run
that gets none comes first and tells what to send.
-/

namespace TypedSearch.CommandLine

open Settings

def processVariables : IO Variables := do
  let names := [urlVariable, timeoutVariable, Journal.thresholdVariable]
  let values ← names.mapM fun n ↦ do return (n, ← IO.getEnv n)
  return values.filterMap fun p ↦ p.2.map fun v ↦ (p.1, v)

def fileVariables : IO Variables := do
  match ← (IO.FS.readBinFile ".env").toBaseIO with
  | .ok bytes => return Dotenv.read (Text.Utf8.salvage bytes.toList)
  | .error _ => return []

def playing (m : Http.Message) (s : Script Http.Message Http.Outcome) :
    Http.Outcome × Script Http.Message Http.Outcome := s.next .silence m

def messageText (m : Http.Message) : String :=
  m.method ++ " " ++ m.url ++ "\n" ++ match m.payload with
    | .params ps => String.join (ps.map fun p ↦ p.1 ++ "=" ++ p.2 ++ "\n")
    | .body text contentType => contentType ++ "\n" ++ text ++ "\n"

/-- The answer to a message, from whoever carried it. A status that means an error fails it. -/
def exchange (m : Http.Message) : IO Http.Outcome := do
  (← IO.getStderr).putStr (messageText m)
  let stdin ← IO.getStdin
  let status ← stdin.getLine
  let text ← stdin.readToEnd
  match Whole.readPadded status with
  | some n =>
    let reason := String.ofList (Whole.write n) ++ " Error"
    return .answer text (if 400 ≤ n && n < 600 then some (.http reason (some n)) else none)
  | none => return .failure (.request "no answer")

end TypedSearch.CommandLine

open TypedSearch TypedSearch.CommandLine in
/-- Runs the command line; no document types are at hand unless a program of its own brings them. -/
def main (words : List String) : IO UInt32 := do
  let environment ← Settings.Environment.mk <$> processVariables <*> fileVariables
  let go (answers : List Http.Outcome) := run ⟨[], []⟩ environment playing (.ofList answers) words
  let (_, trial) := go []
  let answers ← trial.asked.mapM exchange
  let (report, _) := go answers
  let level := (environment.process.lookup Journal.thresholdVariable).getD "INFO"
  match Journal.thresholdNamed level with
  | .ok least => (Journal.linesFrom least report.notes).forM (← IO.getStderr).putStrLn
  | .error f => (← IO.getStderr).putStrLn f.message
  (← IO.getStdout).putStr report.standardOutput
  return report.exitCode.toUInt32

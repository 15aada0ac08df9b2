import StationWatch.Command.Run
import StationWatch.EnvFile

/-!
# The program

The program runs its command line against replies that it reads from standard input, one a line: a
status code, a space and the body.  What it does is written to standard error.
-/

namespace StationWatch

/-- The names of the settings that are looked for in the environment. -/
def settingNames : List String :=
  ["BASE_URL", "REFRESH_INTERVAL", "TIMEOUT", "RETRY_ATTEMPTS", "USERNAME", "PASSWORD", "LOCATION",
   "STATION_NAME", "USE_NEAREST_STATION", "MEASUREMENTS"].map (settingStem ++ ·) ++
    [EnvFile.offSwitch]

/-- A line of standard input as a reply. -/
def replyOfLine (line : String) : Reply :=
  let cs := line.toList
  let code := cs.takeWhile (· != ' ')
  match Decimal.integer? code with
  | .ok status => .response ⟨status, String.ofList (cs.drop (code.length + 1)), ""⟩
  | .error _ => .failure ⟨.connection, some line⟩

/-- What a file of settings adds to an environment, if there is one. -/
def addFile (file : Option String) (env : Environment) : Except Command.FileFault Environment :=
  match file with
  | none => .ok env
  | some text => (EnvFile.load text env).mapError fun refusal => ⟨refusal.message⟩

/-- A text as it is written out; a half is written by its code point. -/
def shown (t : RawText) : String := String.ofList (t.spell (fun c => [c]) Text.escapeHalf)

/-- An entry of the journal as a line. -/
def lineOfEvent : Event → String
  | .logged entry => entry.level.text ++ " " ++ entry.source.name ++ ": " ++ shown entry.message
  | .request r => "GET " ++ shown r.url ++ " within " ++ Decimal.text r.timeout ++ " s"
  | .pause seconds => "pause " ++ Decimal.text seconds ++ " s"
  | .wait seconds => "wait " ++ Decimal.text seconds ++ " s"
  | .closed => "closed"
  | _ => ""

end StationWatch

open StationWatch

/-- The lines of a stream up to its end. -/
partial def readLines (stream : IO.FS.Stream) : IO (List String) := do
  let line ← stream.getLine
  if line.isEmpty then return []
  let rest ← readLines stream
  return String.ofList (line.toList.filter (· != '\n')) :: rest

/-- The settings in the environment of the process. -/
def readEnvironment : IO Environment := do
  let mut found : Environment := []
  for name in settingNames do
    match ← IO.getEnv name with
    | some text => found := found.set name text
    | none => pure ()
  return found

/-- The program. -/
def main (args : List String) : IO UInt32 := do
  let environment ← readEnvironment
  let file ← try some <$> IO.FS.readFile ".env" catch _ => pure none
  let replies := (← readLines (← IO.getStdin)).map replyOfLine
  match Command.run (args.map .whole)
      { environment, loadFile := addFile file, replies, waits := replies.length } with
  | .error crash =>
    IO.eprintln (shown crash.message)
    return 1
  | .ok result =>
    IO.print result.output
    for event in result.events do
      let line := lineOfEvent event
      if !line.isEmpty then IO.eprintln line
    return UInt32.ofNat result.exitCode

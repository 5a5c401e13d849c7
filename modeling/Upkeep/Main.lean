import Upkeep.Config.Load
import Upkeep.Gateway.Basic
import Upkeep.Gateway.Record
import Upkeep.Json.Writer
import Upkeep.Startup

/-! The command line. `upkeep [FILE]` takes its settings from the file, from `.env` and from
variables, starts up, and serves the requests on the standard input, a JSON object on each
line with the millisecond at which the request comes. -/
namespace Upkeep.Main

def readText? (path : String) : IO (Option String) := do
  try
    return some (← IO.FS.readFile path)
  catch _ =>
    return none

/-- The file at a path, with the extension that its name has. -/
def file? (path : String) : IO (Option Document.File) := do
  return (← readText? path).map fun text => ⟨((path.splitOn ".").getLast?).getD "", text⟩

def environment : IO (Table String) := do
  let mut env : Table String := {}
  for name in Config.variableNames do
    if let some value ← IO.getEnv name then env := env.insert name value
  return match ← readText? ".env" with
    | some text => Dotenv.extend env text
    | none => env

/-- New random words. -/
def randomIds : IO Ids := do
  let mut listed := []
  for _ in [0:8] do
    let bytes ← IO.getRandomBytes 4
    listed := bytes.data.foldl (fun w b => w * 256 + b.toUInt32) 0 :: listed
  return { listed }

def message : StartupFault → String
  | .seedUnreadable => "the seed cannot be read"
  | .seeding cause => cause.message
  | .settings fault => fault.message

partial def serve (c : Config) (input output : IO.FS.Stream) (d : Deployment) : IO Unit := do
  let line ← input.getLine
  if line.isEmpty then return
  match (Json.readPlain line).bind Gateway.Arrival.ofJson? with
  | none => serve c input output d
  | some arrival =>
    let now := max d.now arrival.time
    let (response, d) := Gateway.handle c arrival.request { d with now, ids := ← randomIds }
    output.putStrLn response.json.write
    output.flush
    serve c input output d

def run (args : List String) : IO UInt32 := do
  let fail := fun (text : String) => do
    IO.eprintln text
    return 1
  let file ← match args.head? with
    | some path => file? path
    | none => pure none
  match Config.load? file (← environment) with
  | none => fail "the settings cannot be read"
  | some c =>
    if let some fault := c.check then
      fail ("Configuration validation failed:\n\n" ++ fault.message)
    else
      let seed ← match c.inventory.seedPath with
        | some path => file? path
        | none => pure none
      let around : Surroundings :=
        { file? := fun _ => seed, server := fun _ => .error "no such server" }
      match Deployment.start around c {} 0 with
      | .error fault => fail (message fault)
      | .ok d =>
        serve c (← IO.getStdin) (← IO.getStdout) d
        return 0

end Upkeep.Main

def main (args : List String) : IO UInt32 := Upkeep.Main.run args

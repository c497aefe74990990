import AdmissionForecast.Command.Run
import Std.Time.DateTime.Timestamp

/-! # The command line

The outer layer: files, the clock, the environment and the standard streams. What to do with
them is decided by `Command.parse` and `Command.run`.
-/

namespace AdmissionForecast.Program

/-- The reason of a failure that the system reports. Some of its calls give the number of the
error with the sign changed. -/
def fileError : IO.Error → FileError
  | .noFileOrDirectory .. => .notFound
  | .inappropriateType _ code details =>
    match min code (0 - code) with
    | 20 => .notDirectory
    | 21 => .isDirectory
    | _ => .other details
  | e => .other (toString e)

/-- An action on files with its failure as a result. -/
def attempt {α : Type} (action : IO α) : IO (Except FileError α) := do
  return (← action.toBaseIO).mapError fileError

def readText (path : String) : IO (Except FileError String) := do
  match ← attempt (IO.FS.readBinFile path) with
  | .error e => return .error e
  | .ok bytes => return (String.fromUTF8? bytes).elim (.error .notText) .ok

/-- Whether there is something at a path, readable or not. -/
def exists? (path : String) : IO Bool := do
  match ← attempt (IO.FS.Handle.mk path .read) with
  | .error .notFound | .error .notDirectory => return false
  | _ => return true

def storage : Storage IO where
  exists? := exists?
  read := readText
  write path text := attempt (IO.FS.writeFile path text)
  rename source target := attempt (IO.FS.rename source target)

def now : IO Timestamp := do
  let t ← Std.Time.Timestamp.now
  let nanos := t.toNanosecondsSinceUnixEpoch.toInt.toNat
  return .ofClock (nanos / 1000000000) (nanos % 1000000000)

/-- So many random bytes in hexadecimal. -/
def randomHex (n : USize) : IO String := do
  let bytes ← IO.getRandomBytes n
  return String.ofList (bytes.toList.flatMap fun b =>
    [Nat.digitChar (b.toNat / 16), Nat.digitChar (b.toNat % 16)])

/-- The first eight characters of the machine's own identity, of a digest of the host's name,
or of nothing but chance. -/
def hostId : IO String := do
  if let .ok text ← readText "/etc/machine-id" then
    let id := Text.trim text.toList
    if 8 ≤ id.length && id.all fun c => c.toNat < 0x80 then
      return "host-" ++ String.ofList (id.take 8)
  match ← IO.getEnv "HOSTNAME" with
  | some name => return "host-" ++ String.ofList ((Sha256.hexDigest name).toList.take 8)
  | none => return "host-" ++ (← randomHex 4)

def environmentNames : List String :=
  ["HOME", "XDG_CONFIG_HOME", "PSR_CONFIG", "PSR_CONFIG_DIR", "PSR_LOG", "PSR_LOG_FORMAT",
    "PSR_LOG_TIMESTAMPS", "RUST_LOG"]

def environment : IO Environment := do
  let given ← environmentNames.filterMapM fun name => do return (← IO.getEnv name).map (name, ·)
  return fun name => given.lookup name

def usage : String :=
  "\n".intercalate
    ["Usage: psr-core [OPTIONS] <COMMAND>",
      "",
      "Commands:",
      "  evaluate --snapshot <FILE> [--status <FILE>] [--write-status <FILE>]",
      "  resolve  --snapshot <FILE> [--namespace <NAME>]",
      "  check",
      "  help     [COMMAND]",
      "",
      "Options:",
      "      --config <FILE>        configuration file",
      "  -f, --format <FORMAT>      json, human or summary",
      "      --log-format <FORMAT>  human or jsonl",
      "  -v, --verbose              log more; may be given twice",
      "  -q, --quiet                log errors only",
      "  -h, --help                 show this text",
      "  -V, --version              show the version"]

def run (i : Command.Invocation) : IO UInt32 := do
  let env ← environment
  let context : Log.Context := ⟨"run-" ++ (← randomHex 6), ← hostId⟩
  let done ← Command.run { storage, now, environment := env, context } i
  for line in Command.errorLines env i (← now).microsecondText done.steps do
    IO.eprintln line
  IO.print done.result.output
  return .ofNat done.result.code.toNat

end AdmissionForecast.Program

open AdmissionForecast in
def main (args : List String) : IO UInt32 := do
  match Command.parse args with
  | .run i => Program.run i
  | .help =>
    IO.println Program.usage
    return .ofNat ExitCode.clean.toNat
  | .version command =>
    IO.println (Command.versionText command)
    return .ofNat ExitCode.clean.toNat
  | .usage =>
    IO.eprintln Program.usage
    return .ofNat ExitCode.argumentError.toNat

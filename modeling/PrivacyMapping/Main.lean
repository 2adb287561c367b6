import PrivacyMapping.Command.Program
import Std.Time.DateTime.Timestamp

/-!
# The executable

Reads the files that a request names, lets the program decide what is to be done, and does it.
-/

namespace PrivacyMapping.Command

def faultOf : IO.Error → FileFault
  | .noFileOrDirectory .. => .notFound
  | .alreadyExists .. => .exists
  | .inappropriateType _ code _ => if code = 21 then .isDirectory else .notDirectory
  | e => .other (toString e)

def readFile (path : String) : IO (Except FileFault ByteArray) := do
  match ← (IO.FS.readBinFile path).toBaseIO with
  | .ok content => pure (.ok content)
  | .error e => pure (.error (faultOf e))

def readFiles (paths : List String) : IO FileReader := do
  let contents ← paths.mapM fun path => return (path, ← readFile path)
  pure fun path => (Entries.get? contents path).getD (.error .notFound)

/-- Write a file, making the directories on the way to it. -/
def writeFile (path text : String) : IO (Except Error Unit) := do
  if let some parent := FilePath.parent? path then
    if let .error e ← (IO.FS.createDirAll parent).toBaseIO then
      return .error (.noDirectory parent (faultOf e))
  match ← (IO.FS.writeFile path text).toBaseIO with
  | .ok () => pure (.ok ())
  | .error e => pure (.error (.unwritable path (faultOf e)))

def currentTime : IO Timestamp := do
  let now ← Std.Time.Timestamp.now
  match Timestamp.ofClock now.toSecondsSinceUnixEpoch.val.toNat with
  | .ok time => pure time
  | .error fault => throw (IO.userError fault.message)

def perform (request : Line.Request) : IO (Except Error Effect) := do
  let read ← readFiles (request.config.toList ++ request.command.paths)
  match Program.requestEffect read (← currentTime) request with
  | .error e => pure (.error e)
  | .ok effect =>
    match effect.file with
    | none => pure (.ok effect)
    | some (path, text) => return (← writeFile path text).map fun _ => effect

end PrivacyMapping.Command

open PrivacyMapping.Command in
def main (arguments : List String) : IO UInt32 := do
  match Line.parse arguments with
  | .error stop =>
    IO.print (Program.stopText stop)
    if stop = .usage then IO.eprint Program.usageText
    pure (UInt32.ofNat (Program.stopCode stop))
  | .ok request =>
    match ← perform request with
    | .error e =>
      IO.eprintln e.message
      pure (UInt32.ofNat failureCode)
    | .ok effect =>
      IO.print effect.printed
      pure (UInt32.ofNat effect.status.code)

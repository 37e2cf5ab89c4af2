import ViewPoints.CommandLine.Program

/-!
The program on the files of the system.
-/

namespace ViewPoints.CommandLine

def osError : IO.Error → OsError
  | .alreadyExists _ code text | .invalidArgument _ code text | .permissionDenied _ code text
  | .resourceExhausted _ code text | .inappropriateType _ code text | .noSuchThing _ code text
  | .interrupted _ code text | .noFileOrDirectory _ code text | .otherError code text
  | .resourceBusy code text | .resourceVanished code text | .unsupportedOperation code text
  | .hardwareFault code text | .unsatisfiedConstraints code text | .illegalOperation code text
  | .protocolError code text | .timeExpired code text => ⟨code.toNat, text⟩
  | .unexpectedEof => ⟨0, "unexpected end of file"⟩
  | .userError text => ⟨0, text⟩

def attempt {α : Type} (act : IO α) : IO (Except OsError α) := do
  match ← act.toBaseIO with
  | .ok a => return .ok a
  | .error e => return .error (osError e)

def systemAccess : FileAccess IO where
  openFile path := do
    match ← attempt (IO.FS.Handle.mk path .read) with
    | .error e => return .error e
    | .ok handle =>
      match ← attempt handle.readBinToEnd with
      | .error e => return .ok { bytes := .empty, error := some e }
      | .ok b => return .ok { bytes := b }
  create path := do
    match ← attempt (IO.FS.Handle.mk path .write) with
    | .error e => return .error e
    | .ok _ => return .ok ()
  fill path text := attempt (IO.FS.writeFile path text)

end ViewPoints.CommandLine

open ViewPoints.CommandLine in
def main (args : List String) : IO UInt32 := do
  let out ← IO.getStdout
  let err ← IO.getStderr
  let report ← run systemAccess (← out.isTty) args
  for d in report.warnings do
    err.putStrLn (" WARN " ++ d.message)
  err.putStr report.stderr
  match ← attempt (out.putStr report.stdout) with
  | .ok () => return report.exitCode.toUInt32
  | .error e =>
    err.putStrLn ("failed printing to stdout: " ++ e.description)
    return 101

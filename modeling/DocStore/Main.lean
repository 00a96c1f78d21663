import DocStore.Cli.Run
import Std.Time
/-!
# The command line

The program itself: it reads its arguments and the environment variables its options fall back
on, runs the command on the real machine (files, the wall clock, random ids), prints what the
command printed and exits with its status. All decisions are made by `Cli.execute`.
-/

namespace DocStore

namespace Cli

/-- The file-system failure a system error reports, by its error number where one says more
than the kind. -/
def ioFailureOf : IO.Error → IoFailure
  | .noFileOrDirectory .. => .notFound
  | .alreadyExists .. => .alreadyExists
  | .permissionDenied .. => .permissionDenied
  | .inappropriateType _ 20 _ => .notADirectory
  | .inappropriateType _ 21 _ => .isADirectory
  | .otherError 20 _ => .notADirectory
  | .otherError 21 _ => .isADirectory
  | e => .other (toString e)

/-- Run a file-system action, keeping its failure as a value. -/
def attempt {α : Type} (act : IO α) : IO (Except IoFailure α) := do
  try return .ok (← act) catch e => return .error (ioFailureOf e)

/-- The real machine. -/
instance : Machine IO where
  readFile p := attempt do return (← IO.FS.readBinFile p).toList
  writeFile p bytes := attempt (IO.FS.writeBinFile p (ByteArray.mk bytes.toArray))
  createDirs p := attempt (IO.FS.createDirAll p)
  removeFile p := attempt (IO.FS.removeFile p)
  isPresent p := do
    match ← attempt (IO.FS.Handle.mk p .read) with
    | .ok _ => return true
    | .error e => return !(e = .notFound ∨ e = .notADirectory)
  clock := do
    let ns : Int := (← Std.Time.Timestamp.now).toNanosecondsSinceUnixEpoch.val
    return ⟨ns / 1000000000, (ns % 1000000000).toNat⟩
  freshId := do return uuidText (← IO.getRandomBytes 16).toList

end Cli

end DocStore

open DocStore in
/-- Run the program with its arguments and exit with the command's status. -/
def main (args : List String) : IO UInt32 := do
  let env ← Cli.Command.environmentNames.filterMapM (fun n => do
    return (← IO.getEnv n).map (fun v => (n, v)))
  let exit ← (Cli.execute env args : IO Cli.Exit)
  IO.print exit.stdout
  IO.eprint exit.stderr
  return exit.status.toUInt32

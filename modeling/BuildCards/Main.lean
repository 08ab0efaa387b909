import BuildCards.Cli.Run
import BuildCards.IdSupply.Uuid

/-!
# The program

Fetches what a run needs from the system and shows what it gives.
-/

open BuildCards BuildCards.Cli

/-- Why a file or standard input could not be read. -/
def reasonOf (e : IO.Error) : Text :=
  match e with
  | .noFileOrDirectory _ _ _ => "No such file or directory (os error 2)".toList
  | .invalidArgument _ 36 _ => "File name too long (os error 36)".toList
  | .permissionDenied _ _ _ => "Permission denied (os error 13)".toList
  | .inappropriateType _ code _ =>
    if code = 21 then "Is a directory (os error 21)".toList
    else "Not a directory (os error 20)".toList
  | e => (toString e).toList

/-- The bytes of a file, or of standard input if none is named. -/
def fetch (file : Option Text) : IO (Except Text ByteArray) := do
  try
    match file with
    | none => return .ok (← (← IO.getStdin).readBinToEnd)
    | some path => return .ok (← IO.FS.readBinFile (String.ofList path))
  catch e => return .error (reasonOf e)

/-- A number from random bytes. -/
def randomSeed : IO Nat := do
  let bytes ← IO.getRandomBytes 16
  return bytes.toList.foldl (fun n b => n * 256 + b.toNat) 0

/-- The input of a call; only one that reads cards has any. -/
def inputOf : Invocation → IO (Except Text ByteArray)
  | .process o => if o.stdin && o.file.isSome then return .ok .empty else fetch o.file
  | _ => return .ok .empty

/-- Runs the program on its arguments. -/
def main (arguments : List String) : IO UInt32 := do
  let invocation := Invocation.ofArguments (arguments.map String.toList)
  let bytes ← inputOf invocation
  let logSetting := (← IO.getEnv "RUST_LOG").map String.toList
  let env : Environment := ⟨fun _ => bytes, logSetting, IdSupply.uuids (← randomSeed)⟩
  let outcome := invocation.run env
  IO.print (String.ofList outcome.stdout)
  IO.eprint (String.ofList outcome.stderr)
  return outcome.exitCode.toNat.toUInt32

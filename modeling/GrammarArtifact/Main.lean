import GrammarArtifact.Command.Run

/-! # The program -/

namespace GrammarArtifact.Command

def readFile (path : String) : IO (Except FileProblem ByteArray) := do
  try
    return .ok (← IO.FS.readBinFile path)
  catch
    | .noFileOrDirectory .. => return .error .missing
    | .inappropriateType _ 21 _ => return .error .isDirectory
    | .inappropriateType _ 20 _ => return .error .notDirectory
    | e => return .error (.other (toString e))

end GrammarArtifact.Command

open GrammarArtifact Command

def main (args : List String) : IO UInt32 := do
  let path := ((Options.parse args).bind Options.grammar).getD ""
  let content ← readFile path
  match run (fun _ => content) (← IO.getEnv "RUST_LOG") args with
  | .error e =>
    IO.eprint e.text
    return e.exitCode.toUInt32
  | .ok output =>
    for event in output.log do IO.eprintln event.line
    IO.print output.text
    return 0

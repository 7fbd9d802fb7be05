import Dispatch.Client.Run

/-!
# The command line program

The client, with the files and the environment of the machine that it runs on. It comes without
means to reach a server, so that each request fails as one to which nothing came back.
-/

namespace Dispatch.Client.Machine

/-- The content of a file of the machine. -/
def readFile (path : String) : IO (Except FileError String) := do
  try
    match String.fromUTF8? (← IO.FS.readBinFile path) with
    | some content => return .ok content
    | none => return .error .notText
  catch
    | .noFileOrDirectory _ _ _ => return .error .missing
    | .inappropriateType _ 20 _ => return .error .notDirectory
    | .inappropriateType _ _ _ => return .error .isDirectory
    | e => return .error (.other (toString e))

/-- What the machine answers. -/
def answer : (need : Need) → IO need.Answer
  | .file path => readFile path
  | .reply request => return .error (.unanswered request.url ["no means to reach a server"])

/-- The values of the variables that the command line depends on. -/
def environment : IO (String → Option String) := do
  let values ← Invocation.variableNames.mapM fun name => return (name, ← IO.getEnv name)
  return fun name => (values.lookup name).bind id

end Dispatch.Client.Machine

/-- Carries out the command that the words tell. -/
def main (words : List String) : IO UInt32 := do
  let environment ← Dispatch.Client.Machine.environment
  let report ← (Dispatch.Client.run environment words).hold Dispatch.Client.Machine.answer
  IO.print report.out
  IO.eprint report.err
  return report.exitCode

import Dispatch.Client.Remote
import Dispatch.Client.Validation

/-!
# Carrying out commands

## Main definitions

* `Client.perform`: what the client does for a command.
* `Client.run`: what the client does for the words of a command line.
-/

namespace Dispatch.Client

/-- The text that shows a reply of the server, with the members of objects in order. -/
def shown (j : Json) : String := j.canonical.pretty ++ "\n"

/-- What the client **does for a command**, and what it shows. -/
def perform (i : Invocation) : Work String :=
  match i.command with
  | .validate path repositoryConfig => validate path repositoryConfig
  | .submit submission => return shown (← submit i.api submission)
  | .cancel run => return shown (← cancel i.api run)
  | .listQueue repository page perPage =>
    return shown (← listQueue i.api repository page perPage)
  | .countQueue repository => return shown (← countQueue i.api repository)

/-- What the client **does for the words of a command line**. -/
def run (environment : String → Option String) (words : List String) :
    Dialogue Need Need.Answer Report :=
  match Invocation.read environment words with
  | .error (.help text) => .done (.success text)
  | .error .misuse => .done .misuse
  | .ok invocation => (perform invocation).run.bind fun
    | .ok out => .done (.success out)
    | .error failure => .done (.ofFailure failure)

end Dispatch.Client

import Dispatch.Console.Grammar

/-!
# Help

A command explains itself on request: what it is for, how it is called, and what it can be given.

## Main definitions

* `Console.help`: the explanation of a command.
-/

namespace Dispatch.Console

namespace Parameter

/-- How a parameter is written in a call. -/
def spelling (p : Parameter) : String :=
  match p.manner with
  | .switch => "--" ++ p.name
  | .option => "--" ++ p.name ++ " <" ++ p.placeholder ++ ">"
  | .argument =>
    if p.required then "<" ++ p.placeholder ++ ">" else "[" ++ p.placeholder ++ "]"

/-- What a parameter is about, the variable that can give it, and its value if none is given. -/
def remarks (environment : String → Option String) (p : Parameter) : List String :=
  (if p.about.isEmpty then [] else [p.about]) ++
    p.environment.toList.map (fun name =>
      "[env: " ++ name ++ "=" ++ (environment name).getD "" ++ "]") ++
    p.fallback.toList.map fun value => "[default: " ++ value ++ "]"

/-- The explanation of a parameter in one line. -/
def explanation (environment : String → Option String) (p : Parameter) : String :=
  " ".intercalate (p.remarks environment)

end Parameter

/-- Two columns with two blanks before each. -/
def columns (rows : List (String × String)) : String :=
  let width := (rows.map (·.1.length)).foldl max 0
  String.join (rows.map fun (left, right) =>
    "  " ++ left ++ "".pushn ' ' (width - left.length) ++ "  " ++ right ++ "\n")

/-- A part of the explanation under a heading, if there is anything to say. -/
def block (heading : String) (rows : List (String × String)) : List String :=
  if rows.isEmpty then [] else [heading ++ ":\n" ++ columns rows]

/-- How a command is called. -/
def usage (path : List String) (c : Command) : String :=
  let required := c.named.filter (·.required)
  let words := path ++ (if c.named.all (·.required) then [] else ["[OPTIONS]"]) ++
    (required ++ c.placed).map (·.spelling) ++ if c.subcommands.isEmpty then [] else ["<COMMAND>"]
  "Usage: " ++ " ".intercalate words ++ "\n"

/-- The commands below a command, of which one explains the others. -/
def commandRows (c : Command) : List (String × String) :=
  if c.subcommands.isEmpty then []
  else c.subcommands.map (fun s => (s.name, s.about)) ++
    [("help", "Print this message or the help of the given subcommand(s)")]

/-- The parameters that are given by their names, with room for a short name. -/
def optionRows (environment : String → Option String) (c : Command) : List (String × String) :=
  c.named.map (fun p => ("    " ++ p.spelling, p.explanation environment)) ++
    [("-h, --help", "Print help")]

/-- The **explanation** of a command that is called by a sequence of names. -/
def help (environment : String → Option String) (path : List String) (c : Command) : String :=
  "\n".intercalate ([c.about ++ "\n", usage path c] ++ block "Commands" (commandRows c) ++
    block "Arguments" (c.placed.map fun p => (p.spelling, p.explanation environment)) ++
    block "Options" (optionRows environment c))

end Dispatch.Console

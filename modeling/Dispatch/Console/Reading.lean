import Dispatch.Console.Help

/-!
# Reading command lines

The words of a command line are read from left to right, and the first one that is wrong or asks
for help decides. The value of an option that is a word of its own is looked at only when the next
parameter comes or the words end.

## Main definitions

* `Console.Ending`: why no command is carried out.
* `Console.Level`: what a command has been given.
* `Console.read`: what the words of a command line say.
-/

namespace Dispatch.Console

/-- Why **no command is carried out**. -/
inductive Ending where
  /-- The words ask for an explanation. -/
  | help (text : String)
  /-- The words make no sense. -/
  | misuse
deriving DecidableEq, Repr

/-- What a command has been **given**: the values of its parameters by their names. -/
structure Level where
  command : String
  values : List (String × String)

namespace Level

/-- The value of a parameter. -/
def value? (l : Level) (name : String) : Option String := l.values.lookup name

/-- The switch has been given. -/
def isOn (l : Level) (name : String) : Bool := l.value? name = some "true"

end Level

/-- The kinds of **words**. -/
inductive Word where
  /-- After it all words are arguments. -/
  | divider
  /-- The name of a parameter, and a value within the same word. -/
  | named (name : String) (value : Option String)
  /-- One-letter names. -/
  | letters (names : List Char)
  | plain
deriving DecidableEq, Repr

/-- The kind of a word. -/
def Word.of (word : String) : Word :=
  match word.toList with
  | ['-', '-'] => divider
  | '-' :: '-' :: cs =>
    let name := cs.takeWhile (· ≠ '=')
    let value := cs.drop name.length
    named (String.ofList name)
      (if value.isEmpty then none else some (String.ofList (value.drop 1)))
  | '-' :: c :: cs => letters (c :: cs)
  | _ => plain

/-- How far the words of one command have been read. -/
structure Progress where
  given : List (String × String)
  /-- An option that has been named, and its value if it has come. -/
  pending : Option (Parameter × Option String)
  /-- Only arguments may follow. -/
  divided : Bool

namespace Progress

/-- Nothing has been read. -/
def start : Progress := ⟨[], none, false⟩

/-- A parameter is given, which must not happen twice. -/
def give (s : Progress) (p : Parameter) (value : String) : Except Ending Progress :=
  if (s.given.lookup p.name).isSome || !p.accepts value then .error .misuse
  else .ok { s with given := s.given ++ [(p.name, value)] }

/-- The option that was named last is given its value. -/
def settle (s : Progress) : Except Ending Progress :=
  match s.pending with
  | none => .ok s
  | some (p, some value) => { s with pending := none }.give p value
  | some (_, none) => .error .misuse

/-- A word is a value of the option that was named last. -/
def awaits (s : Progress) : Bool := s.pending.any (·.2.isNone) && !s.divided

/-- The word is the value that is awaited. -/
def fulfil (s : Progress) (word : String) : Progress :=
  { s with pending := s.pending.map fun (p, _) => (p, some word) }

/-- The next argument is given. -/
def place (s : Progress) (c : Command) (word : String) : Except Ending Progress := do
  let s ← s.settle
  match c.placed.find? fun p => (s.given.lookup p.name).isNone with
  | some p => s.give p word
  | none => throw .misuse

/-- A parameter is named, perhaps with a value. -/
def name (environment : String → Option String) (path : List String) (c : Command)
    (s : Progress) (name : String) (value : Option String) : Except Ending Progress := do
  if name = "help" then
    let _ ← s.settle
    throw (if value.isSome then .misuse else .help (help environment path c))
  match c.named.find? (·.name = name) with
  | none => throw .misuse
  | some p =>
    let s ← s.settle
    match p.manner, value with
    | .switch, some _ => throw .misuse
    | .switch, none => s.give p "true"
    | _, some value => s.give p value
    | _, none => return { s with pending := some (p, none) }

/-- The value of a parameter that no word has given. -/
def fill (environment : String → Option String) (s : Progress) (p : Parameter) :
    Except Ending Progress :=
  if (s.given.lookup p.name).isSome then .ok s
  else match p.environment.bind environment with
    | some value => s.give p value
    | none =>
      match p.fallback with
      | some value => .ok { s with given := s.given ++ [(p.name, value)] }
      | none => if p.required then .error .misuse else .ok s

/-- What the command has been given when its words have ended. -/
def finish (environment : String → Option String) (c : Command) (s : Progress) :
    Except Ending Level := do
  let s ← s.settle
  let s ← c.parameters.foldlM (fill environment) s
  return ⟨c.name, s.given⟩

end Progress

/-- The command below a command with a name. -/
def Command.below? (c : Command) (name : String) : Option Command :=
  c.subcommands.find? (·.name = name)

/-- The explanation of the command that names lead to. -/
def helpOn (environment : String → Option String) (path : List String) (c : Command) :
    List String → Ending
  | [] => .help (help environment path c)
  | name :: rest =>
    match c.below? name with
    | some below => helpOn environment (path ++ [name]) below rest
    | none => .misuse

/-- Reads the words of a command and of the commands below it. -/
def readFrom (environment : String → Option String) (path : List String) (c : Command)
    (s : Progress) : List String → Except Ending (List Level)
  | [] => do
    let level ← s.finish environment c
    if c.subcommands.isEmpty then return [level] else throw .misuse
  | word :: rest => do
    if s.divided then readFrom environment path c (← s.place c word) rest
    else
      match Word.of word with
      | .divider => readFrom environment path c { s with divided := true } rest
      | .named name value => readFrom environment path c (← s.name environment path c name value) rest
      | .letters names =>
        let _ ← s.settle
        throw (if names.head? = some 'h' then .help (help environment path c) else .misuse)
      | .plain =>
        if s.awaits then readFrom environment path c (s.fulfil word) rest
        else match c.below? word with
          | some below =>
            let levels ← readFrom environment (path ++ [word]) below .start rest
            return (← s.finish environment c) :: levels
          | none =>
            if word = "help" && !c.subcommands.isEmpty then throw (helpOn environment path c rest)
            else readFrom environment path c (← s.place c word) rest

/-- What the **words of a command line** say: a level for the command, and one for each command
below it that is called. -/
def read (environment : String → Option String) (c : Command) (words : List String) :
    Except Ending (List Level) :=
  readFrom environment [c.name] c .start words

end Dispatch.Console

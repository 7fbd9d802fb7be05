/-!
# Command lines

A program is called with words. Which words it understands is said by a command: its parameters,
and commands below it.

## Main definitions

* `Console.Parameter`: something that a command can be given.
* `Console.Command`: a command.
-/

namespace Dispatch.Console

/-- How a parameter is **given**. -/
inductive Manner where
  /-- By its name alone. -/
  | switch
  /-- By its name and a value. -/
  | option
  /-- By its place among the words. -/
  | argument
deriving DecidableEq, Repr

/-- **Something that a command can be given.** -/
structure Parameter where
  name : String
  manner : Manner
  about : String
  required : Bool
  /-- The value if none is given. -/
  fallback : Option String
  /-- The variable of the environment that gives the value if no word does. -/
  environment : Option String
  /-- The values that can be given. -/
  accepts : String → Bool

namespace Parameter

/-- A parameter that is given by its name alone. -/
def switch (name about : String) : Parameter :=
  ⟨name, .switch, about, false, none, none, fun value => value = "true" || value = "false"⟩

/-- A parameter that is given by its name and a value. -/
def option (name about : String) : Parameter :=
  ⟨name, .option, about, false, none, none, fun _ => true⟩

/-- A parameter that is given by its place. -/
def argument (name about : String) : Parameter :=
  ⟨name, .argument, about, false, none, none, fun _ => true⟩

/-- The parameter has to be given. -/
def needed (p : Parameter) : Parameter := { p with required := true }

/-- The parameter has a value if none is given. -/
def orElse (value : String) (p : Parameter) : Parameter := { p with fallback := some value }

/-- The parameter can be given by a variable of the environment. -/
def orVariable (name : String) (p : Parameter) : Parameter := { p with environment := some name }

/-- Only some values can be given. -/
def onlyIf (accepts : String → Bool) (p : Parameter) : Parameter := { p with accepts }

/-- What stands for the value of a parameter: its name in capitals. -/
def placeholder (p : Parameter) : String :=
  String.ofList (p.name.toList.map fun c => if c = '-' then '_' else c.toUpper)

end Parameter

/-- A **command**: what it is for, its parameters, and the commands below it, one of which has to
follow if there are any. -/
structure Command where
  name : String
  about : String
  parameters : List Parameter
  subcommands : List Command

namespace Command

/-- The parameters that are given by their names. -/
def named (c : Command) : List Parameter := c.parameters.filter (·.manner ≠ .argument)

/-- The parameters that are given by their places. -/
def placed (c : Command) : List Parameter := c.parameters.filter (·.manner = .argument)

end Command

end Dispatch.Console

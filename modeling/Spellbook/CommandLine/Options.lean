set_option autoImplicit false

/-!
# Options on a command line

Options are given as `--name value` or `--name=value`.  A value that stands apart
may not look like an option itself.  Two dashes alone end the options.
-/

namespace Spellbook.CommandLine

/-- Why arguments lead to no command. -/
inductive Refusal where
  /-- Help was asked for. -/
  | help
  | invalid
  deriving DecidableEq, Inhabited

/-- What an option takes. -/
inductive Takes where
  /-- No value; the option may be given once. -/
  | nothing
  /-- One value that the test accepts; the option may be given once. -/
  | one (accepts : String → Bool)
  /-- Values between commas; the option may be given more than once. -/
  | many

/-- The options of a command by their names. -/
abbrev Schema := List (String × Takes)

/-- The options that were given, each with its text, in their order. -/
abbrev Given := List (String × String)

/-- Whether an argument looks like an option. -/
def looksLikeOption (arg : String) : Bool := arg.startsWith "-" && arg ≠ "-"

/-- Whether an argument asks for help with one dash; what follows the letter does
not matter. -/
def asksForHelp (arg : String) : Bool := arg.startsWith "-h"

/-- The name after two dashes, and the value after an equals sign if there is
one. -/
def split? (arg : String) : Option (String × Option String) :=
  match arg.toList with
  | '-' :: '-' :: c :: rest =>
    let name := String.ofList ((c :: rest).takeWhile (· ≠ '='))
    match (c :: rest).dropWhile (· ≠ '=') with
    | [] => some (name, none)
    | _ :: value => some (name, some (String.ofList value))
  | _ => none

/-- Adds an option that was given, if it may be given. -/
def addGiven (takes : Takes) (name value : String) (given : Given) : Except Refusal Given :=
  match takes with
  | .many => .ok (given ++ [(name, value)])
  | .nothing =>
    if given.any (fun g => g.1 == name) then .error .invalid else .ok (given ++ [(name, value)])
  | .one accepts =>
    if given.any (fun g => g.1 == name) || !accepts value then .error .invalid
    else .ok (given ++ [(name, value)])

/-- Reads the options of a command after those that were given already. -/
def readOptions (schema : Schema) : Given → List String → Except Refusal Given
  | given, [] => .ok given
  | given, arg :: rest =>
    if arg = "--" then (if rest.isEmpty then .ok given else .error .invalid)
    else if asksForHelp arg then .error .help
    else match split? arg with
      | none => .error .invalid
      | some (name, attached) =>
        match schema.lookup name, attached with
        | none, none => .error (if name = "help" then .help else .invalid)
        | none, some _ => .error .invalid
        | some .nothing, none =>
          match addGiven .nothing name "" given with
          | .error refusal => .error refusal
          | .ok given => readOptions schema given rest
        | some .nothing, some _ => .error .invalid
        | some takes, some value =>
          match addGiven takes name value given with
          | .error refusal => .error refusal
          | .ok given => readOptions schema given rest
        | some takes, none =>
          match rest with
          | [] => .error .invalid
          | value :: rest =>
            if looksLikeOption value then .error .invalid
            else match addGiven takes name value given with
              | .error refusal => .error refusal
              | .ok given => readOptions schema given rest

end Spellbook.CommandLine

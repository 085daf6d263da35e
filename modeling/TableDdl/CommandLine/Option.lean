/-!
# Options of a command line

A command line is read in levels: the options in front of the command, then those of the command
itself.  A `Level` lists the options that may stand there and says which values they take; `Level.scan`
reads the arguments of a level.

* An option is written `--name`, or by its letter as `-n`; letters may share one hyphen.
* A value follows as the next argument, or behind `=`, or right behind the letter.  As an argument of
  its own it must not begin with a hyphen, unless it is nothing but a hyphen.
* No option may be repeated, and none may be abbreviated.
* Behind `--` no argument is an option.
* Other arguments are words.  A level may end at its first word and leave the rest alone.
-/

namespace TableDdl
namespace CommandLine

structure Opt where
  /-- The name that follows two hyphens. -/
  long : String
  /-- The letter that follows one hyphen. -/
  short : Option Char := none
  /-- Whether a value belongs to the option. -/
  takesValue : Bool := false
deriving DecidableEq, Repr

/-- The options of a level and what may stand beside them. -/
structure Level where
  options : List Opt
  /-- Whether an option may have a value. -/
  validValue : String → String → Bool := fun _ _ => true
  /-- The number of words that may stand in the level. -/
  wordLimit : Nat := 0
  /-- Whether the level ends at its first word. -/
  endsAtWord : Bool := false

inductive Stop where
  /-- The arguments follow no rule. -/
  | usage
  /-- A text about the program was asked for. -/
  | information
deriving DecidableEq, Repr

structure Found where
  /-- The options by name with their values, the last one first; an option without a value has the
  empty one. -/
  options : List (String × String) := []
  /-- The words, the last one first. -/
  words : List String := []
deriving DecidableEq, Repr

namespace Found

def has (found : Found) (name : String) : Bool :=
  (found.options.lookup name).isSome

def value? (found : Found) (name : String) : Option String :=
  found.options.lookup name

end Found

namespace Level

variable (level : Level)

def findLong? (name : String) : Option Opt :=
  level.options.find? fun o => o.long == name

def findShort? (letter : Char) : Option Opt :=
  level.options.find? fun o => o.short == some letter

/-- The options that ask for a text about the program. -/
def isInformation (o : Opt) : Bool :=
  o.long == "help" || o.long == "version"

def accept (found : Found) (o : Opt) (value : String) : Except Stop Found :=
  if isInformation o then .error .information
  else if found.has o.long || !level.validValue o.long value then .error .usage
  else .ok { found with options := (o.long, value) :: found.options }

def acceptWord (found : Found) (word : String) : Except Stop Found :=
  if found.words.length < level.wordLimit && word != "" then
    .ok { found with words := word :: found.words }
  else .error .usage

/-- Reads what stands behind two hyphens: a name, and perhaps a value.  An option whose value is
still missing is handed on. -/
def readLong (found : Found) (body : List Char) : Except Stop (Found × Option Opt) :=
  match level.findLong? (String.ofList (body.takeWhile (· != '='))) with
  | none => .error .usage
  | some o =>
      match body.dropWhile (· != '='), o.takesValue with
      | [], true => .ok (found, some o)
      | [], false => (level.accept found o "").map fun found => (found, none)
      | _ :: value, true => (level.accept found o (String.ofList value)).map fun found => (found, none)
      | _ :: _, false => .error .usage

/-- Reads what stands behind one hyphen: letters, the last of them perhaps with a value.  An option
whose value is still missing is handed on. -/
def readShort (found : Found) : List Char → Except Stop (Found × Option Opt)
  | [] => .ok (found, none)
  | letter :: rest =>
      match level.findShort? letter with
      | none => .error .usage
      | some o =>
          if o.takesValue then
            match rest with
            | [] => .ok (found, some o)
            | '=' :: value => (level.accept found o (String.ofList value)).map fun f => (f, none)
            | value => (level.accept found o (String.ofList value)).map fun f => (f, none)
          else
            match level.accept found o "" with
            | .error stop => .error stop
            | .ok found => readShort found rest

def scanWords (found : Found) : List String → Except Stop Found
  | [] => .ok found
  | word :: rest =>
      match level.acceptWord found word with
      | .error stop => .error stop
      | .ok found => scanWords found rest

/-- Reads the arguments of a level, where `pending` is an option that still needs its value.  Gives
what was found and the arguments from the word on at which the level ended. -/
def scan (found : Found) (pending : Option Opt) :
    List String → Except Stop (Found × List String)
  | [] => if pending.isSome then .error .usage else .ok (found, [])
  | argument :: rest =>
      match pending, argument.toList with
      | some _, '-' :: _ :: _ => .error .usage
      | some o, _ =>
          match level.accept found o argument with
          | .error stop => .error stop
          | .ok found => scan found none rest
      | none, ['-', '-'] => (level.scanWords found rest).map fun found => (found, [])
      | none, '-' :: '-' :: body =>
          match level.readLong found body with
          | .error stop => .error stop
          | .ok (found, pending) => scan found pending rest
      | none, '-' :: letter :: letters =>
          match level.readShort found (letter :: letters) with
          | .error stop => .error stop
          | .ok (found, pending) => scan found pending rest
      | none, _ =>
          if level.endsAtWord then .ok (found, argument :: rest)
          else
            match level.acceptWord found argument with
            | .error stop => .error stop
            | .ok found => scan found none rest

end Level

end CommandLine
end TableDdl

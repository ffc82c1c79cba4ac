/-!
# Command lines

Options come before the command and belong to the whole program; what follows
the command belongs to the command. An option with a value takes it from behind an
equals sign or from the next word, and is given at most once. What the command
line leaves open may come from the environment.
-/

namespace OpenBadges.CommandLine

/-- What the program is to do. -/
inductive Command where
  /-- Fetch collections by their keys. -/
  | fetch (collections : List String)
  /-- Get a path into a collection. -/
  | get (path collection : String)
  /-- Fetch collections and stay. -/
  | watch (collections : List String)
deriving DecidableEq, Repr

/-- The options, as far as they are given. -/
structure Options where
  /-- The address that paths are resolved against. -/
  baseUrl : Option String := none
  /-- The token against forged requests. -/
  csrfToken : Option String := none
  /-- The path of a configuration. -/
  config : Option String := none
  verbosity : Nat := 0
deriving DecidableEq, Repr

/-- What a command line asks for. -/
inductive Invocation where
  | run (options : Options) (command : Command)
  /-- To be told how to use the program. -/
  | help
  /-- Nothing that makes sense. -/
  | usage
deriving DecidableEq, Repr

/-- Whether a word looks like an option. -/
def isOption (word : String) : Bool := word.startsWith "-" && word ≠ "-"

/-- The words behind a command, of which it takes at most a given number. -/
def readWords (limit : Option Nat) (make : List String → Invocation) :
    (seen : List String) → List String → Invocation
  | seen, [] => make seen.reverse
  | seen, word :: rest =>
    if word = "--" then
      if limit.any (· < seen.length + rest.length) then .usage else make (seen.reverse ++ rest)
    else if word = "--help" ∨ word.startsWith "-h" then .help
    else if isOption word then .usage
    else if limit.any (· ≤ seen.length) then .usage
    else readWords limit make (word :: seen) rest

/-- What the words behind the command for help ask for. -/
def readHelp : List String → Invocation
  | [] => .help
  | [command] => if ["fetch", "get", "watch", "help"].contains command then .help else .usage
  | _ => .usage

/-- Reads a command and the words behind it. -/
def readCommand (options : Options) (name : String) (words : List String) : Invocation :=
  match name with
  | "fetch" => readWords none (fun keys =>
      if keys.isEmpty then .usage else .run options (.fetch keys)) [] words
  | "get" => readWords (some 2) (fun
      | [path, collection] => .run options (.get path collection)
      | _ => .usage) [] words
  | "watch" => readWords none (fun keys => .run options (.watch keys)) [] words
  | "help" => readHelp words
  | _ => .usage

/-- An option with a value; nothing if it has been given before or is not known. -/
def Options.give? (o : Options) (name value : String) : Option Options :=
  match name with
  | "--base-url" => if o.baseUrl.isSome then none else some { o with baseUrl := some value }
  | "--csrf-token" => if o.csrfToken.isSome then none else some { o with csrfToken := some value }
  | "--config" =>
    -- a path cannot be empty
    if o.config.isSome ∨ value.isEmpty then none else some { o with config := some value }
  | _ => none

/-- Reads letters behind one dash. -/
def readLetters (o : Options) : List Char → Sum Invocation Options
  | [] => .inr o
  | 'v' :: rest => readLetters { o with verbosity := o.verbosity + 1 } rest
  | 'h' :: _ => .inl .help
  | _ => .inl .usage

/-- Reads the options and the command behind them. -/
def readOptions (o : Options) : List String → Invocation
  | [] => .usage
  | word :: rest =>
    if !isOption word then readCommand o word rest
    else if word.startsWith "--" then
      match (word.toList.span (· ≠ '=')) with
      | (_, '=' :: value) =>
        match o.give? (String.ofList (word.toList.takeWhile (· ≠ '='))) (String.ofList value) with
        | some o => readOptions o rest
        | none => .usage
      | _ =>
        if word = "--help" then .help
        else if word = "--verbose" then readOptions { o with verbosity := o.verbosity + 1 } rest
        else
          match rest with
          | [] => .usage
          | value :: rest =>
            if isOption value then .usage
            else
              match o.give? word value with
              | some o => readOptions o rest
              | none => .usage
    else
      match readLetters o (word.toList.drop 1) with
      | .inl answer => answer
      | .inr o => readOptions o rest

/-- The variables that may stand in for options. -/
def Options.orEnvironment? (o : Options) (env : String → Option String) : Option Options :=
  let config := o.config.or (env "BADGEFLOW_CONFIG")
  if config.any String.isEmpty then none
  else some { o with
    baseUrl := o.baseUrl.or (env "BADGEFLOW_BASE_URL")
    csrfToken := o.csrfToken.or (env "BADGEFLOW_CSRF_TOKEN")
    config := config }

/-- Reads a command line in an environment. -/
def read (env : String → Option String) (words : List String) : Invocation :=
  match readOptions {} words with
  | .run o command =>
    match o.orEnvironment? env with
    | some o => .run o command
    | none => .usage
  | other => other

end OpenBadges.CommandLine

import Quarry.Settings
import Quarry.Table.Render

/-!
The arguments of the command line: one of two commands, each with a script and options. Arguments
are read from left to right, and the first one that asks for help or for the version, or that is
wrong, decides.
-/

namespace Quarry.Command

structure RunOptions where
  script : Option String := none
  format : Option OutputFormat := none
  pretty : Bool := false
  threads : Option Nat := none
  policy : Option FailurePolicy := none
  timeoutMs : Option Nat := none
deriving Repr

inductive Request where
  | run (options : RunOptions)
  | check (script : Option String)
  | version
  | help
  | refused
deriving Repr

/-! ## 1. Options -/

/-- What an option does to what was read so far: it stands alone, takes a value, or decides the
request. An option that cannot be used like this gives nothing. -/
inductive Effect (σ : Type) where
  | flag (apply : σ → Option σ)
  | value (apply : String → σ → Option σ)
  | decide (request : Request)

structure Choice (σ : Type) where
  name : String
  letter : Option Char
  effect : Effect σ

structure Grammar (σ : Type) where
  choices : List (Choice σ)
  word : String → σ → Option σ

/-- What was read, and the use of the next argument if it has to be a value. -/
abbrev Reading (σ : Type) := σ × Option (String → σ → Option σ)

def orRefuse {α : Type} : Option α → Except Request α
  | some a => .ok a
  | none => .error .refused

/-- Whether an argument names options, and so is neither a word nor a value. A dash alone does
not. -/
def namesOptions (argument : String) : Bool :=
  match argument.toList with
  | '-' :: _ :: _ => true
  | _ => false

namespace Grammar

variable {σ : Type}

def readLong (g : Grammar σ) (cs : List Char) (s : σ) : Except Request (Reading σ) :=
  let name := cs.takeWhile (· != '=')
  let value? := match cs.dropWhile (· != '=') with
    | [] => none
    | _ :: rest => some (String.ofList rest)
  match g.choices.find? fun c => c.name == String.ofList name with
  | none => .error .refused
  | some c =>
    match c.effect, value? with
    | .flag apply, none => (orRefuse (apply s)).map fun s => (s, none)
    | .decide request, none => .error request
    | .value apply, some value => (orRefuse (apply value s)).map fun s => (s, none)
    | .value apply, none => .ok (s, some apply)
    | _, some _ => .error .refused

/-- Reads letters. The letter of an option with a value takes what stands behind it. -/
def readLetters (g : Grammar σ) : List Char → σ → Except Request (Reading σ)
  | [], s => .ok (s, none)
  | letter :: rest, s =>
    match g.choices.find? fun c => c.letter == some letter with
    | none => .error .refused
    | some c =>
      match c.effect with
      | .flag apply => do readLetters g rest (← orRefuse (apply s))
      | .decide request => .error request
      | .value apply =>
        match rest with
        | [] => .ok (s, some apply)
        | '=' :: value | value => (orRefuse (apply (.ofList value) s)).map fun s => (s, none)

def readOptions (g : Grammar σ) (argument : String) (s : σ) : Except Request (Reading σ) :=
  match argument.toList with
  | '-' :: '-' :: name => g.readLong name s
  | cs => g.readLetters (cs.drop 1) s

/-- Reads arguments. Behind two dashes alone there are only words. -/
def read (g : Grammar σ) : List String → Reading σ → Except Request σ
  | [], (s, none) => .ok s
  | [], (_, some _) => .error .refused
  | argument :: rest, (s, some apply) =>
    if namesOptions argument then .error .refused
    else do g.read rest (← orRefuse (apply argument s), none)
  | argument :: rest, (s, none) =>
    if argument = "--" then orRefuse (rest.foldlM (fun s word => g.word word s) s)
    else if namesOptions argument then do g.read rest (← g.readOptions argument s)
    else do g.read rest (← orRefuse (g.word argument s), none)

end Grammar

/-! ## 2. Commands -/

def once {σ α : Type} (read : String → Option α) (given : σ → Option α) (give : σ → α → σ) :
    Effect σ :=
  .value fun text s => if (given s).isSome then none else (read text).map (give s)

def everywhere (σ : Type) : List (Choice σ) :=
  [⟨"verbose", some 'v', .flag some⟩, ⟨"help", some 'h', .decide .help⟩]

def policyOfArgument? : String → Option FailurePolicy
  | "abort" => some .abort
  | "null" => some .nullRow
  | _ => none

def runGrammar : Grammar RunOptions where
  choices := everywhere RunOptions ++
    [⟨"format", some 'f',
        once OutputFormat.ofName? RunOptions.format fun o x => { o with format := some x }⟩,
      ⟨"pretty", some 'p',
        .flag fun o => if o.pretty then none else some { o with pretty := true }⟩,
      ⟨"threads", some 't',
        once Settings.readNat? RunOptions.threads fun o n => { o with threads := some n }⟩,
      ⟨"on-download-error", none,
        once policyOfArgument? RunOptions.policy fun o p => { o with policy := some p }⟩,
      ⟨"timeout-ms", none,
        once Settings.readNat? RunOptions.timeoutMs fun o n => { o with timeoutMs := some n }⟩]
  word := fun word o => if o.script.isSome then none else some { o with script := some word }

def checkGrammar : Grammar (Option String) where
  choices := everywhere (Option String)
  word := fun word script => if script.isSome then none else some (some word)

def outerGrammar : Grammar Unit where
  choices := everywhere Unit ++ [⟨"version", some 'V', .decide .version⟩]
  word := fun _ _ => none

def requestOf (command : String) (arguments : List String) : Except Request Request :=
  match command, arguments with
  | "run", _ => (runGrammar.read arguments ({}, none)).map .run
  | "check", _ => (checkGrammar.read arguments (none, none)).map .check
  | "help", [] | "help", ["run"] | "help", ["check"] | "help", ["help"] => .ok .help
  | _, _ => .error .refused

def readRequest : List String → Except Request Request
  | [] => .error .refused
  | argument :: rest =>
    if argument = "--" then .error .refused
    else if namesOptions argument then do
      let _ ← outerGrammar.readOptions argument ()
      readRequest rest
    else requestOf argument rest

def Request.ofArguments (arguments : List String) : Request :=
  match readRequest arguments with
  | .ok request | .error request => request

end Quarry.Command

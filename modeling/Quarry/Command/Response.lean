import Quarry.Command.Arguments
import Quarry.Command.Printout
import Quarry.Script.Picks

/-!
Responses: what the program answers to a request, as texts for its two outputs and a status.
-/

namespace Quarry.Command

structure Response where
  exit : UInt8
  stdout : String
  stderr : String
deriving DecidableEq, Repr

def versionText : String := "pickaxe 0.2.0\n"

def usageText : String :=
  "Usage: pickaxe [-v]... run [SCRIPT] [-f text|json] [-p] [-t THREADS]\n" ++
  "               [--on-download-error abort|null] [--timeout-ms MILLISECONDS]\n" ++
  "       pickaxe [-v]... check [SCRIPT]\n"

inductive ScriptInput where
  | standardInput
  | file (path : String)
deriving DecidableEq, Repr

/-- A script is in the named file. Without a name, or if the name is a dash, it is read from the
standard input. -/
def ScriptInput.ofName : Option String → ScriptInput
  | none | some "-" => standardInput
  | some path => file path

inductive InputError where
  | unreadable (reason : String)
  | terminal
deriving DecidableEq, Repr

def InputError.message : InputError → String
  | unreadable reason => s!"IO error: {reason}"
  | terminal => "No script provided. Pass a file name or pipe the script to stdin."

def RunOptions.settings (options : RunOptions) (environment : String → Option String) : Settings :=
  let base := Settings.ofEnvironment environment
  { base with
    defaultThreads := (options.threads.map (max 1)).getD base.defaultThreads
    policy := options.policy.getD base.policy
    timeoutMs := options.timeoutMs.getD base.timeoutMs }

def Response.failure (stdout message : String) : Response := ⟨1, stdout, message ++ "\n"⟩

/-- Whether a client can call itself so: the name goes into a header, which has no control
characters but tabs. -/
def isClientName (name : String) : Bool :=
  name.toList.all fun c => c == '\t' || (' ' ≤ c && c != '\x7f')

def respondRun (host : Host) (environment : String → Option String) (options : RunOptions)
    (script : Except InputError String) : Response :=
  let settings := options.settings environment
  if !isClientName settings.userAgent then
    .failure "" "could not start downloader: builder error"
  else
    match script with
    | .error e => .failure "" e.message
    | .ok source =>
      let format := options.format.getD .text
      let printout := Printout.ofScript ⟨host, settings⟩ format options.pretty source
      match printout.failure with
      | none => ⟨0, printout.text, ""⟩
      | some failure => .failure printout.text failure.message

def summaryText (s : Script.Summary) : String :=
  s!"Script is valid\n  {s.buffers} buffer(s), {s.inserts} insert(s), {s.selects} select(s), " ++
  s!"{s.downloads} download(s), {s.picks} pick(s)\n"

def respondCheck (script : Except InputError String) : Response :=
  match script with
  | .error e => .failure "" e.message
  | .ok source =>
    match Quarry.check source with
    | .error e => .failure "" e.message
    | .ok program => ⟨0, summaryText (.ofProgram program), ""⟩

/-- The response to a request. `readScript` gives the script at a place. -/
def respond {m : Type → Type} [Monad m] (host : Host) (environment : String → Option String)
    (readScript : ScriptInput → m (Except InputError String)) : Request → m Response
  | .run options => do
    return respondRun host environment options (← readScript (.ofName options.script))
  | .check script => do return respondCheck (← readScript (.ofName script))
  | .version => return ⟨0, versionText, ""⟩
  | .help => return ⟨0, usageText, ""⟩
  | .refused => return ⟨2, "", usageText⟩

/-- The host of a program that cannot reach a network: every fetch fails, and the workers take
turns. -/
def offline : Host where
  fetch := fun _ _ => ⟨.unreachable "builder error", "", ""⟩
  choose := id

end Quarry.Command

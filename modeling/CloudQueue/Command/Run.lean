import CloudQueue.Command.Help
import CloudQueue.Metadata.Detection
import CloudQueue.Pipeline.Basic
import CloudQueue.Settings.Basic

/-!
# Running commands

A run ends with a code and leaves a text on the standard output; a run that fails leaves a message
instead. Nothing is printed before everything has succeeded.
-/

namespace CloudQueue.Command

open Http (Server Hop)

structure Result where
  code : Nat
  stdout : String := ""
  error : Option String := none
  deriving DecidableEq, Repr

def Result.failure (code : Nat) (message : String) : Result :=
  { code, error := some ("error: " ++ message) }

inductive Error where
  | settings (e : Settings.Error)
  | shape (m : Json.Mismatch)
  deriving DecidableEq

def Error.message : Error → String
  | .settings e => e.message
  | .shape m => "json: " ++ m.message

def loadPipeline (file : Except FileError String) (key : String) : Except Error Pipeline :=
  match Settings.ofRead file with
  | .error e => .error (.settings e)
  | .ok settings =>
    match settings.get key with
    | .error e => .error (.settings e)
    | .ok j =>
      match Pipeline.shape j with
      | .error m => .error (.shape m)
      | .ok p => .ok p

def pipelineText (p : Pipeline) : String :=
  "name:     " ++ p.name ++ "\ndriver:   " ++ p.driver ++ "\npriority: " ++
    String.ofList (Text.integer p.priority) ++ "\n" ++ p.pretty ++ "\n"

def showPipeline (file : Except FileError String) (key : String) : Result :=
  match loadPipeline file key with
  | .ok p => { code := 0, stdout := pipelineText p }
  | .error e => .failure 1 e.message

def verdictText (verdict : Bool) : String := if verdict then "true\n" else "false\n"

/-- A finished run: how it ended, what it sent, and the server afterwards. -/
structure Run (σ : Type) where
  result : Result
  hops : List Hop
  state : σ

def run {σ : Type} (files : String → Except FileError String) (server : Server σ) (state : σ) :
    Invocation → Run σ
  | .detect baseUrl timeout =>
    let d := Metadata.detect (.new timeout baseUrl) server state
    ⟨{ code := 0, stdout := verdictText d.verdict }, d.hops, d.state⟩
  | .pipeline key config => ⟨showPipeline (files config) key, [], state⟩

/-- How a run ends that does nothing. Without any words help goes to the other output. -/
def Ending.result : Ending → Result
  | .help topic => { code := 0, stdout := topic.text }
  | .version => { code := 0, stdout := versionText }
  | .noWords => { code := 2 }
  | .usage e => .failure 2 (e.message program)

def runLine {σ : Type} (files : String → Except FileError String) (server : Server σ) (state : σ)
    (words : List String) : Run σ :=
  match parse words with
  | .ok invocation => run files server state invocation
  | .error ending => ⟨ending.result, [], state⟩

end CloudQueue.Command

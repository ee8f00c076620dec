import CloudQueue.Command.Syntax
import CloudQueue.Metadata.Client

/-!
# The commands of the program

The program detects the environment, or shows a pipeline of a configuration file. Its command line
names one of these commands, after options of the program and before those of the command, or asks
for help.
-/

namespace CloudQueue.Command

def program : String := "sqs-plugin"

def version : String := "0.1.0"

inductive Invocation where
  | detect (baseUrl : String) (timeout : Nat)
  | pipeline (key config : String)
  deriving DecidableEq, Repr

inductive Topic where
  | program
  | detect
  | pipeline
  | help
  deriving DecidableEq, Repr

/-- Why nothing is done: help or the version is asked for, there are no words at all, or something
is wrong. -/
inductive Ending where
  | help (topic : Topic)
  | version
  | noWords
  | usage (e : UsageError)
  deriving DecidableEq, Repr

/-! ## Options -/

def jsonLogs : Opt := { long := "json-logs", kind := .flag }

def helpOption : Opt := { long := "help", short := some 'h', kind := .help }

def versionOption : Opt := { long := "version", short := some 'V', kind := .version }

def baseUrlOption : Opt := { long := "base-url", kind := .value "BASE_URL" .text }

def timeoutOption : Opt := { long := "timeout-ms", kind := .value "TIMEOUT_MS" .count }

def configOption : Opt :=
  { long := "config", short := some 'c', kind := .value "CONFIG" .path }

def programSpec : Spec := ⟨[jsonLogs, helpOption, versionOption], []⟩

def detectSpec : Spec := ⟨[baseUrlOption, jsonLogs, timeoutOption, helpOption], []⟩

def pipelineSpec : Spec := ⟨[configOption, jsonLogs, helpOption], ["KEY"]⟩

/-! ## Parsing -/

def Ending.ofStop (topic : Topic) : Stop → Ending
  | .help => .help topic
  | .version => .version
  | .usage e => .usage e

def Topic.ofName? (word : String) : Option Topic :=
  if word = "detect" then some .detect
  else if word = "pipeline" then some .pipeline
  else if word = "help" then some .help
  else none

/-- What the words behind `help` ask for. Commands have no commands of their own. -/
def helpTopic : List String → Ending
  | [] => .help .program
  | word :: rest =>
    match Topic.ofName? word with
    | none => .usage (.unknownCommand word)
    | some topic =>
      match rest with
      | [] => .help topic
      | next :: _ => .usage (.unknownCommand next)

def parseDetect (words : List String) : Except Ending Invocation :=
  match detectSpec.parse words with
  | .error stop => .error (.ofStop .detect stop)
  | .ok scan =>
    let timeout := match (scan.value? timeoutOption).map fun s => Text.readNat64 s.toList with
      | some (.ok n) => n
      | _ => Metadata.probeTimeout
    .ok (.detect ((scan.value? baseUrlOption).getD Metadata.defaultBaseUrl) timeout)

def parsePipeline (words : List String) : Except Ending Invocation :=
  match pipelineSpec.parse words with
  | .error stop => .error (.ofStop .pipeline stop)
  | .ok scan =>
    match scan.positionals, scan.value? configOption with
    | [key], some config => .ok (.pipeline key config)
    | _, _ => .error (.usage .missingArguments)

def parseCommand (topic : Topic) (words : List String) : Except Ending Invocation :=
  match topic with
  | .detect => parseDetect words
  | .pipeline => parsePipeline words
  | .help | .program => .error (helpTopic words)

def Ending.ofNoCommand (scan : Scan) : Ending :=
  if scan.options = [] then .noWords else .usage .missingCommand

/-- What a command line asks for, after options of the program. No command may stand behind a
double dash. -/
def parseFrom : Scan → List String → Except Ending Invocation
  | scan, [] => .error (.ofNoCommand scan)
  | scan, word :: rest =>
    match Topic.ofName? word with
    | some topic => parseCommand topic rest
    | none =>
      match word.toList with
      | ['-', '-'] =>
        match rest with
        | [] => .error (.ofNoCommand scan)
        | next :: _ =>
          .error (.usage (match Topic.ofName? next with
            | some _ => .unexpectedArgument next
            | none => .unknownCommand next))
      | '-' :: '-' :: name =>
        match scan.long programSpec name with
        | .error stop => .error (.ofStop .program stop)
        | .ok scan => parseFrom scan rest
      | '-' :: c :: letters =>
        match scan.short programSpec (c :: letters) with
        | .error stop => .error (.ofStop .program stop)
        | .ok scan => parseFrom scan rest
      | _ => .error (.usage (.unknownCommand word))

def parse (words : List String) : Except Ending Invocation := parseFrom {} words

end CloudQueue.Command

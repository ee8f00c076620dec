import CloudQueue.Command.Line

/-!
# Help texts

A help text says what a command does and how it is called, and lists its parts in two columns.
-/

namespace CloudQueue.Command

/-- Entries in two columns, the second as far to the right as the longest first one needs. -/
def columns (entries : List (String × String)) : String :=
  let width := entries.foldl (fun w e => max w e.1.length) 0
  String.join (entries.map fun e =>
    "  " ++ e.1 ++ String.ofList (List.replicate (width - e.1.length) ' ') ++ "  " ++ e.2 ++ "\n")

def table (title : String) (entries : List (String × String)) : String :=
  "\n" ++ title ++ ":\n" ++ columns entries

/-- An option as help lists it: its letter, or room for one, and its name. -/
def Opt.entry (o : Opt) (help : String) : String × String :=
  let letter := match o.short with
    | some c => String.ofList ['-', c] ++ ", "
    | none => "    "
  (letter ++ o.text, help)

def opening (about usage : String) : String :=
  about ++ "\n\nUsage: " ++ program ++ " " ++ usage ++ "\n"

def jsonLogsEntry : String × String := jsonLogs.entry "Emit logs as JSON"

def helpEntry : String × String := helpOption.entry "Print help"

def programAbout : String := "Inspect the SQS jobs plugin environment"

def detectAbout : String := "Check whether this process runs inside AWS"

def pipelineAbout : String := "Show a pipeline section from a JSON config file"

def helpAbout : String := "Print this message or the help of the given subcommand(s)"

def Topic.text : Topic → String
  | .program =>
    opening programAbout "[OPTIONS] <COMMAND>" ++
      table "Commands" [("detect", detectAbout), ("pipeline", pipelineAbout),
        ("help", helpAbout)] ++
      table "Options" [jsonLogsEntry, helpEntry, versionOption.entry "Print version"]
  | .detect =>
    opening detectAbout "detect [OPTIONS]" ++
      table "Options" [
        baseUrlOption.entry ("Metadata service base URL [default: " ++
          Metadata.defaultBaseUrl ++ "]"),
        jsonLogsEntry,
        timeoutOption.entry ("Timeout for each probe in milliseconds [default: " ++
          String.ofList (Text.digits Metadata.probeTimeout) ++ "]"),
        helpEntry]
  | .pipeline =>
    opening pipelineAbout "pipeline [OPTIONS] --config <CONFIG> <KEY>" ++
      table "Arguments" [
        ("<KEY>", "Config section holding the pipeline, e.g. `jobs.pipelines.test-1`")] ++
      table "Options" [configOption.entry "Path to the JSON config file", jsonLogsEntry,
        helpEntry]
  | .help =>
    opening helpAbout "help [COMMAND]..." ++
      table "Arguments" [("[COMMAND]...", "Print help for the subcommand(s)")]

def versionText : String := program ++ " " ++ version ++ "\n"

end CloudQueue.Command

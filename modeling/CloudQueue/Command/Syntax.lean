import CloudQueue.Text.Integer
import CloudQueue.Text.Terminal

/-!
# The syntax of command lines

A command takes options, some with a value, and positional arguments. An option's value may follow
it, or stand in the same word. Words are judged in order, but the value of an option is looked at
only when the next option or argument, or the end, settles it. A double dash ends the options.
-/

namespace CloudQueue.Command

inductive ValueKind where
  | text
  | path
  | count
  deriving DecidableEq, Repr

inductive OptionKind where
  | flag
  | value (name : String) (kind : ValueKind)
  | help
  | version
  deriving DecidableEq, Repr

structure Opt where
  long : String
  short : Option Char := none
  kind : OptionKind
  deriving DecidableEq, Repr

structure Spec where
  options : List Opt
  positionals : List String
  deriving DecidableEq, Repr

def Opt.text (o : Opt) : String :=
  match o.kind with
  | .value name _ => "--" ++ o.long ++ " <" ++ name ++ ">"
  | _ => "--" ++ o.long

inductive UsageError where
  | missingCommand
  | unknownCommand (word : String)
  | unexpectedArgument (word : String)
  | unexpectedValue (value : String) (o : Opt)
  | repeated (o : Opt)
  | missingValue (o : Opt)
  | invalidValue (value : String) (o : Opt) (e : Text.IntegerError)
  | missingArguments
  deriving DecidableEq, Repr

/-- Why a command line asks for nothing to be done. -/
inductive Stop where
  | help
  | version
  | usage (e : UsageError)
  deriving DecidableEq, Repr

/-- What has been met: options with their values, positional arguments, and an option whose value
is not settled. -/
structure Scan where
  options : List (Opt × String) := []
  positionals : List String := []
  unsettled : Option (Opt × Option String) := none
  deriving DecidableEq, Repr

def checkValue (o : Opt) (value : String) : Except UsageError Unit :=
  match o.kind with
  | .value _ .path => if value = "" then .error (.missingValue o) else .ok ()
  | .value _ .count =>
    match Text.readNat64 value.toList with
    | .ok _ => .ok ()
    | .error e => .error (.invalidValue value o e)
  | _ => .ok ()

def Scan.add (scan : Scan) (o : Opt) (value : String) : Except Stop Scan :=
  if scan.options.any fun p => p.1 = o then .error (.usage (.repeated o))
  else
    match checkValue o value with
    | .ok () => .ok { scan with options := scan.options ++ [(o, value)] }
    | .error e => .error (.usage e)

def Scan.settle (scan : Scan) : Except Stop Scan :=
  match scan.unsettled with
  | none => .ok scan
  | some (o, none) => .error (.usage (.missingValue o))
  | some (o, some value) => { scan with unsettled := none }.add o value

def Scan.react (scan : Scan) (o : Opt) : Except Stop Scan :=
  match scan.settle with
  | .error e => .error e
  | .ok scan =>
    match o.kind with
    | .help => .error .help
    | .version => .error .version
    | _ => scan.add o ""

/-- The scan after an option that takes a value, with the value if it stands in the same word. -/
def Scan.open (scan : Scan) (o : Opt) (attached : Option String) : Except Stop Scan :=
  match scan.settle with
  | .error e => .error e
  | .ok scan =>
    match attached with
    | some value => scan.add o value
    | none => .ok { scan with unsettled := some (o, none) }

def Scan.argument (scan : Scan) (spec : Spec) (word : String) : Except Stop Scan :=
  if scan.positionals.length < spec.positionals.length then
    match scan.settle with
    | .error e => .error e
    | .ok scan => .ok { scan with positionals := scan.positionals ++ [word] }
  else .error (.usage (.unexpectedArgument word))

def Opt.takesValue (o : Opt) : Bool :=
  match o.kind with
  | .value _ _ => true
  | _ => false

/-- The scan after a word of two dashes and a name, perhaps with a value behind an equals sign. -/
def Scan.long (scan : Scan) (spec : Spec) (name : List Char) : Except Stop Scan :=
  let key := String.ofList (name.takeWhile (· != '='))
  let attached := match name.dropWhile (· != '=') with
    | '=' :: value => some (String.ofList value)
    | _ => none
  match spec.options.find? fun o => o.long = key with
  | none => .error (.usage (.unexpectedArgument ("--" ++ key)))
  | some o =>
    if o.takesValue then scan.open o attached
    else
      match attached with
      | some value => .error (.usage (.unexpectedValue value o))
      | none => scan.react o

/-- The scan after the letters behind a single dash. An option that takes a value takes the rest of
the word. -/
def Scan.short (scan : Scan) (spec : Spec) : List Char → Except Stop Scan
  | [] => .ok scan
  | c :: rest =>
    match spec.options.find? fun o => o.short = some c with
    | none => .error (.usage (.unexpectedArgument (String.ofList ['-', c])))
    | some o =>
      if o.takesValue then
        scan.open o (match rest with
          | [] => none
          | '=' :: value => some (String.ofList value)
          | value => some (String.ofList value))
      else
        match scan.react o with
        | .error e => .error e
        | .ok scan => scan.short spec rest

def Scan.awaits (scan : Scan) : Option Opt :=
  match scan.unsettled with
  | some (o, none) => some o
  | _ => none

/-- The scan after words, of which the last ones may stand behind a double dash. -/
def Scan.words (spec : Spec) : (trailing : Bool) → Scan → List String → Except Stop Scan
  | _, scan, [] => .ok scan
  | true, scan, word :: rest => do
    Scan.words spec true (← scan.argument spec word) rest
  | false, scan, word :: rest =>
    match word.toList with
    | ['-', '-'] => Scan.words spec true scan rest
    | '-' :: '-' :: name => do Scan.words spec false (← scan.long spec name) rest
    | '-' :: c :: letters => do Scan.words spec false (← scan.short spec (c :: letters)) rest
    | _ =>
      -- The value is checked when the next option or argument settles it, so an unknown argument
      -- that comes next is reported in front of a value that is not valid.
      match scan.awaits with
      | some o => Scan.words spec false { scan with unsettled := some (o, some word) } rest
      | none => do Scan.words spec false (← scan.argument spec word) rest

def Spec.parse (spec : Spec) (words : List String) : Except Stop Scan := do
  (← Scan.words spec false {} words).settle

def Scan.value? (scan : Scan) (o : Opt) : Option String :=
  (scan.options.find? fun p => p.1 = o).map (·.2)

def shown (word : String) : String := String.ofList (Text.visible word.toList)

def UsageError.message (program : String) : UsageError → String
  | .missingCommand =>
    "'" ++ program ++ "' requires a subcommand but one was not provided"
  | .unknownCommand word => "unrecognized subcommand '" ++ shown word ++ "'"
  | .unexpectedArgument word => "unexpected argument '" ++ shown word ++ "' found"
  | .unexpectedValue value o =>
    "unexpected value '" ++ shown value ++ "' for '" ++ o.text ++ "' found; no more were expected"
  | .repeated o => "the argument '" ++ o.text ++ "' cannot be used multiple times"
  | .missingValue o => "a value is required for '" ++ o.text ++ "' but none was supplied"
  | .invalidValue value o e =>
    "invalid value '" ++ shown value ++ "' for '" ++ o.text ++ "': " ++ e.message
  | .missingArguments => "the following required arguments were not provided:"

end CloudQueue.Command

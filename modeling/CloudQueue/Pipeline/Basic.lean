import CloudQueue.Json.Reader
import CloudQueue.Json.Shape
import CloudQueue.Text.Trim

/-!
# Pipelines

A pipeline is one configured route of jobs: a finite map of settings under names. Its readers
answer with a default for what is missing or does not fit. Integers and truth values may also be
written as texts, with blanks around them.
-/

namespace CloudQueue

structure Pipeline where
  settings : Json.Members Json none := .empty

namespace Pipeline

instance : Inhabited Pipeline := ⟨{}⟩

instance : DecidableEq Pipeline := fun a b =>
  match Json.membersDecEq a.settings b.settings with
  | isTrue h => isTrue (by cases a; cases b; simp_all)
  | isFalse h => isFalse fun e => h (by rw [e])

def nameKey : String := "name"

def driverKey : String := "driver"

def priorityKey : String := "priority"

def defaultPriority : Int := 10

def set (p : Pipeline) (key : String) (value : Json) : Pipeline := ⟨p.settings.set key value⟩

def setAll (p : Pipeline) (steps : List (String × Json)) : Pipeline :=
  steps.foldl (fun p step => p.set step.1 step.2) p

def new (name driver : String) : Pipeline :=
  (({} : Pipeline).set nameKey (.string name)).set driverKey (.string driver)

/-- The value of a setting, null included. -/
def get? (p : Pipeline) (key : String) : Option Json := p.settings.get? key

/-- Whether a setting is there, null included. -/
def has (p : Pipeline) (key : String) : Bool := p.settings.contains key

def string (p : Pipeline) (key default : String) : String :=
  match p.get? key with
  | some (.string s) => s
  | _ => default

/-- A setting that is a signed 64-bit integer or the text of one, or a default. -/
def int (p : Pipeline) (key : String) (default : Int) : Int :=
  match p.get? key with
  | some (.number (.integer i _ _)) => if i ≤ 9223372036854775807 then i else default
  | some (.string s) =>
    match Text.readInt64 (Text.trim s.toList) with
    | .ok i => i
    | .error _ => default
  | _ => default

/-- A setting that is a truth value or the text of one, or a default. -/
def bool (p : Pipeline) (key : String) (default : Bool) : Bool :=
  match p.get? key with
  | some (.bool b) => b
  | some (.string s) =>
    if Text.trim s.toList = ['t', 'r', 'u', 'e'] then true
    else if Text.trim s.toList = ['f', 'a', 'l', 's', 'e'] then false
    else default
  | _ => default

def name (p : Pipeline) : String := p.string nameKey ""

def driver (p : Pipeline) : String := p.string driverKey ""

def priority (p : Pipeline) : Int := p.int priorityKey defaultPriority

def toJson (p : Pipeline) : Json := .object p.settings

def compact (p : Pipeline) : String := p.toJson.compact

def pretty (p : Pipeline) : String := p.toJson.pretty

def display (p : Pipeline) : String :=
  String.ofList ("Pipeline(\x7b".toList ++ Json.displayMembers p.settings ++ ['\x7d', ')'])

/-- Whether two pipelines have the same settings, with the two floating-point zeros equal. -/
def same (p q : Pipeline) : Bool := Json.sameMembers p.settings q.settings

def parse (text : String) : Except Json.Error Pipeline :=
  (Json.parseObject text).map fun settings => ⟨settings⟩

def shape : Json.Shape Pipeline
  | .object settings => .ok ⟨settings⟩
  | j => .error (.wrongType j "a map")

end Pipeline

end CloudQueue

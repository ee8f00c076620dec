import CloudQueue.Text.Trim

/-!
# The client of the metadata service

A client knows the base URL of the service, without slashes at its end, and how long a request may
take.
-/

namespace CloudQueue.Metadata

/-- How many milliseconds a probe may take. -/
def probeTimeout : Nat := 2000

def defaultBaseUrl : String := "http://169.254.169.254"

/-- The base URL of the metadata service, and the milliseconds a request to it may take. -/
structure Client where
  baseUrl : String
  timeout : Nat
  deriving DecidableEq, Repr

namespace Client

def normalize (baseUrl : String) : String :=
  String.ofList (Text.dropEndWhile (· == '/') baseUrl.toList)

def new (timeout : Nat) (baseUrl : String) : Client := ⟨normalize baseUrl, timeout⟩

def withBaseUrl (baseUrl : String) : Client := new probeTimeout baseUrl

def forDetection : Client := withBaseUrl defaultBaseUrl

def url (c : Client) (path : String) : String := c.baseUrl ++ path

theorem normalize_push_slash (baseUrl : String) :
    normalize (baseUrl.push '/') = normalize baseUrl := by
  simp [normalize, Text.dropEndWhile_append_singleton_of]

@[simp] theorem normalize_normalize (baseUrl : String) :
    normalize (normalize baseUrl) = normalize baseUrl := by
  simp [normalize, Text.dropEndWhile_idem]

end Client

end CloudQueue.Metadata

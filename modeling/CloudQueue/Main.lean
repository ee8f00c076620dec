import CloudQueue.Command.Run

/-!
# The program

The command line, over the file system. There is no link to the network, so no server is reached.
-/

open CloudQueue

/-- Why reading a file failed. A directory can be opened, so that error names no file. -/
def fileErrorOf : IO.Error → FileError
  | .inappropriateType none _ _ => .isDirectory
  | .inappropriateType (some _) _ _ => .notDirectory
  | .invalidArgument _ 22 _ => .zeroByte
  | .invalidArgument _ _ _ => .nameTooLong
  | .permissionDenied _ _ _ => .permissionDenied
  | _ => .notFound

def readTextFile (path : String) : IO (Except FileError String) := do
  try
    let bytes ← IO.FS.readBinFile path
    return match String.fromUTF8? bytes with
      | some text => .ok text
      | none => .error .invalidText
  catch e => return .error (fileErrorOf e)

def main (words : List String) : IO UInt32 := do
  let file ← match Command.parse words with
    | .ok (.pipeline _ config) => readTextFile config
    | _ => pure (.error .notFound)
  let result := (Command.runLine (fun _ => file) Http.Server.unreachable () words).result
  IO.print result.stdout
  match result.error with
  | some message => IO.eprintln message
  | none => pure ()
  return result.code.toUInt32

import ZeroError.Document.Fault
import ZeroError.Go.Rendering

/-!
Why an analysis cannot be carried out, and the wording of each cause.
-/

namespace ZeroError

inductive ReadCause
  | notFound
  | isDirectory
  | notDirectory
  | notText
deriving DecidableEq, Repr

def ReadCause.message : ReadCause → String
  | .notFound => "No such file or directory (os error 2)"
  | .isDirectory => "Is a directory (os error 21)"
  | .notDirectory => "Not a directory (os error 20)"
  | .notText => "stream did not contain valid UTF-8"

def maxJobs : Nat := 256

inductive Failure
  | unreadable (path : String) (cause : ReadCause)
  | document (fault : Document.Fault)
  | configuration (cause : String)
  | unprintable (cause : Go.Unprintable)
  | tooManyJobs (jobs : Nat)
deriving DecidableEq, Repr

def Failure.message : Failure → String
  | .unreadable path cause => "Failed to read " ++ path ++ ": " ++ cause.message
  | .document fault => "Invalid package document: " ++ fault.message
  | .configuration cause => "Invalid configuration document: " ++ cause
  | .unprintable cause => "Cannot render syntax node: " ++ cause.message
  | .tooManyJobs jobs =>
      "Invalid configuration: jobs must be at most " ++ toString maxJobs ++ ", got " ++
        toString jobs

end ZeroError

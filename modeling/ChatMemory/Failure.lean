/-!
What can go wrong, and how it is told to the caller.
-/

namespace ChatMemory

inductive FailureKind
  | invalidArgument
  | allocation
  | unknownSession
  | brokenInvariant
  | storage
  | serialization
  | settings
  | file
  deriving Repr, DecidableEq

def FailureKind.heading : FailureKind → String
  | .invalidArgument => "Invalid argument: "
  | .allocation => "Allocation failure: "
  | .unknownSession => "Session not found: "
  | .brokenInvariant => "Internal invariant violated: "
  | .storage => "Storage error: "
  | .serialization => "Serialization error: "
  | .settings => "Configuration error: "
  | .file => "IO error: "

structure Failure where
  kind : FailureKind
  detail : String
  deriving Repr, DecidableEq

namespace Failure

def message (failure : Failure) : String :=
  failure.kind.heading ++ failure.detail

def isCallersFault (failure : Failure) : Bool :=
  failure.kind == .invalidArgument || failure.kind == .settings

def blankSessionId : Failure := ⟨.invalidArgument, "session_id must not be empty"⟩

def blankTitle : Failure := ⟨.invalidArgument, "title must not be empty"⟩

def unknownSession (id : String) : Failure := ⟨.unknownSession, id⟩

def misplacedMessage (id : String) (position index : Nat) : Failure :=
  ⟨.brokenInvariant,
    "session " ++ id ++ " has message at position " ++ toString position ++
      " stored at index " ++ toString index⟩

def malformed : Failure := ⟨.serialization, ""⟩

end Failure

inductive FileFault
  | missing
  | occupied
  | notDirectory
  | isDirectory
  | nameTooLong
  | notText
  | invalidName
  deriving Repr, DecidableEq

def FileFault.describe : FileFault → String
  | .missing => "No such file or directory (os error 2)"
  | .occupied => "File exists (os error 17)"
  | .notDirectory => "Not a directory (os error 20)"
  | .isDirectory => "Is a directory (os error 21)"
  | .nameTooLong => "File name too long (os error 36)"
  | .notText => "stream did not contain valid UTF-8"
  | .invalidName => "file name contained an unexpected NUL byte"

def FileFault.failure (fault : FileFault) : Failure :=
  ⟨.file, fault.describe⟩

example : Failure.blankSessionId.message = "Invalid argument: session_id must not be empty" := by
  decide

end ChatMemory

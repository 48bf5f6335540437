/-!
# Faults of a file system

The reasons for which a file or directory cannot be opened, made or removed.
-/

namespace ApiBindings.Files

/-- Why an access to a path failed. -/
inductive Fault where
  | missing
  | isDirectory
  | notDirectory
  | alreadyExists
  | nameTooLong
  deriving DecidableEq, Repr

/-- The system's words for a fault. -/
def Fault.message : Fault → String
  | .missing => "No such file or directory"
  | .isDirectory => "Is a directory"
  | .notDirectory => "Not a directory"
  | .alreadyExists => "File exists"
  | .nameTooLong => "File name too long"

end ApiBindings.Files

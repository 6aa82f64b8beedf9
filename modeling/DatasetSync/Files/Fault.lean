/-
What the file system refuses, with the texts and numbers it uses.
-/
namespace DatasetSync.Files

/-- Why an operation on a path fails. -/
inductive Fault
  | notFound
  | exists
  | notADirectory
  | isADirectory
  | nameTooLong
  /-- There is no terminal. -/
  | noDevice
  /-- A path holds a NUL character. -/
  | nulInPath
  /-- A file that is to be read as text is not UTF-8. -/
  | notText
deriving DecidableEq, Repr

/-- The message of a refusal. -/
def Fault.message : Fault → String
  | notFound => "No such file or directory (os error 2)"
  | .exists => "File exists (os error 17)"
  | notADirectory => "Not a directory (os error 20)"
  | isADirectory => "Is a directory (os error 21)"
  | noDevice => "No such device or address (os error 6)"
  | nameTooLong => "File name too long (os error 36)"
  | nulInPath => "file name contained an unexpected NUL byte"
  | notText => "stream did not contain valid UTF-8"

end DatasetSync.Files

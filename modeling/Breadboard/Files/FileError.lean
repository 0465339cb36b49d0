/-!
# What can go wrong with a file

The causes are those of the operating system, with its texts and numbers. Two
arise before it is asked or after it has answered: a name that contains the
NUL character, and bytes that should have been text.
-/

namespace Breadboard

/-- **File error**: why a file operation failed. -/
inductive FileError where
  | notFound
  | alreadyExists
  | notADirectory
  | isADirectory
  | nameTooLong
  | noDevice
  | nulInName
  | invalidText
  /-- Any other cause, by its text. -/
  | other (text : String)
  deriving DecidableEq, Repr

namespace FileError

/-- The number the operating system gives an error. -/
def number? : FileError → Option Nat
  | notFound => some 2
  | noDevice => some 6
  | alreadyExists => some 17
  | notADirectory => some 20
  | isADirectory => some 21
  | nameTooLong => some 36
  | nulInName | invalidText | other _ => none

/-- What an error says, without its number. -/
def reason : FileError → String
  | notFound => "No such file or directory"
  | noDevice => "No such device or address"
  | alreadyExists => "File exists"
  | notADirectory => "Not a directory"
  | isADirectory => "Is a directory"
  | nameTooLong => "File name too long"
  | nulInName => "file name contained an unexpected NUL byte"
  | invalidText => "stream did not contain valid UTF-8"
  | other text => text

/-- The text of an error. -/
def message (e : FileError) : String :=
  match e.number? with
  | some number => e.reason ++ " (os error " ++ toString number ++ ")"
  | none => e.reason

end FileError

end Breadboard

/-!
# Causes of a failed file access

Each cause has one text. Those that the operating system reports carry its
error number in the text.
-/

namespace EnergyMeter.Files

/-- Why a file could not be read, listed or changed. -/
inductive Fault where
  /-- A step of the path names nothing. -/
  | notFound
  /-- A mode forbids the access. -/
  | permissionDenied
  /-- The entry to be made is there already. -/
  | alreadyExists
  /-- A step goes below something that is no directory. -/
  | notDirectory
  /-- The content of a directory was asked for. -/
  | isDirectory
  /-- A name or a path is longer than the system allows. -/
  | nameTooLong
  /-- More links than the system follows. -/
  | linkLoop
  /-- The content is no UTF-8 text. -/
  | notText
  /-- The path holds a zero character. -/
  | zeroInPath
  /-- A cause known by its text alone. -/
  | other (text : String)
  deriving DecidableEq, Repr

namespace Fault

/-- The system's own text and number, if the system reports the cause. -/
def system? : Fault → Option (String × Nat)
  | .notFound => some ("No such file or directory", 2)
  | .permissionDenied => some ("Permission denied", 13)
  | .alreadyExists => some ("File exists", 17)
  | .notDirectory => some ("Not a directory", 20)
  | .isDirectory => some ("Is a directory", 21)
  | .nameTooLong => some ("File name too long", 36)
  | .linkLoop => some ("Too many levels of symbolic links", 40)
  | .notText | .zeroInPath | .other _ => none

/-- The text of a cause. -/
def message (f : Fault) : String :=
  match f.system?, f with
  | some (text, number), _ => s!"{text} (os error {number})"
  | none, .notText => "stream did not contain valid UTF-8"
  | none, .zeroInPath => "file name contained an unexpected NUL byte"
  | none, .other text => text
  | none, _ => ""

end Fault

end EnergyMeter.Files

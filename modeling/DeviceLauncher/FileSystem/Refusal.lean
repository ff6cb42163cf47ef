/-!
# Why the operating system refuses a path

`Errno` holds the answers of the system calls on files and programs, with their numbers and
texts. A path that holds NUL never reaches a system call: that is the other `Refusal`.
-/

namespace DeviceLauncher

/-- An answer of the operating system that a call failed. -/
inductive Errno where
  | notFound
  | listTooLong
  | notRunnable
  | accessDenied
  | alreadyThere
  | notDirectory
  | isDirectory
  | nameTooLong
  | notEmpty
  | linkLoop
  deriving DecidableEq

namespace Errno

def number : Errno → Nat
  | notFound => 2
  | listTooLong => 7
  | notRunnable => 8
  | accessDenied => 13
  | alreadyThere => 17
  | notDirectory => 20
  | isDirectory => 21
  | nameTooLong => 36
  | notEmpty => 39
  | linkLoop => 40

def text : Errno → String
  | notFound => "No such file or directory"
  | listTooLong => "Argument list too long"
  | notRunnable => "Exec format error"
  | accessDenied => "Permission denied"
  | alreadyThere => "File exists"
  | notDirectory => "Not a directory"
  | isDirectory => "Is a directory"
  | nameTooLong => "File name too long"
  | notEmpty => "Directory not empty"
  | linkLoop => "Too many levels of symbolic links"

/-- Whether the answer means that there is nothing at the path. -/
def meansAbsent : Errno → Bool
  | notFound | notDirectory | linkLoop => true
  | _ => false

end Errno

/-- Why a call on a path was not carried out. -/
inductive Refusal where
  | errno (e : Errno)
  | nul
  deriving DecidableEq

end DeviceLauncher

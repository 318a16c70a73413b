/-!
# What can go wrong around a scan

Scanning never fails; only reading what is scanned and writing what was found
can. `IoFault` is the cause the system gives, and `RunError` says what the
program was doing when it met it.
-/

namespace ScriptLexer

/-- **Why reading or writing failed.** -/
inductive IoFault where
  /-- Nothing is found under the name. -/
  | noSuchFile
  /-- A name on the way is not a directory. -/
  | notADirectory
  /-- What was to be read is a directory. -/
  | isADirectory
  /-- A name is longer than the system takes. -/
  | nameTooLong
  /-- A name holds the character U+0000. -/
  | nulInName
  /-- The bytes read are no UTF-8 text. -/
  | invalidText
  /-- The output takes no more bytes. -/
  | outputFull
  /-- Any other cause, in the system's words. -/
  | other (text : String)
  deriving DecidableEq, Repr

/-- The wording of a cause. -/
def IoFault.message : IoFault → String
  | noSuchFile => "No such file or directory (os error 2)"
  | notADirectory => "Not a directory (os error 20)"
  | isADirectory => "Is a directory (os error 21)"
  | nameTooLong => "File name too long (os error 36)"
  | nulInName => "file name contained an unexpected NUL byte"
  | invalidText => "stream did not contain valid UTF-8"
  | outputFull => "writer full"
  | other text => text

/-- **What the program was doing** when reading or writing failed. -/
inductive RunError where
  /-- Reading lines or writing text. -/
  | stream (cause : IoFault)
  /-- Reading the file at a path. -/
  | unreadable (path : String) (cause : IoFault)
  /-- Writing a JSON document. -/
  | document (cause : IoFault)
  deriving DecidableEq, Repr

/-- The wording of an error. -/
def RunError.message : RunError → String
  | stream cause => "I/O error: " ++ cause.message
  | unreadable path cause => "cannot read '" ++ path ++ "': " ++ cause.message
  | document cause => "cannot serialize tokens: " ++ cause.message

end ScriptLexer

/-!
What ends a conversion: a stamp that cannot be read, or a file that cannot.
-/

namespace ViewPoints

/-- An error of the operating system, by its number and its description. -/
structure OsError where
  code : Nat
  description : String
  deriving DecidableEq

namespace OsError

def noSuchFile : OsError := ⟨2, "No such file or directory"⟩

def notADirectory : OsError := ⟨20, "Not a directory"⟩

def isADirectory : OsError := ⟨21, "Is a directory"⟩

def noSpace : OsError := ⟨28, "No space left on device"⟩

def nameTooLong : OsError := ⟨36, "File name too long"⟩

end OsError

inductive Failure where
  | malformedTime (text : String)
  /-- A line that is not UTF-8. -/
  | invalidText
  | os (error : OsError)
  deriving DecidableEq

def Failure.message : Failure → String
  | malformedTime text => "malformed time of day '" ++ text ++ "' (expected HH:MM:SS.mmm)"
  | invalidText => "IO error: stream did not contain valid UTF-8"
  | os error =>
    "IO error: " ++ error.description ++ " (os error " ++ error.code.repr ++ ")"

end ViewPoints

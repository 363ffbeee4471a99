/-!
Ways in which a computation stops that no rule of the game foresees: an operation on a value it is
not made for, a number outside its format, an unreadable file. The game's own failures are causes
of their own and are told apart from these.
-/
namespace Gamebook

inductive Fault where
  /-- An operation met a value of a kind it does not accept. -/
  | wrongKind
  /-- The kind is right, the value is not. -/
  | badValue
  /-- A whole number is too large for the real it has to become, or a real is not a whole number. -/
  | tooLarge
  /-- A record was expected and something without its parts was found. -/
  | missingPart
  /-- A list ran out. -/
  | exhausted
  /-- Bytes are not UTF-8. -/
  | undecodable
  /-- Text has a character that no bytes stand for. -/
  | unencodable
  /-- Text is nested too deeply to be read. -/
  | tooDeep
  /-- A directory stands where a file was to be removed. -/
  | directoryInPlace
  /-- Something already has the name that a directory was to get. -/
  | alreadyThere
  /-- The directory of a file is not there. -/
  | noDirectory
  /-- What should be the directory of a file is none. -/
  | notDirectory
  /-- A file's name is longer than names may be. -/
  | nameTooLong
  /-- A value is too large to be held. -/
  | outOfMemory
  /-- There is no telling where the home directory is. -/
  | homeless
  /-- The input lines ended while an answer was awaited. -/
  | inputEnded
  deriving DecidableEq, Repr

def Fault.message : Fault → String
  | .wrongKind => "A value is of the wrong kind."
  | .badValue => "A value is not acceptable."
  | .tooLarge => "A number is too large."
  | .missingPart => "A record has parts missing."
  | .exhausted => "A list ran out."
  | .undecodable => "A file is not UTF-8 text."
  | .unencodable => "A text cannot be written as bytes."
  | .tooDeep => "A text is nested too deeply."
  | .directoryInPlace => "A directory is in the place of a file."
  | .alreadyThere => "A new directory has the name of something else."
  | .noDirectory => "There is no such directory."
  | .notDirectory => "Something else is in the place of a directory."
  | .nameTooLong => "The name of a file is too long."
  | .outOfMemory => "A value is too large to be held."
  | .homeless => "The home directory is not known."
  | .inputEnded => "The input has ended."

end Gamebook

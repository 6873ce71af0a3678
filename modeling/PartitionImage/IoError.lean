/-!
# Failures of input and output

* `IoError` lists why bytes could not be had or kept, `IoError.message` the text of each.
* `IoError.Kind` groups them as a caller tells them apart.
-/

namespace PartitionImage

inductive IoError
  /-- The path, or a directory on it, does not exist. -/
  | notFound
  /-- Something on the path that has to be a directory is a file. -/
  | notADirectory
  /-- The path names a directory where a file is needed. -/
  | isADirectory
  /-- A path, or a name on it, is too long. -/
  | nameTooLong
  /-- A path has a zero byte, which ends it for the system. -/
  | zeroInPath
  /-- A place in a file is past the last that there can be. -/
  | invalidArgument
  /-- A length is too large for a file anywhere. -/
  | lengthTooLarge
  /-- A file would become longer than the file system allows. -/
  | fileTooLarge
  /-- An image ends before the bytes asked for. -/
  | endOfImage
  /-- An image is too short for the bitmap that its descriptor announces. -/
  | endBeforeTrailer
  /-- A change file ends before the bytes asked for. -/
  | endOfFile
  /-- The call was interrupted and can be repeated. -/
  | interrupted
  /-- Memory for the bytes could not be had. -/
  | outOfMemory
  /-- A fault put there on purpose, named for what fails. -/
  | injected (what : String)
  deriving DecidableEq, Repr

namespace IoError

/-- The groups of failures that a caller tells apart. -/
inductive Kind
  | notFound
  | notADirectory
  | isADirectory
  | invalidFilename
  | invalidInput
  | fileTooLarge
  | unexpectedEof
  | interrupted
  | outOfMemory
  | other
  deriving DecidableEq, Repr

def Kind.name : Kind → String
  | notFound => "NotFound"
  | notADirectory => "NotADirectory"
  | isADirectory => "IsADirectory"
  | invalidFilename => "InvalidFilename"
  | invalidInput => "InvalidInput"
  | fileTooLarge => "FileTooLarge"
  | unexpectedEof => "UnexpectedEof"
  | interrupted => "Interrupted"
  | outOfMemory => "OutOfMemory"
  | other => "Other"

def kind : IoError → Kind
  | notFound => .notFound
  | notADirectory => .notADirectory
  | isADirectory => .isADirectory
  | nameTooLong => .invalidFilename
  | zeroInPath | invalidArgument | lengthTooLarge => .invalidInput
  | fileTooLarge => .fileTooLarge
  | endOfImage | endBeforeTrailer | endOfFile => .unexpectedEof
  | interrupted => .interrupted
  | outOfMemory => .outOfMemory
  | injected _ => .other

def message : IoError → String
  | notFound => "No such file or directory (os error 2)"
  | notADirectory => "Not a directory (os error 20)"
  | isADirectory => "Is a directory (os error 21)"
  | nameTooLong => "File name too long (os error 36)"
  | zeroInPath => "file name contained an unexpected NUL byte"
  | invalidArgument => "Invalid argument (os error 22)"
  | lengthTooLarge => "number too large to fit in target type"
  | fileTooLarge => "File too large (os error 27)"
  | endOfImage => "unexpected EOF in image"
  | endBeforeTrailer => "image ends before the bitmap trailer"
  | endOfFile => "unexpected end of file"
  | interrupted => "operation interrupted"
  | outOfMemory => "memory allocation failed because the memory allocator returned an error"
  | injected what => "injected " ++ what ++ " failure"

end IoError

end PartitionImage

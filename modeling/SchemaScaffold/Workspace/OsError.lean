/-! What the operating system answers when it cannot do something with a path. -/

namespace SchemaScaffold.Workspace

inductive OsError where
  | notFound
  | alreadyExists
  | notFolder
  | isFolder
  | nameTooLong
  /-- The path holds a zero character. -/
  | invalidName
  /-- Any other failure, in the system's own words. -/
  | other (message : String)
deriving DecidableEq

namespace OsError

def message : OsError → String
  | notFound => "No such file or directory (os error 2)"
  | alreadyExists => "File exists (os error 17)"
  | notFolder => "Not a directory (os error 20)"
  | isFolder => "Is a directory (os error 21)"
  | nameTooLong => "File name too long (os error 36)"
  | invalidName => "file name contained an unexpected NUL byte"
  | other message => message

end OsError

end SchemaScaffold.Workspace

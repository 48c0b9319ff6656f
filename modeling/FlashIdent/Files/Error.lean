import FlashIdent.Errno

/-!
# Errors of the file tree

Why a directory was not made or a file not written.
-/

namespace FlashIdent.Files

/-- The cause of a failure. -/
inductive Error where
  | notFound
  /-- The name is taken. -/
  | taken
  | notDirectory
  | isDirectory
  | nameTooLong
deriving DecidableEq

namespace Error

def errno : Error → Errno
  | notFound => ⟨2⟩
  | taken => ⟨17⟩
  | notDirectory => ⟨20⟩
  | isDirectory => ⟨21⟩
  | nameTooLong => ⟨36⟩

def kind : Error → String
  | notFound => "NotFound"
  | taken => "AlreadyExists"
  | notDirectory => "NotADirectory"
  | isDirectory => "IsADirectory"
  | nameTooLong => "InvalidFilename"

def text (e : Error) : String :=
  "Os \x7b code: " ++ toString e.errno.code ++ ", kind: " ++ e.kind ++ ", message: \"" ++ e.errno.description ++
    "\" \x7d"

end Error

end FlashIdent.Files

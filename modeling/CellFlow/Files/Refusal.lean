/-!
Why files and folders are refused, and how a message words it.
-/

set_option autoImplicit false

namespace CellFlow

inductive Refusal where
  | noSuchFile | fileExists | notFolder | isFolder | nameTooLong
  | zeroCharacter
  deriving DecidableEq, Repr

def Refusal.kindName : Refusal → String
  | .noSuchFile => "FileNotFoundError"
  | .fileExists => "FileExistsError"
  | .notFolder => "NotADirectoryError"
  | .isFolder => "IsADirectoryError"
  | .nameTooLong => "OSError"
  | .zeroCharacter => "ValueError"

def Refusal.isForeign : Refusal → Bool
  | .zeroCharacter => false
  | _ => true

def Refusal.text : Refusal → String
  | .noSuchFile => "[Errno 2] No such file or directory"
  | .fileExists => "[Errno 17] File exists"
  | .notFolder => "[Errno 20] Not a directory"
  | .isFolder => "[Errno 21] Is a directory"
  | .nameTooLong => "[Errno 36] File name too long"
  | .zeroCharacter => "embedded null byte"

end CellFlow

/-!
# Files as they are found

What lies under a path, as far as a reader of texts is concerned.
-/

set_option autoImplicit false

namespace ScrapeTelemetry

inductive FileContent where
  | missing
  | unreadable (reason : String)
  | undecodable
  | text (s : String)
  deriving DecidableEq, Repr

abbrev Files := String → FileContent

def FileContent.read : FileContent → Except String String
  | missing => .error "No such file or directory (os error 2)"
  | unreadable reason => .error reason
  | undecodable => .error "stream did not contain valid UTF-8"
  | text s => .ok s

end ScrapeTelemetry

/-!
What connects a terminal with a remote side: the notices that it gives, and
the ways in which it fails.
-/

namespace VideoTerminal.Transport

/-- A notice from a transport. -/
inductive Event where
  | text (text : List Char)
  | connection (up : Bool)
deriving DecidableEq

/-- Why a transport could not do what was asked of it. -/
inductive Error where
  | notStarted
  | disconnected
  | write (reason : String)
  | spawn (reason : String)
deriving DecidableEq

def Error.message : Error → String
  | notStarted => "Driver has not been started"
  | disconnected => "Connection is closed"
  | write reason => "Failed to write to transport: " ++ reason
  | spawn reason => "Failed to spawn reader thread: " ++ reason

end VideoTerminal.Transport

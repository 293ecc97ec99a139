import MonitorFeed.Json.Fault

/-!
What can go wrong, and how it is told.
-/

namespace MonitorFeed

/-- Faults of files and of output. -/
inductive IoFault where
  | notFound
  | notDirectory
  | isDirectory
  | nameTooLong
  | invalidName
  | notText
  | other (text : String)
deriving Repr, DecidableEq

def IoFault.message : IoFault → String
  | .notFound => "No such file or directory (os error 2)"
  | .notDirectory => "Not a directory (os error 20)"
  | .isDirectory => "Is a directory (os error 21)"
  | .nameTooLong => "File name too long (os error 36)"
  | .invalidName => "file name contained an unexpected NUL byte"
  | .notText => "stream did not contain valid UTF-8"
  | .other text => text

/-- Faults of documents: of a configuration, of a payload, or of the file that holds it. -/
inductive DocumentError where
  | config (text : String)
  | json (error : Json.Error)
  | io (fault : IoFault)

def DocumentError.message : DocumentError → String
  | .config text => "Configuration error: " ++ text
  | .json error => "JSON serialization error: " ++ error.message
  | .io fault => "IO error: " ++ fault.message

/-- Faults that a client meets. -/
inductive ClientError where
  | refused (operation : String) (text : String)
  | serialization (text : String)
  | library (text : String)
  | invalidText (operation : String)
  | config (text : String)
  | configNotFound (path : String)
  | configParse (text : String)
  | configInvalid (text : String)
  | worker (text : String)
  | io (fault : IoFault)
deriving Repr, DecidableEq

namespace ClientError

def message : ClientError → String
  | refused operation text => operation ++ " failed: " ++ text
  | serialization text => "Serialization error: " ++ text
  | library text => "Failed to load transit library: " ++ text
  | invalidText operation =>
    "Invalid string passed across the native boundary in " ++ operation
  | config text => "Configuration error: " ++ text
  | configNotFound path => "Configuration file not found: " ++ path
  | configParse text => "Failed to parse configuration: " ++ text
  | configInvalid text => "Configuration validation failed: " ++ text
  | worker text => "Worker error: " ++ text
  | io fault => "I/O error: " ++ fault.message

/-- A fault of a document as a client sees it. -/
def ofDocument : DocumentError → ClientError
  | .json error => serialization error.message
  | .config text => config text
  | .io fault => io fault

/-- The fault behind a fault, which a report of causes lists below it. -/
def cause? : ClientError → Option String
  | io fault => some fault.message
  | _ => none

end ClientError

end MonitorFeed

import QueryWatch.Config.Malformed
import QueryWatch.TimeUnit
import QueryWatch.Url

namespace QueryWatch

inductive OptionFault
  | zero
  | empty
  | level
  | timeUnit (unknown : TimeUnit.Unknown)
  /-- A table entry without a keyspace and a table. -/
  | tableEntry (entry : String)
  | url (fault : Url.Fault)

def OptionFault.message : OptionFault → String
  | .zero => "must be greater than zero"
  | .empty => "must not be empty"
  | .level => "error parsing level: expected one of \"error\", \"warn\", \"info\", \"debug\", " ++
      "\"trace\", or a number 1-5"
  | .timeUnit unknown => unknown.message
  | .tableEntry entry => "'" ++ entry ++ "' is not of the form keyspace.table"
  | .url fault => fault.message

inductive BuildError
  | unknownKind (kind : String)
  | missingOption (option : String)
  | invalidOption (option : String) (fault : OptionFault)
  | malformed (fault : Config.Malformed)

def BuildError.message : BuildError → String
  | .unknownKind kind => "Unknown kind: " ++ kind
  | .missingOption option => "Missing required option: " ++ option
  | .invalidOption option fault => "Invalid option '" ++ option ++ "': " ++ fault.message
  | .malformed fault => "Malformed options: " ++ fault.message

end QueryWatch

import SqlPipeline.Value.Basic

/-!
What can go wrong, and how it is said.

Each error names its cause. `Error.message` is the only place where the wording stands.
-/

namespace SqlPipeline

/-- Why a statement or a transaction was set up wrongly. -/
inductive ConfigFault
  | noTable
  | noSumColumn
  | noInsertColumns
  | unconditionalDelete (table : String)
  | missingArgument (key : String)
  | missingHandler (key : String)
  /-- A control command does not fit the state of the transaction. -/
  | wrongState (command state : String)
  | noDatabaseUrl
  /-- The configured pool size is no positive number. -/
  | badPoolSize (size : String)
  /-- A cause that a caller gives in words. -/
  | other (text : String)
  deriving DecidableEq

def ConfigFault.message : ConfigFault → String
  | .noTable => "statement has no table"
  | .noSumColumn => "sum needs a column"
  | .noInsertColumns => "insert with no columns"
  | .unconditionalDelete table => "refusing to delete from " ++ table ++ " without conditions"
  | .missingArgument key => "missing step argument '" ++ key ++ "'"
  | .missingHandler key => "no step handler registered for '" ++ key ++ "'"
  | .wrongState command state => "cannot " ++ command ++ ": transaction is " ++ state
  | .noDatabaseUrl => "DATABASE_URL is not set"
  | .badPoolSize size => "invalid DBX_POOL_SIZE '" ++ size ++ "'"
  | .other text => text

/-- Why a value could not be read. -/
inductive DecodeFault
  /-- The value is of another kind than the reader takes. -/
  | mismatch (expected : String) (got : Value.Kind)
  | outOfRange (value : Int) (type : String)
  | noSuchColumn
  /-- The row has fewer columns. -/
  | indexOutOfRange
  | unsupportedType (name : String)
  | unsupportedNumeric
  /-- The text or the bytes do not have the form of what they should hold. -/
  | malformed (what : String)
  /-- A cause that a caller gives in words. -/
  | other (text : String)
  deriving DecidableEq

def DecodeFault.message : DecodeFault → String
  | .mismatch expected got => "expected " ++ expected ++ ", got " ++ got.label
  | .outOfRange value type => intText value ++ " out of range for " ++ type
  | .noSuchColumn => "no such column"
  | .indexOutOfRange => "column index out of range"
  | .unsupportedType name => "unsupported column type " ++ name
  | .unsupportedNumeric =>
    "unsupported column type numeric (enable the `rust_decimal` feature)"
  | .malformed what => "malformed " ++ what
  | .other text => text

/-- Why something could not be turned into a record or out of a row. -/
inductive SerializationFault
  /-- The document, given in its compact text, is no object. -/
  | notAnObject (document : String)
  | wrongShape (what : String)
  /-- A cause that a caller gives in words. -/
  | other (text : String)
  deriving DecidableEq

def SerializationFault.message : SerializationFault → String
  | .notAnObject document => "expected a struct or map, got " ++ document
  | .wrongShape what => what
  | .other text => text

/-- An error of a statement, a session, a pool or a transaction. -/
inductive Error
  | config (fault : ConfigFault)
  | connection (text : String)
  /-- The database refused a statement, with its state code, or the statement never reached it. -/
  | query (code : Option String) (text : String)
  | driver (text : String)
  | notFound (text : String)
  | uniqueViolation (text : String)
  | foreignKeyViolation (text : String)
  | checkViolation (text : String)
  | decode (column : String) (fault : DecodeFault)
  | serialization (fault : SerializationFault)
  | pool (text : String)
  | internal (text : String)
  deriving DecidableEq

namespace Error

def message : Error → String
  | .config fault => "Configuration error: " ++ fault.message
  | .connection text => "Connection error: " ++ text
  | .query _ text => "Query error: " ++ text
  | .driver text => "Driver error: " ++ text
  | .notFound text => "Not found: " ++ text
  | .uniqueViolation text => "Unique constraint violation: " ++ text
  | .foreignKeyViolation text => "Foreign key violation: " ++ text
  | .checkViolation text => "Check constraint violation: " ++ text
  | .decode column fault => "Decode error on column '" ++ column ++ "': " ++ fault.message
  | .serialization fault => "Serialization error: " ++ fault.message
  | .pool text => "Pool error: " ++ text
  | .internal text => "Internal error: " ++ text

/-- The statement or the transaction was set up wrongly. -/
def isConfig : Error → Bool
  | .config _ => true
  | _ => false

/-- A row that had to be there was not. -/
def isNotFound : Error → Bool
  | .notFound _ => true
  | _ => false

/-- A unique constraint was violated. -/
def isUniqueViolation : Error → Bool
  | .uniqueViolation _ => true
  | _ => false

/-- A panic was turned into the error. -/
def isInternal : Error → Bool
  | .internal _ => true
  | _ => false

/-- Names the column of a decode error; other errors are kept. -/
def onColumn (column : String) : Error → Error
  | .decode _ fault => .decode column fault
  | e => e

end Error

inductive Panic
  /-- An error that was thrown to end the step at once. -/
  | error (e : Error)
  | message (text : String)
  | other
  deriving DecidableEq

/-- The error that a recovered panic becomes: its own error, or an internal error with its text. -/
def Panic.toError : Panic → Error
  | .error e => e
  | .message text => .internal text
  | .other => .internal "unknown panic"

end SqlPipeline

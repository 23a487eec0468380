import SqlPipeline.Dialect
import SqlPipeline.Error

/-!
The configuration of a database connection, and its environment variables.
-/

namespace SqlPipeline

/-- The number of connections of a pool that is not told otherwise. -/
def defaultPoolSize : Nat := 16

structure Config where
  databaseUrl : String := ""
  maxPoolSize : Nat := defaultPoolSize
  dialect : Dialect := Dialect.postgres

namespace Config

/-- A positive number of connections within an unsigned 64-bit word, with blanks around it. -/
def poolSize? (size : String) : Option Nat :=
  let digits := match trimChars size.toList with
    | '+' :: cs => cs
    | cs => cs
  match digitsValue? digits with
  | some n => if 0 < n ∧ n < 18446744073709551616 then some n else none
  | none => none

/-- The configuration that the variables `DATABASE_URL` and `DBX_POOL_SIZE` give. -/
def ofLookup (lookup : String → Option String) : Except Error Config :=
  match lookup "DATABASE_URL" with
  | none => .error (.config .noDatabaseUrl)
  | some databaseUrl =>
    if isBlankText databaseUrl then .error (.config .noDatabaseUrl)
    else
      match lookup "DBX_POOL_SIZE" with
      | none => .ok { databaseUrl }
      | some size =>
        match poolSize? size with
        | some maxPoolSize => .ok { databaseUrl, maxPoolSize }
        | none => .error (.config (.badPoolSize size))

end Config

end SqlPipeline

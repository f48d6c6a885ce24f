/-!
Why a store does not do what it is asked. A store that keeps its tables in a database passes
on the failures of that database, except that a missing row and a row that exists already are
answers of the store.
-/

namespace Gatehouse.Store

/-- A failure of the database or of the connection to it. -/
inductive Failure where
  | noRow
  | timedOut
  | closed
  /-- The server refused; `unique` tells that a row exists already. -/
  | refused (unique : Bool) (message : String)
  | noColumn (name : String)
  | undecodable (column reason : String)
  | other (message : String)
  deriving DecidableEq, Repr

def Failure.message : Failure → String
  | .noRow => "no rows returned by a query that expected to return at least one row"
  | .timedOut => "pool timed out while waiting for an open connection"
  | .closed => "attempted to acquire a connection on a closed pool"
  | .refused _ message => "error returned from database: " ++ message
  | .noColumn name => "no column found for name: " ++ name
  | .undecodable column reason =>
      s!"error occurred while decoding column \"{column}\": {reason}"
  | .other message => message

def Failure.isUnique : Failure → Bool
  | .refused unique _ => unique
  | _ => false

/-- What was being done when it failed. -/
inductive DatabaseError where
  | connection (cause : Failure)
  | query (cause : Failure)
  | transaction (cause : Failure)
  | configuration (message : String)
  deriving DecidableEq, Repr

def DatabaseError.message : DatabaseError → String
  | .connection cause => "Database connection error: " ++ cause.message
  | .query cause => "Database query error: " ++ cause.message
  | .transaction cause => "Database transaction error: " ++ cause.message
  | .configuration message => "Database configuration error: " ++ message

def DatabaseError.isUniqueViolation : DatabaseError → Bool
  | .query cause | .transaction cause => cause.isUnique
  | _ => false

def DatabaseError.isRowNotFound : DatabaseError → Bool
  | .query .noRow => true
  | _ => false

def DatabaseError.hasCause : DatabaseError → Bool
  | .configuration _ => false
  | _ => true

/-- What a store answers instead of a value. -/
inductive Error where
  | notFound
  | conflict
  | database (cause : DatabaseError)
  | unavailable (reason : String)
  deriving DecidableEq, Repr

def Error.message : Error → String
  | .notFound => "record not found"
  | .conflict => "record already exists"
  | .database cause => cause.message
  | .unavailable reason => "store unavailable: " ++ reason

/-- The answer for a failed query. -/
def Error.ofQuery (cause : Failure) : Error :=
  if cause = .noRow then .notFound
  else if cause.isUnique then .conflict
  else .database (.query cause)

/-- The answer for a failure to begin or to commit. -/
def Error.ofTransaction (cause : Failure) : Error :=
  if cause.isUnique then .conflict else .database (.transaction cause)

end Gatehouse.Store

import Mathlib.Data.List.Infix
import PortableTpcc.SemanticOps

namespace PortableTpcc

/-!
# Exceptions and error classes

Every failure reaches the harness as an error class.  This module models the
exceptions the three drivers raise, as far as the adapters can tell them
apart, and the classifiers that map them: the shared SQLSTATE table, and the
PostgreSQL, OceanBase and YDB classifiers with their separate treatment of a
failed commit.
-/

/-- `std::string_view::find(needle) != npos`. -/
def containsText (hay needle : String) : Bool :=
  needle.toList <:+: hay.toList

/-- `ContainsInsensitive`: substring search on lowered bytes. -/
def containsInsensitive (hay needle : String) : Bool :=
  needle ≠ "" ∧ needle.toList.map Char.toLower <:+: hay.toList.map Char.toLower

/-- The `pqxx::sql_error` subclasses that some code distinguishes. -/
inductive PqxxSqlKind where
  | plain
  | transactionRollback
  | statementCompletionUnknown
deriving Repr, DecidableEq

/-- `dynamic_cast<const pqxx::transaction_rollback*>` on an SQL error. -/
def PqxxSqlKind.isTransactionRollback : PqxxSqlKind → Bool
  | .plain => false
  | .transactionRollback => true
  | .statementCompletionUnknown => true

/-- `NYdb::EStatus`. -/
inductive EStatus where
  | statusUndefined
  | success
  | badRequest
  | unauthorized
  | internalError
  | aborted
  | unavailable
  | overloaded
  | schemeError
  | genericError
  | timeout
  | badSession
  | preconditionFailed
  | alreadyExists
  | notFound
  | sessionExpired
  | cancelled
  | undetermined
  | unsupported
  | sessionBusy
  | externalError
  | transportUnavailable
  | clientResourceExhausted
  | clientDeadlineExceeded
  | clientInternalError
  | clientCancelled
  | clientUnauthenticated
  | clientCallUnimplemented
  | clientOutOfRange
  | clientDiscoveryFailed
  | clientLimitsReached
deriving Repr, DecidableEq

/--
The exceptions that can reach an adapter or the terminal, told apart as the
code's `dynamic_cast`s tell them apart.
-/
inductive StdException where
  | other (what : String)
  | pqxxBrokenConnection (what : String)
  | pqxxInDoubt (what : String)
  | pqxxSqlError (kind : PqxxSqlKind) (sqlState what : String)
  | obDbError (code : Int) (what : String)
  | ydbError (status : EStatus) (issues : String)
deriving Repr, DecidableEq

/-- `std::exception::what`; nothing is written into a YDB error. -/
def StdException.what : StdException → String
  | .other text => text
  | .pqxxBrokenConnection text => text
  | .pqxxInDoubt text => text
  | .pqxxSqlError _ _ text => text
  | .obDbError _ text => text
  | .ydbError _ _ => ""

/-- `std::bad_variant_access`, raised by `std::get` on the wrong payload. -/
def badVariantAccess : StdException :=
  .other "std::get: wrong index for variant"

/-- `ClassifySqlState`. -/
def classifySqlState (sqlState : String) : EErrorClass :=
  if sqlState.toList.length < 2 then
    .permanent
  else if sqlState = "40001" ∨ sqlState = "40P01" then
    .retryableAbort
  else if sqlState.toList.take 2 = ['4', '0'] then
    .retryableAbort
  else if sqlState.toList.take 2 = ['0', '8'] then
    .notCommitted
  else if sqlState.toList.take 2 = ['2', '3'] then
    .integrity
  else if sqlState = "57014" then
    .cancelled
  else
    .permanent

/-- `IsRetryable`. -/
def isRetryable (errorClass : EErrorClass) : Bool :=
  errorClass = .retryableAbort ∨ errorClass = .notCommitted

/-- `MayBlindRetry`. -/
def mayBlindRetry (errorClass : EErrorClass) : Bool :=
  isRetryable errorClass

/-- `AbortsRun`. -/
def abortsRun (errorClass : EErrorClass) : Bool :=
  errorClass = .integrity

/-- No SQLSTATE by itself makes a commit ambiguous. -/
theorem classifySqlState_ne_ambiguousCommit (sqlState : String) :
    classifySqlState sqlState ≠ .ambiguousCommit := by
  unfold classifySqlState
  repeat' split
  all_goals simp

namespace Pg

/-- `PgSqlStateOf`. -/
def sqlStateOf : StdException → String
  | .pqxxSqlError _ sqlState _ => sqlState
  | _ => ""

/-- The message search of `TPgErrorClassifier::Classify`. -/
def hasRetryKeyword (message : String) : Bool :=
  containsInsensitive message "serialization" ∨ containsInsensitive message "deadlock" ∨
    containsInsensitive message "could not serialize"

/-- `TPgErrorClassifier::Classify`. -/
def classify (nativeCode message : String) : EErrorClass :=
  if nativeCode ≠ "" then
    classifySqlState nativeCode
  else if hasRetryKeyword message then
    .retryableAbort
  else
    .permanent

/-- `TPgErrorClassifier::ClassifyException`. -/
def classifyException (ex : StdException) : EErrorClass :=
  match ex with
  | .pqxxBrokenConnection _ =>
    .notCommitted
  | .pqxxSqlError kind sqlState what =>
    if kind.isTransactionRollback then
      if sqlState ≠ "" then
        classifySqlState sqlState
      else
        .retryableAbort
    else if sqlState ≠ "" then
      classify sqlState what
    else
      classify "" what
  | ex =>
    classify "" ex.what

/-- The SQLSTATE class 08 test of the commit classifier and the session. -/
def isConnectionState (sqlState : String) : Bool :=
  2 ≤ sqlState.toList.length ∧ sqlState.toList.take 2 = ['0', '8']

/-- `TPgErrorClassifier::ClassifyCommitException`. -/
def classifyCommitException (ex : StdException) : EErrorClass :=
  match ex with
  | .pqxxBrokenConnection _ =>
    .ambiguousCommit
  | ex =>
    if isConnectionState (sqlStateOf ex) then
      .ambiguousCommit
    else
      classifyException ex

/-- A failed operation is never classified as an ambiguous commit. -/
theorem classifyException_ne_ambiguousCommit (ex : StdException) :
    classifyException ex ≠ .ambiguousCommit := by
  have messageClass : ∀ code what, classify code what ≠ .ambiguousCommit := by
    intro code what
    unfold classify
    split
    · exact classifySqlState_ne_ambiguousCommit code
    · split <;> decide
  cases ex with
  | pqxxBrokenConnection what =>
    simp [classifyException]
  | pqxxSqlError kind sqlState what =>
    simp only [classifyException]
    repeat' split
    all_goals
      first
      | exact classifySqlState_ne_ambiguousCommit sqlState
      | exact messageClass _ _
      | decide
  | other what =>
    exact messageClass _ _
  | pqxxInDoubt what =>
    exact messageClass _ _
  | obDbError code what =>
    exact messageClass _ _
  | ydbError status what =>
    exact messageClass _ _

/-- The commit classifier reports an ambiguous commit for these exceptions. -/
theorem classifyCommitException_eq_ambiguousCommit_iff (ex : StdException) :
    classifyCommitException ex = .ambiguousCommit ↔ (∃ what, ex = .pqxxBrokenConnection what) ∨
      isConnectionState (sqlStateOf ex) = true := by
  cases ex with
  | pqxxBrokenConnection what =>
    simp [classifyCommitException]
  | _ =>
    simp only [classifyCommitException]
    split
    · rename_i connectionState
      simp [connectionState]
    · rename_i connectionState
      simp [connectionState, classifyException_ne_ambiguousCommit]

end Pg

namespace Ob

/-- `EObDbErrorKind`. -/
inductive EObDbErrorKind where
  | other
  | deadlock
  | lockWaitTimeout
  | serializationFailure
  | transactionInvalidated
  | connectionLost
  | tenantMemoryLimit
  | shutdown
deriving Repr, DecidableEq

/-- `IsTenantMemoryLimitCode`. -/
def isTenantMemoryLimitCode (nativeCode : Int) : Bool :=
  nativeCode.natAbs = 4013

/-- `LooksLikeTenantMemoryLimit`. -/
def looksLikeTenantMemoryLimit (message : String) : Bool :=
  containsText message "tenant memory" ∨ containsText message "No memory or reach"

/-- `IsConnectionLostCode`. -/
def isConnectionLostCode (nativeCode : Int) : Bool :=
  nativeCode ∈ ([2002, 2003, 2006, 2013, 2014, 2027, 2055] : List Int)

/-- `ClassifyDbError`. -/
def classifyDbError (nativeCode : Int) (message : String) : EObDbErrorKind :=
  if isTenantMemoryLimitCode nativeCode ∨ looksLikeTenantMemoryLimit message then
    .tenantMemoryLimit
  else if nativeCode = 1213 then
    .deadlock
  else if nativeCode = 1205 then
    .lockWaitTimeout
  else if nativeCode = 6235 then
    .serializationFailure
  else if nativeCode = 6002 then
    .transactionInvalidated
  else if nativeCode = 1317 then
    .shutdown
  else if isConnectionLostCode nativeCode then
    .connectionLost
  else
    .other

/-- `ClassifyCode`. -/
def classifyCode (code : Int) (commit : Bool) (message : String) : EErrorClass :=
  match classifyDbError code message with
  | .deadlock => .retryableAbort
  | .lockWaitTimeout => .retryableAbort
  | .serializationFailure => .retryableAbort
  | .transactionInvalidated => .retryableAbort
  | .shutdown => .cancelled
  | .connectionLost =>
    if commit then .ambiguousCommit else .notCommitted
  | .tenantMemoryLimit => .permanent
  | .other => .permanent

/-- `ObNativeCodeOf`. -/
def nativeCodeOf : StdException → String
  | .obDbError code _ => toString code
  | _ => ""

/-- `TObErrorClassifier::ClassifyException`. -/
def classifyException : StdException → EErrorClass
  | .obDbError code what => classifyCode code false what
  | _ => .permanent

/-- `TObErrorClassifier::ClassifyCommitException`. -/
def classifyCommitException : StdException → EErrorClass
  | .obDbError code what => classifyCode code true what
  | _ => .permanent

/-- The test of `TObSession::MarkException`. -/
def isConnectionLost : StdException → Bool
  | .obDbError code what => classifyDbError code what = .connectionLost
  | _ => false

end Ob

namespace Ydb

/-- `ToString(EStatus)`. -/
def statusName : EStatus → String
  | .statusUndefined => "STATUS_UNDEFINED"
  | .success => "SUCCESS"
  | .badRequest => "BAD_REQUEST"
  | .unauthorized => "UNAUTHORIZED"
  | .internalError => "INTERNAL_ERROR"
  | .aborted => "ABORTED"
  | .unavailable => "UNAVAILABLE"
  | .overloaded => "OVERLOADED"
  | .schemeError => "SCHEME_ERROR"
  | .genericError => "GENERIC_ERROR"
  | .timeout => "TIMEOUT"
  | .badSession => "BAD_SESSION"
  | .preconditionFailed => "PRECONDITION_FAILED"
  | .alreadyExists => "ALREADY_EXISTS"
  | .notFound => "NOT_FOUND"
  | .sessionExpired => "SESSION_EXPIRED"
  | .cancelled => "CANCELLED"
  | .undetermined => "UNDETERMINED"
  | .unsupported => "UNSUPPORTED"
  | .sessionBusy => "SESSION_BUSY"
  | .externalError => "EXTERNAL_ERROR"
  | .transportUnavailable => "TRANSPORT_UNAVAILABLE"
  | .clientResourceExhausted => "CLIENT_RESOURCE_EXHAUSTED"
  | .clientDeadlineExceeded => "CLIENT_DEADLINE_EXCEEDED"
  | .clientInternalError => "CLIENT_INTERNAL_ERROR"
  | .clientCancelled => "CLIENT_CANCELLED"
  | .clientUnauthenticated => "CLIENT_UNAUTHENTICATED"
  | .clientCallUnimplemented => "CLIENT_CALL_UNIMPLEMENTED"
  | .clientOutOfRange => "CLIENT_OUT_OF_RANGE"
  | .clientDiscoveryFailed => "CLIENT_DISCOVERY_FAILED"
  | .clientLimitsReached => "CLIENT_LIMITS_REACHED"

/-- The numeric value of a status. -/
def statusNumber : EStatus → Nat
  | .statusUndefined => 0
  | .success => 400000
  | .badRequest => 400010
  | .unauthorized => 400020
  | .internalError => 400030
  | .aborted => 400040
  | .unavailable => 400050
  | .overloaded => 400060
  | .schemeError => 400070
  | .genericError => 400080
  | .timeout => 400090
  | .badSession => 400100
  | .preconditionFailed => 400120
  | .alreadyExists => 400130
  | .notFound => 400140
  | .sessionExpired => 400150
  | .cancelled => 400160
  | .undetermined => 400170
  | .unsupported => 400180
  | .sessionBusy => 400190
  | .externalError => 400200
  | .transportUnavailable => 401010
  | .clientResourceExhausted => 401020
  | .clientDeadlineExceeded => 401030
  | .clientInternalError => 401050
  | .clientCancelled => 401060
  | .clientUnauthenticated => 401070
  | .clientCallUnimplemented => 401080
  | .clientOutOfRange => 401090
  | .clientDiscoveryFailed => 402010
  | .clientLimitsReached => 402020

/-- `YdbStatusCodeOf`. -/
def ydbStatusCodeOf (status : EStatus) : String :=
  statusName status ++ " (" ++ toString (statusNumber status) ++ ")"

/-- `YdbIssuesToString`. -/
def ydbIssuesToString (status : EStatus) (issues : String) : String :=
  if issues = "" then
    ydbStatusCodeOf status
  else
    ydbStatusCodeOf status ++ ": " ++ issues

/-- `ClassifyByMessage`. -/
def classifyByMessage (message : String) : EErrorClass :=
  if containsText message "ABORTED" ∨ containsText message "OVERLOADED" ∨
      containsText message "SESSION_BUSY" then
    .retryableAbort
  else if containsText message "UNDETERMINED" ∨ containsText message "TRANSPORT" ∨
      containsText message "CLIENT_" then
    .notCommitted
  else if containsText message "UNAVAILABLE" then
    .retryableAbort
  else
    .permanent

/-- `TYdbErrorClassifier::ClassifyStatus`. -/
def classifyStatus (status : EStatus) (duringCommit : Bool) : EErrorClass :=
  match status with
  | .success => .permanent
  | .aborted => .retryableAbort
  | .unavailable => .retryableAbort
  | .overloaded => .retryableAbort
  | .timeout => .retryableAbort
  | .badSession => .retryableAbort
  | .sessionExpired => .retryableAbort
  | .sessionBusy => .retryableAbort
  | .clientResourceExhausted => .retryableAbort
  | .clientLimitsReached => .retryableAbort
  | .transportUnavailable =>
    if duringCommit then .ambiguousCommit else .notCommitted
  | .clientDeadlineExceeded =>
    if duringCommit then .ambiguousCommit else .notCommitted
  | .clientInternalError =>
    if duringCommit then .ambiguousCommit else .notCommitted
  | .undetermined => .ambiguousCommit
  | .preconditionFailed => .integrity
  | .alreadyExists => .integrity
  | .cancelled => .cancelled
  | .clientCancelled => .cancelled
  | _ => .permanent

/--
`TYdbErrorClassifier::ClassifyException`.  A foreign exception has no native
code, so outside a commit only its message decides.
-/
def classifyException (ex : StdException) (duringCommit : Bool) : EErrorClass :=
  match ex with
  | .ydbError status _ => classifyStatus status duringCommit
  | ex =>
    if duringCommit then
      .ambiguousCommit
    else
      classifyByMessage ex.what

end Ydb

end PortableTpcc

import I2cTopology.Failure
import I2cTopology.Text.Column

/-!
# Complaints

How a command that failed says so: what it was doing, and below that what lies behind the failure, the
nearest cause first.
-/

namespace I2cTopology
namespace Command

/-- Why a command failed. -/
inductive Complaint where
  | plain (failure : Failure)
  /-- The first scan failed. -/
  | discovery (failure : Failure)
  /-- No adapter could be selected by a path. -/
  | selection (path : String) (failure : Failure)
  /-- One of several scans failed. -/
  | rescan (round rounds : Nat) (failure : Failure)
  /-- A well-formed path leads to no adapter. -/
  | nowhere (path : BusPath)
  deriving Repr

namespace Complaint

/-- A failure in words, then what lies behind it. -/
def messagesOf (failure : Failure) : List String :=
  failure.message :: failure.cause?.toList

/-- The complaint in words, then its causes from the nearest to the deepest. -/
def messages : Complaint → String × List String
  | plain failure => (failure.message, failure.cause?.toList)
  | discovery failure => ("failed to discover i2c adapters", messagesOf failure)
  | selection path failure => (s!"cannot select adapter `{path}`", messagesOf failure)
  | rescan round rounds failure => (s!"rescan {round} of {rounds} failed", messagesOf failure)
  | nowhere path => (s!"no adapter at `{path.render}`", [])

/-- The lines of several causes, each with its number. -/
def numberedLines (causes : List String) : List String :=
  causes.zipIdx.map fun (cause, number) =>
    Text.padLeft ' ' 5 (toString number) ++ ": " ++ Text.hang 7 cause

/-- The lines of a complaint. A cause that is the only one has no number. -/
def lines (complaint : Complaint) : List String :=
  let (message, causes) := complaint.messages
  let below := match causes with
    | [] => []
    | [cause] => ["", "Caused by:", "    " ++ Text.hang 4 cause]
    | several => "" :: "Caused by:" :: numberedLines several
  ("Error: " ++ message) :: below

end Complaint
end Command
end I2cTopology

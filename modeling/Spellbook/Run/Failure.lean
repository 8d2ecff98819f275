import Spellbook.Run.RunError
import Spellbook.Source.SyntaxError

/-!
# Failures

A spell fails because it cannot be read or because a statement cannot be carried out.  Either
way the failure has a kind, a message and a line, and blames one stretch of the source.
-/

namespace Spellbook

/-- The kinds of failures. -/
inductive FailureKind where
  | unreadable
  | undefinedName
  | wrongType
  | unknownAttribute
  | exhausted
deriving DecidableEq

namespace FailureKind

/-- The name of the kind, as reports give it. -/
def name : FailureKind → Text
  | unreadable => "SyntaxError"
  | undefinedName => "NameError"
  | wrongType => "TypeError"
  | unknownAttribute => "AttributeError"
  | exhausted => "ResourceExhausted"

/-- Every kind once. -/
def all : List FailureKind :=
  [unreadable, undefinedName, wrongType, unknownAttribute, exhausted]

theorem mem_all (k : FailureKind) : k ∈ all := by cases k <;> decide

/-- The kind with the given name. -/
def ofName? (t : Text) : Option FailureKind := all.find? fun k => k.name == t

theorem ofName?_name (k : FailureKind) : ofName? k.name = some k := by cases k <;> decide

end FailureKind

/-- What a report says about a failure: its kind and message, and its line if one is known. -/
structure Report where
  kind : FailureKind
  message : Text
  line : Option Nat
deriving DecidableEq

/-- The report as a sentence. -/
def Report.display (r : Report) : Text :=
  let headline := r.kind.name ++ ": " ++ r.message
  match r.line with
  | some line => headline ++ " (line " ++ Text.ofNat line ++ ")"
  | none => headline

/-- Why a spell failed. -/
inductive Failure where
  /-- The spell cannot be read. -/
  | reading (error : SyntaxError)
  /-- A statement of the spell cannot be carried out. -/
  | running (error : RunError)
deriving DecidableEq

/-- The kind of the failures that have the cause. -/
def RunCause.kind : RunCause → FailureKind
  | undefinedName _ => .undefinedName
  | misuse _ _ => .wrongType
  | unknownMethod _ _ => .unknownAttribute
  | stepLimit _ => .exhausted

namespace Failure

/-- The kind of the failure. -/
def kind : Failure → FailureKind
  | reading _ => .unreadable
  | running e => e.cause.kind

/-- The line that the failure is reported on. -/
def line : Failure → Nat
  | reading e => e.line
  | running e => e.line

/-- The bytes of the source that are to blame. -/
def span : Failure → Span
  | reading e => e.span
  | running e => e.span

/-- The sentence that reports the failure. -/
def message : Failure → Text
  | reading e => e.cause.message e.line
  | running e => e.cause.message

/-- The identifier under which the failure is documented. -/
def code : Failure → Text
  | reading e => e.cause.code
  | running e => e.cause.code

/-- What can be done about the failure. -/
def help : Failure → Text
  | reading e => e.cause.help
  | running e => e.cause.help

/-- The words next to the bytes that are to blame. -/
def label : Failure → Text
  | reading e => e.cause.label
  | running e => e.cause.label

/-- The report of the failure. -/
def report (f : Failure) : Report := ⟨f.kind, f.message, some f.line⟩

end Failure

end Spellbook

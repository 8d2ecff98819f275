import Spellbook.Store.Basic
import Spellbook.Syntax.Span

/-!
# Errors of a running spell

The reasons for which a statement cannot be carried out, and the wording of each.
-/

namespace Spellbook

/-- What a value is used for although its kind does not allow it. -/
inductive Misuse where
  /-- It is asked for its length. -/
  | length
  /-- It is searched for an element. -/
  | search
  /-- It decides a condition. -/
  | condition
  /-- It is gone through by a loop. -/
  | iteration
deriving DecidableEq

/-- Why a statement cannot be carried out. -/
inductive RunCause where
  /-- The name has no value. -/
  | undefinedName (name : Text)
  /-- A value of this kind cannot be used like that. -/
  | misuse (misuse : Misuse) (kind : Kind)
  /-- A value of this kind does not have that method. -/
  | unknownMethod (kind : Kind) (method : Text)
  /-- More statements were carried out than the limit allows. -/
  | stepLimit (limit : Nat)
deriving DecidableEq

/-- A reason, with its place and line. -/
abbrev RunError := Fault RunCause

/-- The sentence that reports the misuse of a value of some kind. -/
def Misuse.message (kind : Kind) : Misuse → Text
  | length => "object of type '" ++ kind.name ++ "' has no len()"
  | search => "argument of type '" ++ kind.name ++ "' is not iterable"
  | condition => "condition must be a Boolean, not '" ++ kind.name ++ "'"
  | iteration => "'" ++ kind.name ++ "' object is not iterable"

namespace RunCause

/-- The sentence that reports the cause. -/
def message : RunCause → Text
  | undefinedName name => "name '" ++ name ++ "' is not defined"
  | misuse m kind => m.message kind
  | unknownMethod kind method =>
    "'" ++ kind.name ++ "' object has no attribute '" ++ method ++ "'"
  | stepLimit limit => "Step limit of " ++ Text.ofNat limit ++ " exceeded"

/-- The identifier under which the cause is documented. -/
def code : RunCause → Text
  | undefinedName _ => "pymancer::runtime::undefined_variable"
  | misuse _ _ => "pymancer::runtime::type_error"
  | unknownMethod _ _ => "pymancer::runtime::attribute_error"
  | stepLimit _ => "pymancer::runtime::step_limit_exceeded"

/-- What can be done about the cause. -/
def help : RunCause → Text
  | undefinedName name => "Assign `" ++ name ++ "` before using it"
  | misuse _ _ => "Check that the value has the expected kind"
  | unknownMethod _ _ => "Only lists support methods, and `append` is the only one"
  | stepLimit _ =>
    "The spell ran too long; raise the limit with --max-steps if this is expected"

/-- The words next to the place that is blamed. -/
def label : RunCause → Text
  | undefinedName _ => "undefined variable"
  | misuse _ _ => "type mismatch here"
  | unknownMethod _ _ => "unsupported method"
  | stepLimit _ => "limit reached here"

end RunCause

end Spellbook

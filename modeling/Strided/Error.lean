import Strided.Space
import Strided.Text.Integer
import Strided.Text.Listing
import Strided.Text.Quoted

/-! What can go wrong, as causes, and the texts that report them.

`Error.message` is the line shown to a user. `Error.debug` is the fuller form that a context is
put around.
-/

set_option autoImplicit false

namespace Strided

inductive Holder where
  | tensor
  | storage
  deriving DecidableEq, Repr

def Holder.name : Holder → String
  | .tensor => "tensor"
  | .storage => "storage"

inductive SliceFault where
  /-- More entries take up a dimension than there are dimensions. -/
  | tooManyEntries (entries rank : Nat)
  /-- The position, counted from the start of the dimension, lies outside it. -/
  | outOfRange (position : Int) (extent : Nat)
  | zeroStep
  | other (reason : String)
  deriving DecidableEq, Repr

def SliceFault.reason : SliceFault → String
  | tooManyEntries entries rank =>
    s!"{entries} dimensions sliced but the array has rank {rank}"
  | outOfRange position extent => s!"index {position} out of range for extent {extent}"
  | zeroStep => "step must not be zero"
  | other reason => reason

/-- Why a request is turned down where a line of text says it all. -/
inductive Refusal where
  | negativeExtent (extent : Int) (dim : Nat)
  /-- A list at some depth of a nested literal is longer or shorter than the first one there. -/
  | raggedLiteral (depth expected found : Nat)
  | settingTooSmall (setting : String)
  | blockTooLarge
  | alreadyConfigured
  | because (reason : String)
  deriving DecidableEq, Repr

def Refusal.reason : Refusal → String
  | negativeExtent extent dim => s!"negative extent {extent} for dimension {dim}"
  | raggedLiteral depth expected found =>
    s!"ragged nested literal: a list at depth {depth} has {found} entries, expected {expected}"
  | settingTooSmall setting => s!"{setting} must be at least 1"
  | blockTooLarge => "blocks are limited to 1024 lanes"
  | alreadyConfigured => "execution config already initialized"
  | because reason => reason

inductive ForeignError where
  | unreadableInteger (fault : Text.IntegerFault)
  | other (text : String)
  deriving DecidableEq, Repr

namespace ForeignError

def message : ForeignError → String
  | unreadableInteger .empty => "cannot parse integer from empty string"
  | unreadableInteger .invalidDigit => "invalid digit found in string"
  | unreadableInteger .aboveRange => "number too large to fit in target type"
  | unreadableInteger .belowRange => "number too small to fit in target type"
  | other text => text

def debug : ForeignError → String
  | unreadableInteger fault => Text.record "ParseIntError" [("kind", fault.name)]
  | other text => Text.quoted text

end ForeignError

/-- The calls that led to an error, where they were recorded. -/
inductive Backtrace where
  | disabled
  | frames (text : String)
  deriving DecidableEq, Repr

namespace Backtrace

def message : Backtrace → String
  | disabled => "disabled backtrace"
  | frames text => text

def debug : Backtrace → String
  | disabled => "<disabled>"
  | frames text => text

end Backtrace

inductive Error where
  | shapeMismatch (expected found : List Nat)
  | spaceMismatch (expected found : Space)
  | rankMismatch (expected found : Nat)
  | invalidSlice (dim : Nat) (fault : SliceFault)
  | sizeMismatch (expected found : Nat)
  | movedFrom (holder : Holder)
  | refused (why : Refusal)
  | withBacktrace (inner : Error) (trace : Backtrace)
  | inputOutput (text : String)
  | wrapped (cause : ForeignError)
  | foreignInContext (cause : ForeignError) (context : String)
  | inContext (cause : Error) (context : String)
  deriving DecidableEq, Repr

namespace Error

/-- The error without the backtraces around it. -/
def inner : Error → Error
  | withBacktrace e _ => e.inner
  | e => e

private def numbers (ns : List Nat) : String :=
  Text.bracketed (ns.map toString)

def debug : Error → String
  | shapeMismatch expected found =>
    Text.record "ShapeMismatch" [("expected", numbers expected), ("found", numbers found)]
  | spaceMismatch expected found =>
    Text.record "SpaceMismatch" [("expected", expected.label), ("found", found.label)]
  | rankMismatch expected found =>
    Text.record "RankMismatch" [("expected", toString expected), ("found", toString found)]
  | invalidSlice dim fault =>
    Text.record "InvalidSlice" [("dim", toString dim), ("reason", Text.quoted fault.reason)]
  | sizeMismatch expected found =>
    Text.record "SizeMismatch" [("expected", toString expected), ("found", toString found)]
  | movedFrom holder => "MovedFrom(" ++ Text.quoted holder.name ++ ")"
  | refused why => "Msg(" ++ Text.quoted why.reason ++ ")"
  | withBacktrace e trace =>
    Text.record "WithBacktrace" [("inner", e.debug), ("backtrace", trace.debug)]
  | inputOutput text => "IoError(" ++ Text.quoted text ++ ")"
  | wrapped cause => "Wrapped(" ++ cause.debug ++ ")"
  | foreignInContext cause context =>
    Text.record "WrappedContext" [("wrapped", cause.debug), ("context", Text.quoted context)]
  | inContext cause context =>
    Text.record "WrappedContext" [("wrapped", cause.debug), ("context", Text.quoted context)]

def message : Error → String
  | shapeMismatch expected found =>
    s!"shape mismatch: expected {numbers expected}, found {numbers found}"
  | spaceMismatch expected found =>
    "memory space mismatch: evaluating in " ++ expected.name ++ " but an operand lives in " ++
      found.name
  | rankMismatch expected found => s!"rank mismatch: expected rank {expected}, found rank {found}"
  | invalidSlice dim fault => s!"invalid slice for dimension {dim}: {fault.reason}"
  | sizeMismatch expected found =>
    s!"size mismatch: expected {expected} elements, found {found}"
  | movedFrom holder => "use of a moved-from " ++ holder.name
  | refused why => "Message: " ++ why.reason
  | withBacktrace e trace => e.message ++ "\n" ++ trace.message
  | inputOutput text => "IO error: " ++ text
  | wrapped cause => cause.message
  | foreignInContext cause context => cause.debug ++ "\n" ++ Text.quoted context
  | inContext cause context => cause.debug ++ "\n" ++ Text.quoted context

variable {α : Type}

def ofOption (context : String) : Option α → Except Error α
  | some a => .ok a
  | none => .error (.refused (.because context))

/-- Say what was being done when something outside failed. -/
def ofForeign (context : String) : Except ForeignError α → Except Error α
  | .ok a => .ok a
  | .error cause => .error (.foreignInContext cause context)

/-- Say what was being done when the library itself failed. -/
def addContext (context : String) : Except Error α → Except Error α
  | .ok a => .ok a
  | .error cause => .error (.inContext cause context)

end Error

end Strided

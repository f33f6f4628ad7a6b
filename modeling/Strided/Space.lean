/-! Memory spaces: where the elements of an array live and where it is evaluated. -/

set_option autoImplicit false

namespace Strided

inductive Space where
  | host
  /-- Host memory behind a pool of worker threads that runs the grid of a device. -/
  | threads
  | cuda (ordinal : Nat)
  deriving DecidableEq, Repr, Inhabited

namespace Space

def name : Space → String
  | host => "host"
  | threads => "threads"
  | cuda k => s!"cuda:{k}"

def ofName? (name : String) : Option Space :=
  if name = "host" then some host
  else if name = "threads" then some threads
  else (name.dropPrefix? "cuda:").bind fun ordinal => ordinal.toString.toNat?.map cuda

/-- The name that records of arrays carry. -/
def label : Space → String
  | host => "Host"
  | threads => "Threads"
  | cuda k => s!"Cuda({k})"

/-- Whether elements of the space are held in host memory. -/
def inHostMemory : Space → Bool
  | host | threads => true
  | cuda _ => false

end Space

end Strided

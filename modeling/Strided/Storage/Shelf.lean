import Strided.Storage

/-! Named storages over one memory, and the commands that make and change them. -/

set_option autoImplicit false

namespace Strided

structure AnyStorage where
  {dtype : DType}
  storage : Storage dtype

structure Shelf where
  memory : Memory
  storage? : String → Option AnyStorage

inductive StorageCommand where
  | empty (name : String) (t : DType) (space : Space)
  | new (name : String) (t : DType) (space : Space) (count : Nat)
  | ofList (name : String) (space : Space) {t : DType} (data : List t.Elem)
  | resize (name : String) (count : Nat)
  | resizeDiscard (name : String) (count : Nat)
  | take (name source : String)
  | clone (name source : String)
  | cloneFrom (name source : String)
  /-- Write one element of the buffer. -/
  | write (name : String) {t : DType} (position : Nat) (v : t.Elem)

namespace Shelf

variable {t : DType}

def bare : Shelf :=
  ⟨.empty, fun _ => none⟩

def put (f : Shelf) (name : String) (s : Storage t) : Shelf :=
  { f with storage? := fun k => if k = name then some ⟨s⟩ else f.storage? k }

def storage (f : Shelf) (t : DType) (name : String) : Option (Storage t) := do
  let s ← f.storage? name
  if h : s.dtype = t then some (h ▸ s.storage) else none

/-- Put a storage under a name, together with the memory in which it was made. -/
def place (f : Shelf) (name : String) (r : Storage t × Memory) : Shelf :=
  { f with memory := r.2 }.put name r.1

/-- Carry out a command. There is no outcome if a name stands for nothing or for elements of
another type. -/
def run (f : Shelf) : StorageCommand → Option Shelf
  | .empty name t space => some (f.put name (Storage.empty (t := t) space))
  | .new name t space count => some (f.place name (Storage.new (t := t) space count f.memory))
  | .ofList name space data => some (f.place name (Storage.ofList space data f.memory))
  | .resize name count => do
    let s ← f.storage? name
    return f.place name (s.storage.resize count f.memory)
  | .resizeDiscard name count => do
    let s ← f.storage? name
    return f.place name (s.storage.resizeDiscard count f.memory)
  | .take name source => do
    let s ← f.storage? source
    let (taken, left) := s.storage.take
    return (f.put source left).put name taken
  | .clone name source => do
    let s ← f.storage? source
    return f.place name (s.storage.clone f.memory)
  | .cloneFrom name source => do
    let s ← f.storage? name
    let r ← f.storage s.dtype source
    return f.place name (s.storage.cloneFrom r f.memory)
  | @StorageCommand.write name t position v => do
    let s ← f.storage t name
    return { f with memory := f.memory.write t (s.start.shift position) v }

end Shelf

end Strided

import Mathlib.Data.List.Basic

set_option autoImplicit false

/- Messages of several kinds on one stream without length fields: the reader has to know the
kind of the message that comes next. -/
namespace Framing

variable {Kind Message Error : Type}

structure Format (Kind Message Error : Type) where
  kind : Message → Kind
  write : Message → List UInt8
  /-- a message off the front of the stream, and what is left -/
  read : Kind → List UInt8 → Except Error (Message × List UInt8)

namespace Format

variable (f : Format Kind Message Error)

def writeAll (messages : List Message) : List UInt8 := (messages.map f.write).flatten

def readAll : List Kind → List UInt8 → Except Error (List Message × List UInt8)
  | [], stream => .ok ([], stream)
  | kind :: kinds, stream => do
    let (message, stream) ← f.read kind stream
    let (messages, stream) ← readAll kinds stream
    .ok (message :: messages, stream)

/-- The message is read back, and nothing of what follows it. -/
def Exact (message : Message) : Prop :=
  ∀ rest, f.read (f.kind message) (f.write message ++ rest) = .ok (message, rest)

theorem readAll_writeAll (messages : List Message) (exact : ∀ m ∈ messages, f.Exact m)
    (rest : List UInt8) :
    f.readAll (messages.map f.kind) (f.writeAll messages ++ rest) = .ok (messages, rest) := by
  induction messages with
  | nil => rfl
  | cons message messages ih =>
    have first := exact message List.mem_cons_self (f.writeAll messages ++ rest)
    have later := ih fun m member => exact m (List.mem_cons_of_mem _ member)
    have stream : f.writeAll (message :: messages) ++ rest =
        f.write message ++ (f.writeAll messages ++ rest) := by
      simp [writeAll]
    rw [stream, List.map_cons, readAll, first]
    show (do let (messages, stream) ← f.readAll _ _; .ok (message :: messages, stream)) = _
    rw [later]
    rfl

end Format

end Framing

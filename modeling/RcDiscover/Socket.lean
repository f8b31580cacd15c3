import RcDiscover.Text

/-!
# `rcdiscover/socket.h`, `rcdiscover/socket_exception.h`

What the code above the sockets sees of them: the exceptions that `send` throws, the
interface a socket belongs to, and the datagrams that `recvfrom` delivers.
-/

namespace RcDiscover

/-- A byte string handed to or received from a socket. -/
abbrev Bytes := List UInt8

/-- `SocketException` and its subclass `NetworkUnreachableException`, with `errno`. -/
inductive SocketException
  | socketException (msg : Str) (errnum : ℤ)
  | networkUnreachableException (msg : Str) (errnum : ℤ)
  deriving DecidableEq, Repr

/-- A received datagram with the address of its sender. -/
structure Datagram where
  source : UInt32
  data : Bytes
  deriving DecidableEq, Repr

/-- The byte at position `i` of a receive buffer. -/
def byteAt (p : Bytes) (i : ℕ) : UInt8 := p.getD i 0

/-- A byte string of at least 8 bytes, split into the GVCP header and the rest. -/
theorem exists_header {p : Bytes} (h : 8 ≤ p.length) :
    ∃ b0 b1 b2 b3 b4 b5 b6 b7 rest,
      p = b0 :: b1 :: b2 :: b3 :: b4 :: b5 :: b6 :: b7 :: rest := by
  match p, h with
  | b0 :: b1 :: b2 :: b3 :: b4 :: b5 :: b6 :: b7 :: rest, _ =>
    exact ⟨b0, b1, b2, b3, b4, b5, b6, b7, rest, rfl⟩

end RcDiscover

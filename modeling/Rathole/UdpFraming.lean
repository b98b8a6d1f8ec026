import Rathole.Bytes
import Rathole.Udp

set_option autoImplicit false

/- The frames of UDP traffic on a data channel: a byte with the length of the header, the
header in the binary form of `bincode`, and the datagram. -/
namespace Rathole.Udp

open Bytes

/-- The tag of the variant, the octets of the address and the port. The flow information and
the scope of a v6 address are left out. -/
def serializeAddr : SocketAddr → List UInt8
  | .v4 ip port => leBytes 4 0 ++ (leBytes 4 ip.toNat).reverse ++ leBytes 2 port.toNat
  | .v6 ip port _ _ => leBytes 4 1 ++ (leBytes 16 ip.toNat).reverse ++ leBytes 2 port.toNat

/-- `UdpHeader`, with `len` cast to a `u16`. -/
def serializeHeader (source : SocketAddr) (len : Nat) : List UInt8 :=
  serializeAddr source ++ leBytes 2 len

/-- The octets of an address, and a port. -/
def deserializeEndpoint (octets : Nat) (bytes : List UInt8) : Option (Nat × Nat × List UInt8) := do
  let (ip, bytes) ← split octets bytes
  let (port, bytes) ← split 2 bytes
  some (ofLeBytes ip.reverse, ofLeBytes port, bytes)

def deserializeAddr (bytes : List UInt8) : Option (SocketAddr × List UInt8) := do
  let (tag, bytes) ← split 4 bytes
  if ofLeBytes tag = 0 then
    let (ip, port, bytes) ← deserializeEndpoint 4 bytes
    some (.v4 (.ofNat 32 ip) (.ofNat 16 port), bytes)
  else if ofLeBytes tag = 1 then
    let (ip, port, bytes) ← deserializeEndpoint 16 bytes
    some (.v6 (.ofNat 128 ip) (.ofNat 16 port) 0 0, bytes)
  else none

/-- Bytes behind the header are allowed. -/
def deserializeHeader (bytes : List UInt8) : Option (SocketAddr × Nat) := do
  let (source, bytes) ← deserializeAddr bytes
  let (len, _) ← split 2 bytes
  some (source, ofLeBytes len)

/-- `UdpTraffic::write_slice`. -/
def writeSlice (source : SocketAddr) (data : List UInt8) : List UInt8 :=
  let hdr := serializeHeader source data.length
  UInt8.ofNat hdr.length :: (hdr ++ data)

/-- `UdpTraffic::write`. -/
def UdpTraffic.write (t : UdpTraffic) : List UInt8 :=
  let hdr := serializeHeader t.source t.data.length
  UInt8.ofNat hdr.length :: (hdr ++ t.data)

/-- A reader that finds too few bytes waits for more. -/
inductive Received
  | incomplete
  | failed
  | done (t : UdpTraffic) (rest : List UInt8)
  deriving DecidableEq

/-- `UdpTraffic::read`. -/
def UdpTraffic.read (bytes : List UInt8) (hdrLen : UInt8) : Received :=
  match split hdrLen.toNat bytes with
  | none => .incomplete
  | some (buf, bytes) =>
    match deserializeHeader buf with
    | none => .failed
    | some (source, len) =>
      match split len bytes with
      | none => .incomplete
      | some (data, rest) => .done ⟨source, data⟩ rest

/-- `read_u8` for the length of the header, and the rest of the frame. -/
def readFrame : List UInt8 → Received
  | [] => .incomplete
  | hdrLen :: bytes => UdpTraffic.read bytes hdrLen

/-- The address as the other end of the data channel sees it. -/
def portable : SocketAddr → SocketAddr
  | .v4 ip port => .v4 ip port
  | .v6 ip port _ _ => .v6 ip port 0 0

section RoundTrip

variable {source : SocketAddr} {t : UdpTraffic} {rest : List UInt8}

theorem deserializeEndpoint_append {octets ip port : Nat} (address : ip < 256 ^ octets)
    (number : port < 256 ^ 2) :
    deserializeEndpoint octets ((leBytes octets ip).reverse ++ (leBytes 2 port ++ rest)) =
      some (ip, port, rest) := by
  have octetsWidth : ((leBytes octets ip).reverse).length = octets := by simp
  rw [deserializeEndpoint, split_append octetsWidth]
  simp only [bind, Option.bind]
  rw [split_append (length_leBytes 2 port)]
  simp only [List.reverse_reverse, ofLeBytes_of_lt address, ofLeBytes_of_lt number]

theorem deserializeAddr_serializeAddr :
    deserializeAddr (serializeAddr source ++ rest) = some (portable source, rest) := by
  cases source with
  | v4 ip port =>
    have address : ip.toNat < 256 ^ 4 := ip.isLt
    have number : port.toNat < 256 ^ 2 := port.isLt
    rw [serializeAddr, List.append_assoc, List.append_assoc, deserializeAddr,
      split_append (length_leBytes 4 0)]
    simp only [bind, Option.bind, deserializeEndpoint_append address number]
    simp [ofLeBytes_leBytes, portable]
  | v6 ip port flowinfo scopeId =>
    have address : ip.toNat < 256 ^ 16 := ip.isLt
    have number : port.toNat < 256 ^ 2 := port.isLt
    rw [serializeAddr, List.append_assoc, List.append_assoc, deserializeAddr,
      split_append (length_leBytes 4 1)]
    simp only [bind, Option.bind, deserializeEndpoint_append address number]
    simp [ofLeBytes_leBytes, portable]

theorem deserializeHeader_serializeHeader {len : Nat} (fits : len < 2 ^ 16) :
    deserializeHeader (serializeHeader source len) = some (portable source, len) := by
  have written : split 2 (leBytes 2 len) = some (leBytes 2 len, []) := by
    have whole : split 2 (leBytes 2 len ++ []) = some (leBytes 2 len, []) :=
      split_append (length_leBytes 2 len)
    rwa [List.append_nil] at whole
  rw [serializeHeader, deserializeHeader, deserializeAddr_serializeAddr]
  simp only [bind, Option.bind, written, ofLeBytes_of_lt (show len < 256 ^ 2 from fits)]

theorem length_serializeHeader (len : Nat) :
    (serializeHeader source len).length = headerLen source := by
  cases source <;> simp [serializeHeader, serializeAddr, headerLen]

theorem toNat_headerLen (len : Nat) :
    (UInt8.ofNat (serializeHeader source len).length).toNat =
      (serializeHeader source len).length := by
  rw [length_serializeHeader]
  cases source <;> rfl

/-- A frame is read back, with the address as the header carries it. -/
theorem readFrame_write (fits : t.data.length < 2 ^ 16) :
    readFrame (t.write ++ rest) = .done ⟨portable t.source, t.data⟩ rest := by
  show UdpTraffic.read (_ ++ t.data ++ rest) _ = _
  rw [UdpTraffic.read, toNat_headerLen, List.append_assoc, split_append rfl]
  simp only [deserializeHeader_serializeHeader fits, split_append rfl]

/-- A frame that is complete is read alike when more bytes follow. -/
theorem readFrame_extend {bytes : List UInt8} (received : readFrame bytes = .done t rest)
    (more : List UInt8) : readFrame (bytes ++ more) = .done t (rest ++ more) := by
  cases bytes with
  | nil => cases received
  | cons hdrLen bytes =>
    change UdpTraffic.read bytes hdrLen = _ at received
    show UdpTraffic.read (bytes ++ more) hdrLen = _
    unfold UdpTraffic.read at received ⊢
    split at received
    · cases received
    · next buf tail taken =>
      rw [split_extend taken more]
      dsimp only
      split at received
      · cases received
      · next source len header =>
        split at received
        · cases received
        · next data left body =>
          cases received
          rw [split_extend body more]

end RoundTrip

end Rathole.Udp

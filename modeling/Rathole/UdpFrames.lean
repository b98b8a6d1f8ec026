import Rathole.UdpFraming
import Rathole.Framing

set_option autoImplicit false

/- Sequences of UDP frames on one stream, and what a reader takes off any stream. -/
namespace Rathole.Udp

open Bytes

inductive IpAddr
  | v4 (ip : BitVec 32)
  | v6 (ip : BitVec 128)
  deriving DecidableEq

def ipOf : SocketAddr → IpAddr
  | .v4 ip _ => .v4 ip
  | .v6 ip _ _ _ => .v6 ip

def portOf : SocketAddr → BitVec 16
  | .v4 _ port => port
  | .v6 _ port _ _ => port

/-- The part of a datagram that a frame carries. -/
def content (t : UdpTraffic) : IpAddr × BitVec 16 × List UInt8 :=
  (ipOf t.source, portOf t.source, t.data)

/-- A datagram whose length fits into the header. -/
structure Datagram extends UdpTraffic where
  fits : data.length ≤ 65535

/-- The two writers of a frame. -/
inductive FrameWriter
  | write | writeSlice

def FrameWriter.run : FrameWriter → UdpTraffic → List UInt8
  | write, t => t.write
  | writeSlice, t => Udp.writeSlice t.source t.data

theorem write_eq_writeSlice (t : UdpTraffic) : t.write = writeSlice t.source t.data := rfl

theorem FrameWriter.run_eq (writer : FrameWriter) (t : UdpTraffic) : writer.run t = t.write := by
  cases writer <;> rfl

/-- What is on the stream when each datagram was written by one of the writers. -/
def written (frames : List (FrameWriter × Datagram)) : List UInt8 :=
  (frames.map fun frame => frame.1.run frame.2.toUdpTraffic).flatten

/-- The frames of a data channel, one of which is read at a time. -/
def frameFormat : Framing.Format Unit UdpTraffic Received where
  kind _ := ()
  write := UdpTraffic.write
  read _ bytes :=
    match readFrame bytes with
    | .done t rest => .ok (t, rest)
    | other => .error other

/-- A number of frames off the stream. -/
def readFrames (count : Nat) (bytes : List UInt8) :
    Except Received (List UdpTraffic × List UInt8) :=
  frameFormat.readAll (List.replicate count ()) bytes

/-- A datagram as the header carries it. -/
def UdpTraffic.portable (t : UdpTraffic) : UdpTraffic := ⟨Udp.portable t.source, t.data⟩

theorem write_portable (t : UdpTraffic) : t.portable.write = t.write := by
  obtain ⟨source, data⟩ := t
  cases source <;> rfl

theorem portable_portable (source : SocketAddr) : portable (portable source) = portable source := by
  cases source <;> rfl

theorem content_portable (t : UdpTraffic) : content t.portable = content t := by
  obtain ⟨source, data⟩ := t
  cases source <;> rfl

theorem exact_portable (d : Datagram) : frameFormat.Exact d.toUdpTraffic.portable := by
  intro rest
  have read : readFrame (d.toUdpTraffic.portable.write ++ rest) =
      .done ⟨portable (portable d.source), d.data⟩ rest :=
    readFrame_write (Nat.lt_succ_of_le d.fits)
  simp only [frameFormat, read, portable_portable]
  rfl

theorem readFrames_written (frames : List (FrameWriter × Datagram)) (rest : List UInt8) :
    readFrames frames.length (written frames ++ rest) =
      .ok (frames.map fun frame => frame.2.toUdpTraffic.portable, rest) := by
  have stream : written frames =
      frameFormat.writeAll (frames.map fun frame => frame.2.toUdpTraffic.portable) := by
    unfold written Framing.Format.writeAll
    rw [List.map_map]
    congr 2
    funext frame
    exact (frame.1.run_eq _).trans (write_portable _).symm
  have kinds : List.replicate frames.length () =
      (frames.map fun frame => frame.2.toUdpTraffic.portable).map frameFormat.kind := by
    rw [List.map_map]
    exact List.map_const'.symm
  rw [readFrames, stream, kinds]
  apply frameFormat.readAll_writeAll
  intro t there
  obtain ⟨frame, _, same⟩ := List.mem_map.mp there
  rw [← same]
  exact exact_portable frame.2

/-- A read that succeeds takes the length byte, as many bytes of header as it says and as many
bytes of payload as the header says. -/
def TakesFrame (bytes : List UInt8) (t : UdpTraffic) (rest : List UInt8) : Prop :=
  ∃ hdrLen hdr len, bytes = hdrLen :: (hdr ++ (t.data ++ rest)) ∧ hdr.length = hdrLen.toNat ∧
    deserializeHeader hdr = some (t.source, len) ∧ t.data.length = len ∧
    bytes.length = 1 + hdrLen.toNat + len + rest.length

theorem takesFrame {bytes rest : List UInt8} {t : UdpTraffic}
    (received : readFrame bytes = .done t rest) : TakesFrame bytes t rest := by
  cases bytes with
  | nil => cases received
  | cons hdrLen bytes =>
    change UdpTraffic.read bytes hdrLen = _ at received
    unfold UdpTraffic.read at received
    split at received
    · cases received
    · next hdr tail taken =>
      split at received
      · cases received
      · next source len header =>
        split at received
        · cases received
        · next data left body =>
          cases received
          obtain ⟨stream, width⟩ := split_spec taken
          obtain ⟨stream', width'⟩ := split_spec body
          refine ⟨hdrLen, hdr, len, ?_, width, header, width', ?_⟩
          · rw [stream, stream']
          · rw [stream, stream']
            simp only [List.length_cons, List.length_append]
            omega

/-- Datagrams come back as they were written, whichever of the two writers wrote them, and the
reader stops at the end of each frame. Of any stream it either takes one whole frame or it does
not succeed. -/
theorem frames_round_trip :
    (∀ (frames : List (FrameWriter × Datagram)) (rest : List UInt8), ∃ read,
      readFrames frames.length (written frames ++ rest) = .ok (read, rest) ∧
        read.map content = frames.map fun frame => content frame.2.toUdpTraffic) ∧
    (∀ t : UdpTraffic, t.write = writeSlice t.source t.data) ∧
    ∀ bytes, readFrame bytes = .incomplete ∨ readFrame bytes = .failed ∨
      ∃ t rest, readFrame bytes = .done t rest ∧ TakesFrame bytes t rest := by
  refine ⟨?_, write_eq_writeSlice, ?_⟩
  · intro frames rest
    refine ⟨_, readFrames_written frames rest, ?_⟩
    rw [List.map_map]
    apply List.map_congr_left
    intro frame _
    exact content_portable frame.2.toUdpTraffic
  · intro bytes
    cases received : readFrame bytes with
    | incomplete => exact .inl rfl
    | failed => exact .inr (.inl rfl)
    | done t rest => exact .inr (.inr ⟨t, rest, rfl, takesFrame received⟩)

end Rathole.Udp

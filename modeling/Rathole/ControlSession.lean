import Rathole.Config
import Rathole.Protocol
import Rathole.ServerAuth
import Rathole.Transition

set_option autoImplicit false

/- One control channel in bytes: the handshake of a client with a server, and the commands behind
it. -/
namespace Rathole.ControlSession

open Protocol (Digest Hello Auth Ack ControlChannelCmd Packet PacketLength currentProtoVersion
  readHello readAuth readAck readControlCmd)

/-- `service` is what the client was configured with, and `services` is what the server looks up. -/
structure Setup where
  digest : List UInt8 → Digest
  service : ClientServiceConfig
  services : Digest → Option ServerServiceConfig

namespace Setup

variable (x : Setup)

def serviceDigest : Digest := x.digest (asBytes x.service.name)

/-- The session key of a token and a nonce. -/
def key (token : MaskedString) (nonce : Digest) : Digest := x.digest (asBytes token ++ nonce.bytes)

end Setup

def controlHello (d : Digest) : Hello := .controlChannelHello currentProtoVersion d

/-- `ControlChannel::run` of the client. -/
inductive Client
  /-- writing the hello, with the bytes that are left -/
  | greeting (left : List UInt8)
  | readingHello
  /-- writing the auth -/
  | authenticating (nonce key : Digest) (left : List UInt8)
  | readingAck (nonce key : Digest)
  | rejected (nonce key : Digest) (ack : Ack)
  /-- in the loop, with the commands that were read -/
  | connected (nonce key : Digest) (cmds : List ControlChannelCmd)

/-- `handle_connection` and `do_control_channel_handshake`, and then `ControlChannel::run` of the
server. -/
inductive Server
  | readingHello
  /-- a data channel, which is not followed here -/
  | dataChannel
  | greeting (service nonce : Digest) (left : List UInt8)
  | lookup (service nonce : Digest)
  /-- writing `Ack::ServiceNotExist` -/
  | rejecting (service nonce : Digest) (left : List UInt8)
  | readingAuth (service nonce : Digest) (found : ServerServiceConfig) (token : MaskedString)
  /-- writing `Ack::AuthFailed` -/
  | refusing (service nonce : Digest) (found : ServerServiceConfig) (token : MaskedString)
    (auth : Auth) (left : List UInt8)
  /-- writing `Ack::Ok` -/
  | accepting (service nonce : Digest) (found : ServerServiceConfig) (token : MaskedString)
    (auth : Auth) (left : List UInt8)
  /-- before the handle is in the map -/
  | registering (service nonce : Digest) (found : ServerServiceConfig) (token : MaskedString)
    (auth : Auth)
  /-- the commands that were written, the last one up to the bytes that are left -/
  | running (service nonce : Digest) (found : ServerServiceConfig) (token : MaskedString)
    (auth : Auth) (cmds : List ControlChannelCmd) (left : List UInt8)

/-- `up` leads to the server. A side that is not open has dropped the connection, and its phase is
the one it was in. -/
structure State where
  client : Client
  clientOpen : Bool
  server : Server
  serverOpen : Bool
  up : List UInt8
  down : List UInt8

inductive Action
  | clientWrite (count : Nat)
  | clientRead
  | serverWrite (count : Nat)
  | serverHello (nonce : Digest)
  | serverLookup
  | serverAuth
  | register
  | command (cmd : ControlChannelCmd)
  | clientFail
  | serverFail

def Setup.start (x : Setup) : State :=
  ⟨.greeting (controlHello x.serviceDigest).serialize, true, .readingHello, true, [], []⟩

namespace State

variable (x : Setup) (s : State)

def clientEnd : State := { s with clientOpen := false }

def serverEnd : State := { s with serverOpen := false }

/-- A reader that fails has all its bytes, or there come no more. -/
def clientBroken (len : Nat) : Option State :=
  if s.down.length < len ∧ s.serverOpen = true then none else some s.clientEnd

def serverBroken (len : Nat) : Option State :=
  if s.up.length < len ∧ s.clientOpen = true then none else some s.serverEnd

def clientWrite (count : Nat) : Option State :=
  if s.clientOpen = true then
    match s.client with
    | .greeting left =>
      if 0 < count ∧ count ≤ left.length then
        some { s with
          client := if left.drop count = [] then .readingHello else .greeting (left.drop count)
          up := s.up ++ left.take count }
      else none
    | .authenticating nonce key left =>
      if 0 < count ∧ count ≤ left.length then
        some { s with
          client := if left.drop count = [] then .readingAck nonce key
            else .authenticating nonce key (left.drop count)
          up := s.up ++ left.take count }
      else none
    | _ => none
  else none

def clientRead : Option State :=
  if s.clientOpen = true then
    match s.client with
    | .readingHello =>
      match readHello x.digest s.down with
      | .ok (.controlChannelHello _ nonce, rest) =>
        match x.service.token with
        -- `token.as_ref().unwrap()` panics and takes the task down.
        | none => some s.clientEnd
        | some token =>
          let session_key := x.key token nonce
          some { s with
            client := .authenticating nonce session_key (Auth.mk session_key).serialize
            down := rest }
      | .ok (.dataChannelHello .., _) => some s.clientEnd
      | .error _ => s.clientBroken (PacketLength.new x.digest).hello
    | .readingAck nonce key =>
      match readAck x.digest s.down with
      | .ok (.ok, rest) => some { s with client := .connected nonce key [], down := rest }
      | .ok (ack, rest) =>
        some { s with client := .rejected nonce key ack, down := rest, clientOpen := false }
      | .error _ => s.clientBroken (PacketLength.new x.digest).ack
    | .connected nonce key cmds =>
      match readControlCmd x.digest s.down with
      | .ok (cmd, rest) =>
        some { s with client := .connected nonce key (cmds ++ [cmd]), down := rest }
      | .error _ => s.clientBroken (PacketLength.new x.digest).cCmd
    | _ => none
  else none

def serverWrite (count : Nat) : Option State :=
  if s.serverOpen = true then
    match s.server with
    | .greeting service nonce left =>
      if 0 < count ∧ count ≤ left.length then
        some { s with
          server := if left.drop count = [] then .lookup service nonce
            else .greeting service nonce (left.drop count)
          down := s.down ++ left.take count }
      else none
    | .rejecting service nonce left =>
      if 0 < count ∧ count ≤ left.length then
        some { s with
          server := .rejecting service nonce (left.drop count)
          serverOpen := left.drop count ≠ []
          down := s.down ++ left.take count }
      else none
    | .refusing service nonce found token auth left =>
      if 0 < count ∧ count ≤ left.length then
        some { s with
          server := .refusing service nonce found token auth (left.drop count)
          serverOpen := left.drop count ≠ []
          down := s.down ++ left.take count }
      else none
    | .accepting service nonce found token auth left =>
      if 0 < count ∧ count ≤ left.length then
        some { s with
          server := if left.drop count = [] then .registering service nonce found token auth
            else .accepting service nonce found token auth (left.drop count)
          down := s.down ++ left.take count }
      else none
    | .running service nonce found token auth cmds left =>
      if 0 < count ∧ count ≤ left.length then
        some { s with
          server := .running service nonce found token auth cmds (left.drop count)
          down := s.down ++ left.take count }
      else none
    | _ => none
  else none

def serverHello (nonce : Digest) : Option State :=
  if s.serverOpen = true then
    match s.server with
    | .readingHello =>
      match readHello x.digest s.up with
      | .ok (.controlChannelHello _ d, rest) =>
        some { s with server := .greeting d nonce (controlHello nonce).serialize, up := rest }
      | .ok (.dataChannelHello .., rest) => some { s with server := .dataChannel, up := rest }
      | .error _ => s.serverBroken (PacketLength.new x.digest).hello
    | _ => none
  else none

def serverLookup : Option State :=
  if s.serverOpen = true then
    match s.server with
    | .lookup d nonce =>
      match x.services d with
      | none => some { s with server := .rejecting d nonce Ack.serviceNotExist.serialize }
      | some found =>
        match found.token with
        | none => some s.serverEnd
        | some token => some { s with server := .readingAuth d nonce found token }
    | _ => none
  else none

def serverAuth : Option State :=
  if s.serverOpen = true then
    match s.server with
    | .readingAuth service nonce found token =>
      match readAuth x.digest s.up with
      | .ok (auth, rest) =>
        let session_key := x.key token nonce
        if Server.digestEq session_key.bytes auth.digest.bytes then
          some { s with
            server := .accepting service nonce found token auth Ack.ok.serialize
            up := rest }
        else
          some { s with
            server := .refusing service nonce found token auth Ack.authFailed.serialize
            up := rest }
      | .error _ => s.serverBroken (PacketLength.new x.digest).auth
    | _ => none
  else none

def register : Option State :=
  if s.serverOpen = true then
    match s.server with
    | .registering service nonce found token auth =>
      some { s with server := .running service nonce found token auth [] [] }
    | _ => none
  else none

/-- A request for a data channel or a heartbeat is due. -/
def command (cmd : ControlChannelCmd) : Option State :=
  if s.serverOpen = true then
    match s.server with
    | .running service nonce found token auth cmds [] =>
      some { s with
        server := .running service nonce found token auth (cmds ++ [cmd]) cmd.serialize }
    | _ => none
  else none

end State

/-- An error of a stream, a timeout or a cancellation ends a side wherever it stands. -/
def step (x : Setup) (s : State) : Action → Option State
  | .clientWrite count => s.clientWrite count
  | .clientRead => s.clientRead x
  | .serverWrite count => s.serverWrite count
  | .serverHello nonce => s.serverHello x nonce
  | .serverLookup => s.serverLookup x
  | .serverAuth => s.serverAuth x
  | .register => s.register
  | .command cmd => s.command cmd
  | .clientFail => if s.clientOpen = true then some s.clientEnd else none
  | .serverFail => if s.serverOpen = true then some s.serverEnd else none

def system (x : Setup) : Transition.System State Action where
  init s := s = x.start
  step := step x

end Rathole.ControlSession

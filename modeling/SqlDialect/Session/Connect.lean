import SqlDialect.Session.Native
import SqlDialect.Settings.Certificate

/-! Connecting to a server. There is no encryption here: a connection that demands it fails, and
one that would only like it goes on without. -/

set_option autoImplicit false

namespace SqlDialect

open Wire (Request Server)

inductive ConnectionFailure where
  | malformed
  | unreachable
  | noEncryption
  | unsendable
  | notAdmitted

namespace ConnectionFailure

def message : ConnectionFailure → Text
  | malformed => "invalid connection string"
  | unreachable => "error connecting to server"
  | noEncryption => "error performing TLS handshake"
  | unsendable => "error encoding message to server"
  | notAdmitted => "db error"

def toFault (settings : ConnectionSettings) (failure : ConnectionFailure) : Fault :=
  .database ("failed to connect to " ++ settings.display ++ ": " ++ failure.message)

end ConnectionFailure

namespace ConnectionSettings

variable {σ : Type}

/-- The modes that verify are not known to the server's library, and a time limit is a number of
63 bits. -/
def isReadable (s : ConnectionSettings) : Bool :=
  !s.sslMode.verifies && decide (2 * s.connectTimeout.toNat < UInt64.size)

def openRequests (s : ConnectionSettings) (server : Server σ) (state : σ) :
    Except ConnectionFailure Unit × List Request :=
  let encryption := if s.sslMode = .disable then [] else [Request.encryption]
  if s.sslMode = .require then (.error .noEncryption, encryption)
  else if !(Wire.isSendable s.username && Wire.isSendable s.database) then
    (.error .unsendable, encryption)
  else
    let greeting := encryption ++ [.startup s.username s.database]
    if server.asksPassword state && !Wire.isSendable s.password then (.error .unsendable, greeting)
    else
      let sent := if server.asksPassword state then greeting ++ [.password s.password] else greeting
      match server.authorize state with
      | .ok () => (.ok (), sent)
      | .error _ => (.error .notAdmitted, sent)

-- A session with a server, if there is one and it can be had, and what was sent for it. The file
-- of certificates is looked at first.
def connect (s : ConnectionSettings) (caFile : FileContent) (server : Server σ)
    (state : Option σ) : Except Fault (NativeSession σ) × List Request :=
  match s.checkCaFile caFile with
  | .error fault => (.error fault, [])
  | .ok () =>
    if s.isReadable then
      match state with
      | none => (.error (ConnectionFailure.unreachable.toFault s), [])
      | some state =>
        match s.openRequests server state with
        | (.ok (), sent) => (.ok ⟨state, sent, false⟩, sent)
        | (.error failure, sent) => (.error (failure.toFault s), sent)
    else (.error (ConnectionFailure.malformed.toFault s), [])

end ConnectionSettings

end SqlDialect

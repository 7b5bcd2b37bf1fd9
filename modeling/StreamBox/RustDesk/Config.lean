import StreamBox.RustDesk.Protocol

/-!
# RustDesk configuration and password hashes
-/

namespace StreamBox.RustDesk

/-- The configuration of the RustDesk service; the key pairs and the UUID, which
no modelled function reads, are left out. -/
structure RustDeskConfig where
  enabled : Bool := false
  rendezvousServer : String := ""
  relayServer : Option String := none
  relayKey : Option String := none
  deviceId : String
  devicePassword : String
  deriving DecidableEq, Repr

/-- Check if the configuration is valid for starting the service. -/
def RustDeskConfig.isValid (c : RustDeskConfig) : Bool :=
  c.enabled && c.rendezvousServer != "" && c.deviceId != "" && c.devicePassword != ""

variable (sha256 : Bytes → Bytes)

/-- SHA256(password + salt). -/
def hashPassword (password salt : String) : Bytes :=
  sha256 (asBytes password ++ asBytes salt)

/-- SHA256(SHA256(password + salt) + challenge), as the client computes it. -/
def hashPasswordDouble (password salt challenge : String) : Bytes :=
  sha256 (hashPassword sha256 password salt ++ asBytes challenge)

/-- Verify the password field of a login request. The salt is the device id and
the challenge is empty; the single hash is accepted as well. -/
def verifyPassword (password deviceId : String) (provided : Bytes) : Bool :=
  if provided = [] then password = ""
  else if password = "" then false
  else if provided = hashPasswordDouble sha256 password deviceId "" then true
  else provided = hashPassword sha256 password deviceId

end StreamBox.RustDesk

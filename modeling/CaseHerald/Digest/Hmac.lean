import CaseHerald.Digest.Sha256

/-!
# Keyed hashes

The keyed hash of a message (HMAC) over SHA-256. A key longer than a block stands for its hash.
-/
namespace CaseHerald.Digest

open Text (Octets)

/-- The key in the length of a block. -/
def blockKey (key : Octets) : Octets :=
  let key := if 64 < key.length then sha256 key else key
  key ++ List.replicate (64 - key.length) 0

/-- The keyed hash of the message. -/
def hmac (key message : Octets) : Octets :=
  let key := blockKey key
  sha256 (key.map (· ^^^ 0x5c) ++ sha256 (key.map (· ^^^ 0x36) ++ message))

/-- The signature of a message under a secret, in hexadecimal digits. -/
def sign (secret : String) (message : Octets) : String :=
  hexText (hmac (Text.octets secret) message)

end CaseHerald.Digest

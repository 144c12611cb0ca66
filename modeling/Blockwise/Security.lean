import Blockwise.Text.Quoted
import Blockwise.Text.Utf8

/-!
# Security modes

An endpoint is open or uses a pre-shared key.  The mode decides the scheme of
its URIs and the credentials that a client is handed.
-/

namespace Blockwise

/-- The security mode of an endpoint. -/
inductive Security where
  | none
  | preSharedKey (identity key : Bytes)
  deriving DecidableEq, Repr

namespace Security

/-- Whether a key is used. -/
def isSecured : Security → Bool
  | .none => false
  | .preSharedKey .. => true

/-- The scheme of the URIs. -/
def scheme (security : Security) : String := if security.isSecured then "coaps" else "coap"

/-- The identity and the key. -/
def credentials : Security → Option (Bytes × Bytes)
  | .none => Option.none
  | .preSharedKey identity key => some (identity, key)

/-- The identity and the key as texts, as they stand in a command. -/
def credentialTexts (security : Security) : Option (String × String) :=
  security.credentials.map fun (identity, key) =>
    (Text.Utf8.decode identity, Text.Utf8.decode key)

/-- A description that keeps the key to itself. -/
def describe : Security → String
  | .none => "NoSec"
  | .preSharedKey identity _ =>
    "PreSharedKey \x7b identity: " ++ Text.quote (Text.Utf8.decode identity) ++
      ", key: \"<redacted>\" \x7d"

end Security
end Blockwise

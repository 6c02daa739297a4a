import DocStore.Error
import DocStore.Text.Base64

/-! # Authorization

The header that a request or a handshake carries for whoever sends it: a token, or a user with a
password.
-/

namespace DocStore.Authorization

def headerName : String := "authorization"

/-- Whether a header value may contain a character: no controls but the tab. -/
def isHeaderChar (c : Char) : Bool :=
  c == '\t' || (32 ≤ c.toNat && c.toNat != 127)

/-- The header that carries a token. A token with a character that no header may contain is an
    error of the configuration. -/
def bearer (token : String) : Except Error (String × String) :=
  if token.toList.all isHeaderChar then .ok (headerName, "Bearer " ++ token)
  else .error (.config .invalidToken)

def tokenHeaders : Option String → Except Error (List (String × String))
  | none => .ok []
  | some token => do return [← bearer token]

/-- The header that carries a user and a password. -/
def basic (username password : String) : String × String :=
  let bytes := (username.toList ++ ':' :: password.toList).flatMap String.utf8EncodeChar
  (headerName, "Basic " ++ String.ofList (Base64.encode bytes))

end DocStore.Authorization

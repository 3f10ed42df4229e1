import SqlDialect.Text.Basic

/-! How a server is reached, and the text of keywords and values that says so. -/

set_option autoImplicit false

namespace SqlDialect

inductive SslMode where
  | disable
  | prefer
  | require
  | verifyCa
  | verifyFull
  deriving DecidableEq

namespace SslMode

def all : List SslMode := [disable, prefer, require, verifyCa, verifyFull]

def name : SslMode → Text
  | disable => "disable"
  | prefer => "prefer"
  | require => "require"
  | verifyCa => "verify-ca"
  | verifyFull => "verify-full"

def ofName? (s : Text) : Option SslMode := all.find? (·.name == s)

theorem ofName?_name (mode : SslMode) : ofName? mode.name = some mode := by
  cases mode <;> decide

def verifies : SslMode → Bool
  | verifyCa | verifyFull => true
  | _ => false

end SslMode

structure ConnectionSettings where
  host : Text
  port : UInt16
  database : Text
  username : Text
  password : Text
  sslMode : SslMode
  /-- Certificates are not checked, unless the mode verifies. -/
  acceptInvalidCerts : Bool
  /-- A file of certificates to trust in the place of the usual ones. -/
  caCertPath : Option Text
  /-- In seconds. -/
  connectTimeout : UInt64
  deriving DecidableEq

structure KeywordValue where
  keyword : Text
  value : Text
  isQuoted : Bool
  deriving DecidableEq

namespace KeywordValue

/-- Inside apostrophes a backslash stands before a backslash and before an apostrophe. The
backslashes of the value are written first, or those before its apostrophes would be doubled. -/
def escape (value : Text) : Text :=
  Text.replaceChar '\'' "\\'" (Text.replaceChar '\\' "\\\\" value)

def quote (value : Text) : Text := '\'' :: escape value ++ ['\'']

def toText (pair : KeywordValue) : Text :=
  pair.keyword ++ '=' :: if pair.isQuoted then quote pair.value else pair.value

end KeywordValue

namespace ConnectionSettings

def default : ConnectionSettings where
  host := "localhost"
  port := 5432
  database := "postgres"
  username := "postgres"
  password := []
  sslMode := .prefer
  acceptInvalidCerts := false
  caCertPath := none
  connectTimeout := 10

def keywordValues (s : ConnectionSettings) : List KeywordValue := [
  ⟨"host", s.host, true⟩,
  ⟨"port", Text.ofNat s.port.toNat, false⟩,
  ⟨"dbname", s.database, true⟩,
  ⟨"user", s.username, true⟩,
  ⟨"password", s.password, true⟩,
  ⟨"sslmode", s.sslMode.name, false⟩,
  ⟨"connect_timeout", Text.ofNat s.connectTimeout.toNat, false⟩]

def connectionString (s : ConnectionSettings) : Text :=
  List.intercalate [' '] (s.keywordValues.map KeywordValue.toText)

/-- The connection as messages name it, without the password. -/
def display (s : ConnectionSettings) : Text :=
  s.username ++ '@' :: s.host ++ ':' :: Text.ofNat s.port.toNat ++ '/' :: s.database

end ConnectionSettings

end SqlDialect

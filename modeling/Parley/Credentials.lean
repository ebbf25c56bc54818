import Parley.Failure
/-! What a user logs in with, and the token that a login gives. Neither the password nor the token
is ever part of a displayed value. -/

namespace Parley

structure Credentials where
  username : String
  password : String
  username_ne : username ≠ ""
  password_ne : password ≠ ""

namespace Credentials

def missing : Failure :=
  .config "Missing credentials: username and password must not be empty"

def make (username password : String) : Except Failure Credentials :=
  if h : username ≠ "" ∧ password ≠ "" then .ok ⟨username, password, h.1, h.2⟩
  else .error missing

def inspect (c : Credentials) : String :=
  "Credentials \x7b username: " ++ Text.quoted c.username ++ ", password: " ++ Text.quoted "***" ++
    " \x7d"

end Credentials

structure Token where
  text : String
deriving DecidableEq, Repr

def Token.isEmpty (t : Token) : Bool := t.text.isEmpty

def Token.inspect (_ : Token) : String := "Token(***)"

def Token.display (_ : Token) : String := "***"

end Parley

import Parley.Http.Exchange
import Parley.Server
import Parley.Server.Answers
/-! The two calls to a chat server before a connection: a name and a password for a token, and a
token for the user who owns it. -/

namespace Parley.Server

open Http

/-- A call at a URL of the server, with what its final answer means. -/
def call {α : Type} (net : Network) (url : Except Failure Url) (authorization : String)
    (meaning : Answer → Except Failure α) (remote : Remote) : Except Failure α × Remote :=
  match url with
  | .error f => (.error f, remote)
  | .ok url =>
    match get net url authorization remote with
    | (.error m, remote) => (.error (.http m.message), remote)
    | (.ok a, remote) => (meaning a, remote)

def login (s : Server) (net : Network) (c : Credentials) (remote : Remote) :
    Except Failure Token × Remote :=
  call net s.loginUrl (basic c.username c.password) Token.ofAnswer remote

def identify (s : Server) (net : Network) (t : Token) (remote : Remote) :
    Except Failure User × Remote :=
  call net s.identityUrl (bearer t.text) User.ofAnswer remote

end Parley.Server

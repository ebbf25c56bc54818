import Parley.Http.Status
/-! Requests and the replies to them. The other side is a script: it has its replies ready, and each
request that reaches it takes the next one. Every request asks for a path and sends nothing. -/

namespace Parley.Http

structure Request where
  path : String
  /-- The values of the header that says who is asking; more than one may be sent. -/
  authorization : List String
  upgrade : Option String
deriving DecidableEq, Repr

def Request.method (_ : Request) : String := "GET"

structure Answer where
  status : Nat
  location : Option String
  connection : Option String
  upgrade : Option String
  /-- Whether the answer proves that the key of the request has been read. -/
  provesKey : Bool
  body : List UInt8
  /-- Whether as many of them came as the head announces. -/
  complete : Bool
deriving DecidableEq, Repr

inductive Reply where
  | dropped
  | answer (a : Answer)
deriving DecidableEq, Repr

structure Remote where
  replies : List Reply
  requests : List Request
deriving DecidableEq, Repr

def Remote.ofReplies (replies : List Reply) : Remote := ⟨replies, []⟩

/-- A request with its reply. Without replies left the connection is dropped. -/
def Remote.ask (r : Remote) (q : Request) : Reply × Remote :=
  (r.replies.headD .dropped, ⟨r.replies.tail, r.requests ++ [q]⟩)

def isBodiless (status : Nat) : Bool := status = 101 || status = 204 || status = 304

/-- What a reply means as the answer to a plain request. Interim answers do not count, and no other
follows them. -/
def Reply.final? : Reply → Option Answer
  | .dropped => none
  | .answer a =>
    if a.status = 101 ∨ 200 ≤ a.status ∧ a.status ≤ 999 then
      some (if isBodiless a.status then { a with body := [], complete := true } else a)
    else none

def isHeaderText (s : String) : Bool :=
  s.toList.all fun c => c = '\t' || (decide (' ' ≤ c) && c ≠ '\x7f')

end Parley.Http

import Parley.Json.Number
/-! Values that nobody looks at: those of members a record does not know. They are checked for their
form with a stack of open brackets instead of a recursion, so they may nest as deep as they like. -/

namespace Parley.Json

inductive Bracket where
  | list
  | object
deriving DecidableEq, Repr

def Bracket.endProblem : Bracket → Problem
  | .list => .endInList
  | .object => .endInObject

def Bracket.commaProblem : Bracket → Problem
  | .list => .expectedListCommaOrEnd
  | .object => .expectedObjectCommaOrEnd

def Bracket.closer : Bracket → Char
  | .list => ']'
  | .object => '\x7d'

def skipAtom (cs : List Char) : Except Fault (Rest (Option Bracket)) :=
  match cs with
  | [] => .error (.next .endInValue [])
  | 'n' :: cs => Prod.mk none <$> word ['u', 'l', 'l'] cs
  | 't' :: cs => Prod.mk none <$> word ['r', 'u', 'e'] cs
  | 'f' :: cs => Prod.mk none <$> word ['a', 'l', 's', 'e'] cs
  | '-' :: cs => Prod.mk none <$> skipNumber cs
  | '"' :: cs => Prod.mk none <$> skipString cs
  | '[' :: cs => .ok (some .list, cs)
  | '\x7b' :: cs => .ok (some .object, cs)
  | c :: cs =>
    if Text.isDigit c then Prod.mk none <$> skipNumber (c :: cs)
    else .error (.next .expectedValue (c :: cs))

def skipKey : Bracket → List Char → Except Fault (List Char)
  | .list, cs => .ok cs
  | .object, cs =>
    match skipSpace cs with
    | [] => .error (.next .endInObject [])
    | '"' :: cs => do
      match skipSpace (← skipString cs) with
      | [] => .error (.next .endInObject [])
      | ':' :: cs => .ok cs
      | cs => .error (.next .expectedColon cs)
    | cs => .error (.next .keyNotString cs)

/-- Closes as many brackets as end here. Gives the brackets still open, none when the whole value
has ended; `filled` says whether the innermost one already holds a value. -/
def skipClosers : Bool → List Bracket → List Char → Except Fault (Rest (List Bracket))
  | _, [], cs => .ok ([], cs)
  | filled, b :: frames, cs =>
    match skipSpace cs with
    | [] => .error (.next b.endProblem [])
    | c :: rest =>
      if c = b.closer then skipClosers true frames rest
      else if filled then
        if c = ',' then .ok (b :: frames, rest) else .error (.next b.commaProblem (c :: rest))
      else .ok (b :: frames, c :: rest)

/-- One value, with the brackets around it that belong to the skipped value. Every round reads at
least one character, so the length of the text bounds their number. -/
def skipFrom : Nat → List Bracket → List Char → Except Fault (List Char)
  | 0, _, _ => .error (.next .endInValue [])
  | rounds + 1, frames, cs => do
    let (opened, cs) ← skipAtom (skipSpace cs)
    let around := opened.toList ++ frames
    match ← skipClosers opened.isNone around cs with
    | ([], cs) => .ok cs
    | (b :: frames, cs) => skipFrom rounds (b :: frames) (← skipKey b cs)

def skipValue (cs : List Char) : Except Fault (List Char) := skipFrom (cs.length + 1) [] cs

end Parley.Json

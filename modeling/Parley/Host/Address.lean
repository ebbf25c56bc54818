import Parley.Text.Digits
/-! Numeric addresses as hosts. Four octets may be written in one to four numbers, each decimal,
octal or hexadecimal, the last filling what the others leave; eight pieces of sixteen bits may leave
out one run of zeros and may write the last two pieces as octets. -/

namespace Parley.Host

open Parley.Text

def splitAt (mark : Char) : List Char → List (List Char)
  | [] => [[]]
  | c :: cs =>
    if c = mark then [] :: splitAt mark cs
    else match splitAt mark cs with
      | [] => [[c]]
      | p :: ps => (c :: p) :: ps

/-- A numeral in one of the three bases; nothing behind a base mark is zero. -/
def addressNumber (cs : List Char) : Option Nat :=
  let (base, ds) : Nat × List Char := match cs with
    | '0' :: 'x' :: ds => (16, ds)
    | '0' :: 'X' :: ds => (16, ds)
    | '0' :: d :: ds => (8, d :: ds)
    | ds => (10, ds)
  if cs.isEmpty then none
  else ds.foldlM (fun n c =>
    match hexValue? c with
    | some v => if v < base then some (n * base + v) else none
    | none => none) 0

/-- Whether a host name must be a four-octet address: its last part is a number. -/
def endsInNumber (cs : List Char) : Bool :=
  let parts := (splitAt '.' cs).reverse
  let check (last : List Char) : Bool :=
    (!last.isEmpty && last.all isDigit) || (addressNumber last).isSome
  match parts with
  | [] => false
  | [] :: [] => false
  | [] :: last :: _ => check last
  | last :: _ => check last

def octetAddress (cs : List Char) : Option Nat := do
  let parts := splitAt '.' cs
  let parts := if parts.getLast? = some [] then parts.dropLast else parts
  if 4 < parts.length then none else
  let numbers ← parts.mapM addressNumber
  let last ← numbers.getLast?
  let front := numbers.dropLast
  if Nat.pow 256 (4 - front.length) ≤ last ∨ front.any (255 < ·) then none else
  some (front.foldl (fun n x => n * 256 + x) 0 * Nat.pow 256 (4 - front.length) + last)

def octetText (n : Nat) : List Char :=
  digits (n / 16777216 % 256) ++ '.' :: digits (n / 65536 % 256) ++ '.' ::
    digits (n / 256 % 256) ++ '.' :: digits (n % 256)

def hexPiece (cs : List Char) : Option (Nat × List Char) :=
  let ds := (cs.take 4).takeWhile (fun c => (hexValue? c).isSome)
  if ds.isEmpty then none
  else some (ds.foldl (fun n c => n * 16 + (hexValue? c).getD 0) 0, cs.drop ds.length)

def plainOctet (cs : List Char) : Option Nat :=
  match cs with
  | [] => none
  | ['0'] => some 0
  | '0' :: _ => none
  | cs => if cs.all isDigit ∧ cs.length ≤ 3 ∧ ofDigits cs ≤ 255 then some (ofDigits cs) else none

def tailOctets (cs : List Char) : Option (List Nat) := do
  match ← (splitAt '.' cs).mapM plainOctet with
  | [a, b, c, d] => some [a * 256 + b, c * 256 + d]
  | _ => none

def hexPieces : Nat → List Char → Option (List Nat)
  | 0, _ => none
  | rounds + 1, cs =>
    if cs.contains '.' ∧ ¬ cs.contains ':' then tailOctets cs
    else do
      let (n, rest) ← hexPiece cs
      match rest with
      | [] => some [n]
      | ':' :: more => (n :: ·) <$> hexPieces rounds more
      | _ => none

def splitGap : List Char → Option (List Char × List Char)
  | ':' :: ':' :: cs => some ([], cs)
  | c :: cs => (splitGap cs).map fun (a, b) => (c :: a, b)
  | [] => none

def somePieces (cs : List Char) : Option (List Nat) :=
  if cs.isEmpty then some [] else hexPieces (cs.length + 1) cs

/-- Eight pieces. A gap stands for at least one of them, and octets only for the last two. -/
def pieceAddress (cs : List Char) : Option (List Nat) := do
  match splitGap cs with
  | none =>
    let ps ← hexPieces (cs.length + 1) cs
    if ps.length = 8 then some ps else none
  | some (front, back) =>
    if front.contains '.' then none else
    let a ← somePieces front
    let b ← somePieces back
    if a.length + b.length ≤ 7 then
      some (a ++ List.replicate (8 - a.length - b.length) 0 ++ b)
    else none

def zeroRun (ps : List Nat) : Nat := (ps.takeWhile (· = 0)).length

def longestGap (ps : List Nat) : Nat × Nat :=
  (List.range 8).foldl (fun best i =>
    let n := zeroRun (ps.drop i)
    if best.2 < n then (i, n) else best) (0, 0)

def joinPieces (ps : List Nat) : List Char :=
  match ps with
  | [] => []
  | p :: ps => Nat.toDigits 16 p ++ ps.flatMap fun q => ':' :: Nat.toDigits 16 q

/-- Pieces without leading zeros, the first longest run of at least two zeros left out. -/
def pieceText (ps : List Nat) : List Char :=
  let (i, n) := longestGap ps
  if n < 2 then joinPieces ps
  else joinPieces (ps.take i) ++ [':', ':'] ++ joinPieces (ps.drop (i + n))

end Parley.Host

import Parley.Message
import Parley.Time.Notation
/-! The log of the shell: notices with a level and the part of the program they come from, and the
filter that decides which are shown. A filter is a list of directives; of those that apply to a
part, the one that names it most closely decides, and of equals the last one. -/

namespace Parley.Shell

inductive Level where
  | error
  | warn
  | info
  | debug
  | trace
deriving DecidableEq, Repr

namespace Level

/-- Nothing is as important as an error. -/
def rank : Level → Nat
  | error => 1
  | warn => 2
  | info => 3
  | debug => 4
  | trace => 5

def label : Level → String
  | error => "\x1b[31mERROR\x1b[0m"
  | warn => "\x1b[33m WARN\x1b[0m"
  | info => "\x1b[32m INFO\x1b[0m"
  | debug => "\x1b[34mDEBUG\x1b[0m"
  | trace => "\x1b[35mTRACE\x1b[0m"

end Level

structure Notice where
  level : Level
  part : String
  text : String
deriving DecidableEq, Repr

/-- Controls that a terminal would act on are spelled out. -/
def visibleChar (c : Char) : List Char :=
  if c = '\x1b' then ['\\', 'x', '1', 'b']
  else if c = '\x07' then ['\\', 'x', '0', '7']
  else if c = '\x08' then ['\\', 'x', '0', '8']
  else if c = '\x0c' then ['\\', 'x', '0', 'c']
  else if c = '\x7f' then ['\\', 'x', '7', 'f']
  else if 0x80 ≤ c.toNat ∧ c.toNat ≤ 0x9F then
    ['\\', 'u', '\x7b'] ++ Nat.toDigits 16 c.toNat ++ ['\x7d']
  else [c]

def visible (s : String) : String := String.ofList (s.toList.flatMap visibleChar)

def faint (s : String) : String := "\x1b[2m" ++ s ++ "\x1b[0m"

def Notice.line (now : Instant) (n : Notice) : String :=
  faint now.toMicrosText ++ " " ++ n.level.label ++ " " ++ faint n.part ++ faint ":" ++ " " ++
    visible n.text ++ "\n"

structure Directive where
  /-- The part it applies to, with everything below it; none for all parts. -/
  part : Option String
  /-- Whether it applies only inside some piece of work, where no notice of this program is. -/
  inSpan : Bool
  /-- The rank up to which notices are shown. -/
  most : Nat
deriving DecidableEq, Repr

def rank? (s : String) : Option Nat :=
  match String.ofList (s.toList.map Char.toLower) with
  | "off" | "0" => some 0
  | "error" | "1" => some 1
  | "warn" | "2" => some 2
  | "info" | "3" => some 3
  | "debug" | "4" => some 4
  | "trace" | "5" => some 5
  | _ => none

namespace Directive

def everything : Nat := 5

def isPartChar (c : Char) : Bool := c.isAlphanum || ['_', ':', '-'].contains c || '\x7f' < c

def cutSpan (cs : List Char) : Bool × List Char :=
  match cs with
  | '[' :: rest =>
    match rest.dropWhile (· ≠ ']') with
    | _ :: after => (true, after)
    | [] => (false, cs)
  | _ => (false, cs)

/-- A level alone, or a part with or without its level; a part without a level shows everything. -/
def read? (s : String) : Option Directive :=
  match rank? s with
  | some n => some ⟨none, false, n⟩
  | none =>
    let cs := s.toList
    let part := cs.takeWhile isPartChar
    let (inSpan, rest) := cutSpan (cs.drop part.length)
    let named := if part.isEmpty then none else some (String.ofList part)
    if part.isEmpty ∧ ¬ inSpan then none
    else match rest with
      | [] => some ⟨named, inSpan, everything⟩
      | ['='] => some ⟨named, inSpan, everything⟩
      | '=' :: level => (rank? (String.ofList level)).map fun n => ⟨named, inSpan, n⟩
      | _ => none

def appliesTo (d : Directive) (part : String) : Bool :=
  !d.inSpan && d.part.all (·.isPrefixOf part)

def closeness (d : Directive) : Nat := (d.part.map (·.length + 1)).getD 0

end Directive

abbrev Filter := List Directive

namespace Filter

/-- Errors only: what a filter without directives shows. -/
def bare : Filter := [⟨none, false, 1⟩]

def orBare (ds : List Directive) : Filter := if ds.isEmpty then bare else ds

def parts (s : String) : List String := (s.splitOn ",").filter (! ·.isEmpty)

def read? (s : String) : Option Filter := ((parts s).mapM Directive.read?).map orBare

/-- The filter of the directives that can be read, with a complaint about each of the others. -/
def readSome (s : String) : Filter × List String :=
  let bad := (parts s).filter fun p => (Directive.read? p).isNone
  (orBare ((parts s).filterMap Directive.read?),
    bad.map fun p => "ignoring `" ++ p ++ "`: invalid filter directive\n")

def ownParts : List String := ["comlink_client", "comlink_shared", "comlink_client"]

/-- The filter that somebody has asked for, or one level for all parts of the program. -/
def choose (asked : Option String) (level : String) : Filter × List String :=
  match asked.bind read? with
  | some f => (f, [])
  | none => readSome (",".intercalate (ownParts.map fun p => p ++ "=" ++ level))

def decisive? (f : Filter) (part : String) : Option Directive :=
  f.foldl (fun best d =>
    if ¬ d.appliesTo part then best
    else match best with
      | none => some d
      | some b => if b.closeness ≤ d.closeness then some d else some b) none

def shows (f : Filter) (n : Notice) : Bool :=
  (f.decisive? n.part).any fun d => decide (n.level.rank ≤ d.most)

end Filter

end Parley.Shell

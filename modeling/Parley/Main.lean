import Parley.Shell.Program
import Std.Time
/-! The program itself: it hands its arguments, its environment and its input to the shell and puts
out what comes back. It brings no way to a network along, so every host is out of its reach. -/

open Parley Parley.Shell

def environmentNames : List String := filterVariable :: Flag.all.filterMap Flag.variableName?

def readEnvironment : IO (List (String × String)) :=
  environmentNames.filterMapM fun name => do return (← IO.getEnv name).map (name, ·)

def readClock : IO FixedClock := do
  let nanos := (← Std.Time.Timestamp.now).toNanosecondsSinceUnixEpoch.toInt
  return ⟨(Instant.ofSecs? (nanos / 1000000000) (nanos % 1000000000).toNat).getD .epoch⟩

def typedTurns (input : ByteArray) : List Turn :=
  Talk.turnsOf (Input.lines input.data.toList) ++ [.inputOver]

def emit (f : Finish) : IO UInt32 := do
  IO.eprint f.err
  IO.print f.out
  return f.code.toUInt32

def main (arguments : List String) : IO UInt32 := do
  let environment ← readEnvironment
  match prepare (environment.lookup ·) arguments with
  | .error f => emit f
  | .ok setup =>
    let clock ← readClock
    match (setup.connect .none clock (.ofReplies [])).1 with
    | .error f => emit f
    | .ok talk =>
      let input ← (← IO.getStdin).readBinToEnd
      emit (setup.finish ((talk.turns (typedTurns input)).hearAll.turn .giveUp) clock.now)

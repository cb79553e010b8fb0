namespace Cadence

namespace Host

/-!
# Signals

The signals with their numbers, their names and what they do to a process that
does not handle them.
-/

/-- A signal is known by its number. -/
abbrev Signal := Nat

/-- What a signal does to a process that has not said what to do with it. -/
inductive SignalEffect
  | terminate
  | ignore
  | stop
  | resume
  deriving DecidableEq, Repr

/-- What a process has said about a signal. -/
inductive Disposition
  | default
  | ignored
  | caught
  deriving DecidableEq, Repr

namespace Signal

def hangUp : Signal := 1
def interrupt : Signal := 2
def quit : Signal := 3
def kill : Signal := 9
def floatingPoint : Signal := 8
def badAddress : Signal := 11
def brokenPipe : Signal := 13
def terminate : Signal := 15
def childChanged : Signal := 17
def resume : Signal := 18
def stop : Signal := 19
def fileSize : Signal := 25

/-- The names of the signals that have one, with their numbers. -/
def names : List (String × Signal) :=
  [("HUP", 1), ("INT", 2), ("QUIT", 3), ("ILL", 4), ("TRAP", 5), ("ABRT", 6), ("BUS", 7),
    ("FPE", 8), ("KILL", 9), ("USR1", 10), ("SEGV", 11), ("USR2", 12), ("PIPE", 13), ("ALRM", 14),
    ("TERM", 15), ("CHLD", 17), ("CONT", 18), ("STOP", 19), ("TSTP", 20),
    ("TTIN", 21), ("TTOU", 22), ("URG", 23), ("XCPU", 24), ("XFSZ", 25), ("VTALRM", 26),
    ("PROF", 27), ("WINCH", 28), ("IO", 29), ("PWR", 30), ("SYS", 31), ("RTMIN", 34),
    ("RTMIN+1", 35), ("RTMIN+2", 36), ("RTMIN+3", 37), ("RTMIN+4", 38), ("RTMIN+5", 39),
    ("RTMIN+6", 40), ("RTMIN+7", 41), ("RTMIN+8", 42), ("RTMIN+9", 43), ("RTMIN+10", 44),
    ("RTMIN+11", 45), ("RTMIN+12", 46), ("RTMIN+13", 47), ("RTMIN+14", 48), ("RTMIN+15", 49),
    ("RTMAX-14", 50), ("RTMAX-13", 51), ("RTMAX-12", 52), ("RTMAX-11", 53), ("RTMAX-10", 54),
    ("RTMAX-9", 55), ("RTMAX-8", 56), ("RTMAX-7", 57), ("RTMAX-6", 58), ("RTMAX-5", 59),
    ("RTMAX-4", 60), ("RTMAX-3", 61), ("RTMAX-2", 62), ("RTMAX-1", 63), ("RTMAX", 64)]

/-- The largest number of a signal. -/
def last : Signal := 64

/-- The name of a signal; signals without one are called by their number. -/
def name (signal : Signal) : String :=
  match names.find? fun entry => entry.2 = signal with
  | some entry => entry.1
  | none => toString signal

/-- The signal of a name, in capitals. -/
def ofName? (name : String) : Option Signal :=
  names.lookup name

/-- What a signal does to a process that does not handle it. -/
def effect (signal : Signal) : SignalEffect :=
  if signal = 17 ∨ signal = 23 ∨ signal = 28 then
    .ignore
  else if signal = 18 then
    .resume
  else if 19 ≤ signal ∧ signal ≤ 22 then
    .stop
  else
    .terminate

/-- Whether a process may say what to do with a signal. -/
def isMaskable (signal : Signal) : Bool :=
  signal != kill && signal != stop

end Signal

end Host

end Cadence

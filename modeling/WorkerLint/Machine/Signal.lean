import WorkerLint.Text

namespace WorkerLint.Signal

/-- Names and numbers. Zero is the end of the process itself. -/
def names : List (String × Nat) :=
  [("EXIT", 0), ("HUP", 1), ("INT", 2), ("QUIT", 3), ("ILL", 4), ("TRAP", 5), ("ABRT", 6),
    ("BUS", 7), ("FPE", 8), ("KILL", 9), ("USR1", 10), ("SEGV", 11), ("USR2", 12), ("PIPE", 13),
    ("ALRM", 14), ("TERM", 15), ("CHLD", 17), ("CONT", 18), ("STOP", 19),
    ("TSTP", 20), ("TTIN", 21), ("TTOU", 22), ("URG", 23), ("XCPU", 24), ("XFSZ", 25),
    ("VTALRM", 26), ("PROF", 27), ("WINCH", 28), ("IO", 29), ("PWR", 30), ("SYS", 31)]

def firstRealTime : Nat := 34

def lastRealTime : Nat := 64

def count : Nat := lastRealTime + 1

def name (signal : Nat) : Text :=
  match names.find? (·.2 = signal) with
  | some (name, _) => name.toList
  | none =>
    if signal = firstRealTime then "RTMIN".toList
    else if signal = lastRealTime then "RTMAX".toList
    else if firstRealTime < signal ∧ signal < lastRealTime then
      if signal ≤ 49 then "RTMIN+".toList ++ Text.ofNat (signal - firstRealTime)
      else "RTMAX-".toList ++ Text.ofNat (lastRealTime - signal)
    else Text.ofNat signal

def isHarmless (signal : Nat) : Bool :=
  signal ∈ [0, 17, 18, 23, 28]

def description (signal : Nat) : Text :=
  match signal with
  | 1 => "Hangup".toList
  | 2 => "Interrupt".toList
  | 3 => "Quit".toList
  | 4 => "Illegal instruction".toList
  | 5 => "Trace/breakpoint trap".toList
  | 6 => "Aborted".toList
  | 7 => "Bus error".toList
  | 8 => "Floating point exception".toList
  | 9 => "Killed".toList
  | 10 => "User defined signal 1".toList
  | 11 => "Segmentation fault".toList
  | 12 => "User defined signal 2".toList
  | 13 => "Broken pipe".toList
  | 14 => "Alarm clock".toList
  | 15 => "Terminated".toList
  | 16 => "Stack fault".toList
  | 24 => "CPU time limit exceeded".toList
  | 25 => "File size limit exceeded".toList
  | 26 => "Virtual timer expired".toList
  | 27 => "Profiling timer expired".toList
  | 29 => "I/O possible".toList
  | 30 => "Power failure".toList
  | 31 => "Bad system call".toList
  | _ => "Real-time signal ".toList ++ Text.ofNat (signal - firstRealTime)

end WorkerLint.Signal

namespace WorkerLint

inductive Ending
  | exited (status : Nat)
  | killed (signal : Nat)
  deriving DecidableEq, Repr

namespace Ending

def status : Ending → Nat
  | .exited status => status % 256
  | .killed signal => 128 + signal

def announcement : Ending → Text
  | .exited _ => []
  | .killed signal =>
    if signal = 2 ∨ signal = 13 then [] else Signal.description signal ++ ['\n']

end Ending

end WorkerLint

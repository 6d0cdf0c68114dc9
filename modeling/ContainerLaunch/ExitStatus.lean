/-!
# The end of a process in words

A process that was ended by a signal has the negative number of the signal as its exit status.
-/

namespace ContainerLaunch.ExitStatus

/-- The signals that have a name. -/
def signalNames : List (Nat × String) :=
  [(1, "SIGHUP"), (2, "SIGINT"), (3, "SIGQUIT"), (4, "SIGILL"), (5, "SIGTRAP"), (6, "SIGABRT"),
    (7, "SIGBUS"), (8, "SIGFPE"), (9, "SIGKILL"), (10, "SIGUSR1"), (11, "SIGSEGV"), (12, "SIGUSR2"),
    (13, "SIGPIPE"), (14, "SIGALRM"), (15, "SIGTERM"), (16, "SIGSTKFLT"), (17, "SIGCHLD"),
    (18, "SIGCONT"), (19, "SIGSTOP"), (20, "SIGTSTP"), (21, "SIGTTIN"), (22, "SIGTTOU"),
    (23, "SIGURG"), (24, "SIGXCPU"), (25, "SIGXFSZ"), (26, "SIGVTALRM"), (27, "SIGPROF"),
    (28, "SIGWINCH"), (29, "SIGIO"), (30, "SIGPWR"), (31, "SIGSYS"), (34, "SIGRTMIN"),
    (64, "SIGRTMAX")]

/-- The signal with a number. -/
def signalText (number : Nat) : String :=
  match signalNames.lookup number with
  | some name => "<Signals." ++ name ++ ": " ++ toString number ++ ">"
  | none => "unknown signal " ++ toString number

/-- How a process ended that was expected to succeed. -/
def describe (status : Int) : String :=
  if status < 0 then "died with " ++ signalText status.natAbs ++ "."
  else "returned non-zero exit status " ++ toString status ++ "."

end ContainerLaunch.ExitStatus

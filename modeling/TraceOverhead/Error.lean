import TraceOverhead.Number.FloatLiteral
import TraceOverhead.Text.Quoted
/-!
What can go wrong, by cause, and the wording of each cause in messages.
-/

namespace TraceOverhead

/-- Why an operation of the operating system failed, or why what it delivered cannot be used. -/
inductive IoFailure where
  | notFound
  | permissionDenied
  | alreadyExists
  | notADirectory
  | isADirectory
  | nameTooLong
  | tooManyLinks
  | argumentsTooLong
  | noSuchProcess
  | nulInPath
  | nulInArgument
  | notUtf8
  | badInteger (fault : Number.IntegerFault)
  | badTime (text : String) (fault : Number.FloatFault)
  deriving DecidableEq

def IoFailure.message : IoFailure → String
  | .notFound => "No such file or directory (os error 2)"
  | .permissionDenied => "Permission denied (os error 13)"
  | .alreadyExists => "File exists (os error 17)"
  | .notADirectory => "Not a directory (os error 20)"
  | .isADirectory => "Is a directory (os error 21)"
  | .nameTooLong => "File name too long (os error 36)"
  | .tooManyLinks => "Too many levels of symbolic links (os error 40)"
  | .argumentsTooLong => "Argument list too long (os error 7)"
  | .noSuchProcess => "No such process (os error 3)"
  | .nulInPath => "file name contained an unexpected NUL byte"
  | .nulInArgument => "nul byte found in provided data"
  | .notUtf8 => "stream did not contain valid UTF-8"
  | .badInteger fault => fault.message
  | .badTime text fault => "bad benchmark time " ++ Text.quoted text ++ ": " ++ fault.message

inductive Operation where
  | create
  | start
  | stop
  | destroy
  | enableChannel
  | enableEvent
  deriving DecidableEq, Repr

def Operation.name : Operation → String
  | .create => "create"
  | .start => "start"
  | .stop => "stop"
  | .destroy => "destroy"
  | .enableChannel => "enable-channel"
  | .enableEvent => "enable-event"

inductive ExitStatus where
  | exited (code : Nat)
  | killed (signal : Nat)
  deriving DecidableEq, Repr

def signalNames : List String :=
  ["HUP", "INT", "QUIT", "ILL", "TRAP", "ABRT", "BUS", "FPE", "KILL", "USR1", "SEGV", "USR2",
   "PIPE", "ALRM", "TERM", "STKFLT", "CHLD", "CONT", "STOP", "TSTP", "TTIN", "TTOU", "URG",
   "XCPU", "XFSZ", "VTALRM", "PROF", "WINCH", "IO", "PWR", "SYS"]

def ExitStatus.isSuccess (status : ExitStatus) : Bool := status = .exited 0

def ExitStatus.describe : ExitStatus → String
  | .exited code => "exit status: " ++ Number.decimal code
  | .killed signal =>
    let name := match signal with
      | 0 => none
      | index + 1 => signalNames[index]?
    "signal: " ++ Number.decimal signal ++ (name.map fun text => " (SIG" ++ text ++ ")").getD ""

/-- A moment that a benchmarked program reports. -/
inductive Timestamp where
  | exec
  | main
  | start
  | finish
  deriving DecidableEq, Repr

def Timestamp.name : Timestamp → String
  | .exec => "exec"
  | .main => "main"
  | .start => "start"
  | .finish => "end"

inductive CpuProblem where
  | malformedList (list : String)
  | tooFew
  | tooMany (wanted available : Nat)
  | notReached (online wanted : Nat)
  deriving DecidableEq

def CpuProblem.message : CpuProblem → String
  | .malformedList list => "malformed CPU list: " ++ Text.quoted list
  | .tooFew => "cannot get less than one CPU online"
  | .tooMany wanted available =>
    "cannot get " ++ Number.decimal wanted ++ " CPUs online: only " ++
      Number.decimal available ++ " more are available"
  | .notReached online wanted =>
    "got " ++ Number.decimal online ++ " CPUs online instead of " ++ Number.decimal wanted

/-- Why a trace cannot be read yet. -/
inductive TraceFault where
  | noDirectory
  | noMetadata
  | emptyMetadata (path : String)
  | unopened (path : String) (failure : IoFailure)
  | refused (reason : String)
  deriving DecidableEq

def TraceFault.reason : TraceFault → String
  | .noDirectory => "no trace directory"
  | .noMetadata => "no metadata file"
  | .emptyMetadata path => path ++ " is empty"
  | .unopened path failure => "IO error for operation on " ++ path ++ ": " ++ failure.message
  | .refused reason => reason

inductive Error where
  | tracing (operation : Operation) (message : String)
  | spawn (program : String) (cause : IoFailure)
  | commandFailed (program : String) (status : ExitStatus) (stderr : String)
  | json
  | missingField (field : Timestamp)
  | cpu (problem : CpuProblem)
  | traceNotReady (path : String) (fault : TraceFault)
  | io (failure : IoFailure)
  | interrupted
  deriving DecidableEq

def Error.message : Error → String
  | .tracing operation message => "LTTng: " ++ operation.name ++ ": " ++ message
  | .spawn program cause => "failed to spawn `" ++ program ++ "`: " ++ cause.message
  | .commandFailed program status stderr =>
    "`" ++ program ++ "` exited with " ++ status.describe ++ ": " ++ stderr
  | .json => "malformed benchmark output"
  | .missingField field => "timing record has no `" ++ field.name ++ "` field"
  | .cpu problem => "CPU hot-plug: " ++ problem.message
  | .traceNotReady path fault =>
    "trace at " ++ path ++ " is not readable yet: " ++ fault.reason
  | .io failure => failure.message
  | .interrupted => "interrupted"

end TraceOverhead

/-!
# Errors of the system

Why the system refuses an operation: each error has a text and a number, as it is shown to people.
-/

namespace Conformance

/-- Why the system refuses an operation. -/
inductive SystemError where
  | notPermitted
  | notFound
  | noProcess
  | interrupted
  | inputOutput
  | noDevice
  | tooManyArguments
  | notExecutable
  | badDescriptor
  | noChild
  | tryAgain
  | permissionDenied
  | busy
  | exists
  | acrossDevices
  | notDirectory
  | isDirectory
  | invalid
  | textBusy
  | noSpace
  | illegalSeek
  | brokenPipe
  | nameTooLong
  | notEmpty
  | tooManyLinks
  deriving DecidableEq, Repr

namespace SystemError

/-- The text of an error. -/
def text : SystemError → String
  | notPermitted => "Operation not permitted"
  | notFound => "No such file or directory"
  | noProcess => "No such process"
  | interrupted => "Interrupted system call"
  | inputOutput => "Input/output error"
  | noDevice => "No such device or address"
  | tooManyArguments => "Argument list too long"
  | notExecutable => "Exec format error"
  | badDescriptor => "Bad file descriptor"
  | noChild => "No child processes"
  | tryAgain => "Resource temporarily unavailable"
  | permissionDenied => "Permission denied"
  | busy => "Device or resource busy"
  | .exists => "File exists"
  | acrossDevices => "Invalid cross-device link"
  | notDirectory => "Not a directory"
  | isDirectory => "Is a directory"
  | invalid => "Invalid argument"
  | textBusy => "Text file busy"
  | noSpace => "No space left on device"
  | illegalSeek => "Illegal seek"
  | brokenPipe => "Broken pipe"
  | nameTooLong => "File name too long"
  | notEmpty => "Directory not empty"
  | tooManyLinks => "Too many levels of symbolic links"

/-- The number of an error. -/
def number : SystemError → Nat
  | notPermitted => 1
  | notFound => 2
  | noProcess => 3
  | interrupted => 4
  | inputOutput => 5
  | noDevice => 6
  | tooManyArguments => 7
  | notExecutable => 8
  | badDescriptor => 9
  | noChild => 10
  | tryAgain => 11
  | permissionDenied => 13
  | busy => 16
  | .exists => 17
  | acrossDevices => 18
  | notDirectory => 20
  | isDirectory => 21
  | invalid => 22
  | textBusy => 26
  | noSpace => 28
  | illegalSeek => 29
  | brokenPipe => 32
  | nameTooLong => 36
  | notEmpty => 39
  | tooManyLinks => 40

end SystemError
end Conformance

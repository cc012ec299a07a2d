import FenceCheck.Json.Reader
import FenceCheck.Number.Notation
import FenceCheck.Path
import FenceCheck.Text.Codec
import FenceCheck.Toml.Reader

/-!
What can go wrong. A run error is a failure that the program reports with an exit code of its own. A
fault is the cause that some operation met; where no run error is made of it, it is an internal error.
An interruption is caught nowhere.
-/
namespace FenceCheck
open FenceCheck.Text FenceCheck.Number

/-- A failure of the run itself, with its exit code and a word for its kind. -/
structure RunError where
  message : String
  code : Int
  kind : String := "generic_error"
  deriving DecidableEq, Repr

namespace RunError

def config (message : String) : RunError := ⟨message, 10, "config_error"⟩

def prerequisite (message : String) : RunError := ⟨message, 13, "missing_prerequisite"⟩

def read (message : String) : RunError := ⟨message, 14, "read_fault"⟩

def schema (message : String) : RunError := ⟨message, 15, "schema_violation"⟩

def write (message : String) : RunError := ⟨message, 17, "write_fault"⟩

def language (message : String) : RunError := ⟨message, 2, "unknown_language"⟩

def schemaName (message : String) : RunError := ⟨message, 2, "unknown_schema"⟩

def usage (message : String) : RunError := ⟨message, 2, "usage_error"⟩

def internal (message : String) : RunError := ⟨message, 99, "internal_error"⟩

end RunError

/-- Why the file system refused an operation. -/
inductive Refusal where
  | notFound
  | busy
  | exists
  | notDirectory
  | isDirectory
  | invalid
  | nameTooLong
  | notEmpty
  | loop
  deriving DecidableEq, Repr

def Refusal.number : Refusal → Nat
  | .notFound => 2
  | .busy => 16
  | .exists => 17
  | .notDirectory => 20
  | .isDirectory => 21
  | .invalid => 22
  | .nameTooLong => 36
  | .notEmpty => 39
  | .loop => 40

def Refusal.message : Refusal → String
  | .notFound => "No such file or directory"
  | .busy => "Device or resource busy"
  | .exists => "File exists"
  | .notDirectory => "Not a directory"
  | .isDirectory => "Is a directory"
  | .invalid => "Invalid argument"
  | .nameTooLong => "File name too long"
  | .notEmpty => "Directory not empty"
  | .loop => "Too many levels of symbolic links"

/-- A refused operation, with the name it was given, and the second name of a renaming. -/
structure SystemError where
  refusal : Refusal
  name : String
  target : Option String := none
  deriving DecidableEq, Repr

def SystemError.message (e : SystemError) : String :=
  "[Errno " ++ toString e.refusal.number ++ "] " ++ e.refusal.message ++ ": " ++ quoted e.name
    ++ (match e.target with | none => "" | some t => " -> " ++ quoted t)

/-- The name of a class of exceptions, which is an identifier and so has a first letter. -/
structure ClassName where
  text : String
  named : text.isEmpty = false
  deriving DecidableEq, Repr

namespace ClassName

def valueError : ClassName := ⟨"ValueError", rfl⟩

def overflowError : ClassName := ⟨"OverflowError", rfl⟩

def recursionError : ClassName := ⟨"RecursionError", rfl⟩

end ClassName

/-- A cause met by an operation. -/
inductive Fault where
  /-- The file system refused. -/
  | system (e : SystemError)
  /-- Bytes are no text. -/
  | notText (e : Utf8.DecodeError)
  /-- A text has code points that its encoding cannot write. -/
  | notEncoded (e : EncodeError)
  /-- A text is no JSON text. -/
  | notJson (e : Json.ReadError)
  /-- A file name holds a NUL character. -/
  | nulInName
  /-- None of the names tried for a fresh file was free. -/
  | noFreshName
  /-- Symbolic links lead round in a circle. -/
  | linkLoop (name : String)
  /-- An integer has more digits than may be read. -/
  | longNumeral (digits : Nat)
  /-- An integer has more digits than may be written. -/
  | longInteger
  /-- A value is nested deeper than may be written. -/
  | deepValue
  /-- An infinite number has no integer part. -/
  | infiniteInteger
  /-- An integer lies beyond the floating-point numbers. -/
  | hugeInteger
  /-- A checker ran out of time. -/
  | expired (tool : String) (seconds : String)
  /-- Raised with a text by what the program calls. -/
  | raised (label : ClassName) (text : String)

def Fault.message : Fault → String
  | .system e => e.message
  | .notText e => e.message
  | .notEncoded e => e.message
  | .notJson e => e.message
  | .nulInName => "embedded null byte"
  | .noFreshName => "[Errno 17] No usable temporary file name found"
  | .linkLoop name => "Symlink loop from " ++ quoted name
  | .longNumeral n => (Json.ReadError.longInteger n).message
  | .longInteger =>
    "Exceeds the limit (4300 digits) for integer string conversion; use sys.set_int_max_str_digits() to increase the limit"
  | .deepValue => "maximum recursion depth exceeded while getting the repr of an object"
  | .infiniteInteger => "cannot convert float infinity to integer"
  | .hugeInteger => "int too large to convert to float"
  | .expired tool seconds => "Command " ++ tool ++ " timed out after " ++ seconds ++ " seconds"
  | .raised _ text => text

def SystemError.label (e : SystemError) : String :=
  match e.refusal with
  | .notFound => "FileNotFoundError"
  | .exists => "FileExistsError"
  | .notDirectory => "NotADirectoryError"
  | .isDirectory => "IsADirectoryError"
  | _ => "OSError"

def Fault.label : Fault → String
  | .system e => e.label
  | .notText _ => "UnicodeDecodeError"
  | .notEncoded _ => "UnicodeEncodeError"
  | .notJson (.fault _ _) => "JSONDecodeError"
  | .notJson (.longInteger _) => "ValueError"
  | .notJson (.tooDeep _) => "RecursionError"
  | .nulInName => "ValueError"
  | .noFreshName => "FileExistsError"
  | .linkLoop _ => "RuntimeError"
  | .longNumeral _ => "ValueError"
  | .longInteger => "ValueError"
  | .deepValue => "RecursionError"
  | .infiniteInteger => "OverflowError"
  | .hugeInteger => "OverflowError"
  | .expired _ _ => "TimeoutExpired"
  | .raised label _ => label.text

/-- Whether a fault is a refusal of the operating system. -/
def Fault.isRefusal : Fault → Bool
  | .system _ | .noFreshName => true
  | _ => false

/-- A signal to leave the program. -/
inductive ExitSignal where
  | keyboardInterrupt
  | systemExit
  deriving DecidableEq, Repr

def ExitSignal.label : ExitSignal → String
  | .keyboardInterrupt => "KeyboardInterrupt"
  | .systemExit => "SystemExit"

/-- A request to end the program, which no operation answers. -/
structure Interruption where
  signal : ExitSignal
  text : String
  deriving DecidableEq, Repr

inductive Failure where
  | run (e : RunError)
  | fault (f : Fault)
  | interrupted (i : Interruption)

abbrev Outcome (α : Type) := Except Failure α

section Lemmas
variable {ε ε' α β : Type}

@[simp] theorem ok_bind (a : α) (f : α → Except ε β) : (Except.ok a >>= f) = f a := rfl

@[simp] theorem error_bind (e : ε) (f : α → Except ε β) : (Except.error e >>= f) = .error e := rfl

@[simp] theorem map_ok (f : α → β) (a : α) : (Except.ok a : Except ε α).map f = .ok (f a) := rfl

@[simp] theorem map_error (f : α → β) (e : ε) : (Except.error e : Except ε α).map f = .error e := rfl

@[simp] theorem fmap_eq (f : α → β) (x : Except ε α) : f <$> x = x.map f := by cases x <;> rfl

@[simp] theorem mapError_ok (f : ε → ε') (a : α) :
    (Except.ok a : Except ε α).mapError f = .ok a := rfl

@[simp] theorem mapError_error (f : ε → ε') (e : ε) :
    (Except.error e : Except ε α).mapError f = .error (f e) := rfl

theorem exists_of_bind {x : Except ε α} {f : α → Except ε β} {b : β} (done : (x >>= f) = .ok b) :
    ∃ a, x = .ok a ∧ f a = .ok b := by
  cases x with
  | error e => contradiction
  | ok a => exact ⟨a, rfl, done⟩

theorem exists_of_map {x : Except ε α} {f : α → β} {b : β} (done : x.map f = .ok b) :
    ∃ a, x = .ok a ∧ f a = b := by
  cases x with
  | error e => contradiction
  | ok a => exact ⟨a, rfl, Except.ok.inj done⟩

theorem ok_of_mapError {x : Except ε α} {f : ε → ε'} {a : α} (done : x.mapError f = .ok a) :
    x = .ok a := by
  cases x with
  | error e => contradiction
  | ok a' => exact congrArg Except.ok (Except.ok.inj done)

@[simp] theorem throw_eq (e : ε) : (throw e : Except ε α) = .error e := rfl

@[simp] theorem pure_eq (a : α) : (pure a : Except ε α) = .ok a := rfl

end Lemmas

end FenceCheck

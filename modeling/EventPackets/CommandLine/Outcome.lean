import EventPackets.Csv.FieldOrder
import EventPackets.Diagnostics.Report
import EventPackets.Storage
import EventPackets.Stream.Reader

/-!
# Outcomes

What a run of the program leaves behind.

## Main definitions

* `Outcome` : exit code, texts and files.
* `Failure` : what went wrong, with the chain of its causes.
* `Failure.text` : its wording.
-/

namespace EventPackets.CommandLine

/-- What a run of the program leaves behind. -/
structure Outcome where
  exitCode : Nat
  /-- the text of the results -/
  stdout : String
  /-- the text of diagnostics, summary and failure -/
  stderr : String
  storage : Storage

/-- What went wrong, with its causes, the immediate one first. -/
structure Failure where
  context : String
  causes : List String

/-- The text with every line break followed by blanks. -/
def indented (width : Nat) (s : String) : String :=
  String.ofList (s.toList.flatMap fun c =>
    if c = '\n' then c :: List.replicate width ' ' else [c])

/-- The lines of several causes, numbered from `n`. -/
def numberedCauses (n : Nat) : List String → String
  | [] => ""
  | cause :: causes =>
    Text.padLeft 5 (toString n) ++ ": " ++ indented 7 cause ++ "\n"
      ++ numberedCauses (n + 1) causes

/-- The lines of the causes; a single one has no number. -/
def causeLines : List String → String
  | [cause] => "    " ++ indented 4 cause ++ "\n"
  | causes => numberedCauses 0 causes

/-- The wording of a failure. -/
def Failure.text (f : Failure) : String :=
  match f.causes with
  | [] => "Error: " ++ f.context ++ "\n"
  | causes => "Error: " ++ f.context ++ "\n\nCaused by:\n" ++ causeLines causes

/-- A read error with what it is due to. -/
def readCauses (e : ReadError) : List String :=
  match e with
  | .io cause => [e.message, cause.message]
  | .invalidPacket _ cause => [e.message, cause.message]
  | .unexpectedEnd _ => [e.message]

/-- An output error with what it is due to. -/
def outputCauses (e : OutputError) : List String :=
  match e with
  | .io cause => [e.message, cause.message]
  | .invalidFormat _ => [e.message]

/-- The lines in which reports leave the program. -/
def reportLines (rs : List Report) : String :=
  String.join (rs.map fun r => r.line ++ "\n")

/-- A run that fails after it has printed `stdout` and `stderr`. -/
def Outcome.failed (stdout stderr : String) (f : Failure) (s : Storage) : Outcome :=
  ⟨1, stdout, stderr ++ f.text, s⟩

end EventPackets.CommandLine

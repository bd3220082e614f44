import EventPackets.Number.Digits
import EventPackets.Text.Basic

/-!
# Severities

The eight severities of a diagnostic, from `emergency`, the most severe, to `debug`.  A
severity is written as its name, in any case, or as its number.

## Main definitions

* `Severity.rank`, `Severity.ofRank?` : the number of a severity.
* `Severity.parse` : the severity that a text names.
* `Severity.passes` : whether a diagnostic gets through a threshold.
* `Channel` : the coarser scale on which diagnostics leave the program.

## Main results

* `Severity.ofRank?_rank` : numbers and severities correspond.
-/

namespace EventPackets

/-- How severe a diagnostic is. -/
inductive Severity
  | emergency
  | alert
  | critical
  | error
  | warning
  | notice
  | info
  | debug
  deriving DecidableEq

/-- The scale on which diagnostics leave the program. -/
inductive Channel
  | error
  | warn
  | info
  | debug
  deriving DecidableEq

/-- The name of a channel in a diagnostic line. -/
def Channel.name : Channel → String
  | .error => "ERROR"
  | .warn => "WARN"
  | .info => "INFO"
  | .debug => "DEBUG"

namespace Severity

/-- The number of a severity; smaller is more severe. -/
def rank : Severity → Nat
  | emergency => 0
  | alert => 1
  | critical => 2
  | error => 3
  | warning => 4
  | notice => 5
  | info => 6
  | debug => 7

/-- The severity with a given number. -/
def ofRank? : Nat → Option Severity
  | 0 => some emergency
  | 1 => some alert
  | 2 => some critical
  | 3 => some error
  | 4 => some warning
  | 5 => some notice
  | 6 => some info
  | 7 => some debug
  | _ => none

/-- The upper-case name of a severity. -/
def name : Severity → String
  | emergency => "EMERGENCY"
  | alert => "ALERT"
  | critical => "CRITICAL"
  | error => "ERROR"
  | warning => "WARNING"
  | notice => "NOTICE"
  | info => "INFO"
  | debug => "DEBUG"

/-- The severity with an upper-case name; `WARN` is short for `WARNING`. -/
def ofName? (s : String) : Option Severity :=
  match s with
  | "EMERGENCY" => some emergency
  | "ALERT" => some alert
  | "CRITICAL" => some critical
  | "ERROR" => some error
  | "WARNING" => some warning
  | "WARN" => some warning
  | "NOTICE" => some notice
  | "INFO" => some info
  | "DEBUG" => some debug
  | _ => none

/-- A text that names no severity. -/
structure ParseError where
  /-- the text as it was given -/
  text : String
  deriving DecidableEq

/-- The wording of a parse error. -/
def ParseError.message (e : ParseError) : String :=
  "Unknown log level: " ++ e.text

/-- The severity that a text names: blanks around it do not count, and what is left is a number,
possibly after a plus sign, or a name in any mixture of ASCII cases.  What is no number of one
byte is looked up among the names. -/
def parse (s : String) : Except ParseError Severity :=
  let cs := (Text.trim s.toList).map Char.toUpper
  let found :=
    match Digits.byte? cs with
    | some n => ofRank? n
    | none => ofName? (String.ofList cs)
  match found with
  | some v => .ok v
  | none => .error ⟨s⟩

/-- Whether a diagnostic of severity `s` gets through the threshold `t`. -/
def passes (s t : Severity) : Bool :=
  s.rank ≤ t.rank

/-- The channel of a severity. -/
def channel : Severity → Channel
  | emergency | alert | critical | error => .error
  | warning => .warn
  | notice | info => .info
  | debug => .debug

theorem ofRank?_rank (s : Severity) : ofRank? s.rank = some s := by
  cases s <;> rfl

theorem rank_lt (s : Severity) : s.rank < 8 := by
  cases s <;> decide

theorem passes_iff (s t : Severity) : s.passes t = true ↔ s.rank ≤ t.rank := by
  simp [passes]

end Severity

/-- The threshold in force until another one is set. -/
def Severity.initial : Severity := .error

end EventPackets

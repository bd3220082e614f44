import EventPackets.CommandLine.Dump
import EventPackets.CommandLine.Grammar
import EventPackets.CommandLine.Inspect
import EventPackets.CommandLine.Synth

/-!
# Invocations

What the arguments of the program ask for, and what comes of it.

## Main definitions

* `Command` : inspect a packet file, dump its events into tables, or synthesize one.
* `Invocation` : a command with the settings that all commands share.
* `Request` : what arguments ask for.
* `Request.ofArguments` : what given arguments ask for.
* `Invocation.run` : the outcome of a command.
* `run` : the outcome of the program for given arguments and files.
-/

namespace EventPackets.CommandLine

/-- What the program can do. -/
inductive Command
  /-- print the headers of the packets in a file -/
  | inspect (input : String)
  /-- export the events in a file as tables -/
  | dump (input output format : String) (imu9 : Option String) (all : Bool)
  /-- write a file of made-up packets -/
  | synth (output : String) (kind : Kind) (packets : Nat) (capacity : Int32) (source : Int16)

/-- A command with the settings that all commands share. -/
structure Invocation where
  threshold : Severity
  quiet : Bool
  command : Command

/-- What arguments ask for. -/
inductive Request
  | version
  /-- nothing that is understood -/
  | usage
  | run (i : Invocation)

/-- The options of the program. -/
inductive OptionName
  | logLevel
  | quiet
  | version
  | format
  | imu9
  | all
  | kind
  | packets
  | capacity
  | source
  deriving DecidableEq

/-- The options that all commands share; they may stand before the command too. -/
def sharedOptions : List (OptionSpec OptionName) :=
  [⟨.logLevel, "log-level", none, true⟩, ⟨.quiet, "quiet", some 'q', false⟩]

/-- The options before the command. -/
def programOptions : List (OptionSpec OptionName) :=
  ⟨.version, "version", some 'V', false⟩ :: sharedOptions

/-- The options of the dump command. -/
def dumpOptions : List (OptionSpec OptionName) :=
  [⟨.format, "format", some 'f', true⟩, ⟨.imu9, "imu9", none, true⟩,
    ⟨.all, "all", some 'a', false⟩] ++ sharedOptions

/-- The options of the synth command. -/
def synthOptions : List (OptionSpec OptionName) :=
  [⟨.kind, "kind", some 'k', true⟩, ⟨.packets, "packets", some 'p', true⟩,
    ⟨.capacity, "capacity", some 'c', true⟩, ⟨.source, "source", some 's', true⟩]
    ++ sharedOptions

/-- What the options and words of a command say, as far as they are there. -/
structure Settings where
  logLevel : Option Severity := none
  quiet : Option Unit := none
  format : Option String := none
  imu9 : Option String := none
  all : Option Unit := none
  kind : Option Kind := none
  packets : Option Nat := none
  capacity : Option Int32 := none
  source : Option Int16 := none
  words : List String := []

/-- An integer within bounds. -/
def integerIn? (low high : Int) (s : String) : Option Int :=
  (Digits.integer? s.toList).filter fun n => low ≤ n && n ≤ high

/-- A path, which cannot be empty. -/
def path? (s : String) : Option String :=
  if s = "" then none else some s

/-- The kind with a name. -/
def kindNamed? (s : String) : Option Kind :=
  if s = "polarity" then some .polarity else if s = "imu9" then some .imu9 else none

/-- Puts a value where there is none yet. -/
def once {α : Type} (old new : Option α) : Except Request (Option α) :=
  match old, new with
  | none, some v => .ok (some v)
  | _, _ => .error .usage

/-- The settings after one more item.  No option may be given twice. -/
def Settings.add (s : Settings) : Item OptionName → Except Request Settings
  | .word w => .ok { s with words := s.words ++ [w] }
  | .option name v =>
    match name with
    | .version => .error .version
    | .logLevel => do
      .ok { s with logLevel := ← once s.logLevel (Severity.parse v).toOption }
    | .quiet => do .ok { s with quiet := ← once s.quiet (some ()) }
    | .format => do .ok { s with format := ← once s.format (some v) }
    | .imu9 => do .ok { s with imu9 := ← once s.imu9 (path? v) }
    | .all => do .ok { s with all := ← once s.all (some ()) }
    | .kind => do .ok { s with kind := ← once s.kind (kindNamed? v) }
    | .packets => do
      let n := (integerIn? 0 0xFFFFFFFF v).map Int.toNat
      .ok { s with packets := ← once s.packets n }
    | .capacity => do
      let n := (integerIn? Int32.minValue.toInt Int32.maxValue.toInt v).map Int32.ofInt
      .ok { s with capacity := ← once s.capacity n }
    | .source => do
      let n := (integerIn? Int16.minValue.toInt Int16.maxValue.toInt v).map Int16.ofInt
      .ok { s with source := ← once s.source n }

/-- The settings that items say. -/
def Settings.ofItems (items : List (Item OptionName)) : Except Request Settings :=
  items.foldlM Settings.add {}

/-- The settings of a command from the arguments after its word. -/
def Settings.ofCommand (specs : List (OptionSpec OptionName)) (args : List String) :
    Except Request Settings := do
  let r := scan specs false args
  let s ← Settings.ofItems r.items
  match r.ending with
  | .finished => .ok s
  | _ => .error .usage

/-- The command with given settings.  What is not said has a default, except the paths. -/
def commandOf? (word : String) (s : Settings) : Option Command :=
  match word, s.words.mapM path? with
  | "inspect", some [input] => some (.inspect input)
  | "dump", some [input, output] =>
    some (.dump input output (s.format.getD "x,y,p,t") s.imu9 s.all.isSome)
  | "synth", some [output] =>
    some (.synth output (s.kind.getD .polarity) (s.packets.getD 16) (s.capacity.getD 4096)
      (s.source.getD 1))
  | _, _ => none

/-- The options of the command with a name. -/
def commandOptions? (word : String) : Option (List (OptionSpec OptionName)) :=
  match word with
  | "inspect" => some sharedOptions
  | "dump" => some dumpOptions
  | "synth" => some synthOptions
  | _ => none

/-- The invocation that settings before and after the command word make; the later ones count. -/
def invocationOf? (word : String) (before after : Settings) : Option Invocation :=
  (commandOf? word after).map fun c =>
    { threshold := (after.logLevel.orElse fun _ => before.logLevel).getD .initial
      quiet := before.quiet.isSome || after.quiet.isSome
      command := c }

/-- What the arguments ask for, or the request that ends their interpretation early. -/
def readArguments (args : List String) : Except Request Invocation := do
  let r := scan programOptions true args
  let before ← Settings.ofItems r.items
  match r.ending with
  | .command word rest =>
    match commandOptions? word with
    | none => .error .usage
    | some specs => do
      let after ← Settings.ofCommand specs rest
      match invocationOf? word before after with
      | some i => .ok i
      | none => .error .usage
  | _ => .error .usage

/-- What the arguments of the program ask for. -/
def Request.ofArguments (args : List String) : Request :=
  match readArguments args with
  | .ok i => .run i
  | .error r => r

/-- The name and version of the program. -/
def versionLine : String := "evpkt 0.1.0\n"

/-- The outcome of a command. -/
def Invocation.run (i : Invocation) (s : Storage) : Outcome :=
  match i.command with
  | .inspect input => inspect input s
  | .dump input output format imu9 all => dump input output format imu9 all i.quiet s
  | .synth output kind packets capacity source =>
    synth output kind packets capacity source i.threshold s

/-- The outcome of the program for given arguments and files. -/
def run (args : List String) (s : Storage) : Outcome :=
  match Request.ofArguments args with
  | .version => ⟨0, versionLine, "", s⟩
  | .usage => ⟨2, "", "error: invalid arguments\n", s⟩
  | .run i => i.run s

end EventPackets.CommandLine

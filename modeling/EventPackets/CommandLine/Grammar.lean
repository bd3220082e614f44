import EventPackets.Text.Basic

/-!
# Argument grammar

Arguments are options and words.  An option has a long name after two dashes and perhaps a
one-letter name after one dash; letters after the same dash may stand together.  The value of an
option follows an equals sign, or its letter, or is the next argument, which then must not start
with a dash.  After two dashes alone there are only words.

## Main definitions

* `OptionSpec` : an option that is understood.
* `Item` : an option with its value, or a word.
* `Scan` : arguments as items, up to the end, a command word, or something not understood.
* `scan` : the items of arguments.
-/

namespace EventPackets.CommandLine

/-- An option that is understood under names of its own. -/
structure OptionSpec (ι : Type) where
  option : ι
  long : String
  short : Option Char
  takesValue : Bool

/-- What an argument, together with the value after it, contributes. -/
inductive Item (ι : Type)
  | option (name : ι) (value : String)
  | word (w : String)

/-- Where the items end. -/
inductive ScanEnd
  /-- at the end of the arguments -/
  | finished
  /-- at a word that starts a command, with the arguments after it -/
  | command (word : String) (rest : List String)
  /-- at an argument that is not understood -/
  | broken

/-- Arguments as items. -/
structure Scan (ι : Type) where
  items : List (Item ι)
  ending : ScanEnd

/-- The outer form of an argument. -/
inductive ArgumentForm
  | separator
  | long (name : List Char) (value : Option (List Char))
  | short (letters : List Char)
  | word

/-- The part before the first equals sign, and the part after it if there is one. -/
def splitValue : List Char → List Char × Option (List Char)
  | [] => ([], none)
  | c :: cs =>
    if c = '=' then ([], some cs)
    else
      let (name, value) := splitValue cs
      (c :: name, value)

/-- The outer form of an argument.  A dash alone is a word. -/
def ArgumentForm.ofChars : List Char → ArgumentForm
  | ['-', '-'] => separator
  | '-' :: '-' :: cs =>
    let (name, value) := splitValue cs
    long name value
  | '-' :: c :: cs => short (c :: cs)
  | _ => word

/-- Whether an argument can be the value of the option before it. -/
def isValue (a : String) : Bool :=
  match ArgumentForm.ofChars a.toList with
  | .word => true
  | _ => false

/-- The items of an argument, and the option that still needs a value; nothing if the argument
is not understood. -/
structure Piece (ι : Type) where
  items : List (Item ι)
  awaiting : Option ι
  understood : Bool

variable {ι : Type}

/-- The items of letters that stand together after a dash. -/
def scanLetters (specs : List (OptionSpec ι)) : List Char → Piece ι
  | [] => ⟨[], none, true⟩
  | c :: cs =>
    match specs.find? fun s => s.short == some c with
    | none => ⟨[], none, false⟩
    | some s =>
      if s.takesValue then
        match cs with
        | [] => ⟨[], some s.option, true⟩
        | '=' :: v => ⟨[.option s.option (String.ofList v)], none, true⟩
        | v => ⟨[.option s.option (String.ofList v)], none, true⟩
      else
        let rest := scanLetters specs cs
        { rest with items := .option s.option "" :: rest.items }

/-- The items of a long option. -/
def scanLong (specs : List (OptionSpec ι)) (name : List Char) (value : Option (List Char)) :
    Piece ι :=
  match specs.find? fun s => s.long == String.ofList name with
  | none => ⟨[], none, false⟩
  | some s =>
    match s.takesValue, value with
    | true, some v => ⟨[.option s.option (String.ofList v)], none, true⟩
    | true, none => ⟨[], some s.option, true⟩
    | false, none => ⟨[.option s.option ""], none, true⟩
    | false, some _ => ⟨[], none, false⟩

/-- Puts items before those of a scan. -/
def Scan.after (items : List (Item ι)) (s : Scan ι) : Scan ι :=
  { s with items := items ++ s.items }

/-- The items of arguments after an option that may still need a value.  If `commands` is set,
the first word starts a command. -/
def scanFrom (specs : List (OptionSpec ι)) (commands : Bool) :
    Option ι → List String → Scan ι
  | some _, [] => ⟨[], .broken⟩
  | none, [] => ⟨[], .finished⟩
  | some name, a :: as =>
    if isValue a then (scanFrom specs commands none as).after [.option name a]
    else ⟨[], .broken⟩
  | none, a :: as =>
    let continue_ (p : Piece ι) : Scan ι :=
      if p.understood then (scanFrom specs commands p.awaiting as).after p.items
      else ⟨p.items, .broken⟩
    match ArgumentForm.ofChars a.toList with
    | .separator => if commands then ⟨[], .broken⟩ else ⟨as.map .word, .finished⟩
    | .long name value => continue_ (scanLong specs name value)
    | .short letters => continue_ (scanLetters specs letters)
    | .word =>
      if commands then ⟨[], .command a as⟩
      else (scanFrom specs commands none as).after [.word a]

/-- The items of arguments. -/
def scan (specs : List (OptionSpec ι)) (commands : Bool) (args : List String) : Scan ι :=
  scanFrom specs commands none args

end EventPackets.CommandLine

import PcmLink.Text.Numeral

/-!
# Command lines

Options are given by a long name after two dashes or by a letter after one, where letters may
share their dash. An option takes one value or none. A value is attached, after an equals sign or
directly after a letter, or is the next argument, which then does not begin with a dash unless it is
the dash alone. Arguments are read from left to right, and the first one that is refused, or that
asks for help or for the version, decides. An option may be given once unless it is counted; there
are no other arguments.
-/

namespace PcmLink

namespace CommandLine

/-- What an option does. -/
inductive Action (σ : Type) where
  /-- It takes a value, which it may refuse, and stores it. -/
  | value (store : String → σ → Option σ)
  /-- It takes no value. -/
  | switch (store : σ → σ)
  /-- It takes no value and may be repeated. -/
  | repeated
  /-- It asks for the version. -/
  | version
  /-- It asks for help. -/
  | help

/-- An option. -/
structure Rule (σ : Type) where
  /-- The name after two dashes. -/
  long : String
  /-- The letter after one dash, if it has one. -/
  short : Option Char := none
  /-- What it does. -/
  action : Action σ

/-- What reading a command line comes to. -/
inductive Reading (σ : Type) where
  /-- It is refused. -/
  | refused
  /-- It asks for the version. -/
  | version
  /-- It asks for help. -/
  | help
  /-- What its options say. -/
  | read (arguments : σ)

/-- What was read so far. -/
structure Progress (σ : Type) where
  /-- What the options say. -/
  arguments : σ
  /-- The long names of the options given that may not be repeated. -/
  given : List String := []

variable {σ : Type}

/-- Note that an option was given; it may be given once. -/
def Progress.note? (progress : Progress σ) (rule : Rule σ) : Option (Progress σ) :=
  if progress.given.contains rule.long then none
  else some { progress with given := rule.long :: progress.given }

/-- Store the value of an option. -/
def Progress.store? (progress : Progress σ) (rule : Rule σ) (store : String → σ → Option σ)
    (value : String) : Option (Progress σ) := do
  let progress ← progress.note? rule
  let arguments ← store value progress.arguments
  some { progress with arguments }

/-- What an argument comes to. -/
inductive Step (σ : Type) where
  /-- It is refused. -/
  | refused
  /-- It asks for the version. -/
  | version
  /-- It asks for help. -/
  | help
  /-- It is complete. -/
  | done (progress : Progress σ)
  /-- The next argument is the value of its last option. -/
  | wants (progress : Progress σ) (rule : Rule σ) (store : String → σ → Option σ)

/-- Go on if there is something to go on with. -/
def Step.ofOption : Option (Progress σ) → Step σ
  | some progress => .done progress
  | none => .refused

/-- Take an option with the value attached to it, if there is one. -/
def takeLong (progress : Progress σ) (rule : Rule σ) (attached : Option String) : Step σ :=
  match rule.action, attached with
  | .value store, some value => .ofOption (progress.store? rule store value)
  | .value store, none => .wants progress rule store
  | _, some _ => .refused
  | .switch store, none =>
    .ofOption ((progress.note? rule).map fun progress =>
      { progress with arguments := store progress.arguments })
  | .repeated, none => .done progress
  | .version, none => .version
  | .help, none => .help

/-- Take letters that share a dash. What follows the letter of an option with a value is its
value. -/
def takeShort (rules : List (Rule σ)) (progress : Progress σ) : List Char → Step σ
  | [] => .done progress
  | letter :: rest =>
    match rules.find? (·.short == some letter) with
    | none => .refused
    | some rule =>
      match rule.action with
      | .value store =>
        match rest with
        | [] => .wants progress rule store
        | '=' :: value => .ofOption (progress.store? rule store (String.ofList value))
        | value => .ofOption (progress.store? rule store (String.ofList value))
      | _ =>
        match takeLong progress rule none with
        | .done progress => takeShort rules progress rest
        | step => step

/-- The name and the attached value of an argument after its two dashes. -/
def nameAndValue (text : List Char) : String × Option String :=
  let name := text.takeWhile (· != '=')
  match text.drop name.length with
  | [] => (String.ofList name, none)
  | _ :: value => (String.ofList name, some (String.ofList value))

/-- Take one argument. -/
def take (rules : List (Rule σ)) (progress : Progress σ) (argument : String) : Step σ :=
  match argument.toList with
  | '-' :: '-' :: text =>
    let (name, attached) := nameAndValue text
    match rules.find? (·.long == name) with
    | none => .refused
    | some rule => takeLong progress rule attached
  | '-' :: letter :: letters => takeShort rules progress (letter :: letters)
  | _ => .refused

/-- An argument can be the value of the option before it. -/
def isValue (argument : String) : Bool :=
  match argument.toList with
  | '-' :: _ :: _ => false
  | _ => true

/-- Read arguments after those that were read. -/
def readFrom (rules : List (Rule σ)) (progress : Progress σ) : List String → Step σ
  | [] => .done progress
  | ["--"] => .done progress
  | argument :: rest =>
    match take rules progress argument with
    | .done progress => readFrom rules progress rest
    | .wants progress rule store =>
      match rest with
      | [] => .refused
      | value :: rest =>
        if isValue value then
          match progress.store? rule store value with
          | some progress => readFrom rules progress rest
          | none => .refused
        else .refused
    | step => step

/-- Read a command line. Of two options in conflict only one can be given. -/
def read (rules : List (Rule σ)) (conflicts : List (String × String)) (start : σ)
    (arguments : List String) : Reading σ :=
  match readFrom rules { arguments := start } arguments with
  | .refused | .wants .. => .refused
  | .version => .version
  | .help => .help
  | .done progress =>
    let clashes := conflicts.any fun (one, other) =>
      progress.given.contains one && progress.given.contains other
    if clashes then .refused else .read progress.arguments

/-- An option as help shows it. -/
def Rule.text (rule : Rule σ) : String :=
  let letter := (rule.short.map fun letter => s!"-{letter}, ").getD "    "
  let value :=
    match rule.action with
    | .value _ => " <VALUE>"
    | _ => ""
  s!"  {letter}--{rule.long}{value}"

/-- How a program is called, in lines. -/
def usage (program : String) (rules : List (Rule σ)) : List String :=
  [s!"Usage: {program} [OPTIONS]", "", "Options:"] ++ rules.map Rule.text

/-- The options that every program has. -/
def common : List (Rule σ) :=
  [{ long := "verbose", short := some 'v', action := .repeated },
    { long := "help", short := some 'h', action := .help },
    { long := "version", short := some 'V', action := .version }]

/-- Store any value. -/
def anyText (store : σ → String → σ) : Action σ :=
  .value fun text arguments => some (store arguments text)

/-- Store a value that is not empty. -/
def path (store : σ → String → σ) : Action σ :=
  .value fun text arguments => if text.isEmpty then none else some (store arguments text)

/-- Store what a value reads as. -/
def parsed {ε α : Type} (parse : String → Except ε α) (store : σ → α → σ) : Action σ :=
  .value fun text arguments => (parse text).toOption.map (store arguments)

/-- Store a machine word. -/
def word (store : σ → Nat → σ) : Action σ :=
  parsed (fun text => Text.readNumeral 10 (UInt64.size - 1) text.toList) store

/-- A number of thirty-two bits. It is read with a sign, so a minus may stand before zero. -/
def readShortWord (text : String) : Except Text.NumeralError Nat :=
  match text.toList with
  | '-' :: digit :: digits => Text.readDigits 10 0 0 (digit :: digits)
  | text => Text.readNumeral 10 (UInt32.size - 1) text

/-- Store a number of thirty-two bits. -/
def shortWord (store : σ → Nat → σ) : Action σ := parsed readShortWord store

end CommandLine

end PcmLink

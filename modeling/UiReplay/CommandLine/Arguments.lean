import UiReplay.CommandLine.Option
import UiReplay.Device.Client
import UiReplay.Replay.Engine

/-!
# The arguments of the program

The program has six commands, each with options of its own (`Command.readers`).  Three
options are shared: where the device is, how long it may take, and where the log goes.
They may stand before the command and after it.  The one after it counts.

A shared option that is not given is taken from the environment, and failing that it
has its default.  The environment is looked at wherever the option could stand, so a
bad value in it is an error unless the option is given both before and after the
command.
-/

namespace UiReplay

/-! ## Values -/

namespace OptionValue

/-- Any text. -/
def text (s : String) : Except Usage String := .ok s

/-- A path, which is never empty. -/
def path (s : String) : Except Usage String :=
  if s = "" then .error .missingValue else .ok s

/-- A natural number of 64 bits. -/
def word64 (s : String) : Except Usage Nat :=
  match Number.readNat? s.toList with
  | some n => if n < Number.wordLimit64 then .ok n else .error .badValue
  | none => .error .badValue

/-- A natural number of 32 bits.  A zero may have a minus sign. -/
def word32 (s : String) : Except Usage Nat :=
  match Number.readInt? s.toList with
  | some (.ofNat n) => if n < Number.wordLimit32 then .ok n else .error .badValue
  | _ => .error .badValue

/-- A button of the system. -/
def button (s : String) : Except Usage SystemButton :=
  match SystemButton.ofName? s with
  | some button => .ok button
  | none => .error .badValue

end OptionValue

/-- Reads a text and puts its value in place. -/
def TakesText.of {α β : Type} (read : String → Except Usage β) (set : β → α → α) : TakesText α :=
  fun s a => (read s).map fun b => set b a

/-! ## Shared options -/

/-- The options that are shared, as far as they are given. -/
structure SharedOptions where
  /-- The address of the device. -/
  deviceUrl : Option String := none
  /-- How many seconds a request may take. -/
  timeout : Option Nat := none
  /-- The folder of the log. -/
  logDir : Option String := none
deriving DecidableEq, Repr

/-- What the environment says of the shared options. -/
structure Environment where
  /-- The address of the device. -/
  deviceUrl : Option String := none
  /-- How many seconds a request may take. -/
  timeout : Option String := none
  /-- The folder of the log. -/
  logDir : Option String := none
deriving DecidableEq, Repr

/-- The environment with given variables. -/
def Environment.ofVariables (get : String → Option String) : Environment where
  deviceUrl := get "RETRACE_DEVICE_URL"
  timeout := get "RETRACE_TIMEOUT"
  logDir := get "RETRACE_LOG_DIR"

namespace SharedOptions

/-- An option, or else what the environment says of it. -/
def fillOne {α : Type} (read : String → Except Usage α) :
    Option α → Option String → Except Usage (Option α)
  | some a, _ => .ok (some a)
  | none, some text => (read text).map some
  | none, none => .ok none

/-- The options, and what the environment says of those that are not given. -/
def fill (s : SharedOptions) (env : Environment) : Except Usage SharedOptions := do
  let deviceUrl ← fillOne OptionValue.text s.deviceUrl env.deviceUrl
  let timeout ← fillOne OptionValue.word64 s.timeout env.timeout
  let logDir ← fillOne OptionValue.path s.logDir env.logDir
  return ⟨deviceUrl, timeout, logDir⟩

/-- The options, and those of another place that are not given here. -/
def orElse (s t : SharedOptions) : SharedOptions where
  deviceUrl := s.deviceUrl <|> t.deviceUrl
  timeout := s.timeout <|> t.timeout
  logDir := s.logDir <|> t.logDir

end SharedOptions

/-- What is read in one place: the shared options and others. -/
structure Level (α : Type) where
  /-- The shared options. -/
  shared : SharedOptions := {}
  /-- The others. -/
  own : α

namespace Level

variable {α : Type}

/-- An option that sets a shared option. -/
def sharedRule {β : Type} (name : String) (read : String → Except Usage β)
    (set : β → SharedOptions → SharedOptions) : OptionRule (Level α) where
  name := name
  effect := .value (TakesText.of read fun b l => { l with shared := set b l.shared })

/-- The option that asks for the help. -/
def helpRule : OptionRule (Level α) := ⟨"help", some 'h', .stop .help⟩

/-- The options that may stand in every place. -/
def sharedRules : List (OptionRule (Level α)) := [
  sharedRule "device-url" OptionValue.text fun v s => { s with deviceUrl := some v },
  sharedRule "timeout" OptionValue.word64 fun v s => { s with timeout := some v },
  sharedRule "log-dir" OptionValue.path fun v s => { s with logDir := some v },
  helpRule]

/-- An option of one command, which takes a value. -/
def ownRule {β : Type} (name : String) (letter : Option Char) (read : String → Except Usage β)
    (set : β → α → α) : OptionRule (Level α) where
  name := name
  letter := letter
  effect := .value (TakesText.of read fun b l => { l with own := set b l.own })

/-- An option of one command, which takes no value. -/
def ownSwitch (name : String) (set : α → α) : OptionRule (Level α) where
  name := name
  effect := .switch fun l => { l with own := set l.own }

/-- The operand of one command. -/
def ownOperand {β : Type} (read : String → Except Usage β) (set : β → α → α) :
    TakesText (Level α) :=
  TakesText.of read fun b l => { l with own := set b l.own }

end Level

/-! ## Commands -/

/-- What the program is to do. -/
inductive Command where
  /-- Ask whether the device answers. -/
  | ping
  /-- Show the tree of the device. -/
  | dump
  /-- Press a button of the system. -/
  | press (button : SystemButton)
  /-- Show the selectors of an element in a file. -/
  | selectors (path : String)
  /-- Replay the workflow in a file. -/
  | replay (path : String) (config : ReplayConfig)
  /-- Record a workflow into a file, by asking for events after every interval. -/
  | record (path : String) (name : Option String) (interval : Nat)
deriving DecidableEq, Repr

/-- The arguments of `replay`, as far as they are given. -/
structure ReplayArguments where
  /-- The file. -/
  path : Option String := none
  /-- How to replay. -/
  config : ReplayConfig := {}

/-- The arguments of `record`, as far as they are given. -/
structure RecordArguments where
  /-- The file. -/
  path : Option String := none
  /-- The name of the workflow. -/
  name : Option String := none
  /-- The time between two looks for events. -/
  interval : Nat := 500

namespace Command

/-- A command as read, with the shared options after it. -/
abbrev Reader := Environment → List String → Except Usage (Command × SharedOptions)

/-- What may stand after a command. -/
def commandGrammar {α : Type} (options : List (OptionRule (Level α)))
    (operand : Option (TakesText (Level α))) : Grammar (Level α) where
  options := options ++ Level.sharedRules
  operand := operand

/-- A command with options and perhaps an operand.  The command is made once all is
read, if nothing is missing. -/
def reader {α : Type} (start : α) (options : List (OptionRule (Level α)))
    (operand : Option (TakesText (Level α))) (make : α → Option Command) : Reader :=
  fun env words => do
    let reached ← (commandGrammar options operand).read false { value := ⟨{}, start⟩ } words
    let level := (← reached.reading.settle).value
    let _ ← level.shared.fill env
    match make level.own with
    | some command => return (command, level.shared)
    | none => throw .missing

/-- A command without arguments. -/
def plainReader (command : Command) : Reader := reader () [] none fun _ => some command

/-- A command with one operand. -/
def operandReader {β : Type} (read : String → Except Usage β) (make : β → Command) : Reader :=
  reader (none : Option β) [] (some (Level.ownOperand read fun b _ => some b)) fun b => b.map make

/-- The command that replays. -/
def replayReader : Reader :=
  reader ({} : ReplayArguments)
    [Level.ownSwitch "continue-on-error" fun a =>
        { a with config := { a.config with stopOnError := false } },
      Level.ownRule "max-attempts" none OptionValue.word32 fun n a =>
        { a with config := { a.config with maxAttempts := n } },
      Level.ownRule "retry-delay-ms" none OptionValue.word64 fun n a =>
        { a with config := { a.config with retryDelay := n } },
      Level.ownRule "step-delay-ms" none OptionValue.word64 fun n a =>
        { a with config := { a.config with stepDelay := n } }]
    (some (Level.ownOperand OptionValue.path fun path a => { a with path := some path }))
    fun a => a.path.map fun path => .replay path a.config

/-- The command that records. -/
def recordReader : Reader :=
  reader ({} : RecordArguments)
    [Level.ownRule "out" (some 'o') OptionValue.path fun path a => { a with path := some path },
      Level.ownRule "name" (some 'n') OptionValue.text fun name a => { a with name := some name },
      Level.ownRule "poll-ms" none OptionValue.word64 fun n a => { a with interval := n }]
    none
    fun a => a.path.map fun path => .record path a.name a.interval

/-- The commands by their names. -/
def readers : List (String × Reader) := [
  ("ping", plainReader .ping),
  ("dump", plainReader .dump),
  ("global", operandReader OptionValue.button .press),
  ("selectors", operandReader OptionValue.path .selectors),
  ("replay", replayReader),
  ("record", recordReader)]

/-- The name of the command that shows the help. -/
def helpName : String := "help"

/-- The words that name a command. -/
def names : List String := readers.map Prod.fst ++ [helpName]

/-- How the help command stops: it takes at most the name of one command. -/
def helpStop : List String → Usage
  | [] => .help
  | [name] => if names.contains name then .help else .unknownCommand
  | _ => .unknownCommand

end Command

/-! ## Invocations -/

/-- How many seconds a request may take when nothing else is said. -/
def Invocation.defaultTimeout : Nat := 10

/-- What the program is called for. -/
structure Invocation where
  /-- The command. -/
  command : Command
  /-- The address of the device. -/
  deviceUrl : String := Client.defaultAddress
  /-- How many seconds a request may take. -/
  timeout : Nat := Invocation.defaultTimeout
  /-- The folder of the log, if it is not the default. -/
  logDir : Option String := none
deriving DecidableEq, Repr

namespace Invocation

/-- The folder of the log. -/
def logFolder (i : Invocation) : String := i.logDir.getD "logs"

/-- What may stand before the command. -/
def grammar : Grammar (Level Unit) where
  options := ⟨"version", some 'V', .stop .version⟩ :: Level.sharedRules
  commands := Command.names

/-- A command with shared options. -/
def assemble (command : Command) (s : SharedOptions) : Invocation where
  command := command
  deviceUrl := s.deviceUrl.getD Client.defaultAddress
  timeout := s.timeout.getD defaultTimeout
  logDir := s.logDir

/-- What words call the program for. -/
def ofWords (env : Environment) (words : List String) : Except Usage Invocation := do
  let top ← grammar.read false { value := ⟨{}, ()⟩ } words
  match top.command with
  | none =>
      let shared ← (← top.reading.settle).value.shared.fill env
      throw (if shared = {} then .nothing else .noCommand)
  | some (name, rest) =>
      match Command.readers.lookup name with
      | none => throw (Command.helpStop rest)
      | some read =>
          let (command, after) ← read env rest
          let before := (← top.reading.settle).value.shared
          let _ ← before.fill env
          return assemble command (← (after.orElse before).fill env)

/-! ## Tests -/

/-- Why reading stops, if it does. -/
def stop? : Except Usage Invocation → Option Usage
  | .error why => some why
  | .ok _ => none

example : (ofWords {} ["--timeout", "3", "global", "HOME"]).toOption
    = some { command := .press .home, timeout := 3 } := by decide +kernel
example : (ofWords {} ["record", "-oa.json", "--poll-ms=5"]).toOption
    = some { command := .record "a.json" none 5 } := by decide +kernel
example : stop? (ofWords {} ["replay", "w.json", "--timeout", "-1"]) = some .unknownWord := by
  decide +kernel
example : stop? (ofWords { timeout := some "x" } ["ping", "--timeout", "3"]) = some .badValue := by
  decide +kernel

end Invocation

end UiReplay

import VcpuPinning.Text.Lines
import VcpuPinning.Text.Numeral

/-!
# Arguments

The arguments of the command line: a command, and options before or after it. An option may be
given once on either side of the command; the one after it counts. Arguments are judged from left
to right, and the first that is wrong or asks for help settles the matter.
-/

namespace VcpuPinning.CommandLine

/-- The commands. -/
inductive Verb where
  | conductor
  | agent
  | compile
  deriving DecidableEq, Repr

/-- What is asked for. -/
inductive Command where
  | conductor
  | agent
  | compile (spec : String) (cpus : Nat)
  deriving DecidableEq, Repr

/-- A command and the settings file to use. -/
structure Invocation where
  config : Option String
  command : Command
  deriving DecidableEq, Repr

/-- What there is help with. -/
inductive Topic where
  | program
  | command (verb : Verb)
  /-- Help itself. -/
  | help
  deriving DecidableEq, Repr

/-- Why arguments lead to no command. -/
inductive Refusal where
  /-- They are wrong. -/
  | usage
  /-- They ask for help. -/
  | help (topic : Topic)
  deriving DecidableEq, Repr

/-- What help is about before or after a command. -/
def Topic.ofVerb : Option Verb → Topic
  | none => .program
  | some verb => .command verb

/-- The word for a command. -/
def Verb.word : Verb → String
  | .conductor => "conductor"
  | .agent => "agent"
  | .compile => "compile"

/-- The command with a word. -/
def Verb.ofWord? (w : String) : Option Verb :=
  [Verb.conductor, .agent, .compile].find? (·.word = w)

/-- The options. -/
inductive OptionName where
  | config
  | logFormat
  | cpus
  deriving DecidableEq, Repr

/-- An argument. -/
inductive Argument where
  /-- An option, with its value if the argument holds it. -/
  | option (name : String) (value : Option String)
  /-- Two hyphens, after which nothing is an option. -/
  | separator
  | plain (text : String)
  deriving DecidableEq, Repr

/-- An argument by its form: `--name`, `--name=value`, `-n`, `-nvalue`, `-n=value`, or a plain
one. A single hyphen is plain. -/
def Argument.read (text : String) : Argument :=
  match text.toList with
  | ['-', '-'] => .separator
  | '-' :: '-' :: cs =>
    match Text.cut (· == '=') cs with
    | some (name, value) =>
      .option (String.ofList ('-' :: '-' :: name)) (some (String.ofList value))
    | none => .option text none
  | '-' :: c :: cs =>
    .option (String.ofList ['-', c]) <|
      match cs with
      | [] => none
      | '=' :: value => some (String.ofList value)
      | value => some (String.ofList value)
  | _ => .plain text

/-- What has been given on one side of the command. -/
structure Given where
  config : Option String := none
  logFormat : Option String := none
  cpus : Option Nat := none
  spec : Option String := none
  deriving DecidableEq, Repr

/-- The option with a name. The number of CPUs belongs to one command only. -/
def optionNamed? (verb : Option Verb) (name : String) : Option OptionName :=
  if name = "--config" ∨ name = "-c" then some .config
  else if name = "--log-format" then some .logFormat
  else if name = "--cpus" ∧ verb = some .compile then some .cpus
  else none

/-- Take the value of an option. No option is given twice, and the settings file has a name. -/
def Given.take? (g : Given) (name : OptionName) (value : String) : Option Given :=
  match name with
  | .config =>
    if g.config.isSome ∨ value = "" then none else some { g with config := some value }
  | .logFormat =>
    if g.logFormat.isSome ∨ (value ≠ "text" ∧ value ≠ "json") then none
    else some { g with logFormat := some value }
  | .cpus =>
    if g.cpus.isSome then none
    else
      (Text.Numeral.unsigned Text.Numeral.max64 value.toList).map fun n =>
        { g with cpus := some n }

/-- Take a plain argument after a command. Only one command has any, and only one. -/
def Given.takePlain? (g : Given) (verb : Verb) (text : String) : Option Given :=
  if verb = .compile ∧ g.spec.isNone then some { g with spec := some text } else none

/-- Take an option, whose value may be the next argument. -/
def takeOption (verb : Option Verb) (g : Given) (name : String) (value : Option String)
    (rest : List String) : Except Refusal (Given × List String) :=
  match optionNamed? verb name with
  | none =>
    .error <| if name = "--help" ∧ value.isNone ∨ name = "-h" then .help (.ofVerb verb) else .usage
  | some option =>
    match value, rest with
    | some value, _ =>
      match g.take? option value with
      | some g => .ok (g, rest)
      | none => .error .usage
    | none, next :: rest =>
      match Argument.read next with
      | .plain value =>
        match g.take? option value with
        | some g => .ok (g, rest)
        | none => .error .usage
      | _ => .error .usage
    | none, [] => .error .usage

theorem length_of_takeOption {verb : Option Verb} {g g' : Given} {name : String}
    {value : Option String} {rest rest' : List String}
    (h : takeOption verb g name value rest = .ok (g', rest')) : rest'.length ≤ rest.length := by
  simp only [takeOption] at h
  split at h
  · exact absurd h (by simp)
  · split at h
    · split at h
      · simp only [Except.ok.injEq, Prod.mk.injEq] at h
        exact Nat.le_of_eq (congrArg List.length h.2.symm)
      · exact absurd h (by simp)
    · split at h
      · split at h
        · simp only [Except.ok.injEq, Prod.mk.injEq] at h
          rw [← h.2]
          exact Nat.le_succ _
        · exact absurd h (by simp)
      · exact absurd h (by simp)
    · exact absurd h (by simp)

/-- Plain arguments only. -/
def readPlain (verb : Verb) (g : Given) : List String → Except Refusal Given
  | [] => .ok g
  | text :: rest =>
    match g.takePlain? verb text with
    | some g => readPlain verb g rest
    | none => .error .usage

/-- The arguments after a command. -/
def readAfter (verb : Verb) (g : Given) (args : List String) : Except Refusal Given :=
  match args with
  | [] => .ok g
  | text :: rest =>
    match Argument.read text with
    | .separator => readPlain verb g rest
    | .plain text =>
      match g.takePlain? verb text with
      | some g => readAfter verb g rest
      | none => .error .usage
    | .option name value =>
      match h : takeOption (some verb) g name value rest with
      | .error e => .error e
      | .ok (g, rest') =>
        have := length_of_takeOption h
        readAfter verb g rest'
termination_by args.length
decreasing_by
  · exact Nat.lt_succ_self _
  · exact Nat.lt_succ_of_le this

/-- The command that a verb and what was given for it amount to. -/
def commandOf? (g : Given) : Verb → Option Command
  | .conductor => some .conductor
  | .agent => some .agent
  | .compile => do return .compile (← g.spec) (← g.cpus)

/-- A request for help with a command, with help itself, or in general. -/
def readHelp : List String → Refusal
  | [] => .help .program
  | [text] =>
    match Verb.ofWord? text with
    | some verb => .help (.command verb)
    | none => if text = "help" then .help .help else .usage
  | _ => .usage

/-- The arguments up to the command and after it. -/
def readBefore (g : Given) (args : List String) : Except Refusal Invocation :=
  match args with
  | [] => .error .usage
  | text :: rest =>
    match Argument.read text with
    | .separator => .error .usage
    | .plain text =>
      match Verb.ofWord? text with
      | none => .error (if text = "help" then readHelp rest else .usage)
      | some verb =>
        match readAfter verb {} rest with
        | .error e => .error e
        | .ok after =>
          match commandOf? after verb with
          | none => .error .usage
          | some command => .ok ⟨after.config <|> g.config, command⟩
    | .option name value =>
      match h : takeOption none g name value rest with
      | .error e => .error e
      | .ok (g, rest') =>
        have := length_of_takeOption h
        readBefore g rest'
termination_by args.length
decreasing_by
  exact Nat.lt_succ_of_le this

/-- What arguments ask for. -/
def read (args : List String) : Except Refusal Invocation :=
  readBefore {} args

end VcpuPinning.CommandLine

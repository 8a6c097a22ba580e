import ClusterHarness.Settings

/-!
# Command lines

A program has commands in groups, and commands have options, which take a value each and may get it
from a variable of the environment.  A command is named by any beginning of its name that no other
command of its group has.  Everywhere the verbosity can be raised and lowered and help be asked for.
-/

namespace ClusterHarness

inductive ValueKind where
  | text
  | truth
  | path
  deriving DecidableEq, Repr

def ValueKind.accepts : ValueKind → String → Bool
  | .text, _ => true
  | .truth, value => value = "true" ∨ value = "false"
  | .path, value => value ≠ ""

/-- An option with a value.  A required option has no standard value. -/
structure OptionSpec where
  name : String
  /-- The variable of the environment that gives the value instead. -/
  fromVariable : Option String := none
  standard : Option String := none
  kind : ValueKind := .text
  required : Bool := false
  deriving DecidableEq, Repr

abbrev Values := List (String × String)

def Values.get? (values : Values) (name : String) : Option String :=
  (values.find? (·.1 == name)).map (·.2)

def Values.get (values : Values) (name : String) : String := (values.get? name).getD ""

/-- The commands of a program: single ones with options, of whose values something is made, and
groups. -/
inductive Grammar (α : Type) where
  | command (name : String) (options : List OptionSpec) (make : Values → α)
  | group (name : String) (parts : List (Grammar α))

/-- Why a command line names no task: because something else is asked for, or by a fault. -/
inductive Usage where
  | help
  | version
  /-- A group stands alone. -/
  | nothingGiven
  | noCommand
  | unknownCommand (word : String)
  | unknownArgument (word : String)
  | missing (option : String)
  | badValue (option : String)
  | conflict (option : String)
  | surplusValue (option : String)
  deriving DecidableEq, Repr

namespace Usage

/-- Asking for help or the version is no fault. -/
def exitCode : Usage → Nat
  | .help | .version => 0
  | _ => 2

def message : Usage → String
  | .help | .nothingGiven => "Usage: name a command of the group, and its options"
  | .version => ""
  | .noCommand => "error: a command is required"
  | .unknownCommand word => "error: unrecognized command " ++ word
  | .unknownArgument word => "error: unexpected argument " ++ word
  | .missing option => "error: --" ++ option ++ " is required"
  | .badValue option => "error: --" ++ option ++ " has no value that it takes"
  | .conflict option => "error: --" ++ option ++ " cannot be used here"
  | .surplusValue option => "error: --" ++ option ++ " takes no value"

end Usage

/-- A task, with how often the verbosity is raised and lowered. -/
structure Invocation (α : Type) where
  task : α
  raised : Nat
  lowered : Nat
  deriving DecidableEq, Repr

namespace Grammar

variable {α : Type}

def name : Grammar α → String
  | command name _ _ => name
  | group name _ => name

def options : Grammar α → List OptionSpec
  | command _ options _ => options
  | group _ _ => []

def parts : Grammar α → List (Grammar α)
  | command _ _ _ => []
  | group _ parts => parts

/-- The command that a word names: the only one whose name begins so, or the one of this name. -/
def named? (commands : List (Grammar α)) (word : String) : Option (Grammar α) :=
  match commands.filter (·.name.startsWith word) with
  | [one] => some one
  | _ => commands.find? (·.name == word)

end Grammar

/-! ## Words -/

/-- What a word of a command line looks like. -/
inductive Word where
  /-- What comes after it is no option. -/
  | escape
  | long (name : String) (value : Option String)
  | short (letters : List Char)
  | plain
  deriving DecidableEq, Repr

/-- The name and the value of a long option, which an equals sign parts. -/
def Word.ofLong (text : List Char) : Word :=
  .long (String.ofList (text.takeWhile (· ≠ '=')))
    ((text.dropWhile (· ≠ '=')).tail?.map String.ofList)

def Word.of (text : String) : Word :=
  match text.toList with
  | ['-', '-'] => .escape
  | '-' :: '-' :: rest => .ofLong rest
  | ['-'] => .plain
  | '-' :: letters => .short letters
  | _ => .plain

/-! ## Reading one level -/

/-- What is read of a command's own words so far.  The latest option waits for its value, or with it
for what comes next, as a fault of the next word comes first. -/
structure Reading where
  values : Values := []
  latest : Option (OptionSpec × Option String) := none
  raised : Nat := 0
  lowered : Nat := 0
  deriving DecidableEq, Repr

namespace Reading

/-- Whether the next word can only be a value. -/
def waits (reading : Reading) : Bool :=
  match reading.latest with
  | some (_, none) => true
  | _ => false

/-- Takes the value of an option, which has none yet. -/
def put (reading : Reading) (option : OptionSpec) (value : String) : Except Usage Reading :=
  if (reading.values.get? option.name).isSome then .error (.conflict option.name)
  else if option.kind.accepts value then
    .ok { reading with values := reading.values ++ [(option.name, value)] }
  else .error (.badValue option.name)

def settle (reading : Reading) : Except Usage Reading :=
  match reading.latest with
  | none => .ok reading
  | some (option, none) => .error (.badValue option.name)
  | some (option, some value) => { reading with latest := none }.put option value

/-- The options that are none of a command's own; the version is told at the top only. -/
def common (reading : Reading) (isTop : Bool) (name : String) :
    Option (Except Usage Reading) :=
  let flag (then_ : Reading → Except Usage Reading) : Option (Except Usage Reading) :=
    some (reading.settle.bind then_)
  match name with
  | "help" => flag fun _ => .error .help
  | "version" => if isTop then flag fun _ => .error .version else none
  | "verbose" => flag fun r => .ok { r with raised := r.raised + 1 }
  | "quiet" => flag fun r => .ok { r with lowered := r.lowered + 1 }
  | _ => none

/-- The names that letters stand for. -/
def letterName : Char → String
  | 'h' => "help"
  | 'V' => "version"
  | 'v' => "verbose"
  | 'q' => "quiet"
  | _ => ""

def takeLetters (reading : Reading) (isTop : Bool) : List Char → Except Usage Reading
  | [] => .ok reading
  | c :: rest =>
    match reading.common isTop (letterName c) with
    | some result => result.bind (·.takeLetters isTop rest)
    | none => .error (.unknownArgument ("-" ++ String.singleton c))

def takeLong (reading : Reading) (options : List OptionSpec) (isTop : Bool) (name : String)
    (value : Option String) : Except Usage Reading :=
  match options.find? (·.name == name), value with
  | some option, some value => reading.settle.bind (·.put option value)
  | some option, none =>
    reading.settle.map fun reading => { reading with latest := some (option, none) }
  | none, value =>
    match reading.common isTop name, value with
    | none, _ => .error (.unknownArgument ("--" ++ name))
    | some _, some _ => .error (.surplusValue name)
    | some result, none => result

end Reading

/-- The fault of a word that is neither an option, nor its value, nor a command. -/
def unexpected {α : Type} (commands : List (Grammar α)) (word : String) (escaped : Bool) : Usage :=
  if commands.isEmpty || escaped && (Grammar.named? commands word).isSome then .unknownArgument word
  else .unknownCommand word

/-- Reads the words of one level, up to the command of the next with the words after it. -/
def readLevel {α : Type} (options : List OptionSpec) (commands : List (Grammar α)) (isTop : Bool) :
    Reading → List String → Except Usage (Reading × Option (Grammar α × List String))
  | reading, [] => .ok (reading, none)
  | reading, word :: rest =>
    match if reading.waits then none else Grammar.named? commands word with
    | some command => .ok (reading, some (command, rest))
    | none =>
      match Word.of word with
      | .escape =>
        match rest with
        | [] => .ok (reading, none)
        | extra :: _ => .error (unexpected commands extra true)
      | .long name value =>
        match reading.takeLong options isTop name value with
        | .ok reading => readLevel options commands isTop reading rest
        | .error usage => .error usage
      | .short letters =>
        match reading.takeLetters isTop letters with
        | .ok reading => readLevel options commands isTop reading rest
        | .error usage => .error usage
      | .plain =>
        match reading.latest with
        | some (option, none) =>
          readLevel options commands isTop { reading with latest := some (option, some word) } rest
        | _ => .error (unexpected commands word false)

theorem readLevel_rest_lt {α : Type} {options : List OptionSpec} {commands : List (Grammar α)}
    {isTop : Bool} {reading after : Reading} {words rest : List String} {command : Grammar α}
    (h : readLevel options commands isTop reading words = .ok (after, some (command, rest))) :
    rest.length < words.length := by
  induction words generalizing reading with
  | nil => simp [readLevel] at h
  | cons word words ih =>
    have step {reading : Reading} : readLevel options commands isTop reading words
        = .ok (after, some (command, rest)) → rest.length < (word :: words).length :=
      fun h => Nat.lt_succ_of_lt (ih h)
    unfold readLevel at h
    split at h
    · simp at h
      simp [h]
    · split at h
      · split at h <;> simp at h
      · split at h
        · exact step h
        · simp at h
      · split at h
        · exact step h
        · simp at h
      · split at h
        · exact step h
        · simp at h

/-! ## Whole command lines -/

/-- Adds what the environment gives for options without a value. -/
def addVariables (env : Environment) : List OptionSpec → Reading → Except Usage Reading
  | [], reading => .ok reading
  | option :: rest, reading =>
    match reading.values.get? option.name, option.fromVariable.bind env.get? with
    | none, some value => (reading.put option value).bind (addVariables env rest)
    | _, _ => addVariables env rest reading

/-- Adds the standard values of options without a value. -/
def withStandard (options : List OptionSpec) (values : Values) : Values :=
  values ++ options.filterMap fun option =>
    if (values.get? option.name).isSome then none
    else option.standard.map fun value => (option.name, value)

def finish (env : Environment) (options : List OptionSpec) (reading : Reading) :
    Except Usage Values := do
  let reading ← addVariables env options (← reading.settle)
  let values := withStandard options reading.values
  if reading.raised ≠ 0 ∧ reading.lowered ≠ 0 then .error (.conflict "quiet")
  else match options.find? fun option => option.required && (values.get? option.name).isNone with
    | some option => .error (.missing option.name)
    | none => .ok values

/-- The counts that hold: those of the innermost level that has any. -/
def innermost (inner outer : Nat) : Nat := if inner = 0 then outer else inner

/-- The task that the words after a command's name call for. -/
def Grammar.read {α : Type} (env : Environment) (isTop : Bool) (grammar : Grammar α)
    (words : List String) : Except Usage (Invocation α) :=
  match _h : readLevel grammar.options grammar.parts isTop {} words with
  | .error usage => .error usage
  | .ok (reading, some (chosen, rest)) => do
    let inner ← chosen.read env false rest
    discard <| finish env grammar.options reading
    return { inner with
      raised := innermost inner.raised reading.raised
      lowered := innermost inner.lowered reading.lowered }
  | .ok (reading, none) =>
    match grammar with
    | .group _ _ => .error (if reading.raised = 0 ∧ reading.lowered = 0 then .nothingGiven
        else .noCommand)
    | .command _ options make => do
      let values ← finish env options reading
      return ⟨make values, reading.raised, reading.lowered⟩
termination_by words.length
decreasing_by exact readLevel_rest_lt _h

end ClusterHarness

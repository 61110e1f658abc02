/-!
# Arguments

The arguments of the command are options and operands in any order.  An option is
a flag or takes a value, which follows it, stands after an equals sign, or is
attached to its letter; letters may be joined.  Two dashes end the options, and a
single dash is an operand.
-/

namespace ProtocolBindings.Command

/-- An option that is given or not. -/
inductive Flag where
  | strictReferences
  | force
  | verbose
  | help
deriving DecidableEq, Repr

/-- An option that takes a value. -/
inductive Setting where
  | config
  | version
  | packageJson
deriving DecidableEq, Repr

/-- An option as it was given. -/
inductive Given where
  | flag (flag : Flag)
  | setting (setting : Setting) (value : String)
deriving DecidableEq, Repr

/-- How the command is used wrongly. -/
inductive UsageError where
  /-- There is no such option. -/
  | unknownOption
  /-- An option lacks its value, or a flag has one. -/
  | valueMismatch
  /-- A path that must exist does not. -/
  | missingPath
  /-- An operand is missing. -/
  | missingOperand
  /-- There are too many operands. -/
  | surplusOperand
deriving DecidableEq, Repr

/-- The options in the order in which they were given, and the operands. -/
structure Arguments where
  options : List Given := []
  operands : List String := []
deriving DecidableEq, Repr

/-- The option of a long name. -/
def longOption? : String → Option (Flag ⊕ Setting)
  | "--config" => some (.inr .config)
  | "--version" => some (.inr .version)
  | "--package-json" => some (.inr .packageJson)
  | "--strict-references" => some (.inl .strictReferences)
  | "--force" => some (.inl .force)
  | "--verbose" => some (.inl .verbose)
  | "--help" => some (.inl .help)
  | _ => none

/-- The option of a letter. -/
def letterOption? : Char → Option (Flag ⊕ Setting)
  | 'c' => some (.inr .config)
  | 'f' => some (.inl .force)
  | _ => none

/-- What one argument says. -/
inductive Meaning where
  | operand
  | options (given : List Given)
  /-- The value of the last option is the next argument. -/
  | awaits (given : List Given) (setting : Setting)
deriving DecidableEq, Repr

/-- The meaning of joined letters.  A setting takes the letters after it as its
value. -/
def joinedMeaning : List Char → Except UsageError Meaning
  | [] => .ok (.options [])
  | letter :: rest =>
      match letterOption? letter with
      | none => .error .unknownOption
      | some (.inr setting) =>
          if rest.isEmpty then .ok (.awaits [] setting)
          else .ok (.options [.setting setting (String.ofList rest)])
      | some (.inl flag) => do
          match ← joinedMeaning rest with
          | .awaits given setting => return .awaits (.flag flag :: given) setting
          | .options given => return .options (.flag flag :: given)
          | .operand => return .operand

/-- A text up to its first equals sign, and what follows the sign if there is one. -/
def splitAtEquals : List Char → List Char × Option (List Char)
  | [] => ([], none)
  | '=' :: rest => ([], some rest)
  | character :: rest =>
      let (front, value) := splitAtEquals rest
      (character :: front, value)

/-- The meaning of an argument that starts with a dash and goes on. -/
def dashedMeaning (argument : List Char) : Except UsageError Meaning :=
  let (name, value) := splitAtEquals argument
  match longOption? (String.ofList name), value with
  | some (.inl flag), none => .ok (.options [.flag flag])
  | some (.inl _), some _ => .error .valueMismatch
  | some (.inr setting), none => .ok (.awaits [] setting)
  | some (.inr setting), some value => .ok (.options [.setting setting (String.ofList value)])
  | none, _ =>
      match argument with
      | '-' :: '-' :: _ => .error .unknownOption
      | _ => joinedMeaning argument.tail

/-- The meaning of an argument. -/
def meaning (argument : String) : Except UsageError Meaning :=
  match argument.toList with
  | '-' :: character :: rest => dashedMeaning ('-' :: character :: rest)
  | _ => .ok .operand

namespace Arguments

/-- Arguments with options in front. -/
def withOptions (given : List Given) (arguments : Arguments) : Arguments :=
  { arguments with options := given ++ arguments.options }

/-- Arguments with an operand in front. -/
def withOperand (operand : String) (arguments : Arguments) : Arguments :=
  { arguments with operands := operand :: arguments.operands }

/-- The options and operands that the words of a command line give. -/
def ofWords : List String → Except UsageError Arguments
  | [] => .ok {}
  | word :: words =>
      if word = "--" then .ok { operands := words }
      else do
        match ← meaning word with
        | .operand => withOperand word <$> ofWords words
        | .options given => withOptions given <$> ofWords words
        | .awaits given setting =>
            match words with
            | [] => .error .valueMismatch
            | value :: words =>
                withOptions (given ++ [.setting setting value]) <$> ofWords words

/-- Whether a flag is given. -/
def has (arguments : Arguments) (flag : Flag) : Bool :=
  arguments.options.contains (.flag flag)

/-- The value that a setting is given last. -/
def value? (arguments : Arguments) (setting : Setting) : Option String :=
  arguments.options.foldl (fun found given =>
    match given with
    | .setting other value => if other = setting then some value else found
    | .flag _ => found) none

/-- The settings in the order in which they are given first. -/
def settings (arguments : Arguments) : List Setting :=
  (arguments.options.filterMap fun given =>
    match given with
    | .setting setting _ => some setting
    | .flag _ => none).eraseDups

end Arguments

end ProtocolBindings.Command

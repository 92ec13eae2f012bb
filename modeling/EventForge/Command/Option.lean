import EventForge.Text.Basic
import EventForge.Text.Quoted

/-!
# Options on a command line

An option has a long and a short name.  Its value follows as the next argument or is attached: to
the long name with an equals sign, to the short name also without one.  A long name can be shortened
as long as it belongs to one option only.  Behind the argument `--` nothing is an option; attached
to a name it takes the value away again.
-/

namespace EventForge

structure OptionSpec where
  /-- The names in the order in which messages show them. -/
  names : List Text
  takesValue : Bool := true
deriving DecidableEq, Repr

namespace OptionSpec

/-- The option that asks for help. -/
def help : OptionSpec := { names := ["-h", "--help"], takesValue := false }

/-- The names as messages show them. -/
def shown (spec : OptionSpec) : Text := Text.join "/" spec.names

end OptionSpec

/-- A text attached to the long or the short name of an option. -/
structure AttachedValue where
  long : Bool
  text : Text
deriving DecidableEq, Repr

/-- How an argument reads. -/
inductive ArgumentForm
  | plain
  /-- The argument `--`, behind which nothing is an option. -/
  | separator
  /-- It looks like an option, but there is none of its name. -/
  | unknown
  | option (spec : OptionSpec) (attached : Option AttachedValue)
deriving DecidableEq, Repr

/-- What is wrong with the arguments of a command. -/
inductive UsageFault
  | ambiguous (argument : Text) (names : List Text)
  | missingValue (option : Text)
  | ignoredValue (option value : Text)
  | invalidCommand (name : Text) (commands : List Text)
  | missingCommand
  | unrecognized (arguments : List Text)
deriving DecidableEq, Repr

def UsageFault.message : UsageFault → Text
  | .ambiguous argument names =>
      ("ambiguous option: " : Text) ++ argument ++ " could match " ++ Text.join ", " names
  | .missingValue option => ("argument " : Text) ++ option ++ ": expected one argument"
  | .ignoredValue option value =>
      ("argument " : Text) ++ option ++ ": ignored explicit argument " ++ Quoted.ofText value
  | .invalidCommand name commands =>
      ("argument command: invalid choice: " : Text) ++ Quoted.ofText name ++ " (choose from " ++
        Text.join ", " (commands.map Quoted.ofText) ++ ")"
  | .missingCommand => "the following arguments are required: command"
  | .unrecognized arguments => ("unrecognized arguments: " : Text) ++ Text.join " " arguments

/-- What the arguments of a command ask for: help, or its work with the values of its options, each
under the first name of its option, and with arguments that nothing is known about.  An option that
was given without a value, by the mark `--`, has none. -/
inductive OptionsRead
  | help
  | values (given : List (Text × Option Text)) (extra : List Text)
deriving DecidableEq, Repr

namespace ArgumentForm

/-- The options under each of their names. -/
def named (specs : List OptionSpec) : List (Text × OptionSpec) :=
  specs.flatMap fun spec => spec.names.map fun name => (name, spec)

/-- The option with a name. -/
def find? (specs : List OptionSpec) (name : Text) : Option OptionSpec :=
  ((named specs).find? fun entry => entry.1 == name).map (·.2)

/-- An argument in front of and behind its first equals sign. -/
def splitEquals (argument : Text) : Text × Option AttachedValue :=
  let lead := argument.takeWhile fun point => point ≠ CodePoint.ofChar '='
  match argument.drop lead.length with
  | [] => (lead, none)
  | _ :: text => (lead, some { long := Text.startsWith lead "--", text })

/-- The options that an argument can mean, with the name that each goes by. -/
def candidates (specs : List OptionSpec) (argument : Text) : List (Text × ArgumentForm) :=
  if argument.startsWith "--" then
    let (lead, attached) := splitEquals argument
    ((named specs).filter fun entry => entry.1.startsWith lead).map fun entry =>
      (entry.1, .option entry.2 attached)
  else
    ((named specs).filter fun entry => entry.1 == argument.take 2).map fun entry =>
      (entry.1, .option entry.2 (some { long := false, text := argument.drop 2 }))

/-- Whether a text is decimal digits, perhaps with a point before the last of them. -/
def isUnsignedNumber (text : Text) : Bool :=
  let whole := text.takeWhile CodePoint.isDecimal
  match text.drop whole.length with
  | [] => !whole.isEmpty
  | point :: fraction =>
      point == CodePoint.ofChar '.' && !fraction.isEmpty && fraction.all CodePoint.isDecimal

/-- Whether an argument is a negative number; a line feed at its end does not count. -/
def isNegativeNumber (argument : Text) : Bool :=
  let digits := argument.drop 1
  isUnsignedNumber digits ||
    (digits.getLast? == some CodePoint.lineFeed && isUnsignedNumber digits.dropLast)

/-- How an argument in front of any separator reads. -/
def ofArgument (specs : List OptionSpec) (argument : Text) : Except UsageFault ArgumentForm :=
  if !argument.startsWith "-" then .ok .plain
  else
    match find? specs argument with
    | some spec => .ok (.option spec none)
    | none =>
        if argument.length = 1 then .ok .plain
        else
          match splitEquals argument with
          | (lead, some attached) =>
              match find? specs lead with
              | some spec => .ok (.option spec (some attached))
              | none => choose argument
          | (_, none) => choose argument
where
  /-- The one option that an argument can mean. -/
  choose (argument : Text) : Except UsageFault ArgumentForm :=
    match candidates specs argument with
    | [] =>
        if isNegativeNumber argument || argument.contains (CodePoint.ofChar ' ') then .ok .plain
        else .ok .unknown
    | [(_, form)] => .ok form
    | several => .error (.ambiguous argument (several.map (·.1)))

/-- How the arguments of a command read. -/
def ofArguments (specs : List OptionSpec) :
    List Text → Except UsageFault (List (Text × ArgumentForm))
  | [] => .ok []
  | argument :: arguments =>
      if argument = ("--" : Text) then
        .ok ((argument, .separator) :: arguments.map fun argument => (argument, .plain))
      else do
        let form ← ofArgument specs argument
        let forms ← ofArguments specs arguments
        return (argument, form) :: forms

end ArgumentForm

namespace OptionsRead

/-- Whether the next argument can be a value. -/
def startsWithPlain : List (Text × ArgumentForm) → Bool
  | (_, .plain) :: _ => true
  | _ => false

/-- Checks what is attached to the short name of an option without a value: the names of more
options, the last of which may have its value attached or behind it. -/
def checkTail (specs : List OptionSpec) (rest : List (Text × ArgumentForm)) (spec : OptionSpec) :
    Text → Except UsageFault Unit
  | [] => .ok ()
  | point :: tail =>
      match ArgumentForm.find? specs (("-" : Text) ++ [point]) with
      | none => .error (.ignoredValue spec.shown (point :: tail))
      | some next =>
          if next.takesValue then
            if tail.isEmpty && !startsWithPlain rest then .error (.missingValue next.shown)
            else .ok ()
          else checkTail specs rest next tail

/-- Checks what is attached to an option without a value. -/
def checkFlag (specs : List OptionSpec) (rest : List (Text × ArgumentForm)) (spec : OptionSpec)
    (attached : Option AttachedValue) : Except UsageFault Unit :=
  match attached with
  | none => .ok ()
  | some attached =>
      if attached.long || attached.text.isEmpty then
        .error (.ignoredValue spec.shown attached.text)
      else checkTail specs rest spec attached.text

/-- The value of an option from the text attached to its name. -/
def valueOf (attached : AttachedValue) : Option Text :=
  if attached.text = ("--" : Text) then none else some attached.text

/-- The name under which the value of an option is given. -/
def key (spec : OptionSpec) : Text := spec.names.headD []

/-- Reads arguments, the options of which were told apart.  Asking for help ends the reading. -/
def read (specs : List OptionSpec) (given : List (Text × Option Text)) (extra : List Text) :
    List (Text × ArgumentForm) → Except UsageFault OptionsRead
  | [] => .ok (.values given extra)
  | (argument, form) :: rest =>
      match form, rest with
      | .option spec attached, rest =>
          if spec.takesValue then
            match attached, rest with
            | some attached, rest =>
                read specs (given ++ [(key spec, valueOf attached)]) extra rest
            | none, (value, .plain) :: rest =>
                read specs (given ++ [(key spec, some value)]) extra rest
            | none, _ => .error (.missingValue spec.shown)
          else (checkFlag specs rest spec attached).map fun _ => .help
      | _, rest => read specs given (extra ++ [argument]) rest

/-- Reads the arguments of a command. -/
def ofArguments (specs : List OptionSpec) (arguments : List Text) :
    Except UsageFault OptionsRead := do
  read specs [] [] (← ArgumentForm.ofArguments specs arguments)

/-- What was given last for an option, if anything was. -/
def last? (given : List (Text × Option Text)) (spec : OptionSpec) : Option (Option Text) :=
  (given.reverse.find? fun entry => entry.1 == key spec).map (·.2)

end OptionsRead

end EventForge

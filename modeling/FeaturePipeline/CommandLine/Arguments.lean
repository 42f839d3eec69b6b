import FeaturePipeline.CommandLine.Help

/-! Reading the arguments of the program, from left to right. An option takes the next argument
whole as its value, whatever it looks like, so only an argument that stands where an option may
stand can ask for help or end the options. -/
namespace FeaturePipeline.CommandLine

inductive ArgumentFault where
  | unrecognized (argument : String)
  | noValue (option : String)
  | badValue (option value : String) (fault : ValueFault)
  | missing (options : List String)
  | noCommand
  | afterHelp
deriving DecidableEq

def ArgumentFault.message : ArgumentFault → String
  | .unrecognized a => s!"Unrecognized argument: {a}\n"
  | .noValue o => s!"No value provided for option '{o}'.\n"
  | .badValue o v fault =>
    s!"Error parsing option '{o}' with value '{v}': {fault.message}\n"
  | .missing options =>
    "Required options not provided:\n" ++ page (options.map ("    " ++ ·))
  | .noCommand =>
    "One of the following subcommands must be present:\n" ++
      page ("    help" :: EntryPoint.all.map ("    " ++ ·.name))
  | .afterHelp => "Trailing arguments are not allowed after `help`."

/-- Why the arguments lead to no request. -/
inductive EarlyExit where
  | help (text : String)
  | fault (fault : ArgumentFault)
deriving DecidableEq

def EarlyExit.output : EarlyExit → String
  | .help text => text
  | .fault f => f.message

def asksHelp (argument : String) : Bool := argument == "--help" || argument == "help"

def looksLikeOption (argument : String) : Bool := argument.toList.head? == some '-'

structure Progress (α : Type) where
  form : α
  /-- The options that had a value. -/
  given : List String := []
  helpAsked : Bool := false
  optionsEnded : Bool := false

variable {α : Type}

def Progress.fill (p : Progress α) (option : String) (value : String) (field : Field α) :
    Except ArgumentFault (Progress α) :=
  if option ∈ p.given then .error (.badValue option value .duplicate)
  else match field.write value p.form with
    | .ok form => .ok { p with form := form, given := option :: p.given }
    | .error fault => .error (.badValue option value fault)

def readSettings (settings : List (Setting α)) (p : Progress α) :
    List String → Except ArgumentFault (Progress α)
  | [] => .ok p
  | argument :: rest =>
    if p.optionsEnded then .error (.unrecognized argument)
    else if asksHelp argument then readSettings settings { p with helpAsked := true } rest
    else if argument = "--" then readSettings settings { p with optionsEnded := true } rest
    else if !looksLikeOption argument then .error (.unrecognized argument)
    else if p.helpAsked then .error .afterHelp
    else match settings.find? (·.option == argument) with
      | none => .error (.unrecognized argument)
      | some s =>
        match s.field with
        | .switch l => readSettings settings { p with form := l.set true p.form } rest
        | field =>
          match rest with
          | [] => .error (.noValue argument)
          | value :: rest =>
            match p.fill argument value field with
            | .ok p => readSettings settings p rest
            | .error fault => .error fault

/-- The required options that had no value, in the order of the settings. -/
def missing (settings : List (Setting α)) (given : List String) : List String :=
  (settings.filter fun s => s.required && !given.contains s.option).map Setting.option

def readCommand (e : EntryPoint) (arguments : List String) : Except EarlyExit Request :=
  match readSettings e.settings { form := e.blank } arguments with
  | .error fault => .error (.fault fault)
  | .ok p =>
    if p.helpAsked then .error (.help (commandHelp e))
    else match missing e.settings p.given with
      | [] => .ok (e.request p.form)
      | options => .error (.fault (.missing options))

/-- Read on to the command. Help that was asked for before it is that of the command. -/
def readProgram (helpAsked optionsEnded : Bool) : List String → Except EarlyExit Request
  | [] => if helpAsked then .error (.help programHelp) else .error (.fault .noCommand)
  | argument :: rest =>
    if !optionsEnded && asksHelp argument then readProgram true optionsEnded rest
    else if !optionsEnded && argument = "--" then readProgram helpAsked true rest
    else if !optionsEnded && looksLikeOption argument then
      .error (.fault (if helpAsked then .afterHelp else .unrecognized argument))
    else match EntryPoint.ofName? argument with
      | some e => readCommand e (if helpAsked then "help" :: rest else rest)
      | none => .error (.fault (.unrecognized argument))

def read (arguments : List String) : Except EarlyExit Request := readProgram false false arguments

end FeaturePipeline.CommandLine

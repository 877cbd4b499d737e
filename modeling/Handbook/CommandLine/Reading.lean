import Handbook.CommandLine.Help

/-! Reading a command line. Flags may stand before and behind the command, each with its own set.
A flag whose value may still follow is settled only when the next one is read, or when the words are
over; until then nobody complains about it. -/
namespace Handbook.CommandLine

/-- Why reading stops early. -/
inductive Stop where
  | help (topic : Option Command)
  | version
  | bare
  | misuse (misuse : Misuse)
  deriving DecidableEq, Repr

/-- What may follow at some place: flags, a command, a word of its own. -/
structure Grammar where
  topic : Option Command
  flags : List Flag
  hasCommands : Bool
  takesWord : Bool
  deriving DecidableEq, Repr

/-- What may follow the name of the program. -/
def Grammar.program : Grammar := ⟨none, programFlags, true, false⟩

/-- What may follow a command. -/
def Grammar.ofCommand (command : Command) : Grammar :=
  ⟨some command, command.flags, false, command == .render⟩

/-- What has been read: flags with their values, a flag that is not settled, and a word. -/
structure Reading where
  given : List (Flag × String)
  unsettled : Option (Flag × Option String)
  word : Option String
  deriving DecidableEq, Repr

namespace Reading

/-- Before anything is read. -/
def empty : Reading := ⟨[], none, none⟩

/-- Whether the next word is the value of a flag. -/
def awaitsValue (reading : Reading) : Bool :=
  match reading.unsettled with
  | some (_, none) => true
  | _ => false

/-- Whether a flag has been given. -/
def has (reading : Reading) (flag : Flag) : Bool := reading.given.any fun entry => entry.1 == flag

/-- Takes a flag with its value; a flag may be given once. -/
def give (reading : Reading) (flag : Flag) (value : String) : Except Stop Reading :=
  if reading.has flag then .error (.misuse (.repeated flag))
  else
    match flag.value?.bind fun (kind, _) => kind.fault? flag value with
    | some misuse => .error (.misuse misuse)
    | none => .ok { reading with given := reading.given ++ [(flag, value)] }

/-- Settles the flag that is not settled. -/
def settle (reading : Reading) : Except Stop Reading :=
  match reading.unsettled with
  | none => .ok reading
  | some (flag, none) => .error (.misuse (.missingValue flag))
  | some (flag, some value) => { reading with unsettled := none }.give flag value

/-- Takes a switch. Two switches are answered at once. -/
def switch (reading : Reading) (grammar : Grammar) (flag : Flag) : Except Stop Reading := do
  let reading ← reading.settle
  match flag with
  | .help => throw (.help grammar.topic)
  | .version => throw .version
  | flag => reading.give flag ""

/-- Reads a flag behind two dashes, with the value behind its equals sign if it has one. -/
def long (reading : Reading) (grammar : Grammar) (name : String) (value : Option String) :
    Except Stop Reading :=
  match grammar.flags.find? fun flag => flag.long == name with
  | none => .error (.misuse (.unexpectedWord ("--" ++ name)))
  | some flag =>
    match flag.value?, value with
    | some _, some value => do (← reading.settle).give flag value
    | some _, none => do return { (← reading.settle) with unsettled := some (flag, none) }
    | none, some value => .error (.misuse (.unexpectedValue value flag))
    | none, none => reading.switch grammar flag

/-- Reads the letters behind one dash. -/
def shorts (grammar : Grammar) (reading : Reading) : List Char → Except Stop Reading
  | [] => .ok reading
  | letter :: letters =>
    match grammar.flags.find? fun flag => flag.short? == some letter with
    | some flag => do shorts grammar (← reading.switch grammar flag) letters
    | none => .error (.misuse (.unexpectedWord (String.ofList ['-', letter])))

/-- Reads a word that is neither a flag nor the value of one. -/
def plain (reading : Reading) (grammar : Grammar) (word : String) : Except Stop Reading :=
  if grammar.takesWord && reading.word.isNone then do
    return { (← reading.settle) with word := some word }
  else if grammar.hasCommands then .error (.misuse (.unknownCommand word))
  else .error (.misuse (.unexpectedWord word))

/-- Reads the words behind two lone dashes, none of which is a flag. -/
def literal (grammar : Grammar) (reading : Reading) : List String → Except Stop Reading
  | [] => .ok reading
  | word :: words =>
    if grammar.hasCommands && (Command.ofWord? word).isSome then
      .error (.misuse (.unexpectedWord word))
    else do literal grammar (← reading.plain grammar word) words

/-- The two parts of a text around its first equals sign. -/
def splitAtEquals (cs : List Char) : String × Option String :=
  let name := cs.takeWhile (· != '=')
  (String.ofList name,
    match cs.drop name.length with
    | _ :: value => some (String.ofList value)
    | [] => none)

/-- Reads words until they are over or a command is met, which is returned with the words behind
it. -/
def words (grammar : Grammar) (reading : Reading) :
    List String → Except Stop (Reading × Option (Command × List String))
  | [] => .ok (reading, none)
  | word :: rest =>
    match if grammar.hasCommands && !reading.awaitsValue then Command.ofWord? word else none with
    | some command => .ok (reading, some (command, rest))
    | none =>
      match word.toList, reading.unsettled with
      | ['-', '-'], _ => do return (← literal grammar reading rest, none)
      | '-' :: '-' :: name, _ => do
        let (name, value) := splitAtEquals name
        words grammar (← reading.long grammar name value) rest
      | '-' :: letter :: letters, _ => do
        words grammar (← shorts grammar reading (letter :: letters)) rest
      | _, some (flag, none) =>
        words grammar { reading with unsettled := some (flag, some word) } rest
      | _, _ => do words grammar (← reading.plain grammar word) rest

end Reading

/-- What the command line asks for. -/
inductive Task where
  | serve (address : String)
  | render (page : String)
  deriving DecidableEq, Repr

/-- A command line that has been understood (`Cli`), but for what it says about the log. -/
structure Invocation where
  root : String
  linkStyle : LinkStyle
  ribbon : Bool
  timeout : Nat
  task : Task
  deriving DecidableEq, Repr

/-- The value of a flag. -/
def Reading.value? (reading : Reading) (flag : Flag) : Option String := reading.given.lookup flag

/-- The topic that the words behind `help` ask for. Commands have no commands of their own. -/
def helpTopic : List String → Stop
  | [] => .help none
  | word :: rest =>
    match Command.ofWord? word, rest with
    | none, _ => .misuse (.unknownCommand word)
    | some command, [] => .help (some command)
    | some _, other :: _ => .misuse (.unknownCommand other)

/-- Reads what follows a command. -/
def readTask (command : Command) (words : List String) : Except Stop Task := do
  if command = .help then throw (helpTopic words)
  let grammar := Grammar.ofCommand command
  let (reading, _) ← Reading.words grammar .empty words
  let reading ← reading.settle
  if command = .serve then return .serve ((reading.value? .addr).getD defaultAddress)
  match reading.word with
  | some page => return .render page
  | none => throw (.misuse .missingWord)

/-- The root that the environment gives, where no flag gives it. -/
def Reading.withRoot (reading : Reading) (rootGiven : Option String) : Except Stop Reading :=
  match rootGiven with
  | some root => if reading.has .root then .ok reading else reading.give .root root
  | none => .ok reading

/-- Refuses two switches that exclude each other, naming the first one first. -/
def Reading.exclude (reading : Reading) (a b : Flag) : Except Stop Unit :=
  match reading.given.find? fun entry => entry.1 == a || entry.1 == b with
  | some (first, _) =>
    if reading.has a && reading.has b then
      .error (.misuse (.conflict first (if first = a then b else a)))
    else .ok ()
  | none => .ok ()

/-- The settings of an invocation. -/
def Reading.invocation (reading : Reading) (task : Task) : Invocation where
  root := (reading.value? .root).getD defaultRoot
  linkStyle := ((reading.value? .linkStyle).bind linkStyle?).getD .plain
  ribbon := !reading.has .noRibbon
  timeout :=
    match (reading.value? .timeout).map (readNumber secondsLimit) with
    | some (.ok seconds) => seconds
    | _ => defaultTimeout
  task := task

/-- Reads a command line. What follows the command is judged first, then the flags before it, then
what is missing or excluded. -/
def readCommandLine (rootGiven : Option String) (words : List String) : Except Stop Invocation := do
  let (reading, command) ← Reading.words .program .empty words
  let task ← command.mapM fun (command, words) => readTask command words
  let reading ← (← reading.settle).withRoot rootGiven
  match task with
  | some task =>
    reading.exclude .verbose .quiet
    return reading.invocation task
  | none => throw (if reading.given.isEmpty then .bare else .misuse .missingCommand)

end Handbook.CommandLine

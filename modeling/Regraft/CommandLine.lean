import Regraft.Config
import Regraft.Run
/-!
# The command line

A command line names the rules, the input and where the result goes.  Arguments are read from left to right;
the first that is wrong, or that asks for help, decides.  What a command line asks for is then a function of
the contents of files, and touches none of them.
-/

namespace Regraft.CommandLine

open Xml (Style)

/-! ## Arguments -/

/-- What a command line gives a file for. -/
inductive Slot where
  | rules
  | output
  | input
  deriving DecidableEq, Repr

/-- What an option asks for: a file from its value, or something that takes no value. -/
inductive Switch where
  | file (slot : Slot)
  | compact
  | verbose
  | help
  | version
  deriving DecidableEq, Repr

/-- Options by their long names. -/
def longNames : List (String × Switch) :=
  [("rules", .file .rules), ("output", .file .output), ("compact", .compact), ("verbose", .verbose),
    ("help", .help), ("version", .version)]

/-- Options by their letters. -/
def letters : List (Char × Switch) :=
  [('r', .file .rules), ('o', .file .output), ('v', .verbose), ('h', .help), ('V', .version)]

/-- An argument as written. -/
inductive Argument where
  /-- A pair of dashes alone: all that follow are operands. -/
  | separator
  /-- A name after two dashes, with the value after its equals sign if it has one. -/
  | long (name : List Char) (value : Option (List Char))
  /-- Letters after one dash. -/
  | short (letters : List Char)
  /-- Anything else, a dash alone included. -/
  | plain

/-- The text up to its first equals sign, and the text after it. -/
def splitValue (s : List Char) : List Char × Option (List Char) :=
  match s.dropWhile (· != '=') with
  | _ :: value => (s.takeWhile (· != '='), some value)
  | [] => (s, none)

/-- How an argument is written. -/
def Argument.of (text : String) : Argument :=
  match text.toList with
  | ['-', '-'] => .separator
  | '-' :: '-' :: name => .long (splitValue name).1 (splitValue name).2
  | '-' :: c :: rest => .short (c :: rest)
  | _ => .plain

/-- Why a command line is not run. -/
inductive Halt where
  | help
  | version
  | misuse
  deriving DecidableEq, Repr

/-- What has been read of a command line. -/
structure Draft where
  files : List (Slot × String)
  isCompact : Bool
  /-- The slot of an option that waits for its value. -/
  awaiting : Option Slot
  /-- Whether all that follow are operands. -/
  onlyOperands : Bool

namespace Draft

/-- Nothing has been read. -/
def empty : Draft := ⟨[], false, none, false⟩

/-- Gives a slot its file, which has a name and is the only one. -/
def fill (d : Draft) (slot : Slot) (name : String) : Except Halt Draft :=
  if name.isEmpty || (d.files.lookup slot).isSome then .error .misuse
  else .ok { d with files := d.files ++ [(slot, name)], awaiting := none }

/-- Takes an option that has no value. -/
def turnOn (d : Draft) : Switch → Except Halt Draft
  | .file slot => .ok { d with awaiting := some slot }
  | .compact => if d.isCompact then .error .misuse else .ok { d with isCompact := true }
  | .verbose => .ok d
  | .help => .error .help
  | .version => .error .version

/-- Takes an option by its name. -/
def long (d : Draft) (name : List Char) (value : Option (List Char)) : Except Halt Draft :=
  match longNames.lookup (.ofList name), value with
  | some (.file slot), some value => d.fill slot (.ofList value)
  | some s, none => d.turnOn s
  | _, _ => .error .misuse

/-- Takes letters from left to right.  What follows the letter of a file, less an equals sign in front, is the
value if there is any. -/
def short (d : Draft) : List Char → Except Halt Draft
  | [] => .ok d
  | c :: rest =>
    match letters.lookup c, rest with
    | some (.file slot), '=' :: value => d.fill slot (.ofList value)
    | some (.file slot), v :: value => d.fill slot (.ofList (v :: value))
    | some s, rest => do (← d.turnOn s).short rest
    | none, _ => .error .misuse

/-- Takes an argument.  An option that waits for its value takes no other option instead. -/
def take (d : Draft) (text : String) : Except Halt Draft :=
  if d.onlyOperands then d.fill .input text
  else
    match Argument.of text, d.awaiting with
    | .plain, slot => d.fill (slot.getD .input) text
    | _, some _ => .error .misuse
    | .separator, none => .ok { d with onlyOperands := true }
    | .long name value, none => d.long name value
    | .short cs, none => d.short cs

end Draft

/-- A command line that can be run. -/
structure Invocation where
  rules : String
  input : String
  output : Option String
  style : Style

/-- What a whole command line asks for: rules and an input are needed. -/
def Draft.finish (d : Draft) : Except Halt Invocation :=
  match d.awaiting, d.files.lookup .rules, d.files.lookup .input with
  | none, some rules, some input =>
    .ok ⟨rules, input, d.files.lookup .output, if d.isCompact then .compact else .indented⟩
  | _, _, _ => .error .misuse

/-- Reads a command line. -/
def parse (arguments : List String) : Except Halt Invocation := do
  (← arguments.foldlM Draft.take .empty).finish

/-! ## Work -/

/-- Why a run gives no result. -/
inductive Failure where
  | unreadableRules (file : String)
  | malformedRules (file : String) (cause : Error)
  | uncompiledRules (file : String) (cause : Error)
  | unreadableInput (file : String)
  | malformedInput (file : String) (cause : Error)
  | faultyRun (cause : Error)
  | unwritableOutput (file : String)
  deriving DecidableEq, Repr

/-- The wordings of an error and of the causes underneath it, outermost first. -/
def causes : Error → List String
  | .inRule rule cause => (Error.inRule rule cause).message :: causes cause
  | e => [e.message]

/-- What went wrong and where, outermost first. -/
def Failure.parts : Failure → List String
  | unreadableRules file => ["reading rules from " ++ file]
  | malformedRules file cause => ("loading rules from " ++ file) :: causes cause
  | uncompiledRules file cause => ("compiling rules from " ++ file) :: causes cause
  | unreadableInput file => ["reading " ++ file]
  | malformedInput file cause => ("parsing " ++ file) :: causes cause
  | faultyRun cause => causes cause
  | unwritableOutput file => ["writing " ++ file]

/-- The wording of a failure. -/
def Failure.message (f : Failure) : String := "error: " ++ ": ".intercalate f.parts

/-- Where a result goes. -/
inductive Delivery where
  /-- On standard output, on lines of its own. -/
  | print (text : String)
  | save (file text : String)
  deriving DecidableEq, Repr

/-- The result of a value, or a failure that is said of its error. -/
def orFail {α : Type} (failure : Error → Failure) : Except Error α → Except Failure α
  | .ok value => .ok value
  | .error e => .error (failure e)

/-- The result of a run, from the contents of files. -/
def Invocation.perform (i : Invocation) (contents : String → Option String) : Except Failure Delivery := do
  let some rulesText := contents i.rules | throw (.unreadableRules i.rules)
  let config ← orFail (.malformedRules i.rules) (Config.parse rulesText)
  let rules ← orFail (.uncompiledRules i.rules) config.compile
  let some inputText := contents i.input | throw (.unreadableInput i.input)
  let source ← orFail (.malformedInput i.input) (Xml.Document.read inputText)
  let sourceRoot ← orFail (.malformedInput i.input) source.root
  let start ← orFail .faultyRun
    (Run.start source sourceRoot config.sourceNamespaces config.vocabulary config.root)
  let text ←
    match start.applyAll rules with
    | (run, none) => orFail .faultyRun (run.write i.style)
    | (_, some e) => throw (.faultyRun e)
  return match i.output with
    | some file => .save file text
    | none => .print (text ++ "\n")

/-! ## Texts -/

/-- What the program calls itself. -/
def programName : String := "xml-rewrite"

/-- How the program is called. -/
def usage : String := "Usage: " ++ programName ++ " [OPTIONS] --rules <CONFIG> <INPUT>\n"

/-- What the program is for and what its options mean. -/
def help : String :=
  "Rewrite an XML document into a new shape using declarative rules\n\n" ++ usage ++
    "\nArguments:\n" ++
    "  <INPUT>  Source XML document\n" ++
    "\nOptions:\n" ++
    "  -r, --rules <CONFIG>  JSON file with the destination root, namespaces, vocabulary and rules\n" ++
    "  -o, --output <FILE>   Write the result here instead of stdout\n" ++
    "      --compact         Serialize without indentation\n" ++
    "  -v, --verbose...      More log output (-v info, -vv debug, -vvv trace)\n" ++
    "  -h, --help            Print help\n" ++
    "  -V, --version         Print version\n"

/-- The program with its version. -/
def version : String := programName ++ " 0.1.0\n"

end Regraft.CommandLine

/-!
# Command-line arguments

* `Word` : an argument with the value that belongs to it; `words` : those of an argument list, and
  `Word.arguments` : the arguments that a word stands for;
* `Arguments` : where the configuration is and where the result goes;
* `Request`, `Request.ofWords`, `Request.ofList` : what words, and so an argument list, ask for;
* `helpText` : what is written for help.
-/

namespace SwitchTestbed.Daemon

/-- An argument with the value that belongs to it. -/
inductive Word where
  /-- An option that says where the result goes. -/
  | output (option path : String)
  /-- Such an option without a value, as only the last argument can be. -/
  | unfinished (option : String)
  | help (option : String)
  /-- An option that is not known. -/
  | unknown (option : String)
  /-- Where the configuration is. -/
  | config (path : String)
  deriving DecidableEq, Repr

/-- Whether an argument says where the result goes. -/
def isOutputOption (s : String) : Bool := s = "--output" || s = "-o"

/-- Whether an argument asks for help. -/
def isHelpOption (s : String) : Bool := s = "--help" || s = "-h"

/-- Whether an argument is an option at all. -/
def isOption (s : String) : Bool := s.toList.head? = some '-'

/-- An argument that has no value. -/
def Word.ofArgument (s : String) : Word :=
  if isHelpOption s then help s else if isOption s then unknown s else config s

/-- The words of an argument list. The value of an option may be any argument. -/
def words : List String → List Word
  | [] => []
  | [s] => [if isOutputOption s then .unfinished s else .ofArgument s]
  | s :: t :: rest =>
    if isOutputOption s then .output s t :: words rest else .ofArgument s :: words (t :: rest)

/-- The arguments that a word stands for. -/
def Word.arguments : Word → List String
  | output option path => [option, path]
  | unfinished option => [option]
  | help option => [option]
  | unknown option => [option]
  | config path => [path]

/-- Where the configuration is and where the result goes. -/
structure Arguments where
  /-- Without it the devices are simulated. -/
  config : Option String := none
  /-- Without it the result goes to the standard output. -/
  output : Option String := none
  deriving DecidableEq, Repr, Inhabited

/-- What a word says, in place of what was said before. -/
def Arguments.add (a : Arguments) : Word → Arguments
  | .output _ path => { a with output := some path }
  | .config path => { a with config := some path }
  | _ => a

/-- What an argument list asks for. -/
inductive Request where
  | help
  | hold (arguments : Arguments)
  deriving DecidableEq, Repr

/-- Whether a word asks for help. -/
def Word.asksForHelp : Word → Bool
  | help _ => true
  | _ => false

/-- What words ask for, given what was said before them. The first that asks for help is the last
that is looked at. -/
def Request.ofWords (a : Arguments) : List Word → Request
  | [] => hold a
  | w :: ws => if w.asksForHelp then help else ofWords (a.add w) ws

/-- What an argument list asks for. -/
def Request.ofList (args : List String) : Request := ofWords {} (words args)

/-- How the daemon is used. -/
def helpText : String :=
  "\n".intercalate
    ["pinsbindd - PINS testbed reservation daemon",
      "",
      "Usage: pinsbindd [OPTIONS] [config.toml]",
      "",
      "Options:",
      "  -o, --output <path>  Write the resolved reservation JSON to <path>",
      "  -h, --help           Print this help message",
      "",
      "Examples:",
      "  # Reserve from the mock backend",
      "  pinsbindd",
      "",
      "  # Reserve from the inventory in config.toml",
      "  pinsbindd -o reservation.json config.toml",
      ""]

/-! ## Words and arguments -/

@[simp] theorem arguments_ofArgument (s : String) : (Word.ofArgument s).arguments = [s] := by
  unfold Word.ofArgument
  split
  · rfl
  · split <;> rfl

/-- Every argument belongs to one word. -/
theorem flatMap_arguments_words (args : List String) :
    (words args).flatMap Word.arguments = args := by
  induction args using words.induct with
  | case1 => rfl
  | case2 s =>
    simp only [words, List.flatMap_singleton]
    split
    · rfl
    · exact arguments_ofArgument s
  | case3 s t rest h ih => simp [words, h, Word.arguments, ih]
  | case4 s t rest h ih => simp [words, h, ih]

end SwitchTestbed.Daemon

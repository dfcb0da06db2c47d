import Tabula.Text.Digit

/-!
Options on a command line.

Every option has a long name and takes a value, from the next argument or after an equals sign; two
dashes after an equals sign stand for no value. A name may be cut short as long as it fits no other.
Besides, `-h` and `--help` ask for help, which is heeded as soon as it is reached. Nothing else may
stand on the line.
-/

namespace Tabula.CommandLine

/-- An option by its name, and the values it takes. -/
structure Flag where
  name : String
  accepts : String → Bool

/-- What an argument is by itself. -/
inductive Argument where
  | flag (f : Flag) (value : Option String)
  | help
  /-- starts like an option, but is none -/
  | unknown
  | plain
  /-- two dashes alone: all that follows is plain -/
  | separator
  /-- a request for help with something else in it -/
  | wrong
  /-- fits more than one option -/
  | ambiguous

inductive Outcome where
  | help
  | wrong
  /-- the values of the options that were given, in order -/
  | values (found : List (String × Option String))
deriving DecidableEq

/-- What a program is to do once its command line is read. -/
inductive Launch (α : Type) where
  | help
  | wrong
  | start (a : α)

/-- The value of an option that counts, which is the last. -/
def lastValue? (found : List (String × Option String)) (name : String) : Option (Option String) :=
  (found.reverse.find? (·.1 == name)).map (·.2)

def helpName : List Char := "--help".toList

/-- Whether nothing is left but perhaps the end of a line. -/
def isEnd (cs : List Char) : Bool := cs = [] || cs = ['\n']

/-- A dash and a number, which may have a point and digits after it. -/
def isNegativeNumber : List Char → Bool
  | '-' :: cs =>
    match Text.digits cs with
    | (_, '.' :: rest) => !(Text.digits rest).1.isEmpty && isEnd (Text.digits rest).2
    | (whole, rest) => !whole.isEmpty && isEnd rest
  | _ => false

/-- The part before the first equals sign, and the part after it. -/
def splitValue (cs : List Char) : List Char × Option (List Char) :=
  match cs.dropWhile (· != '=') with
  | _ :: value => (cs.takeWhile (· != '='), some value)
  | [] => (cs, none)

/-- What follows `-h` may only ask for help again, an equals sign between them or not. -/
def helpWith : List Char → Argument
  | '=' :: letters => if letters ≠ [] ∧ letters.all (· == 'h') then .help else .wrong
  | letters => if letters.all (· == 'h') then .help else .wrong

/-- What a long name stands for that is cut short. -/
def completed (flags : List Flag) (name : List Char) (value : Option (List Char)) : Argument :=
  match flags.filter (fun f => name.isPrefixOf f.name.toList), name.isPrefixOf helpName with
  | [], false => .unknown
  | [], true => if value.isNone then .help else .wrong
  | [f], false => .flag f (value.map String.ofList)
  | _, _ => .ambiguous

/-- An argument that starts with a dash, and is not two dashes alone. -/
def classifyDashed (flags : List Flag) (cs : List Char) : Argument :=
  let (name, value) := splitValue cs
  match flags.find? (·.name.toList == cs), flags.find? (·.name.toList == name) with
  | some f, _ => .flag f none
  | none, some f => .flag f (value.map String.ofList)
  | none, none =>
    if name = helpName then if value.isNone then .help else .wrong
    else
      let found :=
        match cs with
        | '-' :: '-' :: _ => completed flags name value
        | '-' :: 'h' :: letters => helpWith letters
        | _ => .unknown
      match found with
      | .unknown => if isNegativeNumber cs || cs.contains ' ' then .plain else .unknown
      | found => found

def classify (flags : List Flag) (argument : String) : Argument :=
  match argument.toList with
  | ['-', '-'] => .separator
  | ['-'] => .plain
  | '-' :: cs => classifyDashed flags ('-' :: cs)
  | _ => .plain

/-- What each argument is. -/
def classifyAll (flags : List Flag) : List String → List (Argument × String)
  | [] => []
  | a :: as =>
    match classify flags a with
    | .separator => (.separator, a) :: as.map fun a => (.plain, a)
    | kind => (kind, a) :: classifyAll flags as

/-- The value after an equals sign. -/
def attached (s : String) : Option String := if s = "--" then none else some s

/-- Takes the values of options up to a request for help or to the end, where no argument may be
left over. -/
def collect (found : List (String × Option String)) (leftOver : Bool) :
    List (Argument × String) → Outcome
  | [] => if leftOver then .wrong else .values found
  | (.help, _) :: _ => .help
  | (.flag f (some v), _) :: rest =>
    if (attached v).all f.accepts then collect (found ++ [(f.name, attached v)]) leftOver rest
    else .wrong
  | (.flag f none, _) :: (.plain, v) :: rest =>
    if f.accepts v then collect (found ++ [(f.name, some v)]) leftOver rest else .wrong
  | (.flag _ none, _) :: _ => .wrong
  | (.wrong, _) :: _ => .wrong
  | _ :: rest => collect found true rest

/-- Reads the arguments. A name that fits more than one option is refused wherever it stands. -/
def read (flags : List Flag) (arguments : List String) : Outcome :=
  let found := classifyAll flags arguments
  let ambiguous := found.any fun a =>
    match a.1 with
    | .ambiguous => true
    | _ => false
  if ambiguous then .wrong else collect [] false found

end Tabula.CommandLine

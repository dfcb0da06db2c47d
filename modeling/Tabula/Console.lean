import Tabula.Console.Display
import Tabula.Session

/-!
Consoles: a dialogue, line by line, with a session.

A command may take several lines. It ends with a semicolon at the end of a line, or with a blank
line. A few words are not commands but requests to the console itself.
-/

namespace Tabula

namespace Console

/-- What comes from the outside. -/
inductive Event where
  | line (text : String)
  | interrupt
  | endOfInput

/-- What the console waits for. -/
inductive Phase where
  | command
  /-- the rest of a command -/
  | more (start : String)
  | nothing

def Phase.prompt? : Phase → Option String
  | command => some "db> "
  | more _ => some "... "
  | nothing => none

def greeting : String :=
  line "Simple RDBMS REPL" ++ line "Type 'exit' or 'quit' to exit" ++
    line "Type 'help' for help\n"

def help : String :=
  "\nAvailable commands:\n" ++
  "  exit, quit           - Exit the REPL\n" ++
  "  help                 - Show this help\n" ++
  "  tables, .tables      - List all tables\n\n" ++
  "SQL-like statements (end with ';' to run):\n" ++
  "  CREATE TABLE         - Create a new table\n" ++
  "  INSERT INTO          - Insert a row into a table\n" ++
  "  SELECT               - Query data, optionally with one JOIN\n" ++
  "  UPDATE               - Update rows (WHERE required)\n" ++
  "  DELETE FROM          - Delete rows (WHERE required)\n" ++
  "  CREATE INDEX         - Index a column\n" ++
  "  SHOW TABLES          - List tables\n" ++
  "  DESCRIBE             - Show a table's columns\n\n" ++
  "Examples:\n" ++
  "  CREATE TABLE users (id INTEGER PRIMARY KEY, name TEXT, email TEXT UNIQUE);\n" ++
  "  INSERT INTO users (name, email) VALUES ('Alice', 'alice@example.com');\n" ++
  "  SELECT name FROM users WHERE id >= 1;\n" ++
  "  SELECT * FROM users JOIN orders ON users.id = orders.user_id;\n" ++
  "  UPDATE users SET name = 'Alicia' WHERE id = 1;\n" ++
  "  DELETE FROM users WHERE id = 1;\n" ++
  "        "

inductive Request where
  | leave
  | help
  | tables

/-- The request that a line is, in ASCII letters of any case. -/
def request? (line : List Char) : Option Request :=
  match String.ofList (line.map Char.toLower) with
  | "exit" | "quit" => some .leave
  | "help" => some .help
  | "tables" | ".tables" => some .tables
  | _ => none

def isComplete (command : List Char) : Bool := command.getLast? = some ';'

end Console

structure Console where
  session : Session
  files : Files
  phase : Console.Phase

/-- The console after an event, what it showed, and the notices on the way. -/
structure Turn where
  console : Console
  shown : String
  notices : List Notice

namespace Console

def start (s : Session) (files : Files) : Console := ⟨s, files, .command⟩

/-- Runs a command and shows its answer. -/
def run (c : Console) (command : String) : Turn :=
  let reply := c.session.execute c.files command
  let shown :=
    match reply.outcome.bind answerText with
    | .ok text => text
    | .error failure => failureText failure
  ⟨⟨reply.session, reply.files, .command⟩, shown, reply.notices⟩

/-- Goes on with a command, which is run if it is complete. -/
def extend (c : Console) (command : List Char) : Turn :=
  if isComplete command then c.run (String.ofList command)
  else ⟨{ c with phase := .more (String.ofList command) }, "", []⟩

def takeLine (c : Console) (text : String) : Turn :=
  let line := Text.trim text.toList
  match c.phase with
  | .nothing => ⟨c, "", []⟩
  | .more start => if line = [] then c.run start else c.extend (start.toList ++ ' ' :: line)
  | .command =>
    match request? line with
    | some .leave => ⟨{ c with phase := .nothing }, "", []⟩
    | some .help => ⟨c, Console.line help, []⟩
    | some .tables => ⟨c, tablesText c.session.database, []⟩
    | none => if line = [] then ⟨c, "", []⟩ else c.extend line

def take (c : Console) : Event → Turn
  | .line text => c.takeLine text
  | .interrupt => ⟨{ c with phase := .nothing }, Console.line "\nInterrupted", []⟩
  | .endOfInput => ⟨{ c with phase := .nothing }, Console.line "", []⟩

/-- A whole dialogue: what was shown, each prompt, and the notices. -/
structure Dialogue where
  console : Console
  shown : String
  prompts : List String
  notices : List Notice

/-- Takes events as long as the console waits for one. After the last there is no more input. -/
def talk (c : Console) (events : List Event) : Dialogue :=
  match c.phase.prompt? with
  | none => ⟨c, "", [], []⟩
  | some prompt =>
    match events with
    | [] =>
      let turn := c.take .endOfInput
      ⟨turn.console, turn.shown, [prompt], turn.notices⟩
    | e :: es =>
      let turn := c.take e
      let rest := turn.console.talk es
      ⟨rest.console, turn.shown ++ rest.shown, prompt :: rest.prompts, turn.notices ++ rest.notices⟩

/-- A dialogue from the greeting on. -/
def converse (c : Console) (events : List Event) : Dialogue :=
  let d := c.talk events
  { d with shown := greeting ++ d.shown }

end Console

end Tabula

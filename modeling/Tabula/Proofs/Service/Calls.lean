import Mathlib.Data.List.Forall2
import Tabula.Proofs.Service.Body
import Tabula.Proofs.Service.Server
import Tabula.Proofs.Session.Lookup
import Tabula.Proofs.Session.Made

/-!
Calls of the service, one after the other.

A command that is sent to the service does what it does when it is executed directly, and is
answered what it is answered then. The other calls change nothing. They show the tables as the
statements do that list a database, describe a table and select everything from it. All this is so
on every framework that serves the application.
-/

namespace Tabula

namespace Service

open Web

/-! ### Calls -/

/-- What is asked of the service. -/
inductive Call where
  | query (text : String)
  | tables
  | table (name : String)

namespace Call

/-- The requests that ask for it. -/
inductive AskedBy : Call → Request → Prop
  | query {text : String} {body : List UInt8} (h : Carries body "query" text) :
    AskedBy (.query text) ⟨"POST", "/query", body⟩
  | tables (body : List UInt8) : AskedBy .tables ⟨"GET", "/tables", body⟩
  | table (name : String) (body : List UInt8) :
    AskedBy (.table name) ⟨"GET", "/tables/" ++ name, body⟩

def command? : Call → Option String
  | query text => some text
  | tables | table _ => none

/-- The session and the files after the commands among the calls have been executed directly. -/
def executeAll (s : Session) (files : Files) (calls : List Call) : Session × Files :=
  s.executeAll files (calls.filterMap command?)

end Call

/-- A response refuses something, with a message. -/
def Refuses (response : Response) (status : Nat) (message : String) : Prop :=
  response = ⟨status, some (.object [("success", .scalar (.bool false)), ("error", .text message)])⟩

/-- A response tells what has become of a command: an answer, if it can be sent as it is, a refusal
with its message, or a fault. -/
def Tells (key : Label → String) (response : Response) : Except Failure Answer → Prop
  | .ok answer => answer.Finite → answer.Encodable →
    ∃ body, answer.SentAs key body ∧ response = ⟨200, some body⟩
  | .error failure =>
    match failure with
    | .noTable _ => Refuses response 404 failure.message
    | .unknownCommand _ | .invalid .. | .primaryKey .. | .unique _ =>
      Refuses response 400 failure.message
    | .number _ | .shape _ | .file _ => response.status = 500

/-- A response lists the tables, as the statement does that shows them. -/
def Lists (response : Response) (s : Session) (files : Files) : Prop :=
  (s.execute files "SHOW TABLES").outcome =
      .ok (.rows (s.database.names.map fun name => [(.name "table_name", .text name)])) ∧
    response = ⟨200, some (.object [("tables", .array (s.database.names.map .text))])⟩

/-- A response shows a table that commands have made, as the statements do that describe it and
select everything from it. Under other names there is nothing. -/
structure Shows (response : Response) (s : Session) (files : Files) (name : String) : Prop where
  made : s.database.Made name → ∃ columns rows,
    (s.execute files ("DESCRIBE " ++ name)).outcome = .ok (.description columns) ∧
      (s.execute files ("SELECT * FROM " ++ name)).outcome = .ok (.rows rows) ∧
        response = ⟨200, some (.object [("schema", .array (columns.map ColumnInfo.entry)),
          ("row_count", .int rows.length)])⟩
  unlisted : IsName name → name ∉ s.database.names →
    Refuses response 404 (Failure.noTable name).message

/-- A response answers a call of a session. -/
def Call.Answered (key : Label → String) (s : Session) (files : Files) (response : Response) :
    Call → Prop
  | query text => Tells key response (s.execute files text).outcome
  | tables => Lists response s files
  | table name => Shows response s files name

/-! ### One call -/

/-- A word is a name. -/
lemma isName_of_isWord {name : String} (h : IsWord name) : IsName name := ⟨h.ne_empty, h.isWordChar⟩

section

variable {fw : Framework} (hfw : fw.Serves app)

include hfw

/-- Reading changes nothing, whatever is read. -/
lemma handle_get {r : Request} (h : r.method = "GET") (p : State) :
    (fw.handle app p r).1 = p := by
  rcases hfw.reaches p r with hsame | ⟨e, he, hmethod, run, hoffers, hrun⟩
  · exact hsame
  · rw [h] at hmethod
    rw [hrun]
    simp only [app, List.mem_cons, List.not_mem_nil, or_false] at he
    rcases he with rfl | rfl | rfl | rfl
    · cases hoffers
      rfl
    · -- the one endpoint that changes something is not for reading
      exact absurd hmethod (by decide)
    · cases hoffers
      rfl
    · cases hoffers
      rfl

variable {s : Session} {files : Files}

/-- What an endpoint refuses is told with its message. -/
lemma refuses_handle {e : Endpoint State} {r : Request}
    {run : State → State × Except Failure Content} (he : e ∈ app.endpoints) (ht : e.Takes r run)
    {p : State} {failure : Failure} {status : Nat} (hrun : (run p).2 = .error failure)
    (hcaught : caught failure = some (status, failureContent failure)) :
    Refuses (fw.handle app p r).2 status failure.message :=
  hfw.catches he ht hrun hcaught (json?_failureContent hfw.names failure)

lemma tells_query {body : List UInt8} {text : String} (h : Carries body "query" text) :
    Tells fw.key (fw.handle app (s, files) ⟨"POST", "/query", body⟩).2
      (s.execute files text).outcome := by
  have he : ⟨"POST", "/query", .ofBody "query" query⟩ ∈ app.endpoints := by simp [app]
  cases hout : (s.execute files text).outcome with
  | ok answer =>
    intro hfinite hencodable
    obtain ⟨sent, hsent, hbody⟩ := json?_answerContent hfw.names hfinite hencodable
    have hrun : (query text (s, files)).2 = .ok (answerContent answer) :=
      congrArg (Except.map answerContent) hout
    exact ⟨sent, hsent, hfw.sends he (.ofBody h) hrun hbody⟩
  | error failure =>
    have hrun : (query text (s, files)).2 = .error failure :=
      congrArg (Except.map answerContent) hout
    cases failure with
    | noTable | unknownCommand | invalid | primaryKey | unique =>
      exact refuses_handle hfw he (.ofBody h) hrun rfl
    | number | shape | file => exact hfw.fails he (.ofBody h) hrun rfl

lemma lists_tables (body : List UInt8) :
    Lists (fw.handle app (s, files) ⟨"GET", "/tables", body⟩).2 s files := by
  constructor
  · rw [Session.execute_query Statement.parse_showTables rfl]
    rfl
  · have he : ⟨"GET", "/tables", .plain fun p => (p, .ok (tablesContent p.1.database))⟩ ∈
        app.endpoints := by simp [app]
    exact hfw.sends he (.plain body) rfl (json?_tablesContent hfw.names s.database)

lemma shows_table (name : String) (body : List UInt8) :
    Shows (fw.handle app (s, files) ⟨"GET", "/tables/" ++ name, body⟩).2 s files name := by
  have he : ⟨"GET", "/tables/", .ofPath fun name p =>
      (p, (p.1.database.table name).map tableContent)⟩ ∈ app.endpoints := by simp [app]
  constructor
  · intro hm
    obtain ⟨t, ht, hcolumns⟩ := hm.columns
    have htable := Database.table_eq_ok.2 ht
    refine ⟨t.describe, t.rows, ?_, ?_, ?_⟩
    · rw [Session.execute_query (Statement.parse_describe hm.isWord) rfl, Database.execute, htable]
      rfl
    · rw [Session.execute_query (Statement.parse_selectAll hm.isWord) rfl, Database.execute,
        Database.select, htable]
      rfl
    · rw [Table.rows, List.length_map]
      exact hfw.sends he (.ofPath body (isName_of_isWord hm.isWord))
        (congrArg (Except.map tableContent) htable) (json?_tableContent hfw.names hcolumns)
  · intro hn hnone
    have ht : s.database.table? name = none :=
      Option.eq_none_iff_forall_ne_some.2 fun t ht => hnone (Database.mem_names.2 ⟨t, ht⟩)
    exact refuses_handle hfw he (.ofPath body hn)
      (congrArg (Except.map tableContent) (Database.table_eq_error ht)) rfl

/-- A call is answered. A command does what it does when it is executed directly, and the other
calls change nothing. -/
lemma handle_call {c : Call} {r : Request} (h : c.AskedBy r) (s : Session) (files : Files) :
    (fw.handle app (s, files) r).1 = Call.executeAll s files [c] ∧
      c.Answered fw.key s files (fw.handle app (s, files) r).2 := by
  cases h with
  | query hbody =>
    have he : ⟨"POST", "/query", .ofBody "query" query⟩ ∈ app.endpoints := by simp [app]
    exact ⟨hfw.runs he (.ofBody hbody) (s, files), tells_query hfw hbody⟩
  | tables body => exact ⟨handle_get hfw rfl (s, files), lists_tables hfw body⟩
  | table name body => exact ⟨handle_get hfw rfl (s, files), shows_table hfw name body⟩

end

/-! ### Requests one after the other -/

lemma executeAll_cons (s : Session) (files : Files) (c : Call) (cs : List Call) :
    Call.executeAll s files (c :: cs) =
      Call.executeAll (Call.executeAll s files [c]).1 (Call.executeAll s files [c]).2 cs := by
  cases c <;> rfl

/-- Calls leave what the commands among them leave. -/
lemma state_handleAll {fw : Framework} (hfw : fw.Serves app) {calls : List Call}
    {requests : List Request} (h : List.Forall₂ Call.AskedBy calls requests) (s : Session)
    (files : Files) :
    (fw.handleAll app (s, files) requests).1 = Call.executeAll s files calls := by
  induction h generalizing s files with
  | nil => rfl
  | cons hc _ ih =>
    obtain ⟨hpoint, -⟩ := handle_call hfw hc s files
    rw [executeAll_cons, ← ih, Prod.mk.eta, ← hpoint]
    rfl

/-- Whatever is asked, it can be. -/
lemma exists_requests (calls : List Call) :
    ∃ requests, List.Forall₂ Call.AskedBy calls requests := by
  induction calls with
  | nil => exact ⟨[], .nil⟩
  | cons c calls ih =>
    obtain ⟨requests, hrest⟩ := ih
    cases c with
    | query text =>
      obtain ⟨body, hbody⟩ := exists_carries "query" text
      exact ⟨_, .cons (.query hbody) hrest⟩
    | tables => exact ⟨_, .cons (.tables []) hrest⟩
    | table name => exact ⟨_, .cons (.table name []) hrest⟩

/-! ### Integers that are not too long -/

/-- Commands move counters by one at most. -/
lemma within_executeAll {s : Session} {files : Files} {texts : List String} {n : Nat}
    (h : s.database.Within n) (hn : n + texts.length < 10 ^ digitLimit) :
    (s.executeAll files texts).1.database.Within (n + texts.length) := by
  induction texts generalizing s files n with
  | nil => exact h
  | cons text texts ih =>
    rw [List.length_cons] at hn ⊢
    have hstep : (s.execute files text).session.database.Within (n + 1) := by
      cases hp : Statement.parse text with
      | error failure =>
        rw [Session.execute_unparsed hp]
        exact h.mono (Nat.le_succ n)
      | ok statement =>
        rw [Session.database_execute hp]
        exact h.execute (Statement.storable_parse hp) (by omega)
    have hlength : n + (texts.length + 1) = n + 1 + texts.length := by omega
    rw [hlength]
    exact ih hstep (by omega)

/-- The answer to a command has nothing that is too long. -/
lemma encodable_execute {s : Session} {files : Files} {text : String} {answer : Answer}
    (h : s.database.Storable) (hout : (s.execute files text).outcome = .ok answer) :
    answer.Encodable := by
  cases hp : Statement.parse text with
  | error failure =>
    rw [Session.execute_unparsed hp] at hout
    cases hout
  | ok statement =>
    have hexecute := (Session.outcome_execute hp hout).1
    exact ((Database.storable_iff.1 h).1.answer trivial (fun _ => trivial) hexecute).encodable

/-- A table is created, another is asked for in vain, and the first is shown. -/
def createAndShow : List Call := [.query "CREATE TABLE t (a)", .query "DESCRIBE u", .table "t"]

def createAndShowRequests : List Request :=
  [⟨"POST", "/query", "\x7b\"query\": \"CREATE TABLE t (a)\"\x7d".toUTF8.toList⟩,
    ⟨"POST", "/query", "\x7b\"query\": \"DESCRIBE u\"\x7d".toUTF8.toList⟩,
    ⟨"GET", "/tables/t", []⟩]

lemma askedBy_createAndShow : List.Forall₂ Call.AskedBy createAndShow createAndShowRequests := by
  have hcreate : Carries "\x7b\"query\": \"CREATE TABLE t (a)\"\x7d".toUTF8.toList "query"
      "CREATE TABLE t (a)" := ⟨_, rfl, by cbv⟩
  have hdescribe : Carries "\x7b\"query\": \"DESCRIBE u\"\x7d".toUTF8.toList "query"
      "DESCRIBE u" := ⟨_, rfl, by cbv⟩
  exact .cons (.query hcreate) (.cons (.query hdescribe) (.cons (.table "t" []) .nil))

/-- The session after the table has been created. -/
def created : Session :=
  ⟨none, Database.putTable .empty "t" (.ofColumns [⟨"a", "", false, false⟩])⟩

lemma execute_created : Session.inMemory.execute [] "CREATE TABLE t (a)" =
    ⟨created, [], [], .ok (.done (.created "t"))⟩ := by
  rw [Session.execute_saved Statement.parse_createTable rfl rfl]
  rfl

lemma execute_describe {name : String} (h : IsWord name) :
    created.execute [] ("DESCRIBE " ++ name) =
      ⟨created, [], [], (created.database.execute (.describe name)).outcome⟩ :=
  Session.execute_query (Statement.parse_describe h) rfl

lemma isWord_u : IsWord "u" := ⟨'u', [], rfl, by decide, by simp⟩

lemma executeAll_create : Call.executeAll .inMemory [] (createAndShow.take 1) = (created, []) := by
  change ((Session.inMemory.execute [] "CREATE TABLE t (a)").session,
    (Session.inMemory.execute [] "CREATE TABLE t (a)").files) = _
  rw [execute_created]

lemma executeAll_describe : Call.executeAll .inMemory [] (createAndShow.take 2) = (created, []) := by
  have hstep : Call.executeAll .inMemory [] [.query "CREATE TABLE t (a)"] = (created, []) :=
    executeAll_create
  change Call.executeAll .inMemory [] (.query "CREATE TABLE t (a)" :: [.query "DESCRIBE u"]) = _
  rw [executeAll_cons, hstep]
  change ((created.execute [] ("DESCRIBE " ++ "u")).session,
    (created.execute [] ("DESCRIBE " ++ "u")).files) = _
  rw [execute_describe isWord_u]

end Service

end Tabula

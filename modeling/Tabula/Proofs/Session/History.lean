import Mathlib.Data.List.Induction
import Tabula.Proofs.Database.Alike
import Tabula.Proofs.Database.Coherent
import Tabula.Proofs.Database.Kept
import Tabula.Proofs.SnapshotFile
import Tabula.Session

/-!
The histories of sessions.

A session is started, is given commands, and may be thrown away and started again on the same file.
`run` goes through such a history; what every event keeps holds after every run.
-/

namespace Tabula

/-- The session and the files after commands, one after the other, whatever they are answered. -/
def Session.executeAll (s : Session) (files : Files) : List String → Session × Files
  | [] => (s, files)
  | text :: texts =>
    let reply := s.execute files text
    reply.session.executeAll reply.files texts

/-- What happens to a session from outside. -/
inductive Event where
  | command (text : String)
  | restart
deriving DecidableEq

/-- A session, the files beside it, and what it has answered. -/
structure Stage where
  session : Session
  files : Files
  answers : List (Except Failure Answer)

namespace Stage

abbrev database (st : Stage) : Database := st.session.database

/-- What becomes of a command. -/
abbrev reply (st : Stage) (text : String) : Reply := st.session.execute st.files text

def execute (st : Stage) (text : String) : Stage :=
  ⟨(st.reply text).session, (st.reply text).files, st.answers ++ [(st.reply text).outcome]⟩

def step (file : Option SnapshotFile) (st : Stage) : Event → Except SnapshotFile.OpenFault Stage
  | .command text => .ok (st.execute text)
  | .restart => do return { st with session := ← (Session.start file st.files).2 }

end Stage

abbrev History := List Event

namespace History

/-- Starts a session and takes it through a history. -/
def run (file : Option SnapshotFile) (files : Files) (h : History) :
    Except SnapshotFile.OpenFault Stage := do
  let s ← (Session.start file files).2
  h.foldlM (Stage.step file) ⟨s, files, []⟩

/-- The commands of a history, without the restarts. -/
def commands (h : History) : List String :=
  h.filterMap fun
    | .command text => some text
    | .restart => none

/-- The statements among the commands of a history. -/
def statements (h : History) : List Statement :=
  h.commands.filterMap fun text => (Statement.parse text).toOption

section Run

variable {file : Option SnapshotFile} {files : Files} {h : History} {st : Stage}

lemma run_concat (h : History) (e : Event) :
    run file files (h ++ [e]) = run file files h >>= (Stage.step file · e) := by
  unfold run
  cases (Session.start file files).2 with
  | error fault => rfl
  | ok s =>
    change (h ++ [e]).foldlM (Stage.step file) ⟨s, files, []⟩ = _
    rw [List.foldlM_append]
    change h.foldlM (Stage.step file) ⟨s, files, []⟩ >>= (fun st => [e].foldlM _ st) = _
    refine bind_congr fun st => ?_
    rw [List.foldlM_cons]
    cases st.step file e <;> rfl

lemma run_command (hrun : run file files h = .ok st) (text : String) :
    run file files (h ++ [.command text]) = .ok (st.execute text) := by
  rw [run_concat, hrun]
  rfl

lemma run_nil {s : Session} (hs : (Session.start file files).2 = .ok s) :
    run file files [] = .ok ⟨s, files, []⟩ := by
  rw [run, hs]
  rfl

lemma run_restart (hrun : run file files h = .ok st) {s : Session}
    (hs : (Session.start file st.files).2 = .ok s) :
    run file files (h ++ [.restart]) = .ok { st with session := s } := by
  rw [run_concat, hrun]
  change Stage.step file st .restart = _
  rw [Stage.step, hs]
  rfl

@[simp] lemma commands_command (h : History) (text : String) :
    commands (h ++ [.command text]) = h.commands ++ [text] := by
  simp [commands]

@[simp] lemma commands_restart (h : History) : commands (h ++ [.restart]) = h.commands := by
  simp [commands]

lemma commands_sublist {k : History} (hk : h <+: k) : h.commands.Sublist k.commands :=
  hk.sublist.filterMap _

lemma length_commands_le {k : History} (hk : h <+: k) : h.commands.length ≤ k.commands.length :=
  (commands_sublist hk).length_le

lemma mem_commands {text : String} : text ∈ h.commands ↔ .command text ∈ h := by
  rw [commands, List.mem_filterMap]
  constructor
  · rintro ⟨e, he, hs⟩
    cases e <;> cases hs
    exact he
  · exact fun he => ⟨_, he, rfl⟩

lemma mem_statements {s : Statement} :
    s ∈ h.statements ↔ ∃ text, .command text ∈ h ∧ Statement.parse text = .ok s := by
  simp only [statements, List.mem_filterMap, mem_commands]
  refine exists_congr fun text => and_congr_right fun _ => ?_
  cases Statement.parse text <;> simp [Except.toOption]

@[simp] lemma statements_restart (h : History) : statements (h ++ [.restart]) = h.statements := by
  simp [statements]

lemma statements_unparsed {text : String} {failure : Failure}
    (hp : Statement.parse text = .error failure) :
    statements (h ++ [.command text]) = h.statements := by
  simp [statements, hp, Except.toOption]

lemma statements_parsed {text : String} {s : Statement} (hp : Statement.parse text = .ok s) :
    statements (h ++ [.command text]) = h.statements ++ [s] := by
  simp [statements, hp, Except.toOption]

/-- **Induction on the rest of a run**: what holds after the first events, and is kept by commands
and restarts, holds after the events that follow. -/
theorem run_induction_from (before : History) {P : History → Stage → Prop}
    (first : ∀ st, run file files before = .ok st → P [] st)
    (command : ∀ h st text, run file files (before ++ h) = .ok st → P h st →
      P (h ++ [.command text]) (st.execute text))
    (restart : ∀ h st s, run file files (before ++ h) = .ok st → P h st →
      (Session.start file st.files).2 = .ok s → P (h ++ [.restart]) { st with session := s })
    (hrun : run file files (before ++ h) = .ok st) : P h st := by
  induction h using List.reverseRecOn generalizing st with
  | nil =>
    rw [List.append_nil] at hrun
    exact first st hrun
  | append_singleton h e ih =>
    rw [← List.append_assoc, run_concat] at hrun
    obtain ⟨mid, hmid, hstep⟩ := bind_eq_ok.1 hrun
    cases e with
    | command text =>
      cases hstep
      exact command h mid text hmid (ih hmid)
    | restart =>
      obtain ⟨s, hs, hst⟩ := bind_eq_ok.1 hstep
      cases hst
      exact restart h mid s hmid (ih hmid) hs

/-- **Induction on runs**: what holds at the start and is kept by commands and restarts holds after
every run. -/
theorem run_induction {P : History → Stage → Prop}
    (start : ∀ s, (Session.start file files).2 = .ok s → P [] ⟨s, files, []⟩)
    (command : ∀ h st text, run file files h = .ok st → P h st →
      P (h ++ [.command text]) (st.execute text))
    (restart : ∀ h st s, run file files h = .ok st → P h st →
      (Session.start file st.files).2 = .ok s → P (h ++ [.restart]) { st with session := s })
    (hrun : run file files h = .ok st) : P h st := by
  refine run_induction_from [] (fun st hst => ?_) command restart hrun
  obtain ⟨s, hs, hst⟩ := bind_eq_ok.1 hst
  cases hst
  exact start s hs

end Run

end History

end Tabula

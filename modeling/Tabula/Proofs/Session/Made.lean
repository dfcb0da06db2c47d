import Tabula.Proofs.Database.Made
import Tabula.Proofs.Session.Lineage

/-!
Tables that commands have made, over whole runs.

A session that starts with nothing to be read has no other tables, whatever it is given and however
often it is restarted. In a session with other tables, those that a command creates are made.
-/

namespace Tabula

/-! ### Commands -/

namespace Session

variable {files : Files} {name : String}

lemma made_execute {s : Session} (text : String)
    (h : name ∈ s.database.names → s.database.Made name) :
    name ∈ (s.execute files text).session.database.names →
      (s.execute files text).session.database.Made name := by
  cases hp : Statement.parse text with
  | error failure =>
    rw [execute_unparsed hp]
    exact h
  | ok statement =>
    rw [database_execute hp]
    exact Database.made_execute hp h

/-- What is there after commands is made, if what was there before is, or if one of the commands
creates it. -/
lemma made_executeAll {s : Session} {texts : List String}
    (h : (name ∈ s.database.names → s.database.Made name) ∨
      ∃ text ∈ texts, ∃ defs, Statement.parse text = .ok (.createTable name defs)) :
    name ∈ (s.executeAll files texts).1.database.names →
      (s.executeAll files texts).1.database.Made name := by
  induction texts generalizing s files with
  | nil => exact h.resolve_right (by simp)
  | cons text texts ih =>
    refine ih ?_
    rcases h with h | ⟨t, ht, defs, hp⟩
    · exact .inl (made_execute text h)
    · rcases List.mem_cons.1 ht with rfl | ht
      · refine .inl fun _ => ?_
        rw [database_execute hp]
        exact Database.made_createTable hp
      · exact .inr ⟨t, ht, defs, hp⟩

end Session

/-! ### Runs -/

/-- The statements behind a database, and behind the snapshot, have been given in commands. -/
structure Lineage.Given (l : Lineage) : Prop where
  current : l.current.Given
  saved : l.saved.Given

namespace Lineage

variable {file : Option SnapshotFile} {st : Stage} {l : Lineage}

lemma Given.command (h : l.Given) (text : String) : (l.step file st (.command text)).Given := by
  cases hp : Statement.parse text with
  | error failure => rwa [l.step_unparsed hp]
  | ok s =>
    cases hq : s.kind.isQuery with
    | true => rwa [l.step_query hp hq]
    | false =>
      cases hs : (st.session.after s).save st.files with
      | ok saved =>
        rw [l.step_saved hp hq hs]
        exact ⟨h.current.concat hp, h.current.concat hp⟩
      | error failure =>
        rw [l.step_unsaved hp hq hs]
        exact ⟨h.current.concat hp, h.saved⟩

lemma Given.restart (h : l.Given) : (l.step file st .restart).Given := by
  refine ⟨?_, h.saved⟩
  rw [step]
  dsimp only
  split_ifs
  · exact h.saved
  · exact Log.given_nil

end Lineage

namespace History

variable {file : Option SnapshotFile} {files : Files} {h : History} {st : Stage} {l : Lineage}

lemma given_trace (ht : h.trace file files = .ok (st, l)) : l.Given := by
  induction h using List.reverseRecOn generalizing st l with
  | nil =>
    obtain ⟨s, -, hst⟩ := bind_eq_ok.1 ht
    cases hst
    exact ⟨Log.given_nil, Log.given_nil⟩
  | append_singleton h e ih =>
    rw [trace_concat] at ht
    obtain ⟨⟨mid, k⟩, hmid, ht⟩ := bind_eq_ok.1 ht
    obtain ⟨after, -, hst⟩ := bind_eq_ok.1 ht
    cases hst
    cases e with
    | command text => exact (ih hmid).command text
    | restart => exact (ih hmid).restart

/-- **After every run, all tables are made by commands.** -/
theorem made_run (ha : ∀ f ∈ file, f.Absent files) (hrun : h.run file files = .ok st) :
    ∀ name ∈ st.database.names, st.database.Made name := by
  intro name hn
  obtain ⟨t, ht⟩ := Database.mem_names.1 hn
  obtain ⟨l, hl⟩ := trace_of_run hrun
  obtain ⟨u, hu, halike⟩ := (tracked_trace ha hl).follows name t ht
  exact ⟨l.current, (given_trace hl).current, t, u, ht, hu, halike⟩

end History

end Tabula

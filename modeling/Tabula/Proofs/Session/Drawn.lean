import Tabula.Proofs.Database.Drawn
import Tabula.Proofs.Session.Effect
import Tabula.Proofs.Session.Filed
import Tabula.Proofs.Session.Given

/-!
Keys from the counter that are stored already, over whole runs.
-/

namespace Tabula

/-! ### Commands one after the other -/

namespace History

variable {file : Option SnapshotFile} {files : Files} {h : History} {st : Stage}

/-- The history of commands, without restarts. -/
def ofCommands (texts : List String) : History := texts.map .command

lemma ofCommands_concat (texts : List String) (text : String) :
    ofCommands (texts ++ [text]) = ofCommands texts ++ [.command text] := by
  simp [ofCommands]

lemma commands_ofCommands (texts : List String) : (ofCommands texts).commands = texts := by
  simp [ofCommands, commands, List.filterMap_map]

lemma length_statements_ofCommands {texts : List String}
    (hp : ∀ text ∈ texts, ∃ s, Statement.parse text = .ok s) :
    (ofCommands texts).statements.length = texts.length := by
  induction texts using List.reverseRecOn with
  | nil => rfl
  | append_singleton texts text ih =>
    rw [List.forall_mem_append, List.forall_mem_singleton] at hp
    obtain ⟨hp, s, hs⟩ := hp
    rw [ofCommands_concat, statements_parsed hs, List.length_append, ih hp, List.length_append]
    rfl

/-- Commands can be given to every session, and its database is what their statements make of it. -/
lemma run_ofCommands (hrun : h.run file files = .ok st) (texts : List String) :
    run file files (h ++ ofCommands texts) = .ok (texts.foldl Stage.execute st) ∧
      (texts.foldl Stage.execute st).database =
        st.database.replay (ofCommands texts).statements := by
  induction texts using List.reverseRecOn with
  | nil =>
    rw [ofCommands, List.map_nil, List.append_nil]
    exact ⟨hrun, rfl⟩
  | append_singleton texts text ih =>
    obtain ⟨hmid, hdb⟩ := ih
    rw [ofCommands_concat, ← List.append_assoc, List.foldl_append]
    refine ⟨run_command hmid text, ?_⟩
    change ((texts.foldl Stage.execute st).execute text).database = _
    cases hp : Statement.parse text with
    | error failure =>
      rw [statements_unparsed hp, ← hdb, Stage.execute, Stage.reply, Session.execute_unparsed hp]
    | ok s =>
      rw [statements_parsed hp, Database.replay_concat, ← hdb]
      exact Session.database_execute hp

/-- Where the draft can be written, commands are answered as the database answers them. -/
lemma answers_ofCommands (ha : ∀ f ∈ file, f.Absent files) (hrun : h.run file files = .ok st)
    (hd : Stage.draftFault? file = none) {texts : List String}
    (hn : h.commands.length + texts.length < 10 ^ digitLimit)
    (hp : ∀ text ∈ texts, ∃ s, Statement.parse text = .ok s) :
    (texts.foldl Stage.execute st).answers =
      st.answers ++ st.database.outcomes (ofCommands texts).statements := by
  induction texts using List.reverseRecOn with
  | nil => exact (List.append_nil _).symm
  | append_singleton texts text ih =>
    rw [List.length_append, List.length_singleton] at hn
    rw [List.forall_mem_append, List.forall_mem_singleton] at hp
    obtain ⟨hp, s, hs⟩ := hp
    obtain ⟨hmid, hdb⟩ := run_ofCommands hrun texts
    have hlength : (h ++ ofCommands texts).commands.length = h.commands.length + texts.length := by
      rw [commands, List.filterMap_append, List.length_append]
      exact congrArg (_ + List.length ·) (commands_ofCommands texts)
    have hsound := sound_run ha (by omega) hmid
    have hout := hsound.outcome_reply (by omega) hs
    rw [hd] at hout
    rw [List.foldl_append, ofCommands_concat, statements_parsed hs, Database.outcomes_concat,
      ← hdb, ← List.append_assoc, ← ih (by omega) hp]
    exact congrArg (_ ++ [·]) hout

/-! ### Insertions that leave the key out -/

variable {name key : String} {t : Table}

/-- **Stored keys are in the way of the counter once each.** Of insertions that leave the key out,
given one after the other, just those are refused whose number from the counter was stored before
the first of them. A command ends as its statement does, unless a snapshot cannot be written; where
it can, these are the answers. -/
theorem stored_keys_drawn (ha : ∀ f ∈ file, f.Absent files) (hrun : h.run file files = .ok st)
    (ht : st.database.table? name = some t) (hk : t.constraints.key = .ok (some (.name key)))
    (hu : ∀ j ∈ t.constraints.unique, j = .text key) {texts : List String}
    (htexts : ∀ text ∈ texts, ∃ s, Statement.parse text = .ok s ∧ t.Receives name key s) :
    let log := (ofCommands texts).statements
    log.length = texts.length ∧ st.database.DrawsKeys name key t log ∧
    (∀ before text after, texts = before ++ text :: after →
      ∃ mid s, run file files (h ++ ofCommands before) = .ok mid ∧
        mid.database = st.database.replay (log.take before.length) ∧
        Statement.parse text = .ok s ∧
        (st.database.outcomes log)[before.length]? = some (mid.database.execute s).outcome ∧
        ((mid.reply text).outcome = (mid.database.execute s).outcome ∨
          ∃ failure, (mid.session.after s).save mid.files = .error failure)) ∧
    (Stage.draftFault? file = none → h.commands.length + texts.length < 10 ^ digitLimit →
      ∃ later, run file files (h ++ ofCommands texts) = .ok later ∧
        later.answers = st.answers ++ st.database.outcomes log) := by
  intro log
  have hparsed : ∀ text ∈ texts, ∃ s, Statement.parse text = .ok s := by
    intro text htext
    obtain ⟨s, hs, -⟩ := htexts text htext
    exact ⟨s, hs⟩
  have hlength : log.length = texts.length := length_statements_ofCommands hparsed
  have hlog : ∀ s ∈ log, t.Receives name key s := by
    intro s hs
    obtain ⟨text, htext, hp⟩ := mem_statements.1 hs
    obtain ⟨text, htext', ⟨⟩⟩ := List.mem_map.1 htext
    obtain ⟨q, hq, hreceives⟩ := htexts text htext'
    obtain rfl : q = s := Except.ok.inj (hq.symm.trans hp)
    exact hreceives
  refine ⟨hlength, ?_, ?_, fun hd hn => ?_⟩
  · exact Database.drawsKeys ((formed_run ha hrun).mono fun _ _ => trivial) ht hk hu hlog
  · rintro before text after rfl
    obtain ⟨s, hs⟩ := hparsed text (by simp)
    obtain ⟨hmid, hdb⟩ := run_ofCommands hrun before
    have hbefore : (ofCommands before).statements.length = before.length :=
      length_statements_ofCommands fun q hq => hparsed q (List.mem_append_left _ hq)
    have hsplit : log = (ofCommands before).statements ++ s :: (ofCommands after).statements := by
      change (ofCommands (before ++ text :: after)).statements = _
      rw [ofCommands, List.map_append, List.map_cons, ← List.singleton_append, ← List.append_assoc,
        statements_append, statements_parsed hs, List.append_assoc]
      rfl
    refine ⟨_, s, hmid, ?_, hs, ?_, Session.outcome_execute_cases hs⟩
    · rw [hdb, hsplit, ← hbefore, List.take_left]
    · rw [hsplit, Database.outcomes_append, ← hdb,
        List.getElem?_append_right (by rw [Database.length_outcomes, hbefore]),
        Database.length_outcomes, hbefore, Nat.sub_self]
      rfl
  · exact ⟨_, (run_ofCommands hrun texts).1, answers_ofCommands ha hrun hd hn hparsed⟩

/-- A table with the key that the counter comes to first. -/
def givenOne : History :=
  [.command "CREATE TABLE t (a INTEGER PRIMARY KEY, b INTEGER)",
    .command "INSERT INTO t (a) VALUES (1)"]

def givenRow : Table := { wholeRow with
  records := [⟨0, [(.name "a", .int 1)]⟩]
  counter := 1 }

lemma run_givenOne :
    ∃ st, run none [] givenOne = .ok st ∧ st.session = ⟨none, ⟨[("t", givenRow)], [], 1⟩⟩ := by
  obtain ⟨st, hrun, hsession⟩ :=
    run_inMemory (run_inMemory run_inMemory_nil parse_wholeKey.1) parse_insertOne
  have hdatabase : ((Database.empty.execute (.createTable "t" [⟨"a", "INTEGER", true, false⟩,
      ⟨"b", "INTEGER", false, false⟩])).database.execute (.insert "t" ["a"] [.int 1])).database =
        ⟨[("t", givenRow)], [], 1⟩ := by
    decide +kernel
  exact ⟨st, hrun, by rw [hsession, hdatabase]⟩

/-- The first of two insertions is refused, and the second succeeds. -/
theorem stored_keys_drawn_givenOne :
    ∃ st later, run none [] givenOne = .ok st ∧ st.database.table? "t" = some givenRow ∧
      run none [] (givenOne ++ ofCommands ["INSERT INTO t (b) VALUES (NULL)",
        "INSERT INTO t (b) VALUES (NULL)"]) = .ok later ∧
      ∃ outcomes, later.answers = st.answers ++ outcomes ∧
        outcomes[0]? = some (.error (.primaryKey (.name "a") .duplicate)) ∧
        outcomes[1]? = some (.ok (.done .inserted)) := by
  obtain ⟨st, hrun, hsession⟩ := run_givenOne
  have ht : st.database.table? "t" = some givenRow := by
    rw [Stage.database, hsession]
    rfl
  have hcast : givenRow.cast "b" .null = .ok (.null, []) := by decide +kernel
  have hreceives : ∀ text ∈ ["INSERT INTO t (b) VALUES (NULL)", "INSERT INTO t (b) VALUES (NULL)"],
      ∃ s, Statement.parse text = .ok s ∧ givenRow.Receives "t" "a" s := by
    intro text htext
    obtain rfl : text = "INSERT INTO t (b) VALUES (NULL)" := by simpa using htext
    exact ⟨_, parse_wholeKey.2, _, _, rfl, by decide,
      List.forall_mem_singleton.2 ⟨(.null, []), hcast⟩⟩
  have hshort : givenOne.commands.length + 2 < 10 ^ digitLimit :=
    lt_pow_digitLimit (by decide)
  obtain ⟨hlength, hdraws, -, hanswers⟩ :=
    stored_keys_drawn (by simp) hrun ht rfl (by simp [givenRow, wholeRow]) hreceives
  obtain ⟨later, hlater, hlast⟩ := hanswers rfl hshort
  have hone : givenRow.Stores "a" 1 := by decide
  have htwo : ¬ givenRow.Stores "a" 2 := by decide
  refine ⟨st, later, hrun, ht, hlater, _, hlast, ?_, ?_⟩
  · rw [hdraws.outcome 0 (by rw [hlength]; decide)]
    exact congrArg some (if_pos hone)
  · rw [hdraws.outcome 1 (by rw [hlength]; decide)]
    exact congrArg some (if_neg htwo)

end History

end Tabula

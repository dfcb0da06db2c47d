import Tabula.Proofs.Database.Typed
import Tabula.Proofs.Statement.Views

/-!
Tables that commands have made.

A table is made by commands if it is what the statements in some commands make of nothing. It may
have been stored and read since. Its name has the shape of a word, and its columns are named and
typed by text. Whatever is executed, made tables stay made, and new ones are made.
-/

namespace Tabula

/-- The statements have been given in commands. -/
def Log.Given (log : Log) : Prop := ∀ s ∈ log, ∃ text, Statement.parse text = .ok s

lemma Log.given_nil : Given [] := List.forall_mem_nil _

lemma Log.Given.concat {log : Log} (h : log.Given) {text : String} {s : Statement}
    (hp : Statement.parse text = .ok s) : Given (log ++ [s]) :=
  List.forall_mem_append.2 ⟨h, List.forall_mem_singleton.2 ⟨text, hp⟩⟩

namespace Database

/-- The table of a name is what statements in commands make of nothing, whatever the identities of
its records are. -/
def Made (db : Database) (name : String) : Prop :=
  ∃ log : Log, log.Given ∧
    ∃ t u, db.table? name = some t ∧ log.table? name = some u ∧ t.Alike u

variable {db : Database} {name : String}

lemma mem_names : name ∈ db.names ↔ ∃ t, db.table? name = some t := Keyed.mem_keys

/-- The name of a table that commands have made has the shape of a word. -/
lemma Made.isWord (h : db.Made name) : IsWord name := by
  obtain ⟨log, hgiven, _, u, -, hu, -⟩ := h
  refine Log.table_induction (P := fun log _ => log.Given → IsWord name) ?_ ?_ hu hgiven
  · intro log defs hgiven
    obtain ⟨text, hp⟩ := hgiven _ List.mem_concat_self
    exact Statement.isWord_of_createTable hp
  · intro log s t u _ ih _ _ hgiven
    exact ih fun q hq => hgiven q (List.mem_append_left _ hq)

/-- The columns of a table that commands have made are named and typed by text. -/
lemma Made.columns (h : db.Made name) :
    ∃ t, db.table? name = some t ∧ ∀ c ∈ t.columns, c.name.IsText ∧ c.declared.IsText := by
  obtain ⟨log, -, t, u, ht, hu, halike⟩ := h
  exact ⟨t, ht, halike.columns ▸ (Log.formed hu).columns⟩

/-- A table that is there after a statement is made, if the one before was or there was none. -/
lemma made_execute {text : String} {s : Statement} (hp : Statement.parse text = .ok s)
    (h : name ∈ db.names → db.Made name) (hn : name ∈ (db.execute s).database.names) :
    (db.execute s).database.Made name := by
  obtain ⟨t, ht⟩ := mem_names.1 hn
  obtain ⟨log, hgiven, hlog⟩ : ∃ log : Log, log.Given ∧
      ∀ t, db.table? name = some t → ∃ u, log.table? name = some u ∧ t.Alike u := by
    by_cases hbefore : name ∈ db.names
    · obtain ⟨log, hgiven, t, u, ht, hu, halike⟩ := h hbefore
      refine ⟨log, hgiven, fun v hv => ⟨u, hu, ?_⟩⟩
      rwa [← Option.some.inj (ht.symm.trans hv)]
    · exact ⟨[], Log.given_nil, fun v hv => absurd (mem_names.2 ⟨v, hv⟩) hbefore⟩
  obtain ⟨u, hu, halike⟩ := alike_execute hlog s t ht
  exact ⟨log ++ [s], hgiven.concat hp, t, u, ht, hu, halike⟩

/-- A table that has just been created is made, whatever it takes the place of. -/
lemma made_createTable {text : String} {defs : List ColumnDeclaration}
    (hp : Statement.parse text = .ok (.createTable name defs)) :
    (db.execute (.createTable name defs)).database.Made name := by
  refine ⟨[] ++ [.createTable name defs], Log.given_nil.concat hp, .ofColumns defs,
    .ofColumns defs, ?_, ?_, rfl⟩
  · rw [table?_execute, Statement.onTable, if_pos rfl]
  · rw [Log.table?_concat, Statement.onTable, if_pos rfl]

end Database

end Tabula

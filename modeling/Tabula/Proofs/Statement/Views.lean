import Tabula.Proofs.Statement.RoundTrip

/-!
The statements that show what there is.

For every name that has the shape of a word there is a statement that describes the table of this
name, and one that selects everything from it. The names that tables are created under are of this
shape.
-/

namespace Tabula.Statement

open Text

variable {name : String}

/-- A name in the statement that creates a table has the shape of a word. -/
lemma isWord_of_createTable {command : String} {defs : List ColumnDeclaration}
    (h : parse command = .ok (.createTable name defs)) : IsWord name := by
  obtain ⟨kind, placed, -, hscan, h⟩ := parse_eq_ok.1 h
  obtain ⟨rest, hread, -⟩ := ofTokens_eq_ok_iff.1 h
  obtain rfl : Kind.createTable = kind := returns_read kind _ _ _ hread
  simp only [read, readCreateTable, bind_run_eq_ok, keyword_eq_ok, name_eq_ok] at hread
  obtain ⟨_, _, ⟨create, -, htokens⟩, _, _, ⟨table, -, rfl⟩, word, _, rfl, _, _, _, columns, _, _, _,
    _, _, hs⟩ := hread
  have hword : IsWord word := Token.isWord_of_scan hscan (by simp [htokens])
  split at hs
  · cases hs
  · cases hs
    exact hword

lemma parse_showTables : parse "SHOW TABLES" = .ok .showTables := by decide +kernel

lemma printedAs_describe (name : String) : (describe name).PrintedAs ("DESCRIBE " ++ name) := by
  have hderives : Spelling.printed.Derives [.word "DESCRIBE", .word name] (describe name) :=
    .describe name ⟨_, rfl, rfl⟩
  have hlaid : Token.Laid [.word "DESCRIBE", .word name] ("DESCRIBE " ++ name).toList := by
    rw [String.toList_append]
    exact .more blank_space (by simp) (.last _)
  have hprint :=
    PrintedAs.mk hderives (.inl rfl) hlaid (List.forall_mem_nil _) (List.forall_mem_nil _)
  rwa [List.nil_append, List.append_nil, String.ofList_toList] at hprint

/-- Any table can be described. -/
lemma parse_describe (h : IsWord name) : parse ("DESCRIBE " ++ name) = .ok (describe name) :=
  parse_of_printedAs (s := describe name) h (printedAs_describe name)

lemma printedAs_selectAll (name : String) :
    (select name none none none).PrintedAs ("SELECT * FROM " ++ name) := by
  have hderives : Spelling.printed.Derives
      (Token.word "SELECT" :: [Token.symbol .star] ++ [Token.word "FROM", Token.word name] ++ [])
      (select name none none none) :=
    .select name ⟨_, rfl, rfl⟩ .star ⟨_, rfl, rfl⟩ .nothing .nothing
  have hlaid : Token.Laid [.word "SELECT", .symbol .star, .word "FROM", .word name]
      ("SELECT * FROM " ++ name).toList := by
    rw [String.toList_append]
    exact .more blank_space (by simp) (.more blank_space (by simp)
      (.more blank_space (by simp) (.last _)))
  have hprint :=
    PrintedAs.mk hderives (.inl rfl) hlaid (List.forall_mem_nil _) (List.forall_mem_nil _)
  rwa [List.nil_append, List.append_nil, String.ofList_toList] at hprint

/-- Everything can be selected from any table. -/
lemma parse_selectAll (h : IsWord name) :
    parse ("SELECT * FROM " ++ name) = .ok (.select name none none none) :=
  parse_of_printedAs (s := select name none none none) ⟨h, by simp⟩ (printedAs_selectAll name)

end Tabula.Statement

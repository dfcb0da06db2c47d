import Tabula.Proofs.Statement.Columns
import Tabula.Proofs.Token.Printed

/-!
The columns that a statement names.

Rows take their labels from the columns that a statement declares, gives values for or assigns to.
In a command each of them stands as a word of its own, so their names have the shape of words.
-/

namespace Tabula.Statement

/-- The columns that a statement declares, gives values for or assigns to. -/
def columnNames : Statement → List String
  | .createTable _ defs => defs.map (·.name)
  | .insert _ columns _ => columns
  | .update _ assignments _ => Keyed.keys assignments
  | .select .. | .delete .. | .createIndex .. | .showTables | .describe _ => []

variable {command : String} {s : Statement}

/-- If every item has a word for its name, the list has the words for all of them. -/
lemma Lists.word_mem {α : Type} {item : List Token → α → Prop} {ts : List Token} {as : List α}
    (h : Lists item ts as) (name : α → String)
    (hitem : ∀ {ts a}, item ts a → .word (name a) ∈ ts) : ∀ a ∈ as, .word (name a) ∈ ts := by
  induction h with
  | last h => exact List.forall_mem_singleton.2 (hitem h)
  | more h _ ih =>
    refine List.forall_mem_cons.2 ⟨List.mem_append_left _ (hitem h), fun a ha => ?_⟩
    exact List.mem_append_right _ (List.mem_cons_of_mem _ (ih a ha))

lemma Defines.word_mem {ts : List Token} {c : ColumnDeclaration} (h : Defines ts c) :
    .word c.name ∈ ts := by
  cases h <;> exact List.mem_cons_self

lemma Spelling.Assigns.word_mem {σ : Spelling} {ts : List Token} {a : String × Value}
    (h : σ.Assigns ts a) : .word a.1 ∈ ts := by
  cases h
  exact List.mem_cons_self

lemma Names.word_mem {ts : List Token} {name : String} (h : Names ts name) : .word name ∈ ts := by
  cases h
  exact List.mem_cons_self

/-- The columns of a statement are words among the tokens that it is derived from. -/
lemma Spelling.Derives.word_mem {σ : Spelling} {used : List Token} (h : σ.Derives used s)
    (hs : s.kind ≠ .createTable) : ∀ c ∈ s.columnNames, .word c ∈ used := by
  cases h with
  | createTable => exact absurd rfl hs
  | insert table h₁ h₂ hcolumns =>
    intro c hc
    have hword := hcolumns.word_mem id Names.word_mem c hc
    simp only [id] at hword
    simp [hword]
  | @update _ _ _ us _ given _ table h₁ h₂ hassigns =>
    -- several values for one column do not make new names
    have hgiven : ∀ c ∈ Keyed.keys given, .word c ∈ us :=
      List.forall_mem_map.2 (hassigns.word_mem (·.1) Spelling.Assigns.word_mem)
    intro c hc
    have hword := Keyed.forall_keys_putAll hgiven (List.forall_mem_nil _) c hc
    simp [hword]
  | select | delete | createIndex | showTables | describe => exact List.forall_mem_nil _

/-- The columns of a statement are words of its command. -/
lemma word_mem_of_parse (h : parse command = .ok s) :
    ∃ placed, Token.scan (Text.trimmed command) = .ok placed ∧
      ∀ c ∈ s.columnNames, .word c ∈ placed.map (·.token) := by
  by_cases hs : s.kind = .createTable
  · obtain ⟨kind, placed, -, hscan, h⟩ := parse_eq_ok.1 h
    obtain ⟨rest, hread, -⟩ := ofTokens_eq_ok_iff.1 h
    obtain rfl : s.kind = kind := returns_read kind _ _ _ hread
    rw [hs] at h
    obtain ⟨create, table, name, body, rest, columns, htokens, -, -, hbody, -, hdefines, -, rfl⟩ :=
      ofTokens_createTable_iff.1 h
    refine ⟨placed, hscan, List.forall_mem_map.2 fun d hd => ?_⟩
    have hword := (lists_of_segments hbody hdefines).word_mem (·.name) (fun h => h.1.word_mem) d hd
    simp [htokens, group, hword]
  · obtain ⟨placed, used, rest, hscan, htokens, hderives, -⟩ := exists_derives h hs
    refine ⟨placed, hscan, fun c hc => ?_⟩
    rw [htokens]
    exact List.mem_append_left _ (hderives.word_mem hs c hc)

/-- **The columns that a command names have the shape of words.** -/
theorem isWord_of_columnNames (h : parse command = .ok s) : ∀ c ∈ s.columnNames, IsWord c := by
  obtain ⟨placed, hscan, hwords⟩ := word_mem_of_parse h
  exact fun c hc => Token.isWord_of_scan hscan (hwords c hc)

end Tabula.Statement

import Tabula.Proofs.Statement.Derivation

/-!
Every derivation is read.

A reader goes through the tokens of its part if what follows does not continue them: a column must
not be followed by a point, nor a list by a comma. After every part of a statement comes a token
that continues none before it, so the tokens of a statement are read as the statement.
-/

namespace Tabula.Statement

/-- A reader takes every part that stands for something, before what may follow it. -/
def Completes {α : Type} (r : Reader α) (item : List Token → α → Prop)
    (follow : List Token → Prop) : Prop :=
  ∀ ts a rest, item ts a → follow rest → r (ts ++ rest) = .ok (a, rest)

/-- The next token is not a given symbol. -/
def NotSymbol (s : Symbol) (rest : List Token) : Prop := rest.head? ≠ some (.symbol s)

/-- What may follow does not matter. -/
abbrev Whatever : List Token → Prop := fun _ => True

lemma IsKeyword.inj {j k : Keyword} {t : Token} (hj : IsKeyword j t) (hk : IsKeyword k t) :
    j = k := by
  obtain ⟨word, rfl, hj⟩ := hj
  obtain ⟨_, hword, hk⟩ := hk
  cases hword
  simp only [Keyword.spelledBy, beq_iff_eq] at hj hk
  have htext : j.text = k.text := String.toList_injective (hj.symm.trans hk)
  revert htext
  cases j <;> cases k <;> decide

lemma IsKeyword.ne_symbol {k : Keyword} {t : Token} (h : IsKeyword k t) (s : Symbol) :
    t ≠ .symbol s := by
  obtain ⟨word, rfl, -⟩ := h
  exact Token.noConfusion

section Parts

variable {α : Type} {rest : List Token}

lemma completes_name (role : Role) : Completes (name role) Names Whatever := by
  rintro ts n rest ⟨⟩ -
  rfl

lemma completes_literal : Completes literal Spelling.read.Denotes Whatever := by
  rintro ts v rest ⟨h⟩ -
  exact literal_eq_ok.2 ⟨_, h, rfl⟩

lemma completes_columnName : Completes columnName Refers (NotSymbol .dot) := by
  intro ts ref rest h hrest
  cases h with
  | plain column =>
    exact bind_run_eq_ok.2 ⟨column, rest, rfl,
      bind_run_eq_ok.2 ⟨false, rest, symbol?_eq_ok.2 (.inr ⟨rfl, rfl, hrest⟩), rfl⟩⟩
  | qualified table column => rfl

lemma completes_separated {item : Reader α} {part : List Token → α → Prop}
    {follow : List Token → Prop} (h : Completes item part follow)
    (hcomma : ∀ rest, follow (.symbol .comma :: rest)) :
    Completes (separated item) (Lists part) fun rest => follow rest ∧ NotSymbol .comma rest := by
  have hloop : ∀ ts as rest rounds, Lists part ts as → follow rest → NotSymbol .comma rest →
      ts.length ≤ rounds → separated.loop item rounds (ts ++ rest) = .ok (as, rest) := by
    intro ts as rest rounds hts hrest hnot hle
    induction hts generalizing rounds with
    | last ha =>
      have hread := h _ _ _ ha hrest
      cases rounds with
      | zero => exact bind_run_eq_ok.2 ⟨_, _, hread, rfl⟩
      | succ rounds =>
        exact bind_run_eq_ok.2 ⟨_, _, hread,
          bind_run_eq_ok.2 ⟨false, _, symbol?_eq_ok.2 (.inr ⟨rfl, rfl, hnot⟩), rfl⟩⟩
    | @more ts us a as ha _ ih =>
      simp only [List.length_append, List.length_cons] at hle
      obtain ⟨rounds, rfl⟩ : ∃ n, rounds = n + 1 := ⟨rounds - 1, by omega⟩
      rw [List.append_assoc, List.cons_append]
      exact bind_run_eq_ok.2 ⟨a, _, h _ _ _ ha (hcomma _),
        bind_run_eq_ok.2 ⟨true, _, symbol?_eq_ok.2 (.inl ⟨rfl, rfl⟩),
          bind_run_eq_ok.2 ⟨as, _, ih rounds (by omega), rfl⟩⟩⟩
  rintro ts as rest hts ⟨hrest, hnot⟩
  exact hloop ts as rest _ hts hrest hnot (by simp)

lemma completes_assignment : Completes assignment Spelling.read.Assigns Whatever := by
  rintro ts a rest ⟨column, h⟩ -
  simp only [assignment, bind_run_eq_ok, name_eq_ok, symbol_eq_ok, literal_eq_ok, pure_run_eq_ok]
  exact ⟨column, _, rfl, (), _, rfl, _, _, ⟨_, h, rfl⟩, rfl, rfl⟩

lemma completes_condition : Completes condition Spelling.read.Compares Whatever := by
  rintro ts condition rest ⟨href, c, hv⟩ -
  simp only [Statement.condition, bind_run_eq_ok, comparison_eq_ok, literal_eq_ok, pure_run_eq_ok,
    List.append_assoc]
  exact ⟨_, _, completes_columnName _ _ _ href (by simp [NotSymbol]), c, _, rfl, _, _, ⟨_, hv, rfl⟩,
    rfl, rfl⟩

lemma completes_join : Completes join Spelling.read.Joins (NotSymbol .dot) := by
  intro ts j rest h hrest
  cases h with
  | @mk on ls rs left right table hon hl hr ql qr =>
    have hleft := completes_columnName _ _ (.symbol (.comparison .equal) :: (rs ++ rest)) hl
      (by simp [NotSymbol])
    have hright := completes_columnName _ _ rest hr hrest
    simp only [join, bind_run_eq_ok, name_eq_ok, keyword_eq_ok, symbol_eq_ok, List.append_assoc,
      List.cons_append]
    exact ⟨table, _, rfl, (), _, ⟨on, hon, rfl⟩, left, _, hleft, (), _, rfl, right, _, hright,
      by simp [ql, qr, pure_run_eq_ok]⟩

/-- The next token is not a given keyword. -/
def NotKeyword (k : Keyword) (rest : List Token) : Prop := ∀ t ∈ rest.head?, ¬ IsKeyword k t

lemma NotKeyword.of_isKeyword {j k : Keyword} (hjk : j ≠ k) {t : Token} (h : IsKeyword j t)
    (rest : List Token) : NotKeyword k (t :: rest) := by
  rintro u ⟨⟩ hk
  exact hjk (h.inj hk)

lemma completes_join? : Completes join? Spelling.read.MayJoin fun rest =>
    NotSymbol .dot rest ∧ NotKeyword .inner rest ∧ NotKeyword .join rest := by
  rintro ts j rest h ⟨hdot, hinner, hjoin⟩
  simp only [join?, bind_run_eq_ok, keyword?_eq_ok]
  cases h with
  | nothing =>
    refine ⟨false, rest, .inr ⟨rfl, rfl, hinner⟩, ?_⟩
    exact bind_run_eq_ok.2 ⟨false, rest, keyword?_eq_ok.2 (.inr ⟨rfl, rfl, hjoin⟩), rfl⟩
  | @join k ts j hk h =>
    have hnot : NotKeyword .inner (k :: (ts ++ rest)) := .of_isKeyword (by decide) hk _
    refine ⟨false, _, .inr ⟨rfl, rfl, hnot⟩, ?_⟩
    exact bind_run_eq_ok.2 ⟨true, _, keyword?_eq_ok.2 (.inl ⟨rfl, k, hk, rfl⟩),
      bind_run_eq_ok.2 ⟨j, rest, completes_join _ _ _ h hdot, rfl⟩⟩
  | @inner i k ts j hi hk h =>
    refine ⟨true, _, .inl ⟨rfl, i, hi, rfl⟩, ?_⟩
    exact bind_run_eq_ok.2 ⟨(), _, keyword_eq_ok.2 ⟨k, hk, rfl⟩,
      bind_run_eq_ok.2 ⟨j, rest, completes_join _ _ _ h hdot, rfl⟩⟩

end Parts

/-! ### Declarations of columns -/

section Declarations

/-- A comma or a closing parenthesis. -/
def AfterDeclaration (rest : List Token) : Prop :=
  rest.head? = some (.symbol .comma) ∨ rest.head? = some (.symbol .closing)

lemma completes_modifiers {ms rest : List Token} (hms : ∀ t ∈ ms, ∃ word, t = .word word)
    (hrest : AfterDeclaration rest) : modifiers 0 (ms ++ rest) = .ok (ms, rest) := by
  induction ms with
  | nil =>
    cases rest with
    | nil => simp [AfterDeclaration] at hrest
    | cons t ts => rcases hrest with h | h <;> cases h <;> rfl
  | cons t ms ih =>
    obtain ⟨⟨word, rfl⟩, hwords⟩ := List.forall_mem_cons.1 hms
    rw [List.cons_append, modifiers, ih hwords]
    · rfl
    all_goals simp

lemma isKeyword_eq {j k : Keyword} {t : Token} (h : IsKeyword k t) :
    t.isKeyword j = decide (j = k) := by
  by_cases hjk : j = k
  · subst hjk
    simpa using isKeyword_iff.2 h
  · simpa [hjk] using fun hj => hjk ((isKeyword_iff.1 hj).inj h)

lemma marks_of_marks {ms : List Token} {primaryKey unique : Bool}
    (h : Spelling.read.Marks ms primaryKey unique) :
    (∀ t ∈ ms, ∃ word, t = .word word) ∧ marksPrimaryKey ms = primaryKey ∧
      ms.any (·.isKeyword .unique) = unique := by
  have hword {k : Keyword} {t : Token} (h : IsKeyword k t) : ∃ word, t = .word word :=
    h.imp fun _ h => h.1
  cases h with
  | nothing => simp [marksPrimaryKey]
  | unique hu => simp [marksPrimaryKey, hword hu, isKeyword_eq hu]
  | primary hp hk =>
    simp [marksPrimaryKey, hword hp, hword hk, isKeyword_eq hp, isKeyword_eq hk]
  | primaryFirst hp hk hu | uniqueFirst hu hp hk =>
    simp [marksPrimaryKey, hword hp, hword hk, hword hu, isKeyword_eq hp, isKeyword_eq hk,
      isKeyword_eq hu]

/-- A token that ends the type of a column. -/
def EndsType (t : Token) : Prop :=
  IsKeyword .primary t ∨ IsKeyword .unique t ∨ t = .symbol .comma ∨ t = .symbol .closing

lemma endsType_iff {t : Token} : EndsType t ↔
    (t.isKeyword .primary || t.isKeyword .unique || t = .symbol .comma ||
      t = .symbol .closing) = true := by
  simp [EndsType, ← isKeyword_iff, or_assoc]

lemma completes_columnType :
    Completes columnType Types fun rest => ∃ t ∈ rest.head?, EndsType t := by
  rintro ts type rest h ⟨t, ht, hends⟩
  obtain ⟨us, rfl⟩ : ∃ us, rest = t :: us := by
    cases rest with
    | nil => cases ht
    | cons u us => exact ⟨us, by simpa using ht⟩
  cases h with
  | nothing =>
    rw [List.nil_append, columnType, if_pos (endsType_iff.1 hends)]
  | word type _ hp hu =>
    have hnot : ¬ EndsType (.word type) := by
      rintro (⟨_, ⟨⟩, h⟩ | ⟨_, ⟨⟩, h⟩ | h | h)
      · simp [hp] at h
      · simp [hu] at h
      · cases h
      · cases h
    have hopening : t ≠ .symbol .opening := by
      rcases hends with h | h | rfl | rfl
      · exact h.ne_symbol _
      · exact h.ne_symbol _
      · decide
      · decide
    rw [List.singleton_append, columnType, if_neg (mt endsType_iff.2 hnot)]
    exact bind_run_eq_ok.2 ⟨type, _, rfl, bind_run_eq_ok.2 ⟨false, _,
      symbol?_eq_ok.2 (.inr ⟨rfl, rfl, by simpa using hopening⟩), rfl⟩⟩

lemma endsType_marks {ms rest : List Token} {primaryKey unique : Bool}
    (h : Spelling.read.Marks ms primaryKey unique) (hrest : AfterDeclaration rest) :
    ∃ t ∈ (ms ++ rest).head?, EndsType t := by
  cases h with
  | nothing =>
    rcases hrest with h | h
    · exact ⟨_, h, by simp [EndsType]⟩
    · exact ⟨_, h, by simp [EndsType]⟩
  | unique h | uniqueFirst h => exact ⟨_, rfl, .inr (.inl h)⟩
  | primary h | primaryFirst h => exact ⟨_, rfl, .inl h⟩

lemma completes_columnDeclaration :
    Completes columnDeclaration Spelling.read.Declares AfterDeclaration := by
  rintro ts d rest ⟨name, ht, hm⟩ hrest
  obtain ⟨hwords, hprimary, hunique⟩ := marks_of_marks hm
  simp only [columnDeclaration, bind_run_eq_ok, name_eq_ok, pure_run_eq_ok, List.append_assoc,
    List.cons_append]
  exact ⟨name, _, rfl, _, _, completes_columnType _ _ _ ht (endsType_marks hm hrest), _, _,
    completes_modifiers hwords hrest, by rw [hprimary, hunique], rfl⟩

end Declarations

/-! ### Statements -/

section Statements

variable {rest : List Token}

lemma Ends.not {s : Symbol} (h : Ends rest) (hs : s ≠ .semicolon) : NotSymbol s rest := by
  rcases h with rfl | rfl
  · simp [NotSymbol]
  · simpa [NotSymbol] using hs.symm

lemma Ends.notKeyword (h : Ends rest) (k : Keyword) : NotKeyword k rest := by
  rcases h with rfl | rfl
  · simp [NotKeyword]
  · rintro t ⟨⟩ hk
    exact hk.ne_symbol _ rfl

lemma Lists.starts_with_word {ts : List Token} {refs : List ColumnName} (h : Lists Refers ts refs) :
    ∃ word us, ts = .word word :: us := by
  cases h with
  | last h | more h => cases h <;> exact ⟨_, _, rfl⟩

/-- What comes after the columns of a query. -/
lemma completes_afterColumns (columns : Option (List ColumnName)) (table : String) {from' : Token}
    {js ws : List Token} {join : Option Join} {c : Option Condition}
    (hfrom : IsKeyword .from from') (hj : Spelling.read.MayJoin js join)
    (hw : Spelling.read.MayCompare ws c) (hrest : Ends rest) :
    (do
      keyword .from
      let table ← name .table
      let other ← join?
      if ← keyword? .where then
        return Statement.select table columns other (some (← condition))
      else return Statement.select table columns other none : Reader Statement)
      (from' :: .word table :: js ++ ws ++ rest) = .ok (.select table columns join c, rest) := by
  have hafter : NotSymbol .dot (ws ++ rest) ∧ NotKeyword .inner (ws ++ rest) ∧
      NotKeyword .join (ws ++ rest) := by
    cases hw with
    | nothing => exact ⟨hrest.not (by decide), hrest.notKeyword _, hrest.notKeyword _⟩
    | «where» hk h =>
      exact ⟨by simpa [NotSymbol] using hk.ne_symbol .dot, .of_isKeyword (by decide) hk _,
        .of_isKeyword (by decide) hk _⟩
  simp only [bind_run_eq_ok, keyword_eq_ok, name_eq_ok, keyword?_eq_ok, List.append_assoc,
    List.cons_append]
  refine ⟨(), _, ⟨from', hfrom, rfl⟩, table, _, rfl, join, ws ++ rest,
    completes_join? _ _ _ hj hafter, ?_⟩
  cases hw with
  | nothing => exact ⟨false, rest, .inr ⟨rfl, rfl, hrest.notKeyword _⟩, rfl⟩
  | @«where» k ts c hk h =>
    exact ⟨true, _, .inl ⟨rfl, k, hk, rfl⟩,
      bind_run_eq_ok.2 ⟨c, rest, completes_condition _ _ _ h trivial, rfl⟩⟩

/-- **Every derivation is read**, before a semicolon or the end. -/
theorem read_of_derives {ts : List Token} {s : Statement} (h : Spelling.read.Derives ts s)
    (hrest : Ends rest) : read s.kind (ts ++ rest) = .ok (s, rest) := by
  cases h with
  | createTable name h₁ h₂ hc hp =>
    have hcolumns := completes_separated completes_columnDeclaration (fun _ => .inl rfl) _ _
      (.symbol .closing :: rest) hc ⟨.inr rfl, by simp [NotSymbol]⟩
    simp only [read, kind, readCreateTable, bind_run_eq_ok, keyword_eq_ok, name_eq_ok, symbol_eq_ok,
      List.append_assoc, List.cons_append, List.nil_append]
    refine ⟨(), _, ⟨_, h₁, rfl⟩, (), _, ⟨_, h₂, rfl⟩, name, _, rfl, (), _, rfl, _, _, hcolumns,
      (), _, rfl, ?_⟩
    rw [if_neg (Nat.not_lt.2 hp)]
    rfl
  | @insert insert into values cs vs columns literals table h₁ h₂ hc h₃ hv hl =>
    have hcolumns := completes_separated (completes_name .column) (fun _ => trivial) _ _
      (.symbol .closing :: values :: .symbol .opening :: (vs ++ .symbol .closing :: rest)) hc
      ⟨trivial, by simp [NotSymbol]⟩
    have hliterals := completes_separated completes_literal (fun _ => trivial) _ _
      (.symbol .closing :: rest) hv ⟨trivial, by simp [NotSymbol]⟩
    simp only [read, kind, readInsert, bind_run_eq_ok, keyword_eq_ok, name_eq_ok, symbol_eq_ok,
      List.append_assoc, List.cons_append, List.nil_append]
    refine ⟨(), _, ⟨_, h₁, rfl⟩, (), _, ⟨_, h₂, rfl⟩, table, _, rfl, (), _, rfl, _, _, hcolumns,
      (), _, rfl, (), _, ⟨_, h₃, rfl⟩, (), _, rfl, _, _, hliterals, (), _, rfl, ?_⟩
    rw [if_pos hl]
    rfl
  | @select select from' ss js ws columns join c table h₁ hs h₂ hj hw =>
    have hafter := completes_afterColumns columns table h₂ hj hw hrest
    simp only [List.append_assoc, List.cons_append] at hafter
    simp only [read, kind, readSelect, bind_run_eq_ok, keyword_eq_ok, symbol?_eq_ok,
      List.append_assoc, List.cons_append]
    refine ⟨(), _, ⟨_, h₁, rfl⟩, ?_⟩
    cases hs with
    | star => exact ⟨true, _, .inl ⟨rfl, rfl⟩, hafter⟩
    | @columns ts refs hrefs =>
      have hcolumns := completes_separated completes_columnName (by simp [NotSymbol]) _ _
        (from' :: .word table :: (js ++ (ws ++ rest))) hrefs
        ⟨by simpa [NotSymbol] using h₂.ne_symbol .dot,
          by simpa [NotSymbol] using h₂.ne_symbol .comma⟩
      obtain ⟨word, us, rfl⟩ := hrefs.starts_with_word
      exact ⟨false, _, .inr ⟨rfl, rfl, by simp⟩,
        bind_run_eq_ok.2 ⟨some refs, _, map_run_eq_ok.2 ⟨refs, hcolumns, rfl⟩, hafter⟩⟩
  | @update update set where' as cs assignments c table h₁ h₂ ha h₃ hc =>
    have hassignments := completes_separated completes_assignment (fun _ => trivial) _ _
      (where' :: (cs ++ rest)) ha ⟨trivial, by simpa [NotSymbol] using h₃.ne_symbol .comma⟩
    simp only [read, kind, readUpdate, bind_run_eq_ok, keyword_eq_ok, keywordOr_eq_ok, name_eq_ok,
      pure_run_eq_ok, List.append_assoc, List.cons_append]
    exact ⟨(), _, ⟨_, h₁, rfl⟩, table, _, rfl, (), _, ⟨_, h₂, rfl⟩, _, _, hassignments,
      (), _, ⟨_, h₃, rfl⟩, c, _, completes_condition _ _ _ hc trivial, rfl, rfl⟩
  | delete table h₁ h₂ h₃ hc =>
    simp only [read, kind, readDelete, bind_run_eq_ok, keyword_eq_ok, keywordOr_eq_ok, name_eq_ok,
      pure_run_eq_ok, List.cons_append]
    exact ⟨(), _, ⟨_, h₁, rfl⟩, (), _, ⟨_, h₂, rfl⟩, table, _, rfl, (), _, ⟨_, h₃, rfl⟩, _, _,
      completes_condition _ _ _ hc trivial, rfl, rfl⟩
  | createIndex name table column h₁ h₂ h₃ =>
    simp only [read, kind, readCreateIndex, bind_run_eq_ok, keyword_eq_ok, name_eq_ok,
      symbol_eq_ok, pure_run_eq_ok, List.cons_append, List.nil_append]
    exact ⟨(), _, ⟨_, h₁, rfl⟩, (), _, ⟨_, h₂, rfl⟩, name, _, rfl, (), _, ⟨_, h₃, rfl⟩, table, _,
      rfl, (), _, rfl, column, _, rfl, (), _, rfl, rfl, rfl⟩
  | showTables h₁ h₂ =>
    simp only [read, kind, readShowTables, bind_run_eq_ok, keyword_eq_ok, pure_run_eq_ok,
      List.cons_append, List.nil_append]
    exact ⟨(), _, ⟨_, h₁, rfl⟩, (), _, ⟨_, h₂, rfl⟩, trivial, rfl⟩
  | describe table h₁ =>
    simp only [read, kind, readDescribe, bind_run_eq_ok, keyword_eq_ok, name_eq_ok,
      pure_run_eq_ok, List.cons_append, List.nil_append]
    exact ⟨(), _, ⟨_, h₁, rfl⟩, table, _, rfl, rfl, rfl⟩

end Statements

end Tabula.Statement

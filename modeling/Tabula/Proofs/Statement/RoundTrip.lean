import Tabula.Proofs.Keyed
import Tabula.Proofs.Statement.Opening
import Tabula.Proofs.Statement.Reading

/-!
What is printed is read as it was.

A statement is printed as the tokens of a derivation of it, in any layout. Its kind is told from its
first words, its tokens are scanned one by one, and every derivation is read. So whatever stands in
a text between quotes, and whatever names are chosen, the statement comes back.
-/

namespace Tabula

open Text

/-! ### Statements that can be printed -/

/-- NULL, text, and whole numbers that are not too long. -/
def Value.IsLiteral : Value → Prop
  | .null | .text _ => True
  | .int n => Writable n
  | _ => False

def ColumnName.WellFormed (c : ColumnName) : Prop := (∀ t ∈ c.table, IsWord t) ∧ IsWord c.column

def Condition.WellFormed (c : Condition) : Prop := c.column.WellFormed ∧ c.value.IsLiteral

/-- Both operands name their tables. -/
def Join.WellFormed (j : Join) : Prop :=
  IsWord j.table ∧ j.left.WellFormed ∧ j.right.WellFormed ∧ j.left.table.isSome = true ∧
    j.right.table.isSome = true

/-- The type is missing, or it is a word that does not mark the column. -/
def ColumnDeclaration.WellFormed (d : ColumnDeclaration) : Prop :=
  IsWord d.name ∧ (d.declared = "" ∨ IsWord d.declared ∧
    Keyword.primary.spelledBy d.declared = false ∧ Keyword.unique.spelledBy d.declared = false)

namespace Statement

def WellFormed : Statement → Prop
  | .createTable table columns =>
    IsWord table ∧ columns ≠ [] ∧ (∀ d ∈ columns, d.WellFormed) ∧
      columns.countP (·.primaryKey) ≤ 1
  | .insert table columns values =>
    IsWord table ∧ columns ≠ [] ∧ columns.length = values.length ∧ (∀ c ∈ columns, IsWord c) ∧
      ∀ v ∈ values, v.IsLiteral
  | .select table columns join condition =>
    IsWord table ∧ (∀ cs ∈ columns, cs ≠ [] ∧ ∀ c ∈ cs, c.WellFormed) ∧
      (∀ j ∈ join, j.WellFormed) ∧ ∀ c ∈ condition, c.WellFormed
  | .update table assignments condition =>
    IsWord table ∧ assignments ≠ [] ∧ (assignments.map (·.1)).Nodup ∧
      (∀ a ∈ assignments, IsWord a.1 ∧ a.2.IsLiteral) ∧ condition.WellFormed
  | .delete table condition => IsWord table ∧ condition.WellFormed
  | .createIndex index table column => IsWord index ∧ IsWord table ∧ IsWord column
  | .showTables => True
  | .describe table => IsWord table

/-- The texts that a statement is printed as. -/
inductive PrintedAs (s : Statement) : String → Prop
  | mk {ts rest : List Token} {lead cs trail : List Char} (h : Spelling.printed.Derives ts s)
    (hends : Ends rest) (hlaid : Token.Laid (ts ++ rest) cs)
    (hlead : ∀ c ∈ lead, isBlank c = true) (htrail : ∀ c ∈ trail, isBlank c = true) :
    PrintedAs s (String.ofList (lead ++ cs ++ trail))

/-! ### There is a print -/

section Exists

variable {α : Type}

lemma exists_lists {item : List Token → α → Prop} {as : List α} (hne : as ≠ [])
    (h : ∀ a ∈ as, ∃ ts, item ts a) : ∃ ts, Lists item ts as := by
  induction as with
  | nil => exact absurd rfl hne
  | cons a as ih =>
    obtain ⟨⟨ts, ha⟩, has⟩ := List.forall_mem_cons.1 h
    cases as with
    | nil => exact ⟨ts, .last ha⟩
    | cons b bs =>
      obtain ⟨us, hus⟩ := ih (by simp) has
      exact ⟨_, .more ha hus⟩

lemma exists_refers (c : ColumnName) : ∃ ts, Refers ts c := by
  obtain ⟨table, column⟩ := c
  cases table with
  | none => exact ⟨_, .plain column⟩
  | some table => exact ⟨_, .qualified table column⟩

namespace Spelling

lemma keyword_text (k : Keyword) : printed.keyword k (.word k.text) := ⟨_, rfl, k.spells_text⟩

lemma exists_literal {v : Value} (h : v.IsLiteral) : ∃ t, printed.literal v t := by
  cases v with
  | null => exact ⟨_, .null Keyword.null.spells_text⟩
  | int n => exact ⟨_, .int h⟩
  | text content => exact ⟨_, .text (.inl rfl) content⟩
  | _ => cases h

lemma exists_compares {c : Condition} (h : c.WellFormed) : ∃ ts, printed.Compares ts c := by
  obtain ⟨ts, hts⟩ := exists_refers c.column
  obtain ⟨t, ht⟩ := exists_literal h.2
  exact ⟨_, .mk hts c.comparison ht⟩

lemma exists_mayJoin {join : Option Join} (h : ∀ j ∈ join, j.WellFormed) :
    ∃ ts, printed.MayJoin ts join := by
  cases join with
  | none => exact ⟨_, .nothing⟩
  | some j =>
    obtain ⟨-, -, -, ql, qr⟩ := h j rfl
    obtain ⟨ls, hl⟩ := exists_refers j.left
    obtain ⟨rs, hr⟩ := exists_refers j.right
    exact ⟨_, .join (keyword_text _) (.mk j.table (keyword_text _) hl hr ql qr)⟩

lemma exists_mayCompare {condition : Option Condition} (h : ∀ c ∈ condition, c.WellFormed) :
    ∃ ts, printed.MayCompare ts condition := by
  cases condition with
  | none => exact ⟨_, .nothing⟩
  | some c =>
    obtain ⟨ts, hts⟩ := exists_compares (h c rfl)
    exact ⟨_, .where (keyword_text _) hts⟩

lemma exists_marks (primaryKey unique : Bool) : ∃ ts, printed.Marks ts primaryKey unique :=
  match primaryKey, unique with
  | false, false => ⟨_, .nothing⟩
  | false, true => ⟨_, .unique (keyword_text _)⟩
  | true, false => ⟨_, .primary (keyword_text _) (keyword_text _)⟩
  | true, true => ⟨_, .primaryFirst (keyword_text _) (keyword_text _) (keyword_text _)⟩

lemma exists_declares {d : ColumnDeclaration} (h : d.WellFormed) : ∃ ts, printed.Declares ts d := by
  obtain ⟨name, type, primaryKey, unique⟩ := d
  obtain ⟨ms, hm⟩ := exists_marks primaryKey unique
  obtain ⟨-, rfl | ⟨hword, hp, hu⟩⟩ := h
  · exact ⟨_, .mk name .nothing hm⟩
  · exact ⟨_, .mk name (.word type hword.ne_empty hp hu) hm⟩

lemma exists_derives_printed {s : Statement} (h : s.WellFormed) : ∃ ts, printed.Derives ts s := by
  cases s with
  | createTable table columns =>
    obtain ⟨-, hne, hcolumns, hp⟩ := h
    obtain ⟨ts, hts⟩ := exists_lists hne fun d hd => exists_declares (hcolumns d hd)
    exact ⟨_, .createTable table (keyword_text _) (keyword_text _) hts hp⟩
  | insert table columns values =>
    obtain ⟨-, hne, hlength, -, hvalues⟩ := h
    obtain ⟨cs, hcs⟩ := exists_lists hne fun c _ => ⟨_, Names.word c⟩
    obtain ⟨vs, hvs⟩ : ∃ vs, Lists printed.Denotes vs values := by
      refine exists_lists ?_ fun v hv => (exists_literal (hvalues v hv)).imp' _ fun _ => .one
      rintro rfl
      exact hne (List.length_eq_zero_iff.1 hlength)
    exact ⟨_, .insert table (keyword_text _) (keyword_text _) hcs (keyword_text _) hvs hlength⟩
  | select table columns join condition =>
    obtain ⟨-, hcolumns, hjoin, hcondition⟩ := h
    obtain ⟨js, hjs⟩ := exists_mayJoin hjoin
    obtain ⟨ws, hws⟩ := exists_mayCompare hcondition
    obtain ⟨ss, hss⟩ : ∃ ss, Selects ss columns := by
      cases columns with
      | none => exact ⟨_, .star⟩
      | some cs =>
        obtain ⟨ts, hts⟩ := exists_lists (hcolumns cs rfl).1 fun c _ => exists_refers c
        exact ⟨ts, .columns hts⟩
    exact ⟨_, .select table (keyword_text _) hss (keyword_text _) hjs hws⟩
  | update table assignments condition =>
    obtain ⟨-, hne, hnodup, has, hcondition⟩ := h
    obtain ⟨us, hus⟩ : ∃ us, Lists printed.Assigns us assignments := by
      refine exists_lists hne fun a ha => ?_
      obtain ⟨t, ht⟩ := exists_literal (has a ha).2
      exact ⟨_, .mk a.1 ht⟩
    obtain ⟨cs, hcs⟩ := exists_compares hcondition
    have hupdate := Derives.update table (keyword_text .update) (keyword_text .set) hus
      (keyword_text .where) hcs
    rw [Keyed.ofList_of_distinct (Keyed.distinct_of_nodup _ hnodup)] at hupdate
    exact ⟨_, hupdate⟩
  | delete table condition =>
    obtain ⟨cs, hcs⟩ := exists_compares h.2
    exact ⟨_, .delete table (keyword_text _) (keyword_text _) (keyword_text _) hcs⟩
  | createIndex index table column =>
    exact ⟨_, .createIndex index table column (keyword_text _) (keyword_text _) (keyword_text _)⟩
  | showTables => exact ⟨_, .showTables (keyword_text _) (keyword_text _)⟩
  | describe table => exact ⟨_, .describe table (keyword_text _)⟩

end Spelling

end Exists

lemma blank_space : ∀ c ∈ [' '], isBlank c = true := List.forall_mem_singleton.2 rfl

/-- Tokens, with a blank between every two of them. -/
lemma exists_laid {ts : List Token} (hne : ts ≠ []) : ∃ cs, Token.Laid ts cs := by
  induction ts with
  | nil => exact absurd rfl hne
  | cons t ts ih =>
    cases ts with
    | nil => exact ⟨_, .last t⟩
    | cons u us =>
      obtain ⟨cs, hcs⟩ := ih (by simp)
      exact ⟨_, .more blank_space (by simp) hcs⟩

/-! ### The tokens are those that are printed -/

section Printed

variable {ts : List Token} {t : Token}

lemma printed_refers {c : ColumnName} (h : Refers ts c) (hc : c.WellFormed) :
    ∀ t ∈ ts, t.Printed := by
  obtain ⟨htable, hcolumn⟩ := hc
  cases h with
  | plain => simpa using .word hcolumn
  | qualified table => simpa using ⟨.word (htable table rfl), .symbol .dot, .word hcolumn⟩

lemma printed_lists {α : Type} {item : List Token → α → Prop} {as : List α} (h : Lists item ts as)
    (hitem : ∀ a ∈ as, ∀ ts, item ts a → ∀ t ∈ ts, t.Printed) : ∀ t ∈ ts, t.Printed := by
  induction h with
  | last h => exact hitem _ List.mem_cons_self _ h
  | more h _ ih =>
    obtain ⟨ha, has⟩ := List.forall_mem_cons.1 hitem
    exact List.forall_mem_append.2
      ⟨ha _ h, List.forall_mem_cons.2 ⟨.symbol .comma, ih has⟩⟩

namespace Spelling

lemma printed_keyword {k : Keyword} (h : printed.keyword k t) : t.Printed := by
  obtain ⟨word, rfl, hw⟩ := h
  exact .word hw.isWord

lemma printed_literal {v : Value} (h : printed.literal v t) : t.Printed := by
  cases h with
  | null h => exact .word h.isWord
  | int h => exact .int h
  | text hq content => exact .quoted hq content

lemma printed_assigns {a : String × Value} (h : printed.Assigns ts a) (ha : IsWord a.1) :
    ∀ t ∈ ts, t.Printed := by
  obtain ⟨column, hv⟩ := h
  simpa using ⟨.word ha, .symbol _, printed_literal hv⟩

lemma printed_compares {c : Condition} (h : printed.Compares ts c) (hc : c.WellFormed) :
    ∀ t ∈ ts, t.Printed := by
  obtain ⟨href, comparison, hv⟩ := h
  exact List.forall_mem_append.2
    ⟨printed_refers href hc.1, by simpa using ⟨.symbol _, printed_literal hv⟩⟩

lemma printed_joins {j : Join} (h : printed.Joins ts j) (hj : j.WellFormed) :
    ∀ t ∈ ts, t.Printed := by
  obtain ⟨table, hon, hl, hr, -, -⟩ := h
  obtain ⟨htable, hleft, hright, -, -⟩ := hj
  simp only [List.cons_append, List.forall_mem_cons, List.forall_mem_append]
  exact ⟨.word htable, printed_keyword hon, printed_refers hl hleft, .symbol _,
    printed_refers hr hright⟩

lemma printed_mayJoin {join : Option Join} (h : printed.MayJoin ts join)
    (hj : ∀ j ∈ join, j.WellFormed) : ∀ t ∈ ts, t.Printed := by
  cases h with
  | nothing => simp
  | join hk h => exact List.forall_mem_cons.2 ⟨printed_keyword hk, printed_joins h (hj _ rfl)⟩
  | inner hi hk h =>
    exact List.forall_mem_cons.2 ⟨printed_keyword hi,
      List.forall_mem_cons.2 ⟨printed_keyword hk, printed_joins h (hj _ rfl)⟩⟩

lemma printed_mayCompare {condition : Option Condition} (h : printed.MayCompare ts condition)
    (hc : ∀ c ∈ condition, c.WellFormed) : ∀ t ∈ ts, t.Printed := by
  cases h with
  | nothing => simp
  | «where» hk h =>
    exact List.forall_mem_cons.2 ⟨printed_keyword hk, printed_compares h (hc _ rfl)⟩

lemma printed_marks {primaryKey unique : Bool} (h : printed.Marks ts primaryKey unique) :
    ∀ t ∈ ts, t.Printed := by
  cases h with
  | nothing => simp
  | unique hu => simpa using printed_keyword hu
  | primary hp hk => simpa using ⟨printed_keyword hp, printed_keyword hk⟩
  | primaryFirst h₁ h₂ h₃ | uniqueFirst h₁ h₂ h₃ =>
    simpa using ⟨printed_keyword h₁, printed_keyword h₂, printed_keyword h₃⟩

lemma printed_declares {d : ColumnDeclaration} (h : printed.Declares ts d) (hd : d.WellFormed) :
    ∀ t ∈ ts, t.Printed := by
  obtain ⟨name, ht, hm⟩ := h
  obtain ⟨hname, htype⟩ := hd
  refine List.forall_mem_append.2 ⟨List.forall_mem_cons.2 ⟨.word hname, ?_⟩, printed_marks hm⟩
  cases ht with
  | nothing => simp
  | word _ hne => simpa using .word (htype.resolve_left hne).1

lemma printed_selects {columns : Option (List ColumnName)} (h : Selects ts columns)
    (hcs : ∀ cs ∈ columns, cs ≠ [] ∧ ∀ c ∈ cs, c.WellFormed) : ∀ t ∈ ts, t.Printed := by
  cases h with
  | star => simpa using .symbol _
  | columns h => exact printed_lists h fun c hc _ h => printed_refers h ((hcs _ rfl).2 c hc)

/-- The tokens of a well-formed statement can be scanned. -/
lemma printed_derives {s : Statement} (h : printed.Derives ts s) (hs : s.WellFormed) :
    ∀ t ∈ ts, t.Printed := by
  cases h with
  | createTable name h₁ h₂ hc hp =>
    obtain ⟨htable, -, hcolumns, -⟩ := hs
    simp only [List.cons_append, List.forall_mem_cons, List.forall_mem_append]
    exact ⟨printed_keyword h₁, printed_keyword h₂, .word htable, .symbol _,
      printed_lists hc fun d hd _ h => printed_declares h (hcolumns d hd), .symbol _, by simp⟩
  | insert table h₁ h₂ hc h₃ hv hl =>
    obtain ⟨htable, -, -, hcolumns, -⟩ := hs
    have hnames {ts : List Token} {n : String} : Names ts n → IsWord n → ∀ t ∈ ts, t.Printed := by
      rintro ⟨n⟩ hn
      simpa using .word hn
    have hliterals {ts : List Token} {v : Value} : printed.Denotes ts v → ∀ t ∈ ts, t.Printed := by
      rintro ⟨h⟩
      simpa using printed_literal h
    simp only [List.cons_append, List.forall_mem_cons, List.forall_mem_append, List.append_assoc]
    exact ⟨printed_keyword h₁, printed_keyword h₂, .word htable, .symbol _,
      printed_lists hc fun n hn _ h => hnames h (hcolumns n hn), .symbol _, printed_keyword h₃,
      .symbol _, printed_lists hv fun _ _ _ => hliterals, .symbol _, by simp⟩
  | select table h₁ hcs h₂ hj hw =>
    obtain ⟨htable, hcolumns, hjoin, hcondition⟩ := hs
    have hselects := printed_selects hcs hcolumns
    simp only [List.cons_append, List.forall_mem_cons, List.forall_mem_append, List.append_assoc]
    exact ⟨printed_keyword h₁, hselects, printed_keyword h₂, .word htable,
      printed_mayJoin hj hjoin, printed_mayCompare hw hcondition⟩
  | @update _ _ _ _ _ given _ table h₁ h₂ ha h₃ hc =>
    obtain ⟨htable, -, -, has, hcondition⟩ := hs
    -- a column that is given more than once is a column of the statement too
    have hgiven : ∀ a ∈ given, IsWord a.1 := by
      intro a hmem
      obtain ⟨v, hv⟩ := Keyed.mem_ofList_of_mem hmem
      exact (has _ hv).1
    simp only [List.cons_append, List.forall_mem_cons, List.forall_mem_append]
    exact ⟨printed_keyword h₁, .word htable, printed_keyword h₂,
      printed_lists ha fun a hmem _ h => printed_assigns h (hgiven a hmem), printed_keyword h₃,
      printed_compares hc hcondition⟩
  | delete table h₁ h₂ h₃ hc =>
    obtain ⟨htable, hcondition⟩ := hs
    simp only [List.forall_mem_cons]
    exact ⟨printed_keyword h₁, printed_keyword h₂, .word htable, printed_keyword h₃,
      printed_compares hc hcondition⟩
  | createIndex name table column h₁ h₂ h₃ =>
    obtain ⟨hname, htable, hcolumn⟩ := hs
    simpa using ⟨printed_keyword h₁, printed_keyword h₂, .word hname, printed_keyword h₃,
      .word htable, .symbol _, .word hcolumn, .symbol _⟩
  | showTables h₁ h₂ => simpa using ⟨printed_keyword h₁, printed_keyword h₂⟩
  | describe table h₁ => simpa using ⟨printed_keyword h₁, .word hs⟩

end Spelling

end Printed

/-! ### The whole way -/

variable {s : Statement}

lemma exists_printedAs (h : s.WellFormed) : ∃ text, s.PrintedAs text := by
  obtain ⟨ts, hts⟩ := Spelling.exists_derives_printed h
  have hne : ts ++ [] ≠ [] := by
    rw [List.append_nil]
    rintro rfl
    cases hts
  obtain ⟨cs, hcs⟩ := exists_laid hne
  have hprint : s.PrintedAs (String.ofList ([] ++ cs ++ [])) :=
    .mk hts (.inl rfl) hcs (by simp) (by simp)
  exact ⟨_, hprint⟩

lemma parse_of_printedAs (h : s.WellFormed) {text : String} (hp : s.PrintedAs text) :
    parse text = .ok s := by
  obtain @⟨ts, rest, lead, cs, trail, hs, hends, hlaid, hlead, htrail⟩ := hp
  have hprinted : ∀ t ∈ ts ++ rest, t.Printed := by
    refine List.forall_mem_append.2 ⟨Spelling.printed_derives hs h, ?_⟩
    rcases hends with rfl | rfl
    · simp
    · simpa using .symbol .semicolon
  have hchain := ((Spelling.joinable_derives hs).append hends.joinable).chain
  have htokens : Token.Scans cs (ts ++ rest) := Token.scans_laid hlaid hprinted hchain
  have hkind : Kind.ofText? cs = some s.kind := by
    obtain ⟨words, us, rfl, hwords⟩ := hs.opening
    rw [List.append_assoc] at hlaid hprinted hchain
    refine Kind.ofText?_of_starts (starts_of_laid hlaid hwords ?_ hprinted hchain)
    cases s <;> simp [kind, Kind.opening]
  have htrim : trim (String.ofList (lead ++ cs ++ trail)).toList = cs := by
    obtain ⟨hfirst, hlast⟩ := hlaid.ends_not_blank hprinted
    rw [String.toList_ofList]
    exact trim_append hlead htrail hfirst hlast
  have hread := read_of_derives (hs.mono Spelling.printed_within_read) hends
  rw [parse_eq_ofTokens htrim hkind htokens]
  exact mapError_eq_ok.2 (ofTokens_eq_ok_iff.2 ⟨rest, hread, hends⟩)

/-- **What is printed is read back.** Every well-formed statement can be printed, and every text
that it is printed as is read as that statement: with keywords in any case, quotes of either kind,
blanks of any number wherever they may stand, and a semicolon or none. -/
theorem parse_printed (h : s.WellFormed) :
    (∃ text, s.PrintedAs text) ∧ ∀ text, s.PrintedAs text → parse text = .ok s :=
  ⟨exists_printedAs h, fun _ => parse_of_printedAs h⟩

/-- A deletion from a table, whose condition ends in a text with a quote and a semicolon. -/
def deletion : Statement := .delete "t" ⟨⟨none, "a"⟩, .equal, .text "it's;"⟩

lemma wellFormed_deletion : deletion.WellFormed := by
  have hword {c : Char} (hc : isWordStart c = true) : IsWord (String.ofList [c]) :=
    ⟨c, [], String.toList_ofList, hc, by simp⟩
  exact ⟨hword rfl, ⟨by simp, hword rfl⟩, trivial⟩

lemma printedAs_deletion : deletion.PrintedAs " dElete FROM t\nwhere a='it''s;' ;" := by
  have hderives : Spelling.printed.Derives
      [.word "dElete", .word "FROM", .word "t", .word "where", .word "a",
        .symbol (.comparison .equal), .quoted "'it''s;'" "it's;"] deletion :=
    .delete "t" ⟨_, rfl, rfl⟩ ⟨_, rfl, rfl⟩ ⟨_, rfl, rfl⟩
      (.mk (.plain "a") .equal (.text (.inl rfl) _))
  have hlaid : Token.Laid
      [.word "dElete", .word "FROM", .word "t", .word "where", .word "a",
        .symbol (.comparison .equal), .quoted "'it''s;'" "it's;", .symbol .semicolon] _ :=
    have hbreak : ∀ c ∈ ['\n'], isBlank c = true := List.forall_mem_singleton.2 rfl
    .more blank_space (by simp) <| .more blank_space (by simp) <| .more hbreak (by simp) <|
      .more blank_space (by simp) <| .more (List.forall_mem_nil _) (fun _ => .inr ⟨_, rfl⟩) <|
      .more (List.forall_mem_nil _) (fun _ => .inl ⟨_, rfl⟩) <|
      .more blank_space (by simp) <| .last _
  exact .mk (s := deletion) hderives (.inr rfl) hlaid blank_space (List.forall_mem_nil _)

theorem parse_printed_deletion :
    parse " dElete FROM t\nwhere a='it''s;' ;" = .ok deletion :=
  (parse_printed wellFormed_deletion).2 _ printedAs_deletion

end Statement

end Tabula

import Mathlib
import Tabula.Proofs.Statement.Grammar
import Tabula.Proofs.Statement.Literals

/-!
What is read has a derivation.

Every reader takes from the head of the tokens a part that stands for what it gives, and leaves
the rest as it is. So a command that is read is made of the tokens of one production, with a
semicolon after them at most.
-/

namespace Tabula.Statement

/-- What a reader takes stands for what it gives. -/
def Accepts {α : Type} (r : Reader α) (item : List Token → α → Prop) : Prop :=
  ∀ ts a rest, r ts = .ok (a, rest) → ∃ used, ts = used ++ rest ∧ item used a

/-! ### Single tokens -/

section Tokens

variable {ts rest : List Token} {t : Token} {k : Keyword} {v : Value}

lemma bind_run_eq_ok {α β : Type} {r : Reader α} {f : α → Reader β} {b : β} :
    (r >>= f) ts = .ok (b, rest) ↔ ∃ a mid, r ts = .ok (a, mid) ∧ f a mid = .ok (b, rest) := by
  constructor
  · exact run_bind
  · rintro ⟨a, mid, hr, hf⟩
    change r ts >>= (fun p => f p.1 p.2) = _
    rw [hr]
    exact hf

lemma pure_run_eq_ok {α : Type} {a b : α} :
    (pure a : Reader α) ts = .ok (b, rest) ↔ a = b ∧ ts = rest := by
  change Except.ok (a, ts) = .ok (b, rest) ↔ _
  simp

lemma isKeyword_iff : t.isKeyword k = true ↔ IsKeyword k t := by
  cases t <;> simp [Token.isKeyword, IsKeyword]

lemma literal?_eq_some : literal? t = some v ↔ IsLiteral v t := by
  constructor
  · intro h
    cases t with
    | quoted text content => cases h; exact .quoted text content
    | number text x => cases h; exact .number text x
    | word text =>
      cases hs : Keyword.null.spelledBy text with
      | true =>
        obtain rfl : v = .null := by simpa [literal?, hs] using h.symm
        exact .null hs
      | false =>
        obtain rfl : v = .text text := by simpa [literal?, hs] using h.symm
        exact .word hs
    | symbol _ => cases h
  · intro h
    cases h with
    | null h | word h => simp [literal?, h]
    | number | quoted => rfl

lemma map_run_eq_ok {α β : Type} {r : Reader α} {f : α → β} {b : β} :
    (f <$> r) ts = .ok (b, rest) ↔ ∃ a, r ts = .ok (a, rest) ∧ f a = b := by
  change r ts >>= (fun p => pure (f p.1, p.2)) = _ ↔ _
  rw [bind_eq_ok]
  constructor
  · rintro ⟨⟨a, mid⟩, hr, hf⟩
    cases hf
    exact ⟨a, hr, rfl⟩
  · rintro ⟨a, hr, rfl⟩
    exact ⟨(a, rest), hr, rfl⟩

lemma keywordOr_eq_ok {fault : StatementFault} {u : Unit} :
    keywordOr fault k ts = .ok (u, rest) ↔ ∃ t, IsKeyword k t ∧ ts = t :: rest := by
  cases ts with
  | nil => simp [keywordOr]
  | cons t ts =>
    by_cases ht : t.isKeyword k = true
    · simp [keywordOr, ht, isKeyword_iff.1 ht]
    · simp [keywordOr, ht, mt isKeyword_iff.2 ht]

lemma keyword_eq_ok {u : Unit} :
    keyword k ts = .ok (u, rest) ↔ ∃ t, IsKeyword k t ∧ ts = t :: rest :=
  keywordOr_eq_ok

lemma keyword?_eq_ok {b : Bool} :
    keyword? k ts = .ok (b, rest) ↔
      (b = true ∧ ∃ t, IsKeyword k t ∧ ts = t :: rest) ∨
        (b = false ∧ ts = rest ∧ ∀ t ∈ ts.head?, ¬ IsKeyword k t) := by
  cases ts with
  | nil => cases b <;> simp [keyword?]
  | cons t ts =>
    by_cases ht : t.isKeyword k = true
    · cases b <;> simp [keyword?, ht, isKeyword_iff.1 ht]
    · cases b <;> simp [keyword?, ht, mt isKeyword_iff.2 ht]

lemma symbol_eq_ok {s : Symbol} {u : Unit} :
    symbol s ts = .ok (u, rest) ↔ ts = .symbol s :: rest := by
  cases ts with
  | nil => simp [symbol]
  | cons t ts => by_cases ht : t = .symbol s <;> simp [symbol, ht]

lemma symbol?_eq_ok {s : Symbol} {b : Bool} :
    symbol? s ts = .ok (b, rest) ↔
      (b = true ∧ ts = .symbol s :: rest) ∨
        (b = false ∧ ts = rest ∧ ts.head? ≠ some (.symbol s)) := by
  cases ts with
  | nil => cases b <;> simp [symbol?]
  | cons t ts => by_cases ht : t = .symbol s <;> cases b <;> simp [symbol?, ht]

lemma name_eq_ok {role : Role} {n : String} :
    name role ts = .ok (n, rest) ↔ ts = .word n :: rest := by
  unfold name
  split <;> simp_all

lemma literal_eq_ok : literal ts = .ok (v, rest) ↔ ∃ t, IsLiteral v t ∧ ts = t :: rest := by
  cases ts with
  | nil => simp [literal]
  | cons t ts =>
    have hhead : (∃ u, IsLiteral v u ∧ t :: ts = u :: rest) ↔ literal? t = some v ∧ ts = rest := by
      simp [literal?_eq_some]
    rw [hhead, literal]
    cases literal? t <;> simp

lemma comparison_eq_ok {c : Comparison} :
    comparison ts = .ok (c, rest) ↔ ts = .symbol (.comparison c) :: rest := by
  unfold comparison
  split <;> simp_all

end Tokens

/-! ### Parts of statements -/

section Parts

variable {α : Type}

lemma accepts_name (role : Role) : Accepts (name role) Names := by
  intro ts n rest h
  exact ⟨[.word n], name_eq_ok.1 h, .word n⟩

lemma accepts_literal : Accepts literal Spelling.read.Denotes := by
  intro ts v rest h
  obtain ⟨t, ht, hts⟩ := literal_eq_ok.1 h
  exact ⟨[t], hts, .one ht⟩

lemma accepts_separated {item : Reader α} {part : List Token → α → Prop}
    (h : Accepts item part) : Accepts (separated item) (Lists part) := by
  have hloop : ∀ rounds, Accepts (separated.loop item rounds) (Lists part) := by
    intro rounds
    induction rounds with
    | zero =>
      intro ts as rest hts
      simp only [separated.loop, bind_run_eq_ok, pure_run_eq_ok] at hts
      obtain ⟨a, _, hitem, rfl, rfl⟩ := hts
      obtain ⟨used, rfl, ha⟩ := h _ _ _ hitem
      exact ⟨used, rfl, .last ha⟩
    | succ rounds ih =>
      intro ts as rest hts
      simp only [separated.loop, bind_run_eq_ok, symbol?_eq_ok] at hts
      obtain ⟨a, _, hitem, _, _, ⟨rfl, rfl⟩ | ⟨rfl, rfl, -⟩, hts⟩ := hts
      · obtain ⟨used, rfl, ha⟩ := h _ _ _ hitem
        obtain ⟨as', _, hloop, hpure⟩ := run_bind hts
        obtain ⟨others, rfl, has⟩ := ih _ _ _ hloop
        cases hpure
        exact ⟨used ++ .symbol .comma :: others, by simp, .more ha has⟩
      · obtain ⟨used, rfl, ha⟩ := h _ _ _ hitem
        cases hts
        exact ⟨used, rfl, .last ha⟩
  exact fun ts => hloop ts.length ts

lemma accepts_columnName : Accepts columnName Refers := by
  intro ts ref rest h
  simp only [columnName, bind_run_eq_ok, name_eq_ok, symbol?_eq_ok] at h
  obtain ⟨first, _, rfl, _, _, ⟨rfl, rfl⟩ | ⟨rfl, rfl, -⟩, h⟩ := h
  · obtain ⟨second, _, hsecond, hpure⟩ := run_bind h
    obtain rfl := name_eq_ok.1 hsecond
    cases hpure
    exact ⟨_, rfl, .qualified first second⟩
  · cases h
    exact ⟨_, rfl, .plain first⟩

lemma accepts_assignment : Accepts assignment Spelling.read.Assigns := by
  intro ts a rest h
  simp only [assignment, bind_run_eq_ok, name_eq_ok, symbol_eq_ok, literal_eq_ok,
    pure_run_eq_ok] at h
  obtain ⟨column, _, rfl, _, _, rfl, v, _, ⟨t, ht, rfl⟩, rfl, rfl⟩ := h
  exact ⟨_, rfl, .mk column ht⟩

lemma accepts_condition : Accepts condition Spelling.read.Compares := by
  intro ts condition rest h
  simp only [Statement.condition, bind_run_eq_ok, comparison_eq_ok, literal_eq_ok,
    pure_run_eq_ok] at h
  obtain ⟨ref, _, rref, c, _, rfl, v, _, ⟨t, ht, rfl⟩, rfl, rfl⟩ := h
  obtain ⟨used, rfl, href⟩ := accepts_columnName _ _ _ rref
  exact ⟨_, by simp, .mk href c ht⟩

lemma accepts_join : Accepts join Spelling.read.Joins := by
  intro ts j rest h
  simp only [join, bind_run_eq_ok, name_eq_ok, keyword_eq_ok, symbol_eq_ok] at h
  obtain ⟨table, _, rfl, _, _, ⟨on, hon, rfl⟩, left, _, rleft, _, _, rfl, right, _, rright, h⟩ := h
  obtain ⟨ls, rfl, hleft⟩ := accepts_columnName _ _ _ rleft
  obtain ⟨rs, rfl, hright⟩ := accepts_columnName _ _ _ rright
  split at h
  · rename_i hqualified
    obtain ⟨ql, qr⟩ := Bool.and_eq_true_iff.1 hqualified
    cases h
    exact ⟨_, by simp, .mk table hon hleft hright ql qr⟩
  · cases h

lemma accepts_join? : Accepts join? Spelling.read.MayJoin := by
  intro ts j rest h
  simp only [join?, bind_run_eq_ok, keyword?_eq_ok] at h
  obtain ⟨_, _, ⟨rfl, i, hi, rfl⟩ | ⟨rfl, rfl, -⟩, h⟩ := h
  · simp only [if_true, bind_run_eq_ok, keyword_eq_ok, pure_run_eq_ok] at h
    obtain ⟨_, _, ⟨k, hk, rfl⟩, other, _, rother, rfl, rfl⟩ := h
    obtain ⟨used, rfl, hother⟩ := accepts_join _ _ _ rother
    exact ⟨_, rfl, .inner hi hk hother⟩
  · simp only [Bool.false_eq_true, if_false, bind_run_eq_ok, keyword?_eq_ok] at h
    obtain ⟨_, _, ⟨rfl, k, hk, rfl⟩ | ⟨rfl, rfl, -⟩, h⟩ := h
    · obtain ⟨other, _, rother, hpure⟩ := run_bind h
      obtain ⟨used, rfl, hother⟩ := accepts_join _ _ _ rother
      cases hpure
      exact ⟨_, rfl, .join hk hother⟩
    · cases h
      exact ⟨[], rfl, .nothing⟩

end Parts

/-! ### Statements -/

section Statements

lemma accepts_readInsert : Accepts readInsert Spelling.read.Derives := by
  intro ts s rest h
  simp only [readInsert, bind_run_eq_ok, keyword_eq_ok, name_eq_ok, symbol_eq_ok] at h
  obtain ⟨_, _, ⟨insert, hinsert, rfl⟩, _, _, ⟨into, hinto, rfl⟩, table, _, rfl, _, _, rfl,
    columns, _, rcolumns, _, _, rfl, _, _, ⟨values, hvalues, rfl⟩, _, _, rfl,
    literals, _, rliterals, _, _, rfl, h⟩ := h
  obtain ⟨cs, rfl, hcolumns⟩ := accepts_separated (accepts_name _) _ _ _ rcolumns
  obtain ⟨vs, rfl, hliterals⟩ := accepts_separated accepts_literal _ _ _ rliterals
  split at h
  · rename_i hlength
    cases h
    exact ⟨_, by simp, .insert table hinsert hinto hcolumns hvalues hliterals hlength⟩
  · cases h

/-- What comes after the columns of a query. -/
lemma accepts_afterColumns (columns : Option (List ColumnName)) :
    Accepts (do
      keyword .from
      let table ← name .table
      let other ← join?
      if ← keyword? .where then
        return Statement.select table columns other (some (← condition))
      else return Statement.select table columns other none)
      fun used s => ∃ from' table js ws join condition, used = from' :: .word table :: js ++ ws ∧
        IsKeyword .from from' ∧ Spelling.read.MayJoin js join ∧
        Spelling.read.MayCompare ws condition ∧
        s = Statement.select table columns join condition := by
  intro ts s rest h
  simp only [bind_run_eq_ok, keyword_eq_ok, name_eq_ok, keyword?_eq_ok] at h
  obtain ⟨_, _, ⟨from', hfrom, rfl⟩, table, _, rfl, other, _, rother, _, _, hwhere, h⟩ := h
  obtain ⟨js, rfl, hother⟩ := accepts_join? _ _ _ rother
  rcases hwhere with ⟨rfl, k, hk, rfl⟩ | ⟨rfl, rfl, -⟩
  · obtain ⟨c, _, rc, hpure⟩ := run_bind h
    obtain ⟨ws, rfl, hc⟩ := accepts_condition _ _ _ rc
    cases hpure
    exact ⟨_, by simp, from', table, js, _, _, _, rfl, hfrom, hother, .where hk hc, rfl⟩
  · cases h
    exact ⟨_, by simp, from', table, js, [], _, _, rfl, hfrom, hother, .nothing, rfl⟩

lemma accepts_readSelect : Accepts readSelect Spelling.read.Derives := by
  intro ts s rest h
  simp only [readSelect, bind_run_eq_ok, keyword_eq_ok, symbol?_eq_ok] at h
  obtain ⟨_, _, ⟨select, hselect, rfl⟩, _, _, ⟨rfl, rfl⟩ | ⟨rfl, rfl, -⟩, h⟩ := h
  · obtain ⟨_, rfl, from', table, js, ws, _, _, rfl, hfrom, hj, hw, rfl⟩ :=
      accepts_afterColumns none _ _ _ h
    exact ⟨_, by simp, .select table hselect .star hfrom hj hw⟩
  · obtain ⟨_, _, rcolumns, hrest⟩ := run_bind h
    obtain ⟨refs, rrefs, rfl⟩ := map_run_eq_ok.1 rcolumns
    obtain ⟨ss, rfl, hrefs⟩ := accepts_separated accepts_columnName _ _ _ rrefs
    obtain ⟨_, rfl, from', table, js, ws, _, _, rfl, hfrom, hj, hw, rfl⟩ :=
      accepts_afterColumns (some refs) _ _ _ hrest
    exact ⟨_, by simp, .select table hselect (.columns hrefs) hfrom hj hw⟩

lemma accepts_readUpdate : Accepts readUpdate Spelling.read.Derives := by
  intro ts s rest h
  simp only [readUpdate, bind_run_eq_ok, keyword_eq_ok, keywordOr_eq_ok, name_eq_ok,
    pure_run_eq_ok] at h
  obtain ⟨_, _, ⟨update, hupdate, rfl⟩, table, _, rfl, _, _, ⟨set, hset, rfl⟩,
    assignments, _, rassignments, _, _, ⟨where', hwhere, rfl⟩, c, _, rc, rfl, rfl⟩ := h
  obtain ⟨as, rfl, has⟩ := accepts_separated accepts_assignment _ _ _ rassignments
  obtain ⟨cs, rfl, hc⟩ := accepts_condition _ _ _ rc
  exact ⟨_, by simp, .update table hupdate hset has hwhere hc⟩

lemma accepts_readDelete : Accepts readDelete Spelling.read.Derives := by
  intro ts s rest h
  simp only [readDelete, bind_run_eq_ok, keyword_eq_ok, keywordOr_eq_ok, name_eq_ok,
    pure_run_eq_ok] at h
  obtain ⟨_, _, ⟨delete, hdelete, rfl⟩, _, _, ⟨from', hfrom, rfl⟩, table, _, rfl,
    _, _, ⟨where', hwhere, rfl⟩, c, _, rc, rfl, rfl⟩ := h
  obtain ⟨cs, rfl, hc⟩ := accepts_condition _ _ _ rc
  exact ⟨_, by simp, .delete table hdelete hfrom hwhere hc⟩

lemma accepts_readCreateIndex : Accepts readCreateIndex Spelling.read.Derives := by
  intro ts s rest h
  simp only [readCreateIndex, bind_run_eq_ok, keyword_eq_ok, name_eq_ok, symbol_eq_ok,
    pure_run_eq_ok] at h
  obtain ⟨_, _, ⟨create, hcreate, rfl⟩, _, _, ⟨index, hindex, rfl⟩, n, _, rfl,
    _, _, ⟨on, hon, rfl⟩, table, _, rfl, _, _, rfl, column, _, rfl, _, _, rfl, rfl, rfl⟩ := h
  exact ⟨_, rfl, .createIndex n table column hcreate hindex hon⟩

lemma accepts_readShowTables : Accepts readShowTables Spelling.read.Derives := by
  intro ts s rest h
  simp only [readShowTables, bind_run_eq_ok, keyword_eq_ok, pure_run_eq_ok] at h
  obtain ⟨_, _, ⟨show', hshow, rfl⟩, _, _, ⟨tables, htables, rfl⟩, rfl, rfl⟩ := h
  exact ⟨_, rfl, .showTables hshow htables⟩

lemma accepts_readDescribe : Accepts readDescribe Spelling.read.Derives := by
  intro ts s rest h
  simp only [readDescribe, bind_run_eq_ok, keyword_eq_ok, name_eq_ok, pure_run_eq_ok] at h
  obtain ⟨_, _, ⟨describe, hdescribe, rfl⟩, table, _, rfl, rfl, rfl⟩ := h
  exact ⟨_, rfl, .describe table hdescribe⟩

lemma accepts_read {kind : Kind} (hkind : kind ≠ .createTable) :
    Accepts (read kind) Spelling.read.Derives := by
  cases kind with
  | createTable => exact absurd rfl hkind
  | insert => exact accepts_readInsert
  | select => exact accepts_readSelect
  | update => exact accepts_readUpdate
  | delete => exact accepts_readDelete
  | createIndex => exact accepts_readCreateIndex
  | showTables => exact accepts_readShowTables
  | describe => exact accepts_readDescribe

/-- After a statement there is a semicolon at most. -/
lemma finish_eq_ok {ts rest : List Token} {u : Unit} :
    finish ts = .ok (u, rest) ↔ Ends ts ∧ rest = [] := by
  simp only [finish, bind_run_eq_ok, symbol?_eq_ok]
  constructor
  · rintro ⟨b, mid, hsymbol, h⟩
    cases mid with
    | cons t ts => cases h
    | nil =>
      cases h
      rcases hsymbol with ⟨-, rfl⟩ | ⟨-, rfl, -⟩
      · exact ⟨.inr rfl, rfl⟩
      · exact ⟨.inl rfl, rfl⟩
  · rintro ⟨rfl | rfl, rfl⟩
    · exact ⟨false, [], .inr ⟨rfl, rfl, by simp⟩, rfl⟩
    · exact ⟨true, [], .inl ⟨rfl, rfl⟩, rfl⟩

lemma ofTokens_eq_ok_iff {kind : Kind} {ts : List Token} {s : Statement} :
    ofTokens kind ts = .ok s ↔ ∃ rest, read kind ts = .ok (s, rest) ∧ Ends rest := by
  have hrun : ofTokens kind ts = .ok s ↔ ∃ rest, (do
      let statement ← read kind
      finish
      return statement : Reader Statement) ts = .ok (s, rest) := by
    constructor
    · intro h
      obtain ⟨⟨found, rest⟩, hfound, hs⟩ := bind_eq_ok.1 h
      cases hs
      exact ⟨rest, hfound⟩
    · rintro ⟨rest, h⟩
      exact bind_eq_ok.2 ⟨(s, rest), h, rfl⟩
  rw [hrun]
  simp only [bind_run_eq_ok, finish_eq_ok, pure_run_eq_ok]
  constructor
  · rintro ⟨rest, _, mid, hread, _, _, ⟨hends, rfl⟩, rfl, rfl⟩
    exact ⟨mid, hread, hends⟩
  · rintro ⟨mid, hread, hends⟩
    exact ⟨[], s, mid, hread, (), [], ⟨hends, rfl⟩, rfl, rfl⟩

lemma parse_eq_ok {command : String} {s : Statement} :
    parse command = .ok s ↔ ∃ kind placed, Kind.ofCommand command = .ok kind ∧
      Token.scan (Text.trimmed command) = .ok placed ∧
      ofTokens kind (placed.map (·.token)) = .ok s := by
  constructor
  · intro h
    obtain ⟨kind, hkind, h⟩ := bind_eq_ok.1 h
    split at h
    · cases h
    · cases h
    · rename_i placed hscan
      exact ⟨kind, placed, hkind, hscan, mapError_eq_ok.1 h⟩
  · rintro ⟨kind, placed, hkind, hscan, h⟩
    refine bind_eq_ok.2 ⟨kind, hkind, ?_⟩
    rw [hscan]
    exact mapError_eq_ok.2 h

/-- The tokens of a command are those of its statement, and a semicolon at most. -/
lemma exists_derives {command : String} {s : Statement} (h : parse command = .ok s)
    (hkind : s.kind ≠ .createTable) :
    ∃ placed used rest, Token.scan (Text.trimmed command) = .ok placed ∧
      placed.map (·.token) = used ++ rest ∧ Spelling.read.Derives used s ∧ Ends rest := by
  obtain ⟨kind, placed, -, hscan, h⟩ := parse_eq_ok.1 h
  obtain ⟨rest, hread, hends⟩ := ofTokens_eq_ok_iff.1 h
  obtain rfl : s.kind = kind := returns_read kind _ _ _ hread
  obtain ⟨used, htokens, hs⟩ := accepts_read hkind _ _ _ hread
  exact ⟨placed, used, rest, hscan, htokens, hs, hends⟩

end Statements

/-- An update and a deletion end in a condition after WHERE. -/
lemma Spelling.Derives.where_of_kind {σ : Spelling} {ts : List Token} {s : Statement}
    (h : σ.Derives ts s) (hs : s.kind = .update ∨ s.kind = .delete) :
    ∃ before where' cs c, ts = before ++ where' :: cs ∧ σ.keyword .where where' ∧
      σ.Compares cs c := by
  cases h with
  | createTable | insert | select | createIndex | showTables | describe => simp [kind] at hs
  | update table h₁ h₂ ha h₃ hc => exact ⟨_, _, _, _, rfl, h₃, hc⟩
  | delete table h₁ h₂ h₃ hc => exact ⟨[_, _, _], _, _, _, rfl, h₃, hc⟩

/-- An update assigns to a column the last value that is given for it. -/
lemma Spelling.Derives.last_of_update {σ : Spelling} {ts : List Token} {table : String}
    {as : List (String × Value)} {c : Condition} (h : σ.Derives ts (.update table as c)) :
    ∃ us given, us <:+: ts ∧ Lists σ.Assigns us given ∧ ∀ column,
      Keyed.find? as column = (given.reverse.find? fun a => a.1 == column).map (·.2) := by
  cases h with
  | @update u k w us cs given c table h₁ h₂ ha h₃ hc =>
    exact ⟨us, given, ⟨[u, .word table, k], w :: cs, by simp⟩, ha, Keyed.find?_ofList given⟩

/-- **Only what the grammar derives is read.** The tokens of a command, blanks at its ends aside,
are those of a derivation of its statement, and nothing but a semicolon may come after them. So an
update or a deletion has a condition, and of several values for one column an update takes the
last. -/
theorem parse_derives {command : String} {s : Statement} (h : parse command = .ok s)
    (hkind : s.kind ≠ .createTable) :
    ∃ placed used rest, Token.scan (Text.trimmed command) = .ok placed ∧
      placed.map (·.token) = used ++ rest ∧
      Spelling.read.Derives used s ∧ (rest = [] ∨ rest = [.symbol .semicolon]) ∧
      (s.kind = .update ∨ s.kind = .delete →
        ∃ before where' cs c, used = before ++ where' :: cs ∧ IsKeyword .where where' ∧
          Spelling.read.Compares cs c) ∧
      (∀ table as c, s = .update table as c →
        ∃ us given, us <:+: used ∧ Lists Spelling.read.Assigns us given ∧ ∀ column,
          Keyed.find? as column = (given.reverse.find? fun a => a.1 == column).map (·.2)) := by
  obtain ⟨placed, used, rest, hscan, htokens, hs, hends⟩ := exists_derives h hkind
  refine ⟨placed, used, rest, hscan, htokens, hs, hends, hs.where_of_kind, ?_⟩
  rintro table as c rfl
  exact hs.last_of_update

theorem parse_derives_update :
    ∃ placed used rest,
      Token.scan (Text.trimmed " update t SET a = 1, a = nUll WHERE t.b >= 'it''s';\n") =
        .ok placed ∧
      placed.map (·.token) = used ++ rest ∧
      Spelling.read.Derives used
        (.update "t" [("a", .null)] ⟨⟨some "t", "b"⟩, .atLeast, .text "it's"⟩) ∧
      (rest = [] ∨ rest = [.symbol .semicolon]) := by
  have hparse : parse " update t SET a = 1, a = nUll WHERE t.b >= 'it''s';\n" =
      .ok (.update "t" [("a", .null)] ⟨⟨some "t", "b"⟩, .atLeast, .text "it's"⟩) := by
    cbv
  obtain ⟨placed, used, rest, hscan, htokens, hs, hends, -, -⟩ :=
    parse_derives hparse (by decide)
  exact ⟨placed, used, rest, hscan, htokens, hs, hends⟩

end Tabula.Statement

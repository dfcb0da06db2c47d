import Tabula.Proofs.Statement.Groups

/-!
The columns that a CREATE TABLE declares, whatever stands in parentheses.

Between the parentheses of the statement the tokens are balanced. The commas that stand in no group
part them into segments, and every segment declares one column: a name, a type that may be missing
or be followed by a group, and the tokens that mark the column. Of these only those outside all
groups count. So other tokens inside a group leave the columns as they are; only the text of a type
holds the tokens of the group behind it.
-/

namespace Tabula.Statement

/-! ### The definition of a column -/

section Definitions

variable {ts ms rest inner : List Token} {t : Token} {type : String} {c : ColumnDeclaration}

/-- A word that is a type where one may stand. -/
def IsTypeWord (word : String) : Prop :=
  Keyword.primary.spelledBy word = false ∧ Keyword.unique.spelledBy word = false

/-- The tokens after the type mark a column as its primary key if PRIMARY and KEY stand side by
side among those in no group, and as unique if UNIQUE is one of them. -/
structure Marks (ms : List Token) (c : ColumnDeclaration) : Prop where
  primaryKey : c.primaryKey = true ↔
    ∃ p k, [p, k] <:+: topLevel 0 ms ∧ IsKeyword .primary p ∧ IsKeyword .key k
  unique : c.unique = true ↔ ∃ u ∈ topLevel 0 ms, IsKeyword .unique u

/-- A name, a type, and what marks the column. The type may be missing, or be a word, or be a word
with a group behind it, which it takes the text of. -/
inductive Defines : List Token → ColumnDeclaration → Prop
  | untyped {ms : List Token} {c : ColumnDeclaration} (hm : Marks ms c)
    (hms : ∀ t ∈ ms.head?, IsKeyword .primary t ∨ IsKeyword .unique t) (ht : c.declared = "") :
    Defines (.word c.name :: ms) c
  | typed {ms : List Token} {c : ColumnDeclaration} (hm : Marks ms c)
    (hms : NotSymbol .opening ms) (ht : IsTypeWord c.declared) :
    Defines (.word c.name :: .word c.declared :: ms) c
  | grouped {word : String} {inner ms : List Token} {c : ColumnDeclaration} (hm : Marks ms c)
    (hinner : Balanced inner) (hword : IsTypeWord word)
    (ht : c.declared = word ++ "(" ++ (textOf inner ++ ")")) :
    Defines (.word c.name :: .word word :: group inner ms) c

lemma Marks.congr {us : List Token} (h : Marks ms c) (hus : topLevel 0 us = topLevel 0 ms)
    (type : String) : Marks us { c with declared := type } := by
  obtain ⟨hprimaryKey, hunique⟩ := h
  rw [← hus] at hprimaryKey hunique
  exact ⟨hprimaryKey, hunique⟩

lemma marksPrimaryKey_iff : marksPrimaryKey ts = true ↔
    ∃ p k, [p, k] <:+: ts ∧ IsKeyword .primary p ∧ IsKeyword .key k := by
  induction ts with
  | nil => simp [marksPrimaryKey]
  | cons t ts ih =>
    cases ts with
    | nil => simp [marksPrimaryKey, List.infix_cons_iff]
    | cons u ts =>
      simp only [marksPrimaryKey, Bool.or_eq_true, Bool.and_eq_true, isKeyword_iff, ih]
      constructor
      · rintro (⟨ht, hu⟩ | ⟨p, k, h, hp, hk⟩)
        · exact ⟨t, u, ⟨[], ts, rfl⟩, ht, hu⟩
        · exact ⟨p, k, h.trans (List.suffix_cons t _).isInfix, hp, hk⟩
      · rintro ⟨p, k, h, hp, hk⟩
        rcases List.infix_cons_iff.1 h with h | h
        · obtain ⟨rfl, rfl⟩ : p = t ∧ k = u := by simpa [List.cons_prefix_cons] using h
          exact .inl ⟨hp, hk⟩
        · exact .inr ⟨p, k, h, hp, hk⟩

lemma marks_topLevel (ms : List Token) (name declared : String) : Marks ms ⟨name, declared,
    marksPrimaryKey (topLevel 0 ms), (topLevel 0 ms).any (·.isKeyword .unique)⟩ :=
  ⟨marksPrimaryKey_iff, by simp [isKeyword_iff]⟩

lemma Marks.eq (h : Marks ms c) : c = ⟨c.name, c.declared, marksPrimaryKey (topLevel 0 ms),
    (topLevel 0 ms).any (·.isKeyword .unique)⟩ := by
  have hprimaryKey : c.primaryKey = marksPrimaryKey (topLevel 0 ms) :=
    Bool.eq_iff_iff.2 (h.primaryKey.trans marksPrimaryKey_iff.symm)
  have hunique : c.unique = (topLevel 0 ms).any (·.isKeyword .unique) := by
    rw [Bool.eq_iff_iff, h.unique]
    simp [isKeyword_iff]
  rw [← hprimaryKey, ← hunique]

lemma isTypeWord_iff {word : String} : IsTypeWord word ↔ ¬ EndsType (.word word) := by
  simp [IsTypeWord, endsType_iff, Token.isKeyword]

lemma columnType_eq_ok : columnType ts = .ok (type, rest) ↔
    (type = "" ∧ ts = rest ∧ ∃ t ∈ ts.head?, EndsType t) ∨
    (IsTypeWord type ∧ ts = .word type :: rest ∧ NotSymbol .opening rest) ∨
    ∃ word inner, IsTypeWord word ∧ Balanced inner ∧ type = word ++ "(" ++ (textOf inner ++ ")") ∧
      ts = .word word :: group inner rest := by
  cases ts with
  | nil => simp [columnType]
  | cons t ts =>
    rw [columnType]
    by_cases ht : EndsType t
    · have hword (word : String) (hword : IsTypeWord word) : t ≠ .word word := by
        rintro rfl
        exact isTypeWord_iff.1 hword ht
      rw [if_pos (endsType_iff.1 ht)]
      constructor
      · rintro ⟨⟩
        exact .inl ⟨rfl, rfl, t, rfl, ht⟩
      · rintro (⟨rfl, rfl, -⟩ | ⟨h, hts, -⟩ | ⟨word, inner, h, -, -, hts⟩)
        · rfl
        · exact absurd (List.cons.inj hts).1 (hword _ h)
        · exact absurd (List.cons.inj hts).1 (hword _ h)
    · rw [if_neg (mt endsType_iff.2 ht)]
      simp only [bind_run_eq_ok, name_eq_ok, symbol?_eq_ok]
      constructor
      · rintro ⟨word, _, hts, _, _, ⟨rfl, rfl⟩ | ⟨rfl, rfl, hopening⟩, h⟩
        · cases hts
          obtain ⟨text, _, hgroup, hp⟩ := run_bind h
          cases hp
          obtain ⟨inner, rfl, hinner, rfl⟩ := groupText_sound hgroup
          exact .inr (.inr ⟨word, inner, isTypeWord_iff.2 ht, hinner, rfl, rfl⟩)
        · cases hts
          cases h
          exact .inr (.inl ⟨isTypeWord_iff.2 ht, rfl, hopening⟩)
      · rintro (⟨-, -, u, hu, hends⟩ | ⟨-, hts, hopening⟩ | ⟨word, inner, -, hinner, rfl, hts⟩)
        · cases hu
          exact absurd hends ht
        · exact ⟨type, rest, hts, false, rest, .inr ⟨rfl, rfl, hopening⟩, rfl⟩
        · exact ⟨word, _, hts, true, _, .inl ⟨rfl, rfl⟩,
            bind_run_eq_ok.2 ⟨_, _, groupText_complete hinner, rfl⟩⟩

/-- What `modifiers` has taken. -/
lemma modifiers_eq_ok {found : List Token} : modifiers 0 ts = .ok (found, rest) ↔
    ∃ used, ts = used ++ rest ∧ Whole used ∧ topLevel 0 used = found ∧ AfterDeclaration rest := by
  constructor
  · intro h
    obtain ⟨used, rfl, hopen, rfl, hcomma, hrest⟩ := modifiers_sound h
    exact ⟨used, rfl, ⟨hopen, hcomma⟩, rfl, hrest⟩
  · rintro ⟨used, rfl, ⟨hopen, hcomma⟩, rfl, hrest⟩
    exact modifiers_complete hopen hcomma hrest

lemma Whole.starts_with_mark (h : Whole ms) (hends : ∃ t ∈ (ms ++ rest).head?, EndsType t) :
    ∀ t ∈ ms.head?, IsKeyword .primary t ∨ IsKeyword .unique t := by
  intro t ht
  obtain ⟨ms, rfl⟩ : ∃ us, ms = t :: us := by
    cases ms with
    | nil => cases ht
    | cons u us => exact ⟨us, by simpa using ht⟩
  obtain ⟨_, ⟨⟩, hprimary | hunique | rfl | rfl⟩ := hends
  · exact .inl hprimary
  · exact .inr hunique
  · exact absurd List.mem_cons_self h.2
  · cases h.1

lemma endsType_of_mark (hms : ∀ t ∈ ms.head?, IsKeyword .primary t ∨ IsKeyword .unique t)
    (hrest : AfterDeclaration rest) : ∃ t ∈ (ms ++ rest).head?, EndsType t := by
  cases ms with
  | nil =>
    rcases hrest with h | h
    · exact ⟨_, h, .inr (.inr (.inl rfl))⟩
    · exact ⟨_, h, .inr (.inr (.inr rfl))⟩
  | cons t ms => exact ⟨t, rfl, (hms t rfl).elim .inl fun h => .inr (.inl h)⟩

lemma NotSymbol.of_append {s : Symbol} (h : NotSymbol s (ms ++ rest)) : NotSymbol s ms := by
  cases ms with
  | nil => simp [NotSymbol]
  | cons t ms => exact h

/-- Tokens that define a column, with no comma outside all groups. -/
abbrev IsDefinition (ts : List Token) (c : ColumnDeclaration) : Prop := Defines ts c ∧ Whole ts

lemma accepts_columnDeclaration : Accepts columnDeclaration IsDefinition := by
  intro ts c rest h
  simp only [columnDeclaration, bind_run_eq_ok, name_eq_ok, columnType_eq_ok, modifiers_eq_ok,
    pure_run_eq_ok] at h
  obtain ⟨name, _, rfl, type, _, htype, _, _, ⟨ms, rfl, hms, rfl, hrest⟩, rfl, rfl⟩ := h
  have hmarks := marks_topLevel ms name type
  rcases htype with ⟨rfl, rfl, hends⟩ | ⟨htype, rfl, hopening⟩ |
    ⟨word, inner, hword, hinner, rfl, rfl⟩
  · exact ⟨.word name :: ms, rfl, .untyped hmarks (hms.starts_with_mark hends) rfl,
      whole_word.2 hms⟩
  · exact ⟨.word name :: .word type :: ms, rfl, .typed hmarks hopening.of_append htype,
      whole_word.2 (whole_word.2 hms)⟩
  · exact ⟨.word name :: .word word :: group inner ms,
      by simp, .grouped hmarks hinner hword rfl,
      whole_word.2 (whole_word.2 ((whole_group hinner).2 hms))⟩

lemma completes_definition : Completes columnDeclaration IsDefinition AfterDeclaration := by
  rintro ts c rest ⟨hc, hts⟩ hrest
  simp only [columnDeclaration, bind_run_eq_ok, name_eq_ok, columnType_eq_ok, modifiers_eq_ok,
    pure_run_eq_ok]
  cases hc with
  | @untyped ms c hmarks hms ht =>
    refine ⟨c.name, ms ++ rest, rfl, c.declared, ms ++ rest,
      .inl ⟨ht, rfl, endsType_of_mark hms hrest⟩, _, rest,
      ⟨ms, rfl, whole_word.1 hts, rfl, hrest⟩, hmarks.eq.symm, rfl⟩
  | @typed ms c hmarks hms ht =>
    refine ⟨c.name, .word c.declared :: (ms ++ rest), rfl, c.declared, ms ++ rest,
      .inr (.inl ⟨ht, rfl, ?_⟩), _, rest,
      ⟨ms, rfl, whole_word.1 (whole_word.1 hts), rfl, hrest⟩, hmarks.eq.symm, rfl⟩
    cases ms with
    | nil => rcases hrest with h | h <;> simp [NotSymbol, h]
    | cons t ms => exact hms
  | @grouped word inner ms c hmarks hinner hword ht =>
    refine ⟨c.name, _, rfl, c.declared, ms ++ rest,
      .inr (.inr ⟨word, inner, hword, hinner, ht, by simp⟩), _, rest,
      ⟨ms, rfl, (whole_group hinner).1 (whole_word.1 (whole_word.1 hts)), rfl, hrest⟩,
      hmarks.eq.symm, rfl⟩

end Definitions

/-! ### Segments as lists -/

section Lists

variable {body : List Token} {R : List Token → ColumnDeclaration → Prop}

lemma segments_of_lists {columns : List ColumnDeclaration}
    (h : Lists (fun ts c => R ts c ∧ Whole ts) body columns) :
    Balanced body ∧ List.Forall₂ R (segments 0 body) columns := by
  induction h with
  | last h =>
    rw [segments_eq_singleton h.2.1 h.2.2]
    exact ⟨h.2.1, .cons h.1 .nil⟩
  | more h _ ih =>
    refine ⟨?_, ?_⟩
    · rw [Balanced, openAfter_append h.2.1]
      exact ih.1
    · rw [h.2.segments_comma]
      exact .cons h.1 ih.2

lemma lists_of_segments {columns : List ColumnDeclaration} (hbody : Balanced body)
    (h : List.Forall₂ R (segments 0 body) columns) :
    Lists (fun ts c => R ts c ∧ Whole ts) body columns := by
  induction hn : body.length using Nat.strong_induction_on generalizing body columns with
  | _ n ih => ?_
  subst hn
  rcases exists_first_segment hbody with hcomma | ⟨first, more, rfl, hfirst, hcomma, hmore⟩
  · rw [segments_eq_singleton hbody hcomma] at h
    cases h with
    | cons hc h =>
      cases h
      exact .last ⟨hc, hbody, hcomma⟩
  · rw [Whole.segments_comma ⟨hfirst, hcomma⟩] at h
    cases h with
    | cons hc h =>
      have hlt : more.length < (first ++ .symbol .comma :: more).length := by simp; omega
      exact .more ⟨hc, hfirst, hcomma⟩ (ih _ hlt hmore h rfl)

end Lists

/-! ### Other tokens in a group -/

section Replacement

variable {x inner inner' u v : List Token} {c : ColumnDeclaration}

/-- What comes next in a definition is the group behind the word that is its type. -/
def AtType (u : List Token) : Prop :=
  ∃ name word, IsTypeWord word ∧ u = [.word name, .word word]

/-- What comes next in a definition stands in the group behind the word that is its type. -/
def InType (u : List Token) : Prop :=
  ∃ name word w d, IsTypeWord word ∧ u = .word name :: .word word :: .symbol .opening :: w ∧
    openAfter 0 w = some d

lemma Marks.group (h : Marks (x ++ Statement.group inner v) c) (hinner : Balanced inner)
    (hinner' : Balanced inner') (type : String) :
    Marks (x ++ Statement.group inner' v) { c with declared := type } := by
  exact h.congr (topLevel_append_congr fun e =>
    (hinner'.topLevel_group e).trans (hinner.topLevel_group e).symm) type

/-- Other tokens in a group of a definition change no more than the type, and that only if the group
belongs to it. -/
lemma Defines.group (h : Defines (u ++ Statement.group inner v) c) (hinner : Balanced inner)
    (hinner' : Balanced inner') :
    ∃ type, Defines (u ++ Statement.group inner' v) { c with declared := type } ∧
      (¬ AtType u → ¬ InType u → type = c.declared) := by
  generalize hts : u ++ Statement.group inner v = ts at h
  cases h with
  | @untyped ms c hm hms ht =>
    cases u with
    | nil => cases hts
    | cons t x =>
      obtain ⟨rfl, rfl⟩ := List.cons.inj hts
      refine ⟨c.declared, .untyped (hm.group hinner hinner' _) ?_ ht, fun _ _ => rfl⟩
      cases x with
      | nil => exact absurd rfl ((hms _ rfl).elim (·.ne_symbol .opening) (·.ne_symbol .opening))
      | cons t x => exact hms
  | @typed ms c hm hms ht =>
    rcases u with _ | ⟨t, _ | ⟨t', x⟩⟩
    · cases hts
    · cases hts
    · obtain ⟨rfl, htail⟩ := List.cons.inj hts
      obtain ⟨rfl, rfl⟩ := List.cons.inj htail
      refine ⟨c.declared, .typed (hm.group hinner hinner' _) ?_ ht, fun _ _ => rfl⟩
      cases x with
      | nil => simp [NotSymbol] at hms
      | cons t x => exact hms
  | @grouped word inner₀ ms c hm hinner₀ hword ht =>
    rcases u with _ | ⟨t, _ | ⟨t', x⟩⟩
    · cases hts
    · cases hts
    · obtain ⟨rfl, htail⟩ := List.cons.inj hts
      obtain ⟨rfl, hx⟩ := List.cons.inj htail
      cases x with
      | nil =>
        obtain ⟨rfl, rfl⟩ := group_inj hinner hinner₀ hx
        exact ⟨_, .grouped (c := { c with declared := word ++ "(" ++ (textOf inner' ++ ")") })
          (hm.congr rfl _) hinner' hword rfl,
          fun hat _ => absurd ⟨_, _, hword, rfl⟩ hat⟩
      | cons t w =>
        obtain ⟨rfl, hw⟩ := List.cons.inj hx
        rcases List.append_eq_append_iff.1 hw with ⟨a, rfl, ha⟩ | ⟨a, rfl, ha⟩
        · -- the group lies in that of the type
          obtain ⟨d, hd⟩ := exists_openAfter hinner₀
          have hopen : openAfter d a = some 0 := by rwa [Balanced, openAfter_append hd] at hinner₀
          obtain ⟨y, rfl, rfl⟩ := group_of_prefix hopen (by rintro rfl; cases ha) hinner ha.symm
          have hbalanced : Balanced (w ++ Statement.group inner' y) := by
            rw [Balanced, openAfter_append hd, hinner'.openAfter_group]
            rwa [hinner.openAfter_group] at hopen
          have hnew := Defines.grouped (c := { c with
            declared := word ++ "(" ++ (textOf (w ++ Statement.group inner' y) ++ ")") })
            (hm.congr rfl _) hbalanced hword rfl
          exact ⟨_, by simpa [Statement.group] using hnew,
            fun _ hin => absurd ⟨_, _, w, d, hword, rfl, hd⟩ hin⟩
        · -- the group comes after that of the type
          cases a with
          | nil => cases ha
          | cons t y =>
            obtain ⟨rfl, rfl⟩ := List.cons.inj ha
            have hnew := Defines.grouped (hm.group hinner hinner' c.declared) hinner₀ hword ht
            exact ⟨c.declared, by simpa [Statement.group] using hnew, fun _ _ => rfl⟩

end Replacement

/-! ### The statement -/

section Statements

variable {ts rest body pre inner post : List Token} {s : Statement} {name : String}
  {create table : Token} {columns : List ColumnDeclaration}

lemma forall₂_append_cons {α β : Type} {R : α → β → Prop} {as bs : List α} {a : α} {cs : List β}
    (h : List.Forall₂ R (as ++ a :: bs) cs) :
    ∃ ds c es, cs = ds ++ c :: es ∧ List.Forall₂ R as ds ∧ R a c ∧ List.Forall₂ R bs es := by
  induction as generalizing cs with
  | nil =>
    cases h with
    | cons hc h => exact ⟨[], _, _, rfl, .nil, hc, h⟩
  | cons b as ih =>
    cases h with
    | cons hb h =>
      obtain ⟨ds, c, es, rfl, hds, hc, hes⟩ := ih h
      exact ⟨_ :: ds, c, es, rfl, .cons hb hds, hc, hes⟩

/-- What is read as CREATE TABLE, as a segment for every column. -/
lemma ofTokens_createTable_iff : ofTokens .createTable ts = .ok s ↔
    ∃ create table name body rest columns,
      ts = create :: table :: .word name :: group body rest ∧
      IsKeyword .create create ∧ IsKeyword .table table ∧ Balanced body ∧ Ends rest ∧
      List.Forall₂ Defines (segments 0 body) columns ∧ columns.countP (·.primaryKey) ≤ 1 ∧
      s = .createTable name columns := by
  simp only [ofTokens_eq_ok_iff, read, readCreateTable, bind_run_eq_ok, keyword_eq_ok, name_eq_ok,
    symbol_eq_ok]
  constructor
  · rintro ⟨rest, ⟨_, _, ⟨create, hcreate, rfl⟩, _, _, ⟨table, htable, rfl⟩, name, _, rfl, _, _,
      rfl, columns, _, hcolumns, _, _, rfl, h⟩, hends⟩
    obtain ⟨body, rfl, hlists⟩ := accepts_separated accepts_columnDeclaration _ _ _ hcolumns
    obtain ⟨hbody, hdefines⟩ := segments_of_lists hlists
    split at h
    · cases h
    · rename_i hkeys
      cases h
      exact ⟨create, table, name, body, rest, columns, rfl, hcreate, htable, hbody, hends, hdefines,
        Nat.not_lt.1 hkeys, rfl⟩
  · rintro ⟨create, table, name, body, rest, columns, rfl, hcreate, htable, hbody, hends, hdefines,
      hkeys, rfl⟩
    have hcolumns := completes_separated completes_definition (fun _ => .inl rfl) _ _
      (.symbol .closing :: rest) (lists_of_segments hbody hdefines) ⟨.inr rfl, by simp [NotSymbol]⟩
    refine ⟨rest, ⟨(), _, ⟨create, hcreate, rfl⟩, (), _, ⟨table, htable, rfl⟩, name, _, rfl, (), _,
      rfl, columns, _, hcolumns, (), _, rfl, ?_⟩, hends⟩
    rw [if_neg (Nat.not_lt.2 hkeys)]
    rfl

/-- **What stands in parentheses leaves the columns as they are.** A CREATE TABLE declares one
column for every segment between the commas outside all groups, in order, as `Defines` says. Other
balanced tokens in a group within the definitions change no more than the type of the column they
stand in, and that only if the group is behind its type or lies in the group that is. -/
theorem columns_of_segments (h : ofTokens .createTable ts = .ok s) :
    ∃ create table name body rest columns,
      ts = create :: table :: .word name :: group body rest ∧ Balanced body ∧ Ends rest ∧
      s = .createTable name columns ∧ List.Forall₂ Defines (segments 0 body) columns ∧
      ∀ pre inner post, body = pre ++ group inner post → Balanced inner →
        ∃ passed current before c after,
          segments 0 pre = passed ++ [current] ∧ columns = before ++ c :: after ∧
          before.length = passed.length ∧
          ∀ inner', Balanced inner' → ∃ type,
            ofTokens .createTable
                (create :: table :: .word name :: group (pre ++ group inner' post) rest) =
              .ok (.createTable name (before ++ { c with declared := type } :: after)) ∧
            (¬ AtType current → ¬ InType current → type = c.declared) := by
  obtain ⟨create, table, name, body, rest, columns, rfl, hcreate, htable, hbody, hends, hdefines,
    hkeys, rfl⟩ := ofTokens_createTable_iff.1 h
  refine ⟨create, table, name, body, rest, columns, rfl, hbody, hends, rfl, hdefines, ?_⟩
  rintro pre inner post rfl hinner
  obtain ⟨d, hd⟩ := exists_openAfter hbody
  obtain ⟨passed, current, hpre, happend⟩ := exists_segments_append hd
  obtain ⟨v, following, hpost⟩ := exists_segments_eq d post
  rw [happend _ _ _ (hinner.segments_group hpost)] at hdefines
  obtain ⟨before, c, after, rfl, hbefore, hc, hafter⟩ := forall₂_append_cons hdefines
  refine ⟨passed, current, before, c, after, hpre, rfl, hbefore.length_eq.symm, ?_⟩
  intro inner' hinner'
  obtain ⟨type, hnew, htype⟩ := hc.group hinner hinner'
  have hbody' : Balanced (pre ++ group inner' post) := by
    rw [Balanced, openAfter_append hd, hinner'.openAfter_group]
    rwa [Balanced, openAfter_append hd, hinner.openAfter_group] at hbody
  refine ⟨type, ofTokens_createTable_iff.2 ⟨create, table, name, _, rest, _, rfl, hcreate, htable,
    hbody', hends, ?_, ?_, rfl⟩, htype⟩
  · rw [happend _ _ _ (hinner'.segments_group hpost)]
    exact List.rel_append hbefore (.cons hnew hafter)
  · simpa [List.countP_append, List.countP_cons] using hkeys

theorem columns_of_segments_checked :
    let definition : List Token :=
      .word "a" :: .word "DECIMAL" :: group [.word "p"] (.word "CHECK" ::
        group [.word "b", .symbol .comma, .word "PRIMARY", .word "KEY", .quoted "')'" ")"] [])
    ofTokens .createTable (.word "CREATE" :: .word "TABLE" :: .word "t" ::
        group (definition ++ [.symbol .comma, .word "c", .word "unique"]) []) =
      .ok (.createTable "t" [⟨"a", "DECIMAL(p)", false, false⟩, ⟨"c", "", false, true⟩]) ∧
    List.Forall₂ Defines [definition, [.word "c", .word "unique"]]
      [⟨"a", "DECIMAL(p)", false, false⟩, ⟨"c", "", false, true⟩] := by
  intro definition
  have hread : ofTokens .createTable (.word "CREATE" :: .word "TABLE" :: .word "t" ::
        group (definition ++ [.symbol .comma, .word "c", .word "unique"]) []) =
      .ok (.createTable "t" [⟨"a", "DECIMAL(p)", false, false⟩, ⟨"c", "", false, true⟩]) := by
    rfl
  obtain ⟨_, _, _, body, _, columns, hts, hbody, -, hs, hdefines, -⟩ := columns_of_segments hread
  have htail := (List.cons.inj (List.cons.inj (List.cons.inj hts).2).2).2
  obtain ⟨rfl, -⟩ := group_inj (by decide) hbody htail
  cases hs
  exact ⟨hread, hdefines⟩

/-- The type also changes when the group only lies in that of the type. -/
theorem type_changes_within_group : ¬ ∀ (create table : Token) (name : String)
    (pre inner inner' post rest current : List Token) (passed : List (List Token))
    (columns columns' : List ColumnDeclaration),
    ofTokens .createTable (create :: table :: .word name :: group (pre ++ group inner post) rest) =
      .ok (.createTable name columns) →
    Balanced inner → Balanced inner' → segments 0 pre = passed ++ [current] → ¬ AtType current →
    ofTokens .createTable (create :: table :: .word name :: group (pre ++ group inner' post) rest) =
      .ok (.createTable name columns') →
    columns'.map (·.declared) = columns.map (·.declared) := by
  intro h
  have hcurrent : ¬ AtType [.word "a", .word "DECIMAL", .symbol .opening] := by simp [AtType]
  have := h (.word "CREATE") (.word "TABLE") "t" [.word "a", .word "DECIMAL", .symbol .opening]
    [.word "p"] [.word "q"] [.symbol .closing] [] _ [] [⟨"a", "DECIMAL((p))", false, false⟩]
    [⟨"a", "DECIMAL((q))", false, false⟩] rfl rfl rfl rfl hcurrent rfl
  simp at this

end Statements

end Tabula.Statement

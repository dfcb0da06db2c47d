import Tabula.Proofs.Keyed
import Tabula.Proofs.Token.Scan
import Tabula.Proofs.Value.Storable

/-!
The literals of a statement are those of its text.

A number gets its value when it is scanned, and the readers of statements only hand on the tokens
that they find. So what the literals among the tokens of a text satisfy, those of a statement that
is read from it satisfy. `Reads` says what a reader makes of such tokens, and that such tokens are
left. The literals of any statement read back.
-/

namespace Tabula

/-- If the token is a literal, its value satisfies this. -/
def Token.Gives (P : Value → Prop) (t : Token) : Prop := ∀ v, Statement.literal? t = some v → P v

namespace Statement

/-! ### Reading -/

/-- What a reader gives has a property, whatever it reads. -/
def Returns {α : Type} (r : Reader α) (Q : α → Prop) : Prop :=
  ∀ ts a rest, r ts = .ok (a, rest) → Q a

/-- What a reader makes of tokens whose literals satisfy `P` has a property, and such tokens are
left. -/
def Reads (P : Value → Prop) {α : Type} (r : Reader α) (Q : α → Prop) : Prop :=
  ∀ ts a rest, (∀ t ∈ ts, t.Gives P) → r ts = .ok (a, rest) → Q a ∧ ∀ t ∈ rest, t.Gives P

section Combinators

variable {L : Value → Prop} {α β : Type} {r : Reader α} {f : α → Reader β} {P : α → Prop}
  {Q : β → Prop}

lemma run_bind {ts rest : List Token} {b : β} (h : (r >>= f) ts = .ok (b, rest)) :
    ∃ a mid, r ts = .ok (a, mid) ∧ f a mid = .ok (b, rest) := by
  obtain ⟨⟨a, mid⟩, hr, hf⟩ := bind_eq_ok.1 h
  exact ⟨a, mid, hr, hf⟩

lemma Returns.pure {a : α} (h : P a) : Returns (pure a) P := by
  intro ts b rest hb
  cases hb
  exact h

lemma Returns.fail {fault : StatementFault} : Returns (fail fault) P := by
  intro ts b rest hb
  cases hb

lemma Returns.bind (h : ∀ a, Returns (f a) Q) : Returns (r >>= f) Q := by
  intro ts b rest hb
  obtain ⟨a, mid, -, hf⟩ := run_bind hb
  exact h a mid b rest hf

lemma Returns.ite {c : Prop} [Decidable c] {r s : Reader α} (hr : Returns r P)
    (hs : Returns s P) : Returns (if c then r else s) P := by
  split
  · exact hr
  · exact hs

lemma Reads.pure {a : α} (h : P a) : Reads L (pure a) P := by
  intro ts b rest hts hb
  cases hb
  exact ⟨h, hts⟩

lemma Reads.fail {fault : StatementFault} : Reads L (fail fault) P := by
  intro ts b rest hts hb
  cases hb

lemma Reads.bind (hr : Reads L r P) (hf : ∀ a, P a → Reads L (f a) Q) : Reads L (r >>= f) Q := by
  intro ts b rest hts hb
  obtain ⟨a, mid, ha, hb⟩ := run_bind hb
  obtain ⟨hp, hmid⟩ := hr ts a mid hts ha
  exact hf a hp mid b rest hmid hb

lemma Reads.ite {c : Prop} [Decidable c] {r s : Reader α} (hr : Reads L r P)
    (hs : Reads L s P) : Reads L (if c then r else s) P := by
  split
  · exact hr
  · exact hs

end Combinators

/-- Nothing is said about what is read. -/
abbrev Anything {α : Type} : α → Prop := fun _ => True

section Parts

variable {P : Value → Prop}

lemma reads_keywordOr (fault : StatementFault) (k : Keyword) :
    Reads P (keywordOr fault k) Anything := by
  intro ts a rest hts h
  cases ts with
  | nil => cases h
  | cons t ts =>
    simp only [keywordOr] at h
    split at h
    · cases h
      exact ⟨trivial, fun u hu => hts u (List.mem_cons_of_mem _ hu)⟩
    · cases h

lemma reads_keyword (k : Keyword) : Reads P (keyword k) Anything := reads_keywordOr _ k

lemma reads_keyword? (k : Keyword) : Reads P (keyword? k) Anything := by
  intro ts a rest hts h
  cases ts with
  | nil =>
    cases h
    exact ⟨trivial, hts⟩
  | cons t ts =>
    simp only [keyword?] at h
    split at h
    · cases h
      exact ⟨trivial, fun u hu => hts u (List.mem_cons_of_mem _ hu)⟩
    · cases h
      exact ⟨trivial, hts⟩

lemma reads_symbol (s : Symbol) : Reads P (symbol s) Anything := by
  intro ts a rest hts h
  cases ts with
  | nil => cases h
  | cons t ts =>
    simp only [symbol] at h
    split at h
    · cases h
      exact ⟨trivial, fun u hu => hts u (List.mem_cons_of_mem _ hu)⟩
    · cases h

lemma reads_symbol? (s : Symbol) : Reads P (symbol? s) Anything := by
  intro ts a rest hts h
  cases ts with
  | nil =>
    cases h
    exact ⟨trivial, hts⟩
  | cons t ts =>
    simp only [symbol?] at h
    split at h
    · cases h
      exact ⟨trivial, fun u hu => hts u (List.mem_cons_of_mem _ hu)⟩
    · cases h
      exact ⟨trivial, hts⟩

lemma reads_name (role : Role) : Reads P (name role) Anything := by
  intro ts a rest hts h
  unfold name at h
  split at h
  · cases h
    exact ⟨trivial, fun u hu => hts u (List.mem_cons_of_mem _ hu)⟩
  · cases h

lemma reads_literal : Reads P literal P := by
  intro ts a rest hts h
  cases ts with
  | nil => cases h
  | cons t ts =>
    simp only [literal] at h
    split at h
    · rename_i hv
      cases h
      exact ⟨hts t List.mem_cons_self _ hv, fun u hu => hts u (List.mem_cons_of_mem _ hu)⟩
    · cases h

/-- Every item of a list is read by the same reader. -/
lemma reads_separated {α : Type} {item : Reader α} {Q : α → Prop} (h : Reads P item Q) :
    Reads P (separated item) fun as => ∀ a ∈ as, Q a := by
  have hloop : ∀ rounds, Reads P (separated.loop item rounds) fun as => ∀ a ∈ as, Q a := by
    intro rounds
    induction rounds with
    | zero =>
      refine h.bind fun a ha => .pure ?_
      simpa using ha
    | succ rounds ih =>
      refine h.bind fun a ha => (reads_symbol? .comma).bind fun more _ => .ite ?_ ?_
      · refine ih.bind fun as has => .pure ?_
        simpa using ⟨ha, has⟩
      · refine .pure ?_
        simpa using ha
  intro ts as rest hts has
  exact hloop ts.length ts as rest hts has

lemma reads_assignment : Reads P assignment fun a => P a.2 :=
  (reads_name _).bind fun _ _ => (reads_symbol _).bind fun _ _ =>
    reads_literal.bind fun _ hv => .pure hv

lemma reads_columnName : Reads P columnName Anything :=
  (reads_name _).bind fun _ _ => (reads_symbol? _).bind fun _ _ =>
    .ite ((reads_name _).bind fun _ _ => .pure trivial) (.pure trivial)

lemma reads_comparison : Reads P comparison Anything := by
  intro ts a rest hts h
  unfold comparison at h
  split at h
  · cases h
    exact ⟨trivial, fun u hu => hts u (List.mem_cons_of_mem _ hu)⟩
  · cases h

lemma reads_condition : Reads P condition fun c => P c.value :=
  reads_columnName.bind fun _ _ => reads_comparison.bind fun _ _ =>
    reads_literal.bind fun _ hv => .pure hv

lemma reads_join : Reads P join Anything :=
  (reads_name _).bind fun _ _ => (reads_keyword _).bind fun _ _ =>
    reads_columnName.bind fun _ _ => (reads_symbol _).bind fun _ _ =>
    reads_columnName.bind fun _ _ => .ite (.pure trivial) .fail

lemma reads_join? : Reads P join? Anything :=
  (reads_keyword? _).bind fun _ _ =>
    .ite ((reads_keyword _).bind fun _ _ => reads_join.bind fun _ _ => .pure trivial)
      ((reads_keyword? _).bind fun _ _ =>
        .ite (reads_join.bind fun _ _ => .pure trivial) (.pure trivial))

end Parts

/-- Every literal of a statement satisfies this. -/
def Literals (P : Value → Prop) : Statement → Prop
  | .insert _ _ values => ∀ v ∈ values, P v
  | .update _ assignments c => (∀ a ∈ assignments, P a.2) ∧ P c.value
  | .select _ _ _ c => ∀ d ∈ c, P d.value
  | .delete _ c => P c.value
  | _ => True

section Kinds

variable {P : Value → Prop}

lemma reads_readInsert : Reads P readInsert (Literals P) := by
  refine (reads_keyword _).bind fun _ _ => (reads_keyword _).bind fun _ _ =>
    (reads_name _).bind fun _ _ => (reads_symbol _).bind fun _ _ =>
    (reads_separated (reads_name _)).bind fun _ _ => (reads_symbol _).bind fun _ _ =>
    (reads_keyword _).bind fun _ _ => (reads_symbol _).bind fun _ _ =>
    (reads_separated reads_literal).bind fun values hvalues =>
    (reads_symbol _).bind fun _ _ => .ite (.pure hvalues) .fail

lemma reads_readSelect : Reads P readSelect (Literals P) := by
  have hrest : ∀ columns : Option (List ColumnName), Reads P (do
      keyword .from
      let table ← name .table
      let other ← join?
      if ← keyword? .where then return .select table columns other (some (← condition))
      else return .select table columns other none) (Literals P) := fun columns =>
    (reads_keyword _).bind fun _ _ => (reads_name _).bind fun _ _ => reads_join?.bind fun _ _ =>
      (reads_keyword? _).bind fun _ _ =>
        .ite (reads_condition.bind fun c hc => .pure (by simpa [Literals] using hc))
          (.pure (by simp [Literals]))
  refine (reads_keyword _).bind fun _ _ => (reads_symbol? _).bind fun _ _ => ?_
  dsimp only
  refine .ite (.bind (P := Anything) (.pure trivial) fun columns _ => hrest columns) ?_
  have hcolumns : Reads P (separated columnName) fun refs => ∀ r ∈ refs, Anything r :=
    reads_separated reads_columnName
  exact .bind (P := Anything) (hcolumns.bind fun _ _ => .pure trivial) fun columns _ =>
    hrest columns

lemma reads_readUpdate : Reads P readUpdate (Literals P) := by
  refine (reads_keyword _).bind fun _ _ => (reads_name _).bind fun _ _ =>
    (reads_keyword _).bind fun _ _ => (reads_separated reads_assignment).bind fun as has =>
    (reads_keywordOr _ _).bind fun _ _ => reads_condition.bind fun _ hc => .pure ⟨?_, hc⟩
  -- of assignments to one column the last counts
  exact Keyed.forall_putAll has (by simp)

lemma reads_readDelete : Reads P readDelete (Literals P) :=
  (reads_keyword _).bind fun _ _ => (reads_keyword _).bind fun _ _ => (reads_name _).bind fun _ _ =>
    (reads_keywordOr _ _).bind fun _ _ => reads_condition.bind fun _ hc => .pure hc

end Kinds

/-- A reader of a kind gives statements of that kind. -/
lemma returns_read (kind : Kind) : Returns (read kind) fun s => s.kind = kind := by
  cases kind with
  | createTable =>
    exact .bind fun _ => .bind fun _ => .bind fun _ => .bind fun _ => .bind fun _ => .bind fun _ =>
      .ite .fail (.pure rfl)
  | insert =>
    exact .bind fun _ => .bind fun _ => .bind fun _ => .bind fun _ => .bind fun _ => .bind fun _ =>
      .bind fun _ => .bind fun _ => .bind fun _ => .bind fun _ => .ite (.pure rfl) .fail
  | select =>
    refine .bind fun _ => .bind fun _ => ?_
    dsimp only
    refine .ite (.bind fun _ => ?_) (.bind fun _ => ?_) <;>
      exact .bind fun _ => .bind fun _ => .bind fun _ => .bind fun _ =>
        .ite (.bind fun _ => .pure rfl) (.pure rfl)
  | update =>
    exact .bind fun _ => .bind fun _ => .bind fun _ => .bind fun _ => .bind fun _ => .bind fun _ =>
      .pure rfl
  | delete =>
    exact .bind fun _ => .bind fun _ => .bind fun _ => .bind fun _ => .bind fun _ => .pure rfl
  | createIndex =>
    exact .bind fun _ => .bind fun _ => .bind fun _ => .bind fun _ => .bind fun _ => .bind fun _ =>
      .bind fun _ => .bind fun _ => .pure rfl
  | showTables => exact .bind fun _ => .bind fun _ => .pure rfl
  | describe => exact .bind fun _ => .bind fun _ => .pure rfl

lemma ofTokens_eq_ok {kind : Kind} {ts : List Token} {s : Statement}
    (h : ofTokens kind ts = .ok s) : ∃ rest, read kind ts = .ok (s, rest) := by
  obtain ⟨⟨found, left⟩, hrun, hs⟩ := bind_eq_ok.1 h
  obtain ⟨a, mid, hread, hrest⟩ := run_bind hrun
  obtain ⟨_, _, -, hpure⟩ := run_bind hrest
  cases hpure
  cases hs
  exact ⟨mid, hread⟩

/-- **The literals of a statement are those of its text.** -/
theorem literals_parse {P : Value → Prop} {command : String} {s : Statement}
    (hread : ∀ {c cs t rest}, c :: cs <:+ Text.trim command.toList →
      Token.readToken c cs = .ok (t, rest) → t.Gives P)
    (h : parse command = .ok s) : s.Literals P := by
  obtain ⟨kind, -, h⟩ := bind_eq_ok.1 h
  split at h
  · cases h
  · cases h
  · rename_i placed hscan
    rw [Token.scan, Text.trimmed, String.toList_ofList] at hscan
    have hts : ∀ t ∈ placed.map (·.token), t.Gives P := by
      intro t ht
      obtain ⟨p, hp, rfl⟩ := List.mem_map.1 ht
      exact Token.forall_scanFrom hread hscan p hp
    obtain ⟨rest, hfound⟩ := ofTokens_eq_ok (mapError_eq_ok.1 h)
    have hkind := returns_read kind _ _ _ hfound
    cases kind with
    | insert => exact (reads_readInsert _ _ _ hts hfound).1
    | select => exact (reads_readSelect _ _ _ hts hfound).1
    | update => exact (reads_readUpdate _ _ _ hts hfound).1
    | delete => exact (reads_readDelete _ _ _ hts hfound).1
    | createTable | createIndex | showTables | describe =>
      -- there are no literals in statements of these kinds
      cases s <;> trivial

end Statement

/-! ### Literals that read back -/

/-- A number among the tokens is a numeral in the text. -/
lemma Token.scan?_of_readToken {c : Char} {cs rest : List Char} {text : String} {value : Number}
    (h : readToken c cs = .ok (.number text value, rest)) :
    ∃ n, Numeral.scan? (c :: cs) = some (n, rest) ∧ n.value = .ok value := by
  unfold readToken at h
  split at h
  · rename_i n after hn
    split at h
    · rename_i hvalue
      cases h
      exact ⟨n, hn, hvalue⟩
    · cases h
  · split at h
    · cases h
    · split at h
      · split at h <;> cases h
      · split at h <;> cases h

lemma Token.storable_readToken {c : Char} {cs rest : List Char} {t : Token}
    (h : readToken c cs = .ok (t, rest)) : t.Gives Value.Storable := by
  intro v hv
  cases t with
  | quoted _ _ =>
    cases hv
    trivial
  | number text value =>
    cases hv
    obtain ⟨n, hn, hvalue⟩ := scan?_of_readToken h
    exact Numeral.storable_value hn hvalue
  | word text =>
    cases hv
    split <;> trivial
  | symbol _ => cases hv

namespace Statement

/-- The literals that are stored read back. -/
def Storable : Statement → Prop
  | .insert _ _ values => ∀ v ∈ values, v.Storable
  | .update _ assignments _ => ∀ a ∈ assignments, a.2.Storable
  | _ => True

/-- **The literals of a statement read back**, whatever command it is read from. -/
theorem storable_parse {command : String} {s : Statement} (h : parse command = .ok s) :
    s.Storable := by
  have hliterals := literals_parse (fun _ hread => Token.storable_readToken hread) h
  cases s with
  | insert => exact hliterals
  | update => exact hliterals.1
  | createTable | select | delete | createIndex | showTables | describe => trivial

end Statement

end Tabula

import Mathlib.Data.List.Chain
import Tabula.Proofs.Statement.Grammar
import Tabula.Proofs.Token.Printed

/-!
How statements are printed.

Keywords are printed in ASCII, in any case, and literals in one way each, but for the quotes around
text. This is a part of what is read, and however a statement is printed, no two of its tokens
run into each other.
-/

namespace Tabula

/-- The keyword in ASCII letters of any case. -/
def Keyword.Spells (k : Keyword) (word : String) : Prop :=
  word.toList.map Char.toUpper = k.text.toList

namespace Keyword

variable {k : Keyword} {word : String}

lemma isUpper_text (k : Keyword) : ∀ c ∈ k.text.toList, 65 ≤ c.toNat ∧ c.toNat ≤ 90 := by
  have hall : k.text.toList.all (fun c => decide (65 ≤ c.toNat ∧ c.toNat ≤ 90)) = true := by
    cases k <;> rfl
  simpa using hall

lemma spells_text (k : Keyword) : k.Spells k.text := by cases k <;> rfl

lemma Spells.isAlpha (h : k.Spells word) :
    ∀ c ∈ word.toList, (65 ≤ c.toNat ∧ c.toNat ≤ 90) ∨ (97 ≤ c.toNat ∧ c.toNat ≤ 122) := by
  intro c hc
  refine Text.toNat_of_toUpper (k.isUpper_text _ ?_)
  rw [← h]
  exact List.mem_map_of_mem hc

lemma Spells.spelledBy (h : k.Spells word) : k.spelledBy word = true := by
  have hcapitals : ∀ cs : List Char, (∀ c ∈ cs, c.toNat < 0x80) →
      Text.capitals cs = cs.map Char.toUpper := by
    intro cs hcs
    induction cs with
    | nil => rfl
    | cons c cs ih =>
      obtain ⟨hc, hcs⟩ := List.forall_mem_cons.1 hcs
      rw [Text.capitals, List.flatMap_cons, ← Text.capitals, ih hcs, Text.capital_of_lt hc]
      rfl
  have hascii : ∀ c ∈ word.toList, c.toNat < 0x80 := fun c hc => by
    have := h.isAlpha c hc
    omega
  rw [Keyword.spelledBy, hcapitals _ hascii, h, beq_self_eq_true]

lemma Spells.isWord (h : k.Spells word) : IsWord word := by
  have hstart : ∀ c ∈ word.toList, Text.isWordStart c = true := by
    intro c hc
    have := h.isAlpha c hc
    rw [Text.isWordStart_iff]
    omega
  cases hw : word.toList with
  | nil =>
    rw [Spells, hw] at h
    cases k <;> cases h
  | cons c cs =>
    rw [hw] at hstart
    obtain ⟨hc, hcs⟩ := List.forall_mem_cons.1 hstart
    exact ⟨c, cs, hw, hc, fun d hd => Text.isWordChar_of_isWordStart (hcs d hd)⟩

end Keyword

namespace Statement

/-- NULL in any case, whole numbers in decimal, and text between quotes of one of two kinds. -/
inductive PrintsLiteral : Value → Token → Prop
  | null {word : String} (h : Keyword.null.Spells word) : PrintsLiteral .null (.word word)
  | int {n : Int} (h : Writable n) :
    PrintsLiteral (.int n) (.number (String.ofList (decimalInt n)) (.int n))
  | text {quote : Char} (hq : quote = Text.singleQuote ∨ quote = Text.doubleQuote)
    (content : String) :
    PrintsLiteral (.text content) (.quoted (Token.quotation quote content) content)

def Spelling.printed : Spelling where
  keyword k t := ∃ word, t = .word word ∧ k.Spells word
  literal := PrintsLiteral

/-! ### Spellings that allow more -/

/-- What one spelling allows, another allows too. -/
structure Spelling.Within (σ τ : Spelling) : Prop where
  keyword : ∀ {k t}, σ.keyword k t → τ.keyword k t
  literal : ∀ {v t}, σ.literal v t → τ.literal v t

lemma Spelling.printed_within_read : Spelling.printed.Within Spelling.read where
  keyword := by
    rintro k t ⟨word, rfl, h⟩
    exact ⟨word, rfl, h.spelledBy⟩
  literal := by
    rintro v t (h | h | ⟨hq, content⟩)
    · exact .null h.spelledBy
    · exact .number _ (.int _)
    · exact .quoted _ content

lemma Lists.mono {α : Type} {p q : List Token → α → Prop} (hpq : ∀ ts a, p ts a → q ts a)
    {ts : List Token} {as : List α} (h : Lists p ts as) : Lists q ts as := by
  induction h with
  | last h => exact .last (hpq _ _ h)
  | more h _ ih => exact .more (hpq _ _ h) ih

namespace Spelling

variable {σ τ : Spelling} {ts : List Token}

lemma Denotes.mono (h : σ.Within τ) (ts : List Token) (v : Value) :
    σ.Denotes ts v → τ.Denotes ts v
  | .one hv => .one (h.literal hv)

lemma Assigns.mono (h : σ.Within τ) (ts : List Token) (a : String × Value) :
    σ.Assigns ts a → τ.Assigns ts a
  | .mk column hv => .mk column (h.literal hv)

lemma Compares.mono (h : σ.Within τ) {c : Condition} : σ.Compares ts c → τ.Compares ts c
  | .mk hc comparison hv => .mk hc comparison (h.literal hv)

lemma Joins.mono (h : σ.Within τ) {j : Join} : σ.Joins ts j → τ.Joins ts j
  | .mk table hon hl hr ql qr => .mk table (h.keyword hon) hl hr ql qr

lemma MayJoin.mono (h : σ.Within τ) {j : Option Join} : σ.MayJoin ts j → τ.MayJoin ts j
  | .nothing => .nothing
  | .join hk hj => .join (h.keyword hk) (hj.mono h)
  | .inner hi hk hj => .inner (h.keyword hi) (h.keyword hk) (hj.mono h)

lemma MayCompare.mono (h : σ.Within τ) {c : Option Condition} :
    σ.MayCompare ts c → τ.MayCompare ts c
  | .nothing => .nothing
  | .where hk hc => .where (h.keyword hk) (hc.mono h)

lemma Marks.mono (h : σ.Within τ) {primaryKey unique : Bool} :
    σ.Marks ts primaryKey unique → τ.Marks ts primaryKey unique
  | .nothing => .nothing
  | .unique hu => .unique (h.keyword hu)
  | .primary hp hk => .primary (h.keyword hp) (h.keyword hk)
  | .primaryFirst hp hk hu => .primaryFirst (h.keyword hp) (h.keyword hk) (h.keyword hu)
  | .uniqueFirst hu hp hk => .uniqueFirst (h.keyword hu) (h.keyword hp) (h.keyword hk)

lemma Declares.mono (h : σ.Within τ) (ts : List Token) (d : ColumnDeclaration) :
    σ.Declares ts d → τ.Declares ts d
  | .mk name ht hm => .mk name ht (hm.mono h)

/-- A derivation is one in every spelling that allows more. -/
lemma Derives.mono (h : σ.Within τ) {s : Statement} : σ.Derives ts s → τ.Derives ts s
  | .createTable name h₁ h₂ hc hp =>
    .createTable name (h.keyword h₁) (h.keyword h₂) (hc.mono (Declares.mono h)) hp
  | .insert table h₁ h₂ hc h₃ hv hl =>
    .insert table (h.keyword h₁) (h.keyword h₂) hc (h.keyword h₃) (hv.mono (Denotes.mono h)) hl
  | .select table h₁ hs h₂ hj hw =>
    .select table (h.keyword h₁) hs (h.keyword h₂) (hj.mono h) (hw.mono h)
  | .update table h₁ h₂ ha h₃ hc =>
    .update table (h.keyword h₁) (h.keyword h₂) (ha.mono (Assigns.mono h)) (h.keyword h₃)
      (hc.mono h)
  | .delete table h₁ h₂ h₃ hc =>
    .delete table (h.keyword h₁) (h.keyword h₂) (h.keyword h₃) (hc.mono h)
  | .createIndex name table column h₁ h₂ h₃ =>
    .createIndex name table column (h.keyword h₁) (h.keyword h₂) (h.keyword h₃)
  | .showTables h₁ h₂ => .showTables (h.keyword h₁) (h.keyword h₂)
  | .describe table h₁ => .describe table (h.keyword h₁)

end Spelling

/-! ### Tokens side by side -/

open Token (Fits)

/-- A token after which every other may come, and before which every other but a point. -/
def Loose (t : Token) : Prop := t ≠ .symbol .dot ∧ ∀ c, t ≠ .symbol (.comparison c)

/-- Tokens that fit together, and that fit between all others that do not ask for a neighbour. -/
structure Joinable (ts : List Token) : Prop where
  chain : ts.IsChain Fits
  head : ∀ t ∈ ts.head?, t ≠ .symbol .dot
  last : ∀ t ∈ ts.getLast?, Loose t

section Joinable

variable {t u : Token} {ts us : List Token}

lemma loose_word (word : String) : Loose (.word word) := by simp [Loose]

lemma Loose.fits (ht : Loose t) (hu : u ≠ .symbol .dot) : Fits t u := by
  unfold Fits
  split
  · exact absurd rfl (ht.2 _)
  · exact absurd rfl ht.1
  · exact hu
  · trivial

namespace Joinable

lemma nil : Joinable [] := ⟨.nil, by simp, by simp⟩

lemma single (ht : Loose t) : Joinable [t] := ⟨.singleton t, by simpa using ht.1, by simpa using ht⟩

lemma append (h : Joinable ts) (k : Joinable us) : Joinable (ts ++ us) where
  chain := List.isChain_append.2
    ⟨h.chain, k.chain, fun _ ht _ hu => (h.last _ ht).fits (k.head _ hu)⟩
  head := by
    cases ts with
    | nil => exact k.head
    | cons t ts => exact h.head
  last := by
    cases us with
    | nil => simpa using h.last
    | cons u us => simpa using k.last

lemma cons (ht : Loose t) (h : Joinable ts) : Joinable (t :: ts) := (single ht).append h

/-- After a comparison there must not be a symbol. -/
lemma comparison (c : Comparison) (hu : ¬ u.IsSymbol) (h : Joinable (u :: us)) :
    Joinable (.symbol (.comparison c) :: u :: us) where
  chain := List.isChain_cons_cons.2 ⟨hu, h.chain⟩
  head := by simp
  last := by simpa using h.last

end Joinable

end Joinable

namespace Spelling

variable {t : Token} {ts : List Token}

lemma loose_keyword {k : Keyword} (h : printed.keyword k t) : Loose t := by
  obtain ⟨word, rfl, -⟩ := h
  exact loose_word word

lemma not_isSymbol_literal {v : Value} (h : printed.literal v t) : ¬ t.IsSymbol := by
  rintro ⟨s, rfl⟩
  cases h

lemma loose_literal {v : Value} (h : printed.literal v t) : Loose t := by
  cases h <;> simp [Loose]

lemma joinable_names {n : String} (h : Names ts n) : Joinable ts := by
  obtain ⟨n⟩ := h
  exact .single (loose_word n)

lemma joinable_refers {c : ColumnName} (h : Refers ts c) :
    Joinable ts ∧ ∀ t ∈ ts.head?, ¬ t.IsSymbol := by
  cases h with
  | plain column => exact ⟨.single (loose_word column), by simp [Token.IsSymbol]⟩
  | qualified table column =>
    refine ⟨⟨?_, by simp, by simp [Loose]⟩, by simp [Token.IsSymbol]⟩
    exact List.isChain_cons_cons.2 ⟨trivial, List.isChain_cons_cons.2 ⟨⟨column, rfl⟩, .singleton _⟩⟩

lemma joinable_lists {α : Type} {item : List Token → α → Prop} {as : List α}
    (hitem : ∀ ts a, item ts a → Joinable ts) (h : Lists item ts as) : Joinable ts := by
  induction h with
  | last h => exact hitem _ _ h
  | more h _ ih => exact (hitem _ _ h).append (.cons (by simp [Loose]) ih)

lemma joinable_assigns {a : String × Value} (h : printed.Assigns ts a) : Joinable ts := by
  obtain ⟨column, hv⟩ := h
  exact .cons (loose_word column)
    (.comparison _ (not_isSymbol_literal hv) (.single (loose_literal hv)))

lemma joinable_compares {c : Condition} (h : printed.Compares ts c) : Joinable ts := by
  obtain ⟨hc, comparison, hv⟩ := h
  exact (joinable_refers hc).1.append
    (.comparison _ (not_isSymbol_literal hv) (.single (loose_literal hv)))

lemma joinable_joins {j : Join} (h : printed.Joins ts j) : Joinable ts := by
  obtain @⟨on, ls, rs, left, right, table, hon, hl, hr, -, -⟩ := h
  obtain ⟨hjoinable, hhead⟩ := joinable_refers hr
  refine .append (.cons (loose_word table) (.cons (loose_keyword hon) (joinable_refers hl).1)) ?_
  cases rs with
  | nil => cases hr
  | cons r rs => exact .comparison _ (hhead r rfl) hjoinable

lemma joinable_mayJoin {j : Option Join} (h : printed.MayJoin ts j) : Joinable ts := by
  cases h with
  | nothing => exact .nil
  | join hk hj => exact .cons (loose_keyword hk) (joinable_joins hj)
  | inner hi hk hj =>
    exact .cons (loose_keyword hi) (.cons (loose_keyword hk) (joinable_joins hj))

lemma joinable_mayCompare {c : Option Condition} (h : printed.MayCompare ts c) : Joinable ts := by
  cases h with
  | nothing => exact .nil
  | «where» hk hc => exact .cons (loose_keyword hk) (joinable_compares hc)

lemma joinable_marks {primaryKey unique : Bool} (h : printed.Marks ts primaryKey unique) :
    Joinable ts := by
  cases h with
  | nothing => exact .nil
  | unique hu => exact .single (loose_keyword hu)
  | primary hp hk => exact .cons (loose_keyword hp) (.single (loose_keyword hk))
  | primaryFirst h₁ h₂ h₃ | uniqueFirst h₁ h₂ h₃ =>
    exact .cons (loose_keyword h₁) (.cons (loose_keyword h₂) (.single (loose_keyword h₃)))

lemma joinable_declares {d : ColumnDeclaration} (h : printed.Declares ts d) : Joinable ts := by
  obtain ⟨name, ht, hm⟩ := h
  refine .append (.cons (loose_word name) ?_) (joinable_marks hm)
  cases ht with
  | nothing => exact .nil
  | word => exact .single (loose_word _)

lemma joinable_selects {columns : Option (List ColumnName)} (h : Selects ts columns) :
    Joinable ts := by
  cases h with
  | star => exact .single (by simp [Loose])
  | columns h => exact joinable_lists (fun _ _ h => (joinable_refers h).1) h

/-- No two tokens of a printed statement run into each other. -/
lemma joinable_derives {s : Statement} (h : printed.Derives ts s) : Joinable ts := by
  have hopening : Loose (.symbol .opening) := by simp [Loose]
  have hclosing : Loose (.symbol .closing) := by simp [Loose]
  cases h with
  | createTable name h₁ h₂ hc hp =>
    have hcolumns := joinable_lists (fun _ _ => joinable_declares) hc
    exact .append (.cons (loose_keyword h₁) <| .cons (loose_keyword h₂) <|
      .cons (loose_word name) <| .cons hopening hcolumns) (.single hclosing)
  | insert table h₁ h₂ hc h₃ hv hl =>
    have hcolumns := joinable_lists (fun _ _ => joinable_names) hc
    have hvalues : Joinable _ :=
      joinable_lists (fun _ _ ⟨h⟩ => .single (loose_literal h)) hv
    exact .append (.append (.cons (loose_keyword h₁) <| .cons (loose_keyword h₂) <|
        .cons (loose_word table) <| .cons hopening hcolumns) <|
      .cons hclosing <| .cons (loose_keyword h₃) <| .cons hopening hvalues) (.single hclosing)
  | select table h₁ hs h₂ hj hw =>
    exact .append (.append (.cons (loose_keyword h₁) (joinable_selects hs)) <|
      .cons (loose_keyword h₂) <| .cons (loose_word table) <| joinable_mayJoin hj)
      (joinable_mayCompare hw)
  | update table h₁ h₂ ha h₃ hc =>
    exact .append (.cons (loose_keyword h₁) <| .cons (loose_word table) <|
      .cons (loose_keyword h₂) <| joinable_lists (fun _ _ => joinable_assigns) ha) <|
      .cons (loose_keyword h₃) (joinable_compares hc)
  | delete table h₁ h₂ h₃ hc =>
    exact .cons (loose_keyword h₁) <| .cons (loose_keyword h₂) <| .cons (loose_word table) <|
      .cons (loose_keyword h₃) (joinable_compares hc)
  | createIndex name table column h₁ h₂ h₃ =>
    exact .cons (loose_keyword h₁) <| .cons (loose_keyword h₂) <| .cons (loose_word name) <|
      .cons (loose_keyword h₃) <| .cons (loose_word table) <| .cons hopening <|
      .cons (loose_word column) (.single hclosing)
  | showTables h₁ h₂ => exact .cons (loose_keyword h₁) (.single (loose_keyword h₂))
  | describe table h₁ => exact .cons (loose_keyword h₁) (.single (loose_word table))

end Spelling

lemma Ends.joinable {ts : List Token} (h : Ends ts) : Joinable ts := by
  rcases h with rfl | rfl
  · exact .nil
  · exact .single (by simp [Loose])

end Statement

end Tabula

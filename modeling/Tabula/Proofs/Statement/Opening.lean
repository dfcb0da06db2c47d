import Tabula.Proofs.Statement.Printing
import Tabula.Proofs.Text.Casing
import Tabula.Statement.Command

/-!
The kind of a statement is told from its first words.

The words that two kinds start with are the same up to a place where they have different letters, so
no text opens both.
-/

namespace Tabula

open Text

/-- The first keywords in which two lists are different have different letters at some place. -/
def diverge : List Keyword → List Keyword → Bool
  | j :: js, k :: ks => clash j.text.toList k.text.toList || (j == k && diverge js ks)
  | _, _ => false

namespace Keyword

variable {k : Keyword} {word : String}

/-- A word has the letters of the keyword, each in some case. -/
def Matches (k : Keyword) (word : String) : Prop := Text.Matches k.text.toList word.toList

lemma Spells.matches (h : k.Spells word) : k.Matches word := by
  rw [Matches, ← h]
  exact matches_map_toUpper _

lemma Matches.head (h : k.Matches word) :
    ∃ c cs, word.toList = c :: cs ∧ isWordChar c = true := by
  obtain ⟨u, us, hk⟩ : ∃ u us, k.text.toList = u :: us := by cases k <;> exact ⟨_, _, rfl⟩
  have hcapital : IsCapital u := k.isUpper_text u (hk ▸ List.mem_cons_self)
  rw [Matches, Text.Matches, hk] at h
  obtain ⟨c, cs, hletter, -, htext⟩ := List.forall₂_cons_left_iff.1 h
  exact ⟨c, cs, htext, isWordChar_of_sameLetter hcapital hletter⟩

end Keyword

namespace Kind

/-- A text that starts with the keywords, in any case and with blanks between them. -/
inductive Starts : List Keyword → List Char → Prop
  | last {k : Keyword} {word : String} {rest : List Char} (hw : k.Matches word)
    (hr : ∀ c ∈ rest.head?, isWordChar c = false) : Starts [k] (word.toList ++ rest)
  | more {k : Keyword} {word : String} {gap cs : List Char} {ks : List Keyword}
    (hw : k.Matches word) (hgap : gap ≠ []) (hblank : ∀ c ∈ gap, isBlank c = true)
    (h : Starts ks cs) : Starts (k :: ks) (word.toList ++ (gap ++ cs))

section Starts

variable {js ks : List Keyword} {cs : List Char}

lemma Starts.head (h : Starts ks cs) : ∃ c rest, cs = c :: rest ∧ isWordChar c = true := by
  have hword {k : Keyword} {word : String} (hw : k.Matches word) (rest : List Char) :
      ∃ c cs, word.toList ++ rest = c :: cs ∧ isWordChar c = true := by
    obtain ⟨c, cs, htext, hc⟩ := hw.head
    exact ⟨c, cs ++ rest, congrArg (· ++ rest) htext, hc⟩
  cases h with
  | last hw => exact hword hw _
  | more hw => exact hword hw _

lemma Starts.head_not_blank (h : Starts ks cs) : ∃ c rest, cs = c :: rest ∧ isBlank c = false := by
  obtain ⟨c, rest, hcs, hc⟩ := h.head
  refine ⟨c, rest, hcs, ?_⟩
  rw [← Bool.not_eq_true]
  intro hb
  rw [isWordChar_of_isBlank hb] at hc
  cases hc

lemma Starts.trimLeft_append {gap : List Char} (h : Starts ks cs)
    (hblank : ∀ c ∈ gap, isBlank c = true) : trimLeft (gap ++ cs) = cs := by
  obtain ⟨c, rest, rfl, hc⟩ := h.head_not_blank
  rw [trimLeft, List.dropWhile_append_of_pos hblank, List.dropWhile_cons_of_neg (by simp [hc])]

lemma opens_of_starts (h : Starts ks cs) : opens ks cs = true := by
  induction h with
  | last hw hr =>
    rename_i rest
    rw [opens, dropWord?_append hw]
    cases rest with
    | nil => rfl
    | cons c rest => simp [hr c rfl]
  | @more k word gap cs ks hw hgap hblank h ih =>
    simp only [opens, dropWord?_append hw, h.trimLeft_append hblank, ih]
    cases gap with
    | nil => exact absurd rfl hgap
    | cons c gap =>
      cases ks with
      | nil => cases h
      | cons => simp [hblank c List.mem_cons_self]

lemma opens_of_diverge (h : Starts ks cs) (hd : diverge js ks = true) : opens js cs = false := by
  induction h generalizing js with
  | @last k word rest hw hr =>
    cases js with
    | nil => cases hd
    | cons j js =>
      have hclash : clash j.text.toList k.text.toList = true := by
        cases js <;> simpa [diverge] using hd
      rw [opens, dropWord?_of_clash hw j.isUpper_text k.isUpper_text hclash]
  | @more k word gap cs ks hw hgap hblank h ih =>
    cases js with
    | nil => cases hd
    | cons j js =>
      rw [diverge, Bool.or_eq_true, Bool.and_eq_true, beq_iff_eq] at hd
      rcases hd with hclash | ⟨rfl, hd⟩
      · rw [opens, dropWord?_of_clash hw j.isUpper_text k.isUpper_text hclash]
      · simp only [opens, dropWord?_append hw, h.trimLeft_append hblank, ih hd]
        cases js with
        | nil => cases hd
        | cons => simp

lemma diverge_opening {i j : Kind} (h : i ≠ j) : diverge i.opening j.opening = true := by
  revert h
  cases i <;> cases j <;> decide

lemma mem_all (kind : Kind) : kind ∈ all := by cases kind <;> decide

/-- **The first words tell the kind.** -/
theorem ofText?_of_starts {kind : Kind} (h : Starts kind.opening cs) : ofText? cs = some kind := by
  have hopens := opens_of_starts h
  have honly : ∀ other ∈ all, opens other.opening cs = true → other = kind := by
    intro other _ ho
    by_contra hne
    rw [opens_of_diverge h (diverge_opening hne)] at ho
    cases ho
  cases hfound : ofText? cs with
  | none => exact absurd hopens (List.find?_eq_none.1 hfound kind (mem_all kind))
  | some other =>
    have hother : opens other.opening cs = true := by simpa using List.find?_some hfound
    rw [honly other (mem_all other) hother]

end Starts

end Kind

namespace Statement

open Token (Laid Fits)

/-- The tokens of a printed statement start with the words of its kind. -/
lemma Spelling.Derives.opening {ts : List Token} {s : Statement}
    (h : Spelling.printed.Derives ts s) :
    ∃ words us, ts = words.map Token.word ++ us ∧
      List.Forall₂ Keyword.Spells s.kind.opening words := by
  have hone {k : Keyword} {t : Token} (us : List Token) (h : Spelling.printed.keyword k t) :
      ∃ words vs, t :: us = words.map Token.word ++ vs ∧ List.Forall₂ Keyword.Spells [k] words := by
    obtain ⟨word, rfl, hw⟩ := h
    exact ⟨[word], us, rfl, .cons hw .nil⟩
  have htwo {j k : Keyword} {t u : Token} (us : List Token) (h : Spelling.printed.keyword j t)
      (h' : Spelling.printed.keyword k u) : ∃ words vs, t :: u :: us = words.map Token.word ++ vs ∧
        List.Forall₂ Keyword.Spells [j, k] words := by
    obtain ⟨word, rfl, hw⟩ := h
    obtain ⟨word', rfl, hw'⟩ := h'
    exact ⟨[word, word'], us, rfl, .cons hw (.cons hw' .nil)⟩
  cases h with
  | createTable name h₁ h₂ => exact htwo _ h₁ h₂
  | insert table h₁ h₂ => exact htwo _ h₁ h₂
  | select table h₁ => exact hone _ h₁
  | update table h₁ => exact hone _ h₁
  | delete table h₁ => exact hone _ h₁
  | createIndex name table column h₁ h₂ => exact htwo _ h₁ h₂
  | showTables h₁ h₂ => exact htwo _ h₁ h₂
  | describe table h₁ => exact hone _ h₁

/-- Laid out words that spell keywords, before other tokens, start with these keywords. -/
lemma starts_of_laid {ks : List Keyword} {words : List String} {us : List Token} {cs : List Char}
    (h : Laid (words.map Token.word ++ us) cs) (hs : List.Forall₂ Keyword.Spells ks words)
    (hks : ks ≠ []) (hp : ∀ t ∈ words.map Token.word ++ us, t.Printed)
    (hf : (words.map Token.word ++ us).IsChain Fits) : Kind.Starts ks cs := by
  induction hs generalizing cs with
  | nil => exact absurd rfl hks
  | @cons k word ks words hw hs ih =>
    cases hs with
    | nil =>
      -- the word is the last keyword, and what comes after it does not continue it
      rw [List.map_singleton, List.singleton_append] at h hp hf
      cases h with
      | last =>
        rw [← List.append_nil (Token.text _).toList]
        exact .last hw.matches (by simp)
      | more blank beside h =>
        have hstops := h.stops blank beside (hp _ (by simp)) (List.isChain_cons_cons.1 hf).1
        exact .last hw.matches hstops
    | cons hw' hs =>
      rw [List.map_cons, List.map_cons, List.cons_append, List.cons_append] at h hp hf
      cases h with
      | @more _ _ _ gap _ blank beside h =>
        have hgap : gap ≠ [] := by
          intro hnil
          rcases beside hnil with ⟨s, hs⟩ | ⟨s, hs⟩ <;> cases hs
        refine .more hw.matches hgap blank (ih h (by simp) ?_ (List.isChain_cons_cons.1 hf).2)
        exact fun t ht => hp t (List.mem_cons_of_mem _ ht)

end Statement

end Tabula

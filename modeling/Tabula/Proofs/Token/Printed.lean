import Tabula.Proofs.Number.Digits
import Tabula.Proofs.Text.Classes
import Tabula.Proofs.Token.Scan

/-!
Printed tokens and their texts.

A word, a whole number, text between quotes or a symbol is read from its own text, if what comes
after does not continue it. Tokens that are laid out one after the other, with blanks between them
where they need some, are read one by one.
-/

namespace Tabula

open Text

/-- A letter of ASCII or an underscore, and then characters of words. -/
def IsWord (word : String) : Prop :=
  ∃ c cs, word.toList = c :: cs ∧ isWordStart c = true ∧ ∀ d ∈ cs, isWordChar d = true

lemma IsWord.isWordChar {word : String} (h : IsWord word) :
    ∀ c ∈ word.toList, isWordChar c = true := by
  obtain ⟨c, cs, htext, hc, hcs⟩ := h
  rw [htext]
  exact List.forall_mem_cons.2 ⟨isWordChar_of_isWordStart hc, hcs⟩

lemma IsWord.ne_empty {word : String} (h : IsWord word) : word ≠ "" := by
  rintro rfl
  obtain ⟨c, cs, htext, -⟩ := h
  cases htext

lemma IsWord.point_notMem {word : String} (h : IsWord word) : '.' ∉ word.toList :=
  fun hmem => absurd (h.isWordChar _ hmem) (by decide)

namespace Token

def IsSymbol (t : Token) : Prop := ∃ s, t = .symbol s

/-- A text in which the quote is doubled. -/
def doubled (quote : Char) (cs : List Char) : List Char :=
  cs.flatMap fun c => if c = quote then [c, c] else [c]

/-- A text between quotes. -/
def quotation (quote : Char) (content : String) : String :=
  String.ofList (quote :: doubled quote content.toList ++ [quote])

/-- The tokens that are printed. -/
inductive Printed : Token → Prop
  | word {word : String} (h : IsWord word) : Printed (.word word)
  | int {n : Int} (h : Writable n) : Printed (.number (String.ofList (decimalInt n)) (.int n))
  | quoted {quote : Char} (hq : quote = singleQuote ∨ quote = doubleQuote) (content : String) :
    Printed (.quoted (quotation quote content) content)
  | symbol (s : Symbol) : Printed (.symbol s)

/-- What comes after a token does not continue it. -/
def Stops : Token → List Char → Prop
  | .word _, rest => ∀ c ∈ rest.head?, isWordChar c = false
  | .number .., rest => ∀ c ∈ rest.head?, digit? c = none ∧ c ≠ '.' ∧ c ≠ 'e' ∧ c ≠ 'E'
  | .quoted .., rest => ∀ c ∈ rest.head?, c ≠ singleQuote ∧ c ≠ doubleQuote
  | .symbol (.comparison _), rest => ∀ c ∈ rest.head?, c ≠ '='
  | .symbol .dot, rest => ∀ c ∈ rest.head?, digit? c = none
  | .symbol _, _ => True

/-! ### Single tokens -/

section Reading

variable {c : Char} {cs rest : List Char}

lemma digits_of_stop (h : ∀ c ∈ rest.head?, digit? c = none) : digits rest = ([], rest) := by
  cases rest with
  | nil => rfl
  | cons d ds => rw [digits, h d rfl]

lemma scan?_eq_none (hsign : c ≠ '-' ∧ c ≠ '+') (hdigit : digit? c = none)
    (hpoint : c = '.' → ∀ d ∈ cs.head?, digit? d = none) : Numeral.scan? (c :: cs) = none := by
  have hs : Numeral.sign (c :: cs) = (false, c :: cs) := by
    unfold Numeral.sign
    split <;> simp_all
  have hd : digits (c :: cs) = ([], c :: cs) := digits_of_stop (by simpa using hdigit)
  have hf : ((Numeral.scanFraction (c :: cs)).1.getD []).isEmpty = true := by
    by_cases hc : c = '.'
    · subst hc
      rw [Numeral.scanFraction, digits_of_stop (hpoint rfl)]
      rfl
    · unfold Numeral.scanFraction
      split
      · simp_all
      · rfl
  simp [Numeral.scan?, hs, hd, hf]

lemma readToken_word (hc : isWordStart c = true) (hcs : ∀ d ∈ cs, isWordChar d = true)
    (hr : ∀ d ∈ rest.head?, isWordChar d = false) :
    readToken c (cs ++ rest) = .ok (.word (String.ofList (c :: cs)), rest) := by
  have hcode := isWordStart_iff.1 hc
  have hnone : Numeral.scan? (c :: (cs ++ rest)) = none := by
    refine scan?_eq_none ?_ ?_ ?_
    · constructor <;> rintro rfl <;> exact absurd hc (by decide)
    · rw [digit?_of_lt (by omega), if_neg (by omega)]
    · rintro rfl
      exact absurd hc (by decide)
  have htail : rest.takeWhile isWordChar = [] ∧ rest.dropWhile isWordChar = rest := by
    cases rest with
    | nil => exact ⟨rfl, rfl⟩
    | cons d ds => simp [hr d rfl]
  rw [readToken, hnone]
  simp only [hc, if_true, List.takeWhile_append_of_pos hcs, List.dropWhile_append_of_pos hcs,
    htail, List.append_nil]

lemma content?_doubled {quote : Char} (inner : List Char) (hr : ∀ c ∈ rest.head?, c ≠ quote) :
    content? quote (doubled quote inner ++ quote :: rest) = some (inner, rest) := by
  induction inner with
  | nil => exact content?_append List.not_mem_nil fun h => hr _ h rfl
  | cons d inner ih =>
    unfold doubled at ih ⊢
    by_cases hd : d = quote
    · subst hd
      rw [List.flatMap_cons, if_pos rfl, List.append_assoc, List.cons_append, List.cons_append,
        List.nil_append, content?.eq_def]
      simp only [if_true, ih]
    · rw [List.flatMap_cons, if_neg hd, List.append_assoc, List.singleton_append, content?.eq_def]
      simp only [hd, if_false, ih]

lemma lexeme_append (text rest : List Char) : lexeme (text ++ rest) rest = String.ofList text := by
  rw [lexeme, List.length_append, Nat.add_sub_cancel, List.take_left]

lemma readToken_quotation {quote : Char} (hq : quote = singleQuote ∨ quote = doubleQuote)
    (content : String) (hr : ∀ c ∈ rest.head?, c ≠ singleQuote ∧ c ≠ doubleQuote) :
    readToken quote (doubled quote content.toList ++ quote :: rest) =
      .ok (.quoted (quotation quote content) content, rest) := by
  have hstop : ∀ c ∈ rest.head?, c ≠ quote := fun c hc => by
    rcases hq with rfl | rfl
    · exact (hr c hc).1
    · exact (hr c hc).2
  have hcontent := content?_doubled content.toList hstop
  have htext : lexeme (quote :: (doubled quote content.toList ++ quote :: rest)) rest =
      quotation quote content := by
    have happend := lexeme_append (quote :: doubled quote content.toList ++ [quote]) rest
    rwa [List.append_assoc, List.cons_append, List.singleton_append] at happend
  have hnone : Numeral.scan? (quote :: (doubled quote content.toList ++ quote :: rest)) = none := by
    have hpoint : quote ≠ '.' := by rcases hq with rfl | rfl <;> decide
    refine scan?_eq_none ?_ ?_ fun h => absurd h hpoint <;> rcases hq with rfl | rfl <;> decide
  have hword : isWordStart quote = false := by rcases hq with rfl | rfl <;> decide
  rw [readToken, hnone]
  simp only [hword, Bool.false_eq_true, if_false, hcontent, htext, String.ofList_toList]
  rw [if_pos (by simpa using hq)]

lemma digits_append {ds : List Char} (hd : ∀ c ∈ ds, c.isDigit = true)
    (hr : ∀ c ∈ rest.head?, digit? c = none) : digits (ds ++ rest) = (ds.map digitValue, rest) := by
  induction ds with
  | nil => exact digits_of_stop hr
  | cons d ds ih =>
    obtain ⟨hhead, htail⟩ := List.forall_mem_cons.1 hd
    have hcode := isDigit_iff.1 hhead
    have hvalue : digit? d = some (digitValue d) := by
      rw [digit?_of_lt (by omega), if_pos hcode]
      rfl
    rw [List.cons_append, digits, hvalue, ih htail]
    rfl

/-- The digits of a whole number are read to their end. -/
lemma scan?_decimalInt (n : Int)
    (hr : ∀ c ∈ rest.head?, digit? c = none ∧ c ≠ '.' ∧ c ≠ 'e' ∧ c ≠ 'E') :
    Numeral.scan? (decimalInt n ++ rest) =
      some (⟨decide (n < 0), (decimal n.natAbs).map digitValue, none, none⟩, rest) := by
  have hdigits : digits (decimal n.natAbs ++ rest) = ((decimal n.natAbs).map digitValue, rest) :=
    digits_append (fun _ => isDigit_of_mem_decimal) fun c hc => (hr c hc).1
  have hsign : Numeral.sign (decimalInt n ++ rest) =
      (decide (n < 0), decimal n.natAbs ++ rest) := by
    rw [decimalInt]
    split
    · simp [Numeral.sign, *]
    · cases hm : decimal n.natAbs with
      | nil => exact absurd hm (decimal_ne_nil _)
      | cons d ds =>
        have hd := isDigit_iff.1 (isDigit_of_mem_decimal (hm ▸ List.mem_cons_self))
        unfold Numeral.sign
        split <;> simp_all
  have hfraction : Numeral.scanFraction rest = (none, rest) := by
    unfold Numeral.scanFraction
    split
    · exact absurd rfl (hr _ rfl).2.1
    · rfl
  have hexponent : Numeral.scanExponent rest = (none, rest) := by
    cases rest with
    | nil => rfl
    | cons d ds =>
      obtain ⟨-, -, he, hE⟩ := hr d rfl
      simp [Numeral.scanExponent, he, hE]
  rw [Numeral.scan?]
  simp [hsign, hdigits, hfraction, hexponent, decimal_ne_nil]

lemma readToken_int {n : Int} (hn : Writable n) (h : decimalInt n ++ rest = c :: cs)
    (hr : ∀ c ∈ rest.head?, digit? c = none ∧ c ≠ '.' ∧ c ≠ 'e' ∧ c ≠ 'E') :
    readToken c cs = .ok (.number (String.ofList (decimalInt n)) (.int n), rest) := by
  rw [readToken, ← h, scan?_decimalInt n hr]
  simp only [Numeral.value, readInt_decimalInt hn]
  rw [lexeme_append]
  rfl

/-- The characters that symbols start with. -/
def symbolHeads : List Char := ['(', ')', ',', '*', '.', ';', '>', '<', '!', '=']

lemma head_text (s : Symbol) : ∃ c cs, s.text.toList = c :: cs ∧ c ∈ symbolHeads ∧
    (c = '.' → s = .dot) := by
  cases s with
  | comparison c => cases c <;> exact ⟨_, _, rfl, by decide, by decide⟩
  | _ => exact ⟨_, _, rfl, by decide, by decide⟩

/-- The head of a symbol starts nothing else and continues nothing else, numbers aside. -/
lemma of_mem_symbolHeads (h : c ∈ symbolHeads) :
    (c ≠ '-' ∧ c ≠ '+') ∧ digit? c = none ∧ isWordStart c = false ∧ isWordChar c = false ∧
      isBlank c = false ∧ (c ≠ singleQuote ∧ c ≠ doubleQuote) ∧ c ≠ 'e' ∧ c ≠ 'E' := by
  simp only [symbolHeads, List.mem_cons, List.not_mem_nil, or_false] at h
  rcases h with rfl | rfl | rfl | rfl | rfl | rfl | rfl | rfl | rfl | rfl <;> decide

lemma symbol?_text (s : Symbol) (hr : Stops (.symbol s) rest) :
    symbol? (s.text.toList ++ rest) = some (s, rest) := by
  cases s with
  | comparison c =>
    cases rest with
    | nil => cases c <;> rfl
    | cons d ds =>
      have hd : d ≠ '=' := hr d rfl
      cases c <;> simp [Symbol.text, Comparison.text, symbol?, hd]
  | _ => rfl

lemma readToken_symbol (s : Symbol) (hr : Stops (.symbol s) rest)
    (h : s.text.toList ++ rest = c :: cs) : readToken c cs = .ok (.symbol s, rest) := by
  obtain ⟨d, ds, htext, hmem, hdot⟩ := head_text s
  obtain ⟨rfl, hcs⟩ : d = c ∧ ds ++ rest = cs := by simpa [htext] using h
  obtain ⟨hsign, hdigit, hword, -, -, hquote, -⟩ := of_mem_symbolHeads hmem
  have hnone : Numeral.scan? (d :: cs) = none := by
    refine scan?_eq_none hsign hdigit fun hd => ?_
    obtain rfl := hdot hd
    cases htext
    rw [← hcs]
    exact hr
  have hsymbol := symbol?_text s hr
  rw [h] at hsymbol
  rw [readToken, hnone]
  simp [hword, hquote, hsymbol]

/-- No token starts with a blank, and only symbols start like a comparison. -/
lemma exists_head {t : Token} (ht : t.Printed) :
    ∃ c cs, t.text.toList = c :: cs ∧ isBlank c = false ∧ (t.IsSymbol ∨ c ≠ '=') := by
  have hseen {c : Char} (h : 0x21 ≤ c.toNat ∧ c.toNat ≤ 0x7F) : isBlank c = false := by
    rw [← Bool.not_eq_true]
    intro hb
    have := toNat_of_isBlank hb
    omega
  cases ht with
  | word h =>
    obtain ⟨c, cs, htext, hc, -⟩ := h
    have hcode := isWordStart_iff.1 hc
    refine ⟨c, cs, htext, hseen (by omega), .inr ?_⟩
    rintro rfl
    exact absurd hc (by decide)
  | @int n hn =>
    rw [text, String.toList_ofList, decimalInt]
    split
    · exact ⟨'-', _, rfl, by decide, .inr (by decide)⟩
    · cases hm : decimal n.natAbs with
      | nil => exact absurd hm (decimal_ne_nil _)
      | cons d ds =>
        have hd := isDigit_iff.1 (isDigit_of_mem_decimal (hm ▸ List.mem_cons_self))
        refine ⟨d, ds, rfl, hseen (by omega), .inr ?_⟩
        rintro rfl
        exact absurd hd (by decide)
  | @quoted quote hq content =>
    rw [text, quotation, String.toList_ofList]
    refine ⟨quote, _, rfl, ?_, .inr ?_⟩ <;> rcases hq with rfl | rfl <;> decide
  | symbol s =>
    obtain ⟨c, cs, htext, hmem, -⟩ := head_text s
    obtain ⟨-, -, -, -, hblank, -⟩ := of_mem_symbolHeads hmem
    exact ⟨c, cs, htext, hblank, .inl ⟨s, rfl⟩⟩

/-- No token ends in a blank either. -/
lemma exists_last {t : Token} (ht : t.Printed) :
    ∃ c ∈ t.text.toList.getLast?, isBlank c = false := by
  have hlast {cs : List Char} (hne : cs ≠ []) (h : ∀ c ∈ cs, isBlank c = false) :
      ∃ c ∈ cs.getLast?, isBlank c = false :=
    ⟨cs.getLast hne, List.getLast?_eq_some_getLast hne, h _ (List.getLast_mem hne)⟩
  cases ht with
  | word h =>
    refine hlast (String.toList_eq_nil_iff.not.2 h.ne_empty) fun c hc => ?_
    rw [← Bool.not_eq_true]
    intro hb
    have hword := h.isWordChar c hc
    rw [isWordChar_of_isBlank hb] at hword
    cases hword
  | @int n hn =>
    have hdigit : ∀ c ∈ decimal n.natAbs, isBlank c = false := by
      intro c hc
      have hcode := isDigit_iff.1 (isDigit_of_mem_decimal hc)
      rw [← Bool.not_eq_true]
      intro hb
      have := toNat_of_isBlank hb
      omega
    rw [text, String.toList_ofList, decimalInt]
    split
    · exact hlast (List.cons_ne_nil _ _) (List.forall_mem_cons.2 ⟨by decide, hdigit⟩)
    · exact hlast (decimal_ne_nil _) hdigit
  | @quoted quote hq content =>
    refine ⟨quote, ?_, ?_⟩
    · rw [text, quotation, String.toList_ofList, List.getLast?_concat]
      rfl
    · rcases hq with rfl | rfl <;> decide
  | symbol s =>
    cases s with
    | comparison c => cases c <;> exact ⟨_, rfl, by decide⟩
    | _ => exact ⟨_, rfl, by decide⟩

lemma readToken_printed {t : Token} (ht : t.Printed) (hr : t.Stops rest)
    (h : t.text.toList ++ rest = c :: cs) : readToken c cs = .ok (t, rest) := by
  cases ht with
  | @word word hword =>
    obtain ⟨d, ds, htext, hd, hds⟩ := hword
    obtain ⟨rfl, rfl⟩ : d = c ∧ ds ++ rest = cs := by simpa [text, htext] using h
    rw [readToken_word hd hds hr, ← htext, String.ofList_toList]
  | int hn =>
    rw [text, String.toList_ofList] at h
    exact readToken_int hn h hr
  | @quoted quote hq content =>
    obtain ⟨rfl, rfl⟩ : quote = c ∧ doubled quote content.toList ++ quote :: rest = cs := by
      simpa [text, quotation] using h
    exact readToken_quotation hq content hr
  | symbol s => exact readToken_symbol s hr h

lemma isWord_readToken {word : String} (h : readToken c cs = .ok (.word word, rest)) :
    IsWord word := by
  unfold readToken at h
  split at h
  · split at h <;> cases h
  · split at h
    · rename_i hstart
      cases h
      exact ⟨c, _, String.toList_ofList, hstart, List.all_eq_true.1 List.all_takeWhile⟩
    · split at h
      · split at h <;> cases h
      · split at h <;> cases h

/-- All words of a text have the shape of words. -/
lemma isWord_of_scan {text word : String} {placed : List Placed} (h : scan text = .ok placed)
    (hw : .word word ∈ placed.map (·.token)) : IsWord word := by
  obtain ⟨p, hp, hword⟩ := List.mem_map.1 hw
  have hall := forall_scanFrom (P := fun t => ∀ word, t = .word word → IsWord word)
    (fun _ hread word hword => isWord_readToken (hword ▸ hread)) h
  exact hall p hp word hword

end Reading

/-! ### Layout -/

/-- Tokens one after the other, with blanks between two of them. Only beside a symbol there may be
none. -/
inductive Laid : List Token → List Char → Prop
  | last (t : Token) : Laid [t] t.text.toList
  | more {t u : Token} {ts : List Token} {gap cs : List Char}
    (blank : ∀ c ∈ gap, isBlank c = true) (beside : gap = [] → t.IsSymbol ∨ u.IsSymbol)
    (h : Laid (u :: ts) cs) : Laid (t :: u :: ts) (t.text.toList ++ (gap ++ cs))

/-- Tokens that may follow each other. A point stands between words, and no symbol comes after a
comparison. -/
def Fits : Token → Token → Prop
  | .symbol (.comparison _), u => ¬ u.IsSymbol
  | .symbol .dot, u => ∃ word, u = .word word
  | .number .., u => u ≠ .symbol .dot
  | _, _ => True

section Layout

variable {t u : Token} {rest : List Char}

lemma stops_of_blank (t : Token) (h : ∀ c ∈ rest.head?, isBlank c = true) : t.Stops rest := by
  have hseen (c : Char) (hc : c ∈ rest.head?) : c.toNat < 0x21 ∨ 0x7F < c.toNat :=
    toNat_of_isBlank (h c hc)
  have hne (c : Char) (hc : c ∈ rest.head?) (d : Char) (hd : 0x21 ≤ d.toNat ∧ d.toNat ≤ 0x7F) :
      c ≠ d := by
    rintro rfl
    have := hseen c hc
    omega
  unfold Stops
  split
  · exact fun c hc => isWordChar_of_isBlank (h c hc)
  · exact fun c hc => ⟨digit?_of_isBlank (h c hc), hne c hc _ (by decide), hne c hc _ (by decide),
      hne c hc _ (by decide)⟩
  · exact fun c hc => ⟨hne c hc _ (by decide), hne c hc _ (by decide)⟩
  · exact fun c hc => hne c hc _ (by decide)
  · exact fun c hc => digit?_of_isBlank (h c hc)
  · trivial

/-- Where one of two tokens is a symbol, the second does not continue the first. -/
lemma stops_of_fits (hu : u.Printed) (hfits : t.Fits u) (hs : t.IsSymbol ∨ u.IsSymbol) :
    t.Stops (u.text.toList ++ rest) := by
  obtain ⟨c, cs, hhead, -, hequal⟩ := exists_head hu
  -- the head of a symbol, if the second token is one
  have hsymbol : ∀ s, u = .symbol s → c ∈ symbolHeads ∧ (c = '.' → s = .dot) := by
    rintro s rfl
    obtain ⟨d, ds, htext, hmem, hdot⟩ := head_text s
    obtain ⟨rfl, -⟩ := List.cons.inj (htext.symm.trans hhead)
    exact ⟨hmem, hdot⟩
  have hnext (h : ¬ t.IsSymbol) : ∃ s, u = .symbol s := hs.resolve_left h
  rw [hhead, List.cons_append]
  unfold Stops
  split
  · obtain ⟨s, rfl⟩ := hnext (by rintro ⟨_, ⟨⟩⟩)
    obtain ⟨-, -, -, hword, -⟩ := of_mem_symbolHeads (hsymbol s rfl).1
    rintro d ⟨⟩
    exact hword
  · obtain ⟨s, rfl⟩ := hnext (by rintro ⟨_, ⟨⟩⟩)
    obtain ⟨hmem, hdot⟩ := hsymbol s rfl
    obtain ⟨-, hdigit, -, -, -, -, hexponent⟩ := of_mem_symbolHeads hmem
    rintro d ⟨⟩
    exact ⟨hdigit, fun hd => hfits (congrArg _ (hdot hd)), hexponent⟩
  · obtain ⟨s, rfl⟩ := hnext (by rintro ⟨_, ⟨⟩⟩)
    obtain ⟨-, -, -, -, -, hquote, -⟩ := of_mem_symbolHeads (hsymbol s rfl).1
    rintro d ⟨⟩
    exact hquote
  · rintro d ⟨⟩
    exact hequal.resolve_left hfits
  · obtain ⟨word, rfl⟩ := hfits
    cases hu with
    | word h =>
      obtain ⟨d, ds, htext, hd, -⟩ := h
      obtain ⟨rfl, -⟩ := List.cons.inj (htext.symm.trans hhead)
      have hcode := isWordStart_iff.1 hd
      rintro e ⟨⟩
      rw [digit?_of_lt (by omega), if_neg (by omega)]
  · trivial

lemma Laid.exists_rest {ts : List Token} {cs : List Char} (h : Laid (u :: ts) cs) :
    ∃ rest, cs = u.text.toList ++ rest := by
  cases h with
  | last => exact ⟨[], (List.append_nil _).symm⟩
  | more => exact ⟨_, rfl⟩

/-- Tokens that are laid out start and end with none of the blanks. -/
lemma Laid.ends_not_blank {ts : List Token} {cs : List Char} (h : Laid ts cs)
    (hp : ∀ t ∈ ts, t.Printed) :
    (∃ c ∈ cs.head?, isBlank c = false) ∧ ∃ c ∈ cs.getLast?, isBlank c = false := by
  induction h with
  | last t =>
    have ht := hp t List.mem_cons_self
    obtain ⟨c, cs, htext, hblank, -⟩ := exists_head ht
    exact ⟨⟨c, by rw [htext]; rfl, hblank⟩, exists_last ht⟩
  | more blank beside h ih =>
    obtain ⟨ht, hrest⟩ := List.forall_mem_cons.1 hp
    obtain ⟨c, cs, htext, hblank, -⟩ := exists_head ht
    obtain ⟨-, d, hd, hd'⟩ := ih hrest
    refine ⟨⟨c, by rw [htext]; rfl, hblank⟩, d, ?_, hd'⟩
    rw [List.getLast?_append, List.getLast?_append, Option.mem_def.1 hd]
    rfl

lemma Scans.blanks {gap cs : List Char} {ts : List Token} (hgap : ∀ c ∈ gap, isBlank c = true)
    (h : Scans cs ts) : Scans (gap ++ cs) ts := by
  induction gap with
  | nil => exact h
  | cons c gap ih =>
    obtain ⟨hc, hgap⟩ := List.forall_mem_cons.1 hgap
    exact .blank hc (ih hgap)

lemma Scans.printed {ts : List Token} (ht : t.Printed) (hr : t.Stops rest) (h : Scans rest ts) :
    Scans (t.text.toList ++ rest) (t :: ts) := by
  obtain ⟨c, cs, htext, hblank, -⟩ := exists_head ht
  have hread := readToken_printed ht hr (congrArg (· ++ rest) htext)
  rw [htext]
  exact .token hblank hread h

/-- What is laid out after a token does not continue it. -/
lemma Laid.stops {ts : List Token} {gap cs : List Char} (h : Laid (u :: ts) cs)
    (blank : ∀ c ∈ gap, isBlank c = true) (beside : gap = [] → t.IsSymbol ∨ u.IsSymbol)
    (hu : u.Printed) (hfits : t.Fits u) : t.Stops (gap ++ cs) := by
  cases gap with
  | nil =>
    obtain ⟨rest, rfl⟩ := h.exists_rest
    exact stops_of_fits hu hfits (beside rfl)
  | cons c gap =>
    refine stops_of_blank t ?_
    rintro d ⟨⟩
    exact blank c List.mem_cons_self

/-- **Printed tokens are scanned**, however they are laid out. -/
theorem scans_laid {ts : List Token} {cs : List Char} (h : Laid ts cs)
    (hp : ∀ t ∈ ts, t.Printed) (hf : ts.IsChain Fits) : Scans cs ts := by
  induction h with
  | last t =>
    rw [← List.append_nil t.text.toList]
    exact .printed (hp t List.mem_cons_self) (stops_of_blank t (by simp)) .nil
  | more blank beside h ih =>
    obtain ⟨ht, hrest⟩ := List.forall_mem_cons.1 hp
    obtain ⟨hfits, hchain⟩ := List.isChain_cons_cons.1 hf
    have hstops := h.stops blank beside (hrest _ List.mem_cons_self) hfits
    exact .printed ht hstops (.blanks blank (ih hrest hchain))

end Layout

end Token

end Tabula

import Tabula.Proofs.Number.Grammar

/-!
What the texts of tokens look like, and which token is read at the head of a text.

There are four shapes. A token is read if a text of one of them stands at the head: the longest one,
and a numeral before a symbol. `Begins` says so without a reader, and `readToken_eq_ok` that this is
what is read. Nothing can be read where no text of any shape stands.
-/

namespace Tabula.Token

open Text

/-! ### Shapes -/

def IsQuote (c : Char) : Prop := c = singleQuote ∨ c = doubleQuote

/-- A text in which every two quotes side by side, taken from the left, become one. -/
def halved (quote : Char) : List Char → List Char
  | c :: d :: cs =>
    if c = quote ∧ d = quote then quote :: halved quote cs else c :: halved quote (d :: cs)
  | cs => cs

inductive Shape where
  | word
  | number
  | quoted
  | symbol
deriving DecidableEq

/-- The texts of a shape. Between quotes the quote stands twice. -/
def Shape.Has : Shape → List Char → Prop
  | .word, cs => IsWord (String.ofList cs)
  | .number, cs => Numeral.IsNumeral cs
  | .quoted, cs =>
    ∃ quote content, IsQuote quote ∧ cs = quote :: (doubled quote content ++ [quote])
  | .symbol, cs => ∃ s : Symbol, cs = s.text.toList

def shape : Token → Shape
  | .word _ => .word
  | .number .. => .number
  | .quoted .. => .quoted
  | .symbol _ => .symbol

/-- A token is what its text says: a number is the one that is spelled, and of quoted text the
content is what stands between the quotes, with every two of them halved. -/
def Spelled : Token → Prop
  | .word s => IsWord s
  | .number text value =>
    Numeral.IsNumeral text.toList ∧ Numeral.read? text.toList = .ok (some value)
  | .quoted text content => ∃ quote inside, IsQuote quote ∧
    text.toList = quote :: (inside ++ [quote]) ∧ content.toList = halved quote inside ∧
    inside = doubled quote content.toList
  | .symbol _ => True

/-- A token stands at the head of a text, before a rest: no longer text of its shape stands there,
and no numeral unless it is one. -/
structure Begins (cs : List Char) (t : Token) (rest : List Char) : Prop where
  append : t.text.toList ++ rest = cs
  spelled : t.Spelled
  longest : ∀ w, t.shape.Has w → w <+: cs → w.length ≤ t.text.toList.length
  first : t.shape ≠ .number → ∀ w, Shape.number.Has w → ¬ w <+: cs

variable {quote c : Char} {cs ds cut r rest tail w inner : List Char} {t : Token}

@[simp] lemma doubled_nil (quote : Char) : doubled quote [] = [] := rfl

lemma doubled_cons (quote c : Char) (cs : List Char) :
    doubled quote (c :: cs) = (if c = quote then [c, c] else [c]) ++ doubled quote cs :=
  List.flatMap_cons

lemma halved_cons_of_ne (hc : c ≠ quote) (cs : List Char) :
    halved quote (c :: cs) = c :: halved quote cs := by
  cases cs with
  | nil => rfl
  | cons d cs => rw [halved, if_neg fun h => hc h.1]

lemma halved_doubled (quote : Char) (cs : List Char) : halved quote (doubled quote cs) = cs := by
  induction cs with
  | nil => rfl
  | cons c cs ih =>
    rw [doubled_cons]
    by_cases hc : c = quote
    · subst hc
      rw [if_pos rfl, List.cons_append, List.singleton_append, halved, if_pos ⟨rfl, rfl⟩, ih]
    · rw [if_neg hc, List.singleton_append, halved_cons_of_ne hc, ih]

lemma Spelled.has (h : t.Spelled) : t.shape.Has t.text.toList := by
  cases t with
  | word word =>
    rw [shape, Shape.Has, text, String.ofList_toList]
    exact h
  | number text value => exact h.1
  | quoted text content =>
    obtain ⟨quote, inside, hq, htext, -, hinside⟩ := h
    exact ⟨quote, content.toList, hq, hinside ▸ htext⟩
  | symbol s => exact ⟨s, rfl⟩

/-- A text of any shape starts with a character that is no blank. -/
lemma Shape.Has.head {s : Shape} (h : s.Has w) : ∃ c cs, w = c :: cs ∧ isBlank c = false := by
  cases s with
  | word =>
    obtain ⟨c, cs, htext, hc, -⟩ := h
    rw [String.toList_ofList] at htext
    refine ⟨c, cs, htext, ?_⟩
    rw [← Bool.not_eq_true]
    intro hb
    have hword := isWordChar_of_isWordStart hc
    rw [isWordChar_of_isBlank hb] at hword
    cases hword
  | number =>
    have hvisible := Numeral.IsNumeral.isBlank_eq_false h
    cases w with
    | nil =>
      obtain ⟨n, rest, hscan, -⟩ := Numeral.IsNumeral.scan?_append h []
      cases hscan
    | cons c cs => exact ⟨c, cs, rfl, hvisible c List.mem_cons_self⟩
  | quoted =>
    obtain ⟨quote, content, rfl | rfl, rfl⟩ := h
    · exact ⟨_, _, rfl, by decide⟩
    · exact ⟨_, _, rfl, by decide⟩
  | symbol =>
    obtain ⟨s, rfl⟩ := h
    obtain ⟨c, cs, htext, hmem, -⟩ := head_text s
    obtain ⟨-, -, -, -, hblank, -⟩ := of_mem_symbolHeads hmem
    exact ⟨c, cs, htext, hblank⟩

/-! ### Words -/

/-- A word at the head of a text has no more characters than there are in a row. -/
lemma length_le_of_isWord (h : Shape.word.Has w) (hp : w <+: c :: cs) :
    isWordStart c = true ∧ w.length ≤ (cs.takeWhile isWordChar).length + 1 := by
  obtain ⟨d, ds, htext, hd, hds⟩ := h
  rw [String.toList_ofList] at htext
  subst htext
  obtain ⟨rfl, tail, rfl⟩ := List.cons_prefix_cons.1 hp
  refine ⟨hd, ?_⟩
  rw [List.takeWhile_append_of_pos hds, List.length_cons, List.length_append]
  omega

/-! ### Quoted text -/

lemma content?_eq_some (h : content? quote cs = some (inner, rest)) :
    cs = doubled quote inner ++ quote :: rest := by
  fun_induction content? quote cs generalizing inner rest with
  | case1 => cases h
  | case2 ds inner after hread ih =>
    cases h
    rw [doubled_cons, if_pos rfl, ih hread]
    rfl
  | case3 ds _ ih =>
    cases h
    rfl
  | case4 =>
    cases h
    rfl
  | case5 =>
    cases h
    rfl
  | case6 c cs hc inner after hread ih =>
    cases h
    rw [doubled_cons, if_neg hc, ih hread]
    rfl
  | case7 => cases h

/-- Quoted text is not closed where the quote does not come again. -/
lemma notMem_of_content?_eq_none (h : content? quote cs = none) : quote ∉ cs := by
  fun_induction content? quote cs with
  | case1 => exact List.not_mem_nil
  | case2 => cases h
  | case3 => cases h
  | case4 => cases h
  | case5 => cases h
  | case6 => cases h
  | case7 c cs hc hread ih =>
    rw [List.mem_cons, not_or]
    exact ⟨Ne.symm hc, ih hread⟩

/-- Quoted text is closed by the last quote that can close it. -/
lemma exists_content? (quote : Char) (inner tail : List Char) :
    ∃ found rest, content? quote (doubled quote inner ++ quote :: tail) = some (found, rest) ∧
      rest.length ≤ tail.length := by
  induction inner with
  | nil =>
    cases tail with
    | nil => exact ⟨[], [], by simp [content?], le_rfl⟩
    | cons d ds =>
      by_cases hd : d = quote
      · subst hd
        cases hread : content? d ds with
        | none => exact ⟨[], d :: ds, by simp [content?, hread], le_rfl⟩
        | some found =>
          obtain ⟨found, rest⟩ := found
          refine ⟨d :: found, rest, by simp [content?, hread], ?_⟩
          exact (length_content?_lt hread).le.trans (Nat.le_succ _)
      · exact ⟨[], d :: ds, by simp [content?, hd], le_rfl⟩
  | cons c inner ih =>
    obtain ⟨found, rest, hread, hlength⟩ := ih
    refine ⟨c :: found, rest, ?_, hlength⟩
    rw [doubled_cons]
    by_cases hc : c = quote
    · subst hc
      simp only [if_true, List.cons_append, List.nil_append, content?, hread]
    · rw [if_neg hc, List.singleton_append, List.cons_append, content?.eq_def]
      simp only [if_neg hc, hread]

/-! ### Symbols -/

lemma symbol?_eq_some {s : Symbol} (h : symbol? cs = some (s, rest)) :
    cs = s.text.toList ++ rest := by
  unfold symbol? at h
  split at h <;> cases h <;> rfl

lemma symbol?_short {op : Comparison} (hop : op = .less ∨ op = .greater) {d : Char} (hd : d ≠ '=')
    (ds : List Char) : symbol? (op.text.toList ++ d :: ds) = some (.comparison op, d :: ds) := by
  rcases hop with rfl | rfl <;>
  · simp only [Comparison.text, String.reduceToList, List.cons_append, List.nil_append]
    unfold symbol?
    split <;> simp_all

/-- The longer of two symbols is read. -/
lemma exists_symbol? (s : Symbol) (tail : List Char) :
    ∃ found rest, symbol? (s.text.toList ++ tail) = some (found, rest) ∧
      rest.length ≤ tail.length := by
  cases s with
  | comparison op =>
    cases op with
    | less | greater =>
      rcases tail with - | ⟨d, ds⟩
      · exact ⟨_, _, rfl, le_rfl⟩
      by_cases hd : d = '='
      · subst hd
        exact ⟨_, _, rfl, Nat.le_succ _⟩
      · exact ⟨_, _, symbol?_short (by simp) hd ds, le_rfl⟩
    | _ => exact ⟨_, _, rfl, le_rfl⟩
  | _ => exact ⟨_, _, rfl, le_rfl⟩

/-! ### What is read begins the text -/

section Reading

variable {s s' : Shape} {n : Numeral} {value : Number} {refusal : Refusal} {u : Token}
  {after : List Char}

/-- The shape of the texts that start with a character, numerals aside. -/
def Shape.ofHead (c : Char) : Shape :=
  if isWordStart c then .word else if c = singleQuote || c = doubleQuote then .quoted else .symbol

lemma Shape.ofHead_of_isQuote (h : IsQuote c) : ofHead c = .quoted := by
  rcases h with rfl | rfl <;> decide

lemma Shape.Has.eq_ofHead (h : s.Has (c :: cs)) (hs : s ≠ .number) : s = ofHead c := by
  cases s with
  | number => exact absurd rfl hs
  | word =>
    obtain ⟨d, ds, htext, hd, -⟩ := h
    rw [String.toList_ofList] at htext
    cases htext
    rw [ofHead, if_pos hd]
  | quoted =>
    obtain ⟨quote, content, hq, htext⟩ := h
    cases htext
    exact (ofHead_of_isQuote hq).symm
  | symbol =>
    obtain ⟨s, htext⟩ := h
    obtain ⟨d, ds, hhead, hmem, -⟩ := head_text s
    rw [hhead] at htext
    cases htext
    obtain ⟨-, -, hword, -, -, hquote, -⟩ := of_mem_symbolHeads hmem
    simp [ofHead, hword, hquote]

/-- No numeral starts with a quote. -/
lemma not_isQuote_of_isNumeral (h : Numeral.IsNumeral (c :: cs)) : ¬ IsQuote c := by
  intro hq
  have hnone : Numeral.scan? (c :: cs) = none := by
    refine scan?_eq_none ?_ ?_ fun hc => ?_ <;> rcases hq with rfl | rfl
    · decide
    · decide
    · decide
    · decide
    · exact absurd hc (by decide)
    · exact absurd hc (by decide)
  exact Numeral.not_prefix_of_scan?_eq_none hnone h (List.prefix_refl _)

lemma Begins.cons (h : Begins cs t rest) :
    ∃ c tail, t.text.toList = c :: tail ∧ cs = c :: (tail ++ rest) ∧ isBlank c = false := by
  obtain ⟨c, tail, htext, hblank⟩ := h.spelled.has.head
  refine ⟨c, tail, htext, ?_, hblank⟩
  rw [← h.append, htext, List.cons_append]

lemma text_injective {s s' : Symbol} (h : s.text = s'.text) : s = s' := by
  have hread : ∀ s : Symbol, symbol? (s.text.toList ++ []) = some (s, []) := fun s =>
    symbol?_text s (by cases s <;> simp [Stops])
  have hboth := hread s
  rw [h, hread s'] at hboth
  cases hboth
  rfl

/-- A token is told by its shape and its text. -/
lemma eq_of_spelled (ht : t.Spelled) (hu : u.Spelled) (hs : t.shape = u.shape)
    (htext : t.text = u.text) : t = u := by
  cases t with
  | word s =>
    cases u with
    | word s' => exact congrArg word htext
    | _ => cases hs
  | number s value =>
    cases u with
    | number s' value' =>
      obtain rfl : s = s' := htext
      cases ht.2.symm.trans hu.2
      rfl
    | _ => cases hs
  | quoted s content =>
    cases u with
    | quoted s' content' =>
      obtain rfl : s = s' := htext
      obtain ⟨quote, inside, -, hinside, hcontent, -⟩ := ht
      obtain ⟨quote', inside', -, hinside', hcontent', -⟩ := hu
      obtain ⟨rfl, hboth⟩ := List.cons.inj (hinside.symm.trans hinside')
      obtain rfl := List.append_cancel_right hboth
      rw [String.toList_injective (hcontent.trans hcontent'.symm)]
    | _ => cases hs
  | symbol s =>
    cases u with
    | symbol s' => exact congrArg symbol (text_injective htext)
    | _ => cases hs

/-- **At the head of a text there is at most one token.** -/
theorem Begins.unique (h : Begins cs t rest) (h' : Begins cs u after) : t = u ∧ rest = after := by
  have hshape : t.shape = u.shape := by
    by_cases ht : t.shape = .number
    · by_contra hne
      exact h'.first (fun hu => hne (ht.trans hu.symm)) _ (ht ▸ h.spelled.has) ⟨rest, h.append⟩
    · have hu : u.shape ≠ .number := fun hu =>
        h.first ht _ (hu ▸ h'.spelled.has) ⟨after, h'.append⟩
      obtain ⟨c, tail, htext, hcs, -⟩ := h.cons
      obtain ⟨d, tail', htext', hds, -⟩ := h'.cons
      obtain ⟨rfl, -⟩ := List.cons.inj (hcs.symm.trans hds)
      exact ((htext ▸ h.spelled.has).eq_ofHead ht).trans
        ((htext' ▸ h'.spelled.has).eq_ofHead hu).symm
  have hlength : t.text.toList.length = u.text.toList.length :=
    (h'.longest _ (hshape ▸ h.spelled.has) ⟨rest, h.append⟩).antisymm
      (h.longest _ (hshape ▸ h'.spelled.has) ⟨after, h'.append⟩)
  obtain ⟨htext, hrest⟩ := List.append_inj (h.append.trans h'.append.symm) hlength
  exact ⟨eq_of_spelled h.spelled h'.spelled hshape (String.toList_injective htext), hrest⟩

lemma begins_number (h : Numeral.scan? cs = some (n, rest)) (hv : n.value = .ok value) :
    Begins cs (.number (lexeme cs rest) value) rest := by
  obtain ⟨w, hw, rfl⟩ := Numeral.isNumeral_of_scan? h
  have hread : Numeral.read? w = .ok (some value) := by
    rw [Numeral.read?_of_scan? (Numeral.scan?_of_append (r := []) h), hv]
    rfl
  rw [lexeme_append]
  refine ⟨?_, ?_, fun v hv hp => ?_, fun hs => absurd rfl hs⟩
  · rw [text, String.toList_ofList]
  · rw [Spelled, String.toList_ofList]
    exact ⟨hw, hread⟩
  · have hlength := Numeral.length_le_of_scan? h hv hp
    rw [List.length_append] at hlength
    rw [text, String.toList_ofList]
    omega

variable (hnone : Numeral.scan? (c :: cs) = none)

include hnone

lemma begins_word (hc : isWordStart c = true) :
    Begins (c :: cs) (.word (String.ofList (c :: cs.takeWhile isWordChar)))
      (cs.dropWhile isWordChar) where
  append := by
    rw [text, String.toList_ofList, List.cons_append, List.takeWhile_append_dropWhile]
  spelled := ⟨c, _, String.toList_ofList, hc, fun d hd => List.mem_takeWhile_imp hd⟩
  longest w hw hp := by
    rw [text, String.toList_ofList, List.length_cons]
    exact (length_le_of_isWord hw hp).2
  first _ w hw := Numeral.not_prefix_of_scan?_eq_none hnone hw

lemma begins_quoted (hc : IsQuote c) (h : content? c cs = some (inner, rest)) :
    Begins (c :: cs) (.quoted (lexeme (c :: cs) rest) (String.ofList inner)) rest := by
  have hcs := content?_eq_some h
  have htext : lexeme (c :: cs) rest = String.ofList (c :: (doubled c inner ++ [c])) := by
    rw [hcs, ← lexeme_append (c :: (doubled c inner ++ [c])) rest, List.cons_append,
      List.append_assoc, List.singleton_append]
  rw [htext]
  refine ⟨?_, ?_, fun w hw hp => ?_, fun _ w hw => Numeral.not_prefix_of_scan?_eq_none hnone hw⟩
  · rw [text, String.toList_ofList, List.cons_append, List.append_assoc, List.singleton_append,
      ← hcs]
  · refine ⟨c, doubled c inner, hc, String.toList_ofList, ?_, ?_⟩ <;> rw [String.toList_ofList]
    exact (halved_doubled c inner).symm
  · -- the text that is closed by another quote is no longer
    obtain ⟨quote, content, -, rfl⟩ := hw
    obtain ⟨rfl, tail, htail⟩ := List.cons_prefix_cons.1 hp
    rw [List.append_assoc, List.singleton_append] at htail
    obtain ⟨found, last, hread, hle⟩ := exists_content? quote content tail
    rw [htail, h] at hread
    cases hread
    have hlength := congrArg List.length (htail.trans hcs)
    simp only [List.length_append, List.length_cons] at hlength
    simp only [text, String.toList_ofList, List.length_cons, List.length_append, List.length_nil]
    omega

lemma begins_symbol {sym : Symbol} (h : symbol? (c :: cs) = some (sym, rest)) :
    Begins (c :: cs) (.symbol sym) rest where
  append := (symbol?_eq_some h).symm
  spelled := trivial
  longest w hw hp := by
    obtain ⟨s, rfl⟩ := hw
    obtain ⟨tail, htail⟩ := hp
    obtain ⟨found, last, hread, hle⟩ := exists_symbol? s tail
    rw [htail, h] at hread
    cases hread
    have hlength := congrArg List.length (htail.trans (symbol?_eq_some h))
    simp only [List.length_append] at hlength
    rw [text]
    omega
  first _ w hw := Numeral.not_prefix_of_scan?_eq_none hnone hw

end Reading

/-! ### What is read, and what is refused -/

/-- What a text starts with, of which no token is read. -/
def Refusal.Fits (c : Char) (cs : List Char) : Refusal → Prop
  | .unterminated => IsQuote c ∧ c ∉ cs
  | .unexpected d => d = c ∧ ¬ IsQuote c ∧ ∀ s w, Shape.Has s w → ¬ w <+: c :: cs
  | .number fault => ∃ w count, Numeral.IsWholeNumeral w count ∧ w <+: c :: cs ∧
    (∀ v, Numeral.IsNumeral v → v <+: c :: cs → v.length ≤ w.length) ∧
    digitLimit < count ∧ fault = .tooManyDigits count

section Reading

variable {n : Numeral} {fault : NumberFault} {refusal : Refusal}

lemma begins_of_readToken (h : readToken c cs = .ok (t, rest)) : Begins (c :: cs) t rest := by
  unfold readToken at h
  split at h
  · rename_i hscan
    split at h <;> cases h
    exact begins_number hscan ‹_›
  · rename_i hnone
    split at h
    · cases h
      exact begins_word hnone ‹_›
    · split at h
      · rename_i hc
        split at h <;> cases h
        exact begins_quoted hnone (by simpa [IsQuote] using hc) ‹_›
      · split at h <;> cases h
        exact begins_symbol hnone ‹_›

lemma fits_number (h : Numeral.scan? (c :: cs) = some (n, rest)) (hv : n.value = .error fault) :
    (Refusal.number fault).Fits c cs := by
  obtain ⟨hf, hx, rfl, hlong⟩ := Numeral.value_eq_error hv
  obtain ⟨w, hw, hcs⟩ := Numeral.isWholeNumeral_of_scan? h hf hx
  refine ⟨w, _, hw, ⟨rest, hcs⟩, fun v hv hp => ?_, hlong, rfl⟩
  have hlength := Numeral.length_le_of_scan? h hv hp
  rw [← hcs, List.length_append] at hlength
  omega

/-- Where none of the readers reads, no text of any shape stands. -/
lemma fits_unexpected (hnone : Numeral.scan? (c :: cs) = none) (hword : isWordStart c = false)
    (hquote : ¬ IsQuote c) (hsymbol : symbol? (c :: cs) = none) :
    (Refusal.unexpected c).Fits c cs := by
  refine ⟨rfl, hquote, fun s w hw hp => ?_⟩
  cases s with
  | number => exact Numeral.not_prefix_of_scan?_eq_none hnone hw hp
  | word =>
    obtain ⟨hc, -⟩ := length_le_of_isWord hw hp
    rw [hword] at hc
    cases hc
  | quoted =>
    obtain ⟨quote, content, hq, rfl⟩ := hw
    obtain ⟨rfl, -⟩ := List.cons_prefix_cons.1 hp
    exact hquote hq
  | symbol =>
    obtain ⟨s, rfl⟩ := hw
    obtain ⟨tail, htail⟩ := hp
    obtain ⟨found, last, hread, -⟩ := exists_symbol? s tail
    rw [htail, hsymbol] at hread
    cases hread

lemma fits_of_readToken (h : readToken c cs = .error refusal) : refusal.Fits c cs := by
  unfold readToken at h
  split at h
  · rename_i hscan
    split at h <;> cases h
    exact fits_number hscan ‹_›
  · rename_i hnone
    split at h
    · cases h
    · rename_i hword
      split at h
      · rename_i hc
        split at h <;> cases h
        exact ⟨by simpa [IsQuote] using hc, notMem_of_content?_eq_none ‹_›⟩
      · rename_i hc
        split at h <;> cases h
        exact fits_unexpected hnone (by simpa using hword) (by simpa [IsQuote] using hc) ‹_›

lemma scan?_of_refused (h : readToken c cs = .error (.number fault)) :
    ∃ n rest, Numeral.scan? (c :: cs) = some (n, rest) ∧ n.value = .error fault := by
  unfold readToken at h
  split at h
  · split at h <;> cases h
    exact ⟨_, _, ‹_›, ‹_›⟩
  · split at h
    · cases h
    · split at h <;> split at h <;> cases h

/-- No token is a numeral whose number cannot be read. -/
lemma not_begins_of_error (h : Numeral.scan? cs = some (n, rest)) (hv : n.value = .error fault) :
    ¬ Begins cs t r := by
  intro hb
  obtain ⟨w, hw, rfl⟩ := Numeral.isNumeral_of_scan? h
  have hshape : t.shape = .number := by
    by_contra hs
    exact hb.first hs w hw (List.prefix_append w rest)
  cases t with
  | number s value =>
    obtain ⟨hnumeral, hread⟩ := hb.spelled
    have hle := Numeral.length_le_of_scan? h hnumeral ⟨r, hb.append⟩
    have hge := hb.longest w hw (List.prefix_append w rest)
    rw [List.length_append] at hle
    have heq : s.toList = w := (List.append_inj hb.append (by simp only [text] at hge ⊢; omega)).1
    rw [heq, Numeral.read?_of_scan? (Numeral.scan?_of_append (r := []) h), hv] at hread
    cases hread
  | _ => cases hshape

/-- Where a token is refused there is none. -/
lemma not_begins_of_readToken (h : readToken c cs = .error refusal) :
    ¬ Begins (c :: cs) t rest := by
  intro hb
  have hp : t.text.toList <+: c :: cs := ⟨rest, hb.append⟩
  obtain ⟨d, tail, htext, hcs, -⟩ := hb.cons
  have hhas := hb.spelled.has
  cases refusal with
  | number fault =>
    obtain ⟨n, after, hscan, hv⟩ := scan?_of_refused h
    exact not_begins_of_error hscan hv hb
  | unexpected d =>
    obtain ⟨-, -, hnone⟩ := fits_of_readToken h
    exact hnone _ _ hhas hp
  | unterminated =>
    obtain ⟨hq, hnot⟩ := fits_of_readToken h
    obtain ⟨rfl, rfl⟩ := List.cons.inj hcs
    rw [htext] at hhas
    have hs : t.shape ≠ .number := fun hs => not_isQuote_of_isNumeral (hs ▸ hhas) hq
    rw [hhas.eq_ofHead hs, Shape.ofHead_of_isQuote hq] at hhas
    obtain ⟨quote, content, -, hclosed⟩ := hhas
    obtain ⟨rfl, rfl⟩ := List.cons.inj hclosed
    exact hnot (by simp)

/-- **The token that is read is the one that begins the text.** -/
theorem readToken_eq_ok : readToken c cs = .ok (t, rest) ↔ Begins (c :: cs) t rest := by
  refine ⟨begins_of_readToken, fun h => ?_⟩
  cases hread : readToken c cs with
  | error refusal => exact absurd h (not_begins_of_readToken hread)
  | ok found =>
    obtain ⟨u, after⟩ := found
    obtain ⟨rfl, rfl⟩ := (begins_of_readToken hread).unique h
    rfl

/-- A token stands at the head of a text wherever the text is cut off behind it. -/
theorem Begins.of_append (h : Begins (ds ++ cut) t (r ++ cut)) : Begins ds t r where
  append := List.append_cancel_right ((List.append_assoc _ _ _).trans h.append)
  spelled := h.spelled
  longest w hw hp := h.longest w hw (hp.trans (List.prefix_append _ _))
  first hs w hw hp := h.first hs w hw (hp.trans (List.prefix_append _ _))

end Reading

end Tabula.Token

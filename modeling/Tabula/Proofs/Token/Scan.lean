import Tabula.Proofs.Except
import Tabula.Statement.Command

/-!
The tokens of a text, one after the other.

`Scans` says which tokens a text has, wherever it starts; there is one lemma for each way in which
a text can start. Of quoted text without quotes in it nothing needs to be known.
-/

namespace Tabula

/-- Of a text between blanks the text is left. -/
lemma Text.trim_append {lead cs trail : List Char} (hlead : ∀ c ∈ lead, isBlank c = true)
    (htrail : ∀ c ∈ trail, isBlank c = true) (hl : ∃ c ∈ cs.head?, isBlank c = false)
    (hr : ∃ c ∈ cs.getLast?, isBlank c = false) : trim (lead ++ cs ++ trail) = cs := by
  have hdrop : ∀ ds es : List Char, (∃ d ∈ ds.head?, isBlank d = false) →
      (ds ++ es).dropWhile isBlank = ds ++ es := by
    rintro ds es ⟨d, hd, hblank⟩
    obtain ⟨ds, rfl⟩ : ∃ rest, ds = d :: rest := List.head?_eq_some_iff.1 hd
    rw [List.cons_append, List.dropWhile_cons_of_neg (by simp [hblank])]
  rw [trim, trimWhere, List.append_assoc, List.dropWhile_append_of_pos hlead, hdrop cs trail hl,
    List.reverse_append, List.dropWhile_append_of_pos (by simpa using htrail),
    ← List.append_nil cs.reverse, hdrop _ _ (by rwa [List.head?_reverse]), List.append_nil,
    List.reverse_reverse]

/-- A text without blanks at its ends. -/
lemma Text.trim_eq_self {cs : List Char} (hl : cs.head?.any isBlank = false)
    (hr : cs.getLast?.any isBlank = false) : trim cs = cs := by
  cases cs with
  | nil => rfl
  | cons c cs =>
    obtain ⟨d, hd⟩ : ∃ d, (c :: cs).getLast? = some d :=
      ⟨_, List.getLast?_eq_some_getLast (by simp)⟩
    have htrim : trim ([] ++ c :: cs ++ []) = c :: cs := trim_append (by simp) (by simp)
      ⟨c, rfl, by simpa using hl⟩ ⟨d, hd, by simpa [hd] using hr⟩
    simpa using htrim

namespace Token

open Text

/-- A text has these tokens. -/
def Scans (cs : List Char) (ts : List Token) : Prop :=
  ∀ position, ∃ placed, scanFrom position cs = .ok placed ∧ placed.map (·.token) = ts

variable {c : Char} {cs rest : List Char} {t : Token} {ts : List Token}

lemma Scans.nil : Scans [] [] := by
  intro position
  refine ⟨[], ?_, rfl⟩
  rw [scanFrom]

lemma Scans.blank (hc : isBlank c = true) (h : Scans cs ts) : Scans (c :: cs) ts := by
  intro position
  rw [scanFrom, if_pos hc]
  exact h (position + 1)

lemma Scans.token (hc : isBlank c = false) (ht : readToken c cs = .ok (t, rest))
    (h : Scans rest ts) : Scans (c :: cs) (t :: ts) := by
  intro position
  obtain ⟨placed, hplaced, hts⟩ := h (position + (cs.length + 1 - rest.length))
  refine ⟨⟨t, position⟩ :: placed, ?_, by rw [List.map_cons, hts]⟩
  rw [scanFrom, if_neg (by simp [hc])]
  split
  · rename_i refusal hread
    rw [ht] at hread
    cases hread
  · rename_i u after hread
    rw [ht] at hread
    cases hread
    rw [hplaced]
    rfl

/-- What is left after a token is the end of the text. -/
lemma readToken_suffix (h : readToken c cs = .ok (t, rest)) : rest <:+ c :: cs := by
  have hcontent : ∀ {quote : Char} {cs inner rest : List Char},
      content? quote cs = some (inner, rest) → rest <:+ cs := by
    intro quote cs inner rest h
    fun_induction content? quote cs generalizing inner <;>
      grind [List.suffix_cons_iff, List.suffix_refl]
  have hsymbol : ∀ {cs rest : List Char} {s : Symbol},
      symbol? cs = some (s, rest) → rest <:+ cs := by
    intro cs rest s h
    unfold symbol? at h
    split at h <;> cases h <;> simp [List.suffix_cons_iff]
  unfold readToken at h
  split at h
  · rename_i hn
    split at h
    · cases h
      exact Numeral.scan?_suffix hn
    · cases h
  · split at h
    · cases h
      exact (List.dropWhile_suffix _).trans (List.suffix_cons _ _)
    · split at h
      · split at h
        · rename_i hc
          cases h
          exact (hcontent hc).trans (List.suffix_cons _ _)
        · cases h
      · split at h
        · rename_i hs
          cases h
          exact hsymbol hs
        · cases h

/-- What holds of every token that is read holds of all tokens of a text. -/
lemma forall_scanFrom {P : Token → Prop} {position : Nat} {cs : List Char}
    (hread : ∀ {c ds t rest}, c :: ds <:+ cs → readToken c ds = .ok (t, rest) → P t)
    {found : List Placed} (h : scanFrom position cs = .ok found) : ∀ p ∈ found, P p.token := by
  fun_induction scanFrom position cs generalizing found with
  | case1 =>
    cases h
    simp
  | case2 position c cs hb ih =>
    exact ih (fun hs => hread (hs.trans (List.suffix_cons _ _))) h
  | case3 => cases h
  | case4 position c cs hb t rest hr hlt ih =>
    obtain ⟨more, hmore, rfl⟩ := map_eq_ok.1 h
    exact List.forall_mem_cons.2 ⟨hread (List.suffix_refl _) hr,
      ih (fun hs => hread (hs.trans (readToken_suffix hr))) hmore⟩

lemma content?_append {quote : Char} {inner : List Char} (hq : quote ∉ inner)
    (hr : rest.head? ≠ some quote) :
    content? quote (inner ++ quote :: rest) = some (inner, rest) := by
  induction inner with
  | nil =>
    cases rest with
    | nil => simp [content?]
    | cons d ds =>
      have hd : d ≠ quote := by simpa using hr
      simp [content?, hd]
  | cons c inner ih =>
    rw [List.mem_cons, not_or] at hq
    have hc : c ≠ quote := Ne.symm hq.1
    rw [List.cons_append, content?.eq_def]
    simp only [hc, if_false, ih hq.2]

/-- Quoted text without quotes in it is read up to the closing quote. -/
lemma readToken_singleQuote {inner : List Char} (hq : singleQuote ∉ inner)
    (hr : rest.head? ≠ some singleQuote) :
    readToken singleQuote (inner ++ singleQuote :: rest) =
      .ok (.quoted (lexeme (singleQuote :: (inner ++ singleQuote :: rest)) rest)
        (String.ofList inner), rest) := by
  have hn : Numeral.scan? (singleQuote :: (inner ++ singleQuote :: rest)) = none := rfl
  rw [readToken, hn]
  simp only [content?_append hq hr]
  rfl

end Token

namespace Statement

open Text

/-- A command whose kind and whose tokens are known. -/
lemma parse_eq_ofTokens {command : String} {cs : List Char} {kind : Kind} {ts : List Token}
    (htrim : trim command.toList = cs) (hkind : Kind.ofText? cs = some kind)
    (hts : Token.Scans cs ts) : parse command = (ofTokens kind ts).mapError (.invalid kind) := by
  obtain ⟨placed, hplaced, rfl⟩ := hts 0
  have hcommand : Kind.ofCommand command = .ok kind := by
    rw [Kind.ofCommand, htrim, hkind]
  have hscan : Token.scan (trimmed command) = .ok placed := by
    rw [trimmed, htrim, Token.scan, String.toList_ofList, hplaced]
  unfold parse
  rw [hcommand]
  change Except.bind (.ok kind) _ = _
  rw [Except.bind]
  simp only [hscan]

end Statement

end Tabula

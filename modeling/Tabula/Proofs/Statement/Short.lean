import Tabula.Proofs.Statement.Literals
import Tabula.Proofs.Value.Short

/-!
Commands without long runs of digits.

The literals of such a command are short, and if it is no statement, then it is refused: only a
number with too many digits is not read for another reason. In quoted text two quotes stand for one,
but nothing else comes closer together there, so a run of digits in it is one in the command.
-/

namespace Tabula

open Binary64 (rangeDigits)
open Text

namespace Token

variable {c quote : Char} {cs ds inner rest : List Char} {t : Token}

/-! ### Quoted text -/

/-- What stands in a row in one text, quotes aside, stands in a row in the other, and at its head if
it does so in the first. -/
def RowsAmong (quote : Char) (inner cs : List Char) : Prop :=
  ∀ row, quote ∉ row → (row <+: inner → row <+: cs) ∧ (row <:+: inner → row <:+: cs)

lemma RowsAmong.nil : RowsAmong quote [] cs := by
  intro row _
  rw [List.prefix_nil, List.infix_nil]
  constructor <;>
  · rintro rfl
    simp

lemma RowsAmong.cons (h : RowsAmong quote inner cs) (c : Char) :
    RowsAmong quote (c :: inner) (c :: cs) := by
  have hhead : ∀ row, quote ∉ row → row <+: c :: inner → row <+: c :: cs := by
    intro row hq hr
    rcases List.prefix_cons_iff.1 hr with rfl | ⟨tail, rfl, ht⟩
    · exact List.nil_prefix
    · exact (List.prefix_cons_inj c).2 ((h tail fun hm => hq (List.mem_cons_of_mem _ hm)).1 ht)
  intro row hq
  refine ⟨hhead row hq, fun hr => ?_⟩
  rcases List.infix_cons_iff.1 hr with hr | hr
  · exact (hhead row hq hr).isInfix
  · exact List.infix_cons ((h row hq).2 hr)

/-- Two quotes stand for one. -/
lemma RowsAmong.doubled (h : RowsAmong quote inner cs) :
    RowsAmong quote (quote :: inner) (quote :: quote :: cs) := by
  intro row hq
  constructor
  · intro hr
    rcases List.prefix_cons_iff.1 hr with rfl | ⟨tail, rfl, -⟩
    · exact List.nil_prefix
    · exact absurd List.mem_cons_self hq
  · exact fun hr => List.infix_cons ((h.cons quote row hq).2 hr)

lemma rowsAmong_content? (h : content? quote cs = some (inner, rest)) :
    RowsAmong quote inner cs := by
  fun_induction content? quote cs generalizing inner with
  | case1 | case7 => cases h
  | case2 ds inner rest hc ih =>
    cases h
    exact (ih hc).doubled
  | case3 | case4 | case5 =>
    cases h
    exact .nil
  | case6 c cs hne inner rest hc ih =>
    cases h
    exact (ih hc).cons c

/-- A quote is no digit. -/
lemma RowsAmong.runsWithin {limit : Nat} (h : RowsAmong quote inner cs)
    (hq : isDigit quote = false) (hr : RunsWithin limit cs) : RunsWithin limit inner := by
  intro run hrun hd
  have hquote : quote ∉ run := by
    intro hm
    rw [hd quote hm] at hq
    cases hq
  exact hr run ((h run hquote).2 hrun) hd

/-! ### Tokens -/

lemma short_ofNumber {n : Number} (h : ∀ k, n = .int k → k.natAbs < 10 ^ rangeDigits) :
    (Value.ofNumber n).Short := by
  cases n with
  | int k => exact h k rfl
  | real x => trivial

lemma short_readToken (hr : RunsWithin rangeDigits (c :: cs))
    (h : readToken c cs = .ok (t, rest)) : t.Gives Value.Short := by
  have hpart : ∀ {ds : List Char}, ds <:+: c :: cs → (Value.text (String.ofList ds)).Short := by
    intro ds hds
    rw [Value.Short, String.toList_ofList]
    exact hr.of_part hds
  intro v hv
  unfold readToken at h
  split at h
  · rename_i n _ hn
    split at h
    · rename_i value hvalue
      cases h
      cases hv
      refine short_ofNumber ?_
      rintro k rfl
      exact Numeral.natAbs_value_lt hn hr hvalue
    · cases h
  · split at h
    · cases h
      cases hv
      split
      · trivial
      · exact hpart (List.cons_prefix_cons.2 ⟨rfl, List.takeWhile_prefix _⟩).isInfix
    · split at h
      · rename_i hquote
        split at h
        · rename_i inner _ hc
          cases h
          cases hv
          have hq : isDigit c = false := by
            rcases (by simpa using hquote : c = singleQuote ∨ c = doubleQuote) with rfl | rfl <;>
              decide
          rw [Value.Short, String.toList_ofList]
          exact (rowsAmong_content? hc).runsWithin hq (hr.of_suffix (List.suffix_cons _ _))
        · cases h
      · split at h
        · cases h
          cases hv
        · cases h

/-- Where runs of digits are within the limit, every number can be read. -/
lemma readToken_ne_number (hr : RunsWithin digitLimit (c :: cs)) (fault : NumberFault) :
    readToken c cs ≠ .error (.number fault) := by
  intro h
  unfold readToken at h
  split at h
  · rename_i n _ hn
    obtain ⟨v, hv⟩ := Numeral.exists_value (Numeral.length_whole_le hn hr)
    rw [hv] at h
    cases h
  · split at h
    · cases h
    · split at h
      · split at h <;> cases h
      · split at h <;> cases h

/-- What is wrong with a text is wrong with a token. -/
lemma refusal_of_scanFrom {position : Nat} {fault : ScanFault}
    (h : scanFrom position cs = .error fault) :
    ∃ c ds, c :: ds <:+ cs ∧ readToken c ds = .error fault.refusal := by
  fun_induction scanFrom position cs with
  | case1 => cases h
  | case2 position c cs hb ih =>
    obtain ⟨d, ds, hs, hread⟩ := ih h
    exact ⟨d, ds, hs.trans (List.suffix_cons _ _), hread⟩
  | case3 position c cs hb refusal hr =>
    cases h
    exact ⟨c, cs, List.suffix_refl _, hr⟩
  | case4 position c cs hb t rest hr hlt ih =>
    cases hmore : scanFrom (position + (cs.length + 1 - rest.length)) rest with
    | ok more =>
      rw [hmore] at h
      cases h
    | error found =>
      rw [hmore] at h
      cases h
      obtain ⟨d, ds, hs, hread⟩ := ih hmore
      exact ⟨d, ds, hs.trans (readToken_suffix hr), hread⟩

end Token

/-! ### Commands -/

namespace Statement

variable {command : String}

/-- **The literals of a command without long runs of digits are short.** -/
theorem short_parse {s : Statement} (hr : RunsWithin rangeDigits command.toList)
    (h : parse command = .ok s) : s.Literals Value.Short :=
  literals_parse (fun hs hread =>
    Token.short_readToken ((hr.of_part (trim_part _)).of_suffix hs) hread) h

/-- **A command without long runs of digits that is no statement is refused.** -/
theorem isRefusal_parse {failure : Failure} (hr : RunsWithin digitLimit command.toList)
    (h : parse command = .error failure) : failure.isRefusal = true := by
  rcases bind_eq_error.1 h with hkind | ⟨kind, -, h⟩
  · unfold Kind.ofCommand at hkind
    split at hkind
    · cases hkind
    · cases hkind
      rfl
  · split at h
    · rename_i fault position hscan
      rw [Token.scan, trimmed, String.toList_ofList] at hscan
      obtain ⟨c, cs, hs, hread⟩ := Token.refusal_of_scanFrom hscan
      exact absurd hread
        (Token.readToken_ne_number ((hr.of_part (trim_part _)).of_suffix hs) fault)
    · cases h
      rfl
    · rename_i placed _
      cases hread : ofTokens kind (placed.map (·.token)) with
      | ok s =>
        rw [hread] at h
        cases h
      | error fault =>
        rw [hread] at h
        cases h
        rfl

end Statement

end Tabula

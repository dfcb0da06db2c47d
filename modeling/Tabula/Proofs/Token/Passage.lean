import Tabula.Proofs.Token.Shape

/-!
How a text is passed from token to token.

A step passes a blank or the token that begins the text. The tokens of a text are those that are
passed on the way to its end, and a text is refused at the first place where no step can be made:
what stands before that place is passed in the same way if the text ends there. Between the tokens
that are passed stand blanks only.
-/

namespace Tabula

open Text

/-- The number of characters before the end of a token. -/
def Placed.finish (p : Placed) : Nat := p.position + p.token.text.length

namespace Token

/-- From one place of a text to a later one: the tokens that are passed, and what is left. -/
inductive Passes : Nat → List Char → List Placed → Nat → List Char → Prop
  | here (position : Nat) (cs : List Char) : Passes position cs [] position cs
  | blank {position finish : Nat} {c : Char} {cs rest : List Char} {placed : List Placed}
    (hc : isBlank c = true) (h : Passes (position + 1) cs placed finish rest) :
    Passes position (c :: cs) placed finish rest
  | token {position finish : Nat} {cs tail rest : List Char} {t : Token} {placed : List Placed}
    (ht : Begins cs t tail) (h : Passes (position + t.text.length) tail placed finish rest) :
    Passes position cs (⟨t, position⟩ :: placed) finish rest

variable {position finish : Nat} {c : Char} {cs ds cut r rest tail : List Char} {t : Token}
  {placed : List Placed} {refusal : Refusal} {f : ScanFault}

lemma Begins.length (h : Begins cs t rest) : t.text.length + rest.length = cs.length := by
  rw [← String.length_toList, ← List.length_append, h.append]

lemma Begins.length_pos (h : Begins cs t rest) : 0 < t.text.length := by
  obtain ⟨c, tail, htext, -⟩ := h.cons
  rw [← String.length_toList, htext]
  exact Nat.succ_pos _

/-! ### Reading is passing -/

lemma scanFrom_blank (hc : isBlank c = true) :
    scanFrom position (c :: cs) = scanFrom (position + 1) cs := by
  rw [scanFrom, if_pos hc]

lemma scanFrom_token (hc : isBlank c = false) (h : Begins (c :: cs) t tail) :
    scanFrom position (c :: cs) =
      (⟨t, position⟩ :: ·) <$> scanFrom (position + t.text.length) tail := by
  have hread := readToken_eq_ok.2 h
  have hlength := h.length
  rw [List.length_cons] at hlength
  rw [scanFrom, if_neg (by simp [hc])]
  split
  · rename_i refusal hrefused
    cases hread.symm.trans hrefused
  · rename_i u after hfound
    cases hread.symm.trans hfound
    have hstep : cs.length + 1 - tail.length = t.text.length := by omega
    exact congrArg (fun n => (⟨t, position⟩ :: ·) <$> scanFrom (position + n) tail) hstep

lemma scanFrom_refused (hc : isBlank c = false) (h : readToken c cs = .error refusal) :
    scanFrom position (c :: cs) = .error ⟨refusal, position⟩ := by
  rw [scanFrom, if_neg (by simp [hc])]
  split
  · rename_i refused hrefused
    cases h.symm.trans hrefused
    rfl
  · rename_i u after hfound
    cases h.symm.trans hfound

/-- After a part that is passed reading goes on with what is left. -/
lemma Passes.scanFrom_eq (h : Passes position cs placed finish rest) :
    scanFrom position cs = (placed ++ ·) <$> scanFrom finish rest := by
  induction h with
  | here position cs => rw [show (([] : List Placed) ++ ·) = id from rfl, id_map]
  | blank hc h ih => rw [scanFrom_blank hc, ih]
  | token ht h ih =>
    obtain ⟨c, tail, -, rfl, hblank⟩ := ht.cons
    rw [scanFrom_token hblank ht, ih, ← comp_map]
    rfl

/-- A text is passed to its end, or to a place where a token is refused. -/
lemma exists_passes (position : Nat) (cs : List Char) :
    ∃ placed finish rest, Passes position cs placed finish rest ∧ (rest = [] ∨
      ∃ c tail refusal, rest = c :: tail ∧ isBlank c = false ∧
        readToken c tail = .error refusal) := by
  fun_induction scanFrom position cs with
  | case1 position => exact ⟨[], position, [], .here _ _, .inl rfl⟩
  | case2 position c cs hc ih =>
    obtain ⟨placed, finish, rest, h, hrest⟩ := ih
    exact ⟨placed, finish, rest, .blank hc h, hrest⟩
  | case3 position c cs hc refusal hread =>
    exact ⟨[], position, c :: cs, .here _ _,
      .inr ⟨c, cs, refusal, rfl, by simpa using hc, hread⟩⟩
  | case4 position c cs hc t tail hread hlt ih =>
    obtain ⟨placed, finish, rest, h, hrest⟩ := ih
    have ht := readToken_eq_ok.1 hread
    have hlength := ht.length
    rw [List.length_cons] at hlength
    rw [← hlength, Nat.add_sub_cancel] at h
    exact ⟨⟨t, position⟩ :: placed, finish, rest, .token ht h, hrest⟩

/-- **The tokens that are read are those that are passed on the way to the end.** -/
theorem scanFrom_eq_ok :
    scanFrom position cs = .ok placed ↔ ∃ finish, Passes position cs placed finish [] := by
  have hnil : ∀ {finish : Nat}, scanFrom finish [] = .ok [] := by
    intro finish
    rw [scanFrom]
  constructor
  · intro h
    obtain ⟨found, finish, rest, hp, rfl | ⟨c, tail, refusal, rfl, hc, hread⟩⟩ :=
      exists_passes position cs
    · rw [hp.scanFrom_eq, hnil] at h
      obtain rfl : found ++ [] = placed := Except.ok.inj h
      exact ⟨finish, by rwa [List.append_nil]⟩
    · rw [hp.scanFrom_eq, scanFrom_refused hc hread] at h
      cases h
  · rintro ⟨finish, h⟩
    rw [h.scanFrom_eq, hnil]
    exact congrArg Except.ok (List.append_nil placed)

/-- **A text is refused where it can be passed to, but not on.** -/
theorem scanFrom_eq_error : scanFrom position cs = .error f ↔
    ∃ placed c tail, Passes position cs placed f.position (c :: tail) ∧ isBlank c = false ∧
      readToken c tail = .error f.refusal := by
  constructor
  · intro h
    obtain ⟨found, finish, rest, hp, rfl | ⟨c, tail, refusal, rfl, hc, hread⟩⟩ :=
      exists_passes position cs
    · rw [scanFrom_eq_ok.2 ⟨finish, hp⟩] at h
      cases h
    · rw [hp.scanFrom_eq, scanFrom_refused hc hread] at h
      cases h
      exact ⟨found, c, tail, hp, hc, hread⟩
  · rintro ⟨placed, c, tail, h, hc, hread⟩
    rw [h.scanFrom_eq, scanFrom_refused hc hread]
    rfl

/-! ### What is passed -/

lemma Passes.suffix (h : Passes position cs placed finish rest) : rest <:+ cs := by
  induction h with
  | here => exact List.suffix_refl _
  | blank hc h ih => exact ih.trans (List.suffix_cons _ _)
  | token ht h ih => exact ih.trans ⟨_, ht.append⟩

lemma Passes.length (h : Passes position cs placed finish rest) :
    finish + rest.length = position + cs.length := by
  induction h with
  | here => rfl
  | blank hc h ih =>
    rw [List.length_cons]
    omega
  | token ht h ih =>
    have := ht.length
    omega

/-- What stands behind the part that is passed has no part in it. -/
lemma Passes.of_append (h : Passes position (ds ++ cut) placed finish (r ++ cut)) :
    Passes position ds placed finish r := by
  generalize hcs : ds ++ cut = cs at h
  generalize hrest : r ++ cut = rest at h
  induction h generalizing ds with
  | here position cs =>
    obtain rfl := List.append_cancel_right (hcs.trans hrest.symm)
    exact .here position ds
  | @blank position finish c cs rest placed hc h ih =>
    subst hrest
    cases ds with
    | nil =>
      have := h.suffix.length_le
      rw [List.nil_append] at hcs
      subst hcs
      simp only [List.length_append, List.length_cons] at this
      omega
    | cons d ds =>
      obtain ⟨rfl, hds⟩ := List.cons.inj hcs
      exact .blank hc (ih hds rfl)
  | @token position finish cs tail rest t placed ht h ih =>
    subst hcs hrest
    -- the cut stands behind the token
    obtain ⟨us, hus⟩ := h.suffix
    rw [← List.append_assoc] at hus
    subst hus
    exact .token ht.of_append (ih rfl rfl)

/-- The tokens come one behind the other. -/
lemma Passes.ordered (h : Passes position cs placed finish rest) :
    (∀ p ∈ placed, position ≤ p.position) ∧
      placed.Pairwise fun p q => p.position < p.finish ∧ p.finish ≤ q.position := by
  induction h with
  | here => exact ⟨List.forall_mem_nil _, .nil⟩
  | blank hc h ih => exact ⟨fun p hp => Nat.le_of_succ_le (ih.1 p hp), ih.2⟩
  | @token position finish cs tail rest t placed ht h ih =>
    have hlt : position < position + t.text.length := Nat.lt_add_of_pos_right ht.length_pos
    refine ⟨List.forall_mem_cons.2 ⟨le_rfl, fun p hp => hlt.le.trans (ih.1 p hp)⟩,
      .cons (fun p hp => ⟨hlt, ih.1 p hp⟩) ih.2⟩

section Whole

variable {all : List Char}

lemma Begins.drop (ht : Begins cs t tail) (hall : all.drop position = cs) :
    all.drop (position + t.text.length) = tail := by
  rw [← List.drop_drop, hall, ← ht.append, ← String.length_toList, List.drop_left]

/-- A token that is passed begins the text at its place. -/
lemma Passes.begins (h : Passes position cs placed finish rest) (hall : all.drop position = cs) :
    ∀ p ∈ placed, Begins (all.drop p.position) p.token (all.drop p.finish) := by
  induction h with
  | here => exact List.forall_mem_nil _
  | blank hc h ih => exact ih (by rw [← List.drop_drop, hall, List.drop_one, List.tail_cons])
  | token ht h ih =>
    have htail := ht.drop hall
    refine List.forall_mem_cons.2 ⟨?_, ih htail⟩
    rw [Placed.finish, hall, htail]
    exact ht

/-- A character that is passed outside of the tokens is a blank. -/
lemma Passes.isBlank (h : Passes position cs placed finish rest) (hall : all.drop position = cs)
    {i : Nat} (hi : position ≤ i) (hfinish : i < finish) (hc : all[i]? = some c)
    (hout : ∀ p ∈ placed, ¬ (p.position ≤ i ∧ i < p.finish)) : isBlank c = true := by
  induction h with
  | here => omega
  | @blank position finish d cs rest placed hd h ih =>
    have hhead : all[position]? = some d := by
      rw [← List.head?_drop, hall, List.head?_cons]
    rcases hi.eq_or_lt with rfl | hlt
    · cases hhead.symm.trans hc
      exact hd
    · exact ih (by rw [← List.drop_drop, hall, List.drop_one, List.tail_cons]) hlt hfinish hout
  | @token position finish cs tail rest t placed ht h ih =>
    obtain ⟨hhere, hthere⟩ := List.forall_mem_cons.1 hout
    refine ih (ht.drop hall) ?_ hfinish hthere
    dsimp only [Placed.finish] at hhere
    omega

end Whole

/-! ### Lossless reading -/

/-- The tokens of a text: each begins the text at its place and ends before the next one, and every
character outside of them is a blank. -/
structure Covers (cs : List Char) (placed : List Placed) : Prop where
  begins : ∀ p ∈ placed, Begins (cs.drop p.position) p.token (cs.drop p.finish)
  ordered : placed.Pairwise fun p q => p.position < p.finish ∧ p.finish ≤ q.position
  blank : ∀ i c, cs[i]? = some c → (∀ p ∈ placed, ¬ (p.position ≤ i ∧ i < p.finish)) →
    isBlank c = true

lemma Passes.covers (h : Passes 0 cs placed finish []) : Covers cs placed where
  begins := h.begins rfl
  ordered := h.ordered.2
  blank i c hc hout := by
    have hlength := h.length
    obtain ⟨hi, -⟩ := List.getElem?_eq_some_iff.1 hc
    rw [List.length_nil] at hlength
    exact h.isBlank rfl (Nat.zero_le i) (by omega) hc hout

/-- What stands before the place that is passed to has the same tokens by itself. -/
lemma Passes.take (h : Passes 0 cs placed finish rest) :
    cs.drop finish = rest ∧ Passes 0 (cs.take finish) placed finish [] := by
  obtain ⟨ds, rfl⟩ := h.suffix
  have hlength := h.length
  rw [List.length_append] at hlength
  obtain rfl : finish = ds.length := by omega
  rw [List.drop_left, List.take_left]
  exact ⟨rfl, of_append (r := []) h⟩

lemma marks_of_passes {s : String} (h : Passes 0 s.toList placed finish []) :
    marks s = .ok (placed.map .token ++ [.finish finish]) := by
  have hlength := h.length
  rw [List.length_nil, String.length_toList, Nat.add_zero, Nat.zero_add] at hlength
  rw [marks, scan, scanFrom_eq_ok.2 ⟨finish, h⟩, hlength]
  rfl

/-- **Reading a text as tokens loses nothing, and stops only where no token can start.** The end of
the text comes once, behind the tokens, and outside of them are blanks only. A text that is refused
at a place is read up to it, with the tokens that are passed on the way there. -/
theorem marks_lossless (s : String) :
    match marks s with
    | .ok ms => ∃ placed, ms = placed.map .token ++ [.finish s.length] ∧
      Covers s.toList placed ∧ ∀ p ∈ placed, p.token.Spelled
    | .error f => ∃ placed c rest, s.toList.drop f.position = c :: rest ∧
      Passes 0 s.toList placed f.position (c :: rest) ∧
      marks (String.ofList (s.toList.take f.position)) =
        .ok (placed.map .token ++ [.finish f.position]) ∧
      isBlank c = false ∧
      (f.message = "Unterminated string literal at position " ++ toString f.position ∧
          IsQuote c ∧ c ∉ rest ∨
        f.message = "Unexpected character " ++ Text.quoted (String.singleton c) ++
          " at position " ++ toString f.position ∧
          ¬ IsQuote c ∧ (∀ shape w, Shape.Has shape w → ¬ w <+: c :: rest) ∨
        ∃ w count, Numeral.IsWholeNumeral w count ∧ w <+: c :: rest ∧ digitLimit < count ∧
          f.refusal = .number (.tooManyDigits count)) := by
  cases hread : scan s with
  | ok placed =>
    obtain ⟨finish, h⟩ := scanFrom_eq_ok.1 hread
    rw [marks, hread]
    exact ⟨placed, rfl, h.covers, fun p hp => (h.covers.begins p hp).spelled⟩
  | error f =>
    obtain ⟨placed, c, rest, h, hc, hrefused⟩ := scanFrom_eq_error.1 hread
    obtain ⟨hdrop, htake⟩ := h.take
    rw [marks, hread]
    refine ⟨placed, c, rest, hdrop, h, marks_of_passes ?_, hc, ?_⟩
    · rwa [String.toList_ofList]
    · have hfits := fits_of_readToken hrefused
      obtain ⟨refusal, position⟩ := f
      cases refusal with
      | unterminated => exact .inl ⟨rfl, hfits⟩
      | unexpected d =>
        obtain ⟨rfl, hquote, hnone⟩ := hfits
        exact .inr (.inl ⟨rfl, hquote, hnone⟩)
      | number fault =>
        obtain ⟨w, count, hw, hp, -, hlong, rfl⟩ := hfits
        exact .inr (.inr ⟨w, count, hw, hp, hlong, rfl⟩)

end Token

end Tabula

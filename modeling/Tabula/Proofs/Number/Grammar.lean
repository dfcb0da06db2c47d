import Tabula.Proofs.Number.Whole

/-!
The grammar of numerals, and how it is read.

A numeral is a sign, a mantissa and an exponent, of which only the mantissa must be there. At the
head of a text the longest numeral is read, and what stands behind it has no part in it: a text that
is cut off there is read in the same way.
-/

namespace Tabula.Numeral

open Text

/-! ### The grammar -/

def IsSign (cs : List Char) : Prop := cs = [] ∨ cs = ['-'] ∨ cs = ['+']

def AllDigits (cs : List Char) : Prop := ∀ c ∈ cs, isDigit c = true

/-- Digits, and there may be a point before, between or after them. -/
inductive IsMantissa : List Char → Prop
  | whole {ds : List Char} (hd : AllDigits ds) (hne : ds ≠ []) : IsMantissa ds
  | pointed {ds fs : List Char} (hd : AllDigits ds) (hf : AllDigits fs) (hne : ds ≠ [] ∨ fs ≠ []) :
    IsMantissa (ds ++ '.' :: fs)

/-- A power of ten, or nothing. -/
inductive IsExponent : List Char → Prop
  | absent : IsExponent []
  | present {e : Char} {sgn ds : List Char} (he : e = 'e' ∨ e = 'E') (hs : IsSign sgn)
    (hd : AllDigits ds) (hne : ds ≠ []) : IsExponent (e :: (sgn ++ ds))

inductive IsNumeral : List Char → Prop
  | mk {sgn mantissa exponent : List Char} (hs : IsSign sgn) (hm : IsMantissa mantissa)
    (hx : IsExponent exponent) : IsNumeral (sgn ++ (mantissa ++ exponent))

/-- A numeral of so many digits that has neither a point nor an exponent. -/
def IsWholeNumeral (cs : List Char) (count : Nat) : Prop :=
  ∃ sgn ds, IsSign sgn ∧ AllDigits ds ∧ cs = sgn ++ ds ∧ ds.length = count

variable {c : Char} {cs ds cut r w rest tail : List Char} {n : Numeral}

lemma isSign_sign (cs : List Char) : ∃ sgn, IsSign sgn ∧ sgn ++ (sign cs).2 = cs := by
  unfold sign
  split
  · exact ⟨['-'], .inr (.inl rfl), rfl⟩
  · exact ⟨['+'], .inr (.inr rfl), rfl⟩
  · exact ⟨[], .inl rfl, rfl⟩

lemma isBlank_of_isDigit (h : isDigit c = true) : isBlank c = false := by
  rw [← Bool.not_eq_true]
  intro hb
  rw [isDigit, digit?_of_isBlank hb] at h
  cases h

/-- No numeral has a blank in it. -/
lemma IsNumeral.isBlank_eq_false (h : IsNumeral w) : ∀ c ∈ w, isBlank c = false := by
  have hsign : ∀ {sgn : List Char}, IsSign sgn → ∀ c ∈ sgn, isBlank c = false := by
    rintro _ (rfl | rfl | rfl)
    · exact List.forall_mem_nil _
    · exact List.forall_mem_singleton.2 (by decide)
    · exact List.forall_mem_singleton.2 (by decide)
  have hdigits : ∀ {ds : List Char}, AllDigits ds → ∀ c ∈ ds, isBlank c = false :=
    fun hd c hc => isBlank_of_isDigit (hd c hc)
  obtain ⟨hs, hm, hx⟩ := h
  refine List.forall_mem_append.2 ⟨hsign hs, List.forall_mem_append.2 ⟨?_, ?_⟩⟩
  · cases hm with
    | whole hd => exact hdigits hd
    | pointed hd hf =>
      exact List.forall_mem_append.2 ⟨hdigits hd, List.forall_mem_cons.2 ⟨by decide, hdigits hf⟩⟩
  · cases hx with
    | absent => exact List.forall_mem_nil _
    | present he hs hd =>
      refine List.forall_mem_cons.2 ⟨?_, List.forall_mem_append.2 ⟨hsign hs, hdigits hd⟩⟩
      rcases he with rfl | rfl <;> decide

/-! ### What is read is a numeral -/

lemma isMantissa_digits
    (h : ((digits cs).1.isEmpty && ((scanFraction (digits cs).2).1.getD []).isEmpty) = false) :
    ∃ m, IsMantissa m ∧ m ++ (scanFraction (digits cs).2).2 = cs := by
  obtain ⟨run, hrun, hdigits, hlength⟩ := exists_run cs
  have hne : run = [] ↔ (digits cs).1 = [] := by
    rw [← List.length_eq_zero_iff, hlength, List.length_eq_zero_iff]
  unfold scanFraction at h ⊢
  split at h
  · rename_i after hafter
    obtain ⟨fs, hfs, hfdigits, hflength⟩ := exists_run after
    have hfne : fs = [] ↔ (digits after).1 = [] := by
      rw [← List.length_eq_zero_iff, hflength, List.length_eq_zero_iff]
    refine ⟨run ++ '.' :: fs, .pointed hdigits hfdigits ?_, ?_⟩
    · rw [← not_and_or, hne, hfne]
      simpa using h
    · dsimp only
      rw [List.append_assoc, List.cons_append, hfs, ← hafter, hrun]
  · refine ⟨run, .whole hdigits ?_, hrun⟩
    rw [Ne, hne]
    simpa using h

lemma isExponent_scanExponent (cs : List Char) :
    ∃ x, IsExponent x ∧ x ++ (scanExponent cs).2 = cs := by
  cases cs with
  | nil => exact ⟨[], .absent, rfl⟩
  | cons e cs =>
    simp only [scanExponent]
    split
    · rename_i hcond
      simp only [Bool.and_eq_true, Bool.or_eq_true, beq_iff_eq, Bool.not_eq_true',
        List.isEmpty_eq_false_iff] at hcond
      obtain ⟨sgn, hs, hsign⟩ := isSign_sign cs
      obtain ⟨run, hrun, hdigits, hlength⟩ := exists_run (sign cs).2
      refine ⟨e :: (sgn ++ run), .present hcond.1 hs hdigits ?_, ?_⟩
      · rintro rfl
        exact hcond.2 (List.length_eq_zero_iff.1 hlength.symm)
      · dsimp only
        rw [List.cons_append, List.append_assoc, hrun, hsign]
    · exact ⟨[], .absent, rfl⟩

lemma scan?_eq_some (h : scan? cs = some (n, rest)) :
    ((digits (sign cs).2).1.isEmpty &&
        ((scanFraction (digits (sign cs).2).2).1.getD []).isEmpty) = false ∧
      n = ⟨(sign cs).1, (digits (sign cs).2).1, (scanFraction (digits (sign cs).2).2).1,
        (scanExponent (scanFraction (digits (sign cs).2).2).2).1⟩ ∧
      (scanExponent (scanFraction (digits (sign cs).2).2).2).2 = rest := by
  unfold scan? at h
  dsimp only at h
  split at h
  · cases h
  · rename_i hne
    cases h
    exact ⟨by simpa using hne, rfl, rfl⟩

/-- **What is read as a number is a numeral.** -/
theorem isNumeral_of_scan? (h : scan? cs = some (n, rest)) :
    ∃ w, IsNumeral w ∧ w ++ rest = cs := by
  obtain ⟨hne, -, hrest⟩ := scan?_eq_some h
  obtain ⟨sgn, hs, hsign⟩ := isSign_sign cs
  obtain ⟨m, hm, hmantissa⟩ := isMantissa_digits hne
  obtain ⟨x, hx, hexponent⟩ := isExponent_scanExponent (scanFraction (digits (sign cs).2).2).2
  refine ⟨sgn ++ (m ++ x), ⟨hs, hm, hx⟩, ?_⟩
  rw [← hrest, List.append_assoc, List.append_assoc, hexponent, hmantissa, hsign]

/-- Without a point and an exponent it is a whole one. -/
lemma isWholeNumeral_of_scan? (h : scan? cs = some (n, rest)) (hf : n.fraction = none)
    (hx : n.exponent = none) : ∃ w, IsWholeNumeral w n.whole.length ∧ w ++ rest = cs := by
  obtain ⟨-, rfl, hrest⟩ := scan?_eq_some h
  obtain ⟨sgn, hs, hsign⟩ := isSign_sign cs
  obtain ⟨run, hrun, hdigits, hlength⟩ := exists_run (sign cs).2
  refine ⟨sgn ++ run, ⟨sgn, run, hs, hdigits, rfl, hlength⟩, ?_⟩
  rw [← hrest, scanExponent_none hx, scanFraction_none hf, List.append_assoc, hrun, hsign]

/-! ### The longest numeral is read -/

lemma sign_append_of_isSign (hs : IsSign w) (hr : ∀ c ∈ rest.head?, c ≠ '-' ∧ c ≠ '+') :
    (sign (w ++ rest)).2 = rest := by
  rcases hs with rfl | rfl | rfl
  · rw [List.nil_append]
    unfold sign
    split
    · exact absurd rfl (hr '-' rfl).1
    · exact absurd rfl (hr '+' rfl).2
    · rfl
  · rfl
  · rfl

lemma digits_append_tail (hd : AllDigits ds) (tail : List Char) :
    ((digits (ds ++ tail)).1 = [] → ds = []) ∧ (digits (ds ++ tail)).2 = (digits tail).2 := by
  induction ds with
  | nil => exact ⟨fun _ => rfl, rfl⟩
  | cons d ds ih =>
    obtain ⟨hdigit, hds⟩ := List.forall_mem_cons.1 hd
    obtain ⟨v, hv⟩ := Option.isSome_iff_exists.1 hdigit
    rw [List.cons_append, digits, hv]
    exact ⟨fun h => absurd h (List.cons_ne_nil _ _), (ih hds).2⟩

lemma IsExponent.head (h : IsExponent (c :: cs)) : c = 'e' ∨ c = 'E' := by
  cases h
  assumption

/-- Before an exponent no digits are read that are not those of the mantissa. -/
lemma IsExponent.digits_append (h : IsExponent w) (tail : List Char) :
    ∃ after, (digits (w ++ tail)).2 = w ++ after ∧ after <:+ tail := by
  cases w with
  | nil => exact ⟨(digits tail).2, rfl, digits_suffix tail⟩
  | cons e w =>
    refine ⟨tail, ?_, List.suffix_refl _⟩
    rw [Token.digits_of_stop]
    rintro d ⟨⟩
    rcases h.head with rfl | rfl <;> decide

lemma IsExponent.scanFraction_append (h : IsExponent w) (tail : List Char) :
    ∃ after, (scanFraction (w ++ tail)).2 = w ++ after ∧ after <:+ tail := by
  cases w with
  | nil => exact ⟨(scanFraction tail).2, rfl, scanFraction_suffix tail⟩
  | cons e w =>
    refine ⟨tail, ?_, List.suffix_refl _⟩
    rcases h.head with rfl | rfl <;> rfl

lemma IsExponent.scanExponent_append (h : IsExponent w) (tail : List Char) :
    (scanExponent (w ++ tail)).2 <:+ tail := by
  cases h with
  | absent => exact scanExponent_suffix tail
  | @present e sgn ds he hs hd hne =>
    have hsign : (sign (sgn ++ (ds ++ tail))).2 = ds ++ tail := by
      refine sign_append_of_isSign hs fun c hc => ?_
      obtain ⟨d, ds, rfl⟩ := List.exists_cons_of_ne_nil hne
      have hdigit := hd d List.mem_cons_self
      obtain rfl : d = c := by simpa using hc
      constructor <;> rintro rfl <;> exact absurd hdigit (by decide)
    obtain ⟨hread, hrest⟩ := digits_append_tail hd tail
    have hcond : ((e == 'e' || e == 'E') && !(digits (ds ++ tail)).1.isEmpty) = true := by
      simp only [Bool.and_eq_true, Bool.or_eq_true, beq_iff_eq, Bool.not_eq_true',
        List.isEmpty_eq_false_iff]
      exact ⟨he, fun h => hne (hread h)⟩
    rw [List.cons_append, List.append_assoc, scanExponent, hsign, if_pos hcond, hrest]
    exact digits_suffix tail

lemma IsMantissa.head (h : IsMantissa w) :
    ∀ c ∈ (w ++ rest).head?, c ≠ '-' ∧ c ≠ '+' := by
  have hdigit : ∀ {d : Char}, isDigit d = true → d ≠ '-' ∧ d ≠ '+' := by
    intro d hd
    constructor <;> rintro rfl <;> exact absurd hd (by decide)
  intro c hc
  cases h with
  | whole hd hne =>
    obtain ⟨d, ds, rfl⟩ := List.exists_cons_of_ne_nil hne
    obtain rfl : d = c := by simpa using hc
    exact hdigit (hd _ List.mem_cons_self)
  | @pointed ds fs hd =>
    cases ds with
    | nil =>
      obtain rfl : '.' = c := by simpa using hc
      decide
    | cons d ds =>
      obtain rfl : d = c := by simpa using hc
      exact hdigit (hd _ List.mem_cons_self)

/-- A mantissa before an exponent is read to its end. -/
lemma IsMantissa.digits_append (hm : IsMantissa w) {x : List Char} (hx : IsExponent x)
    (tail : List Char) :
    ((digits (w ++ (x ++ tail))).1.isEmpty &&
        ((scanFraction (digits (w ++ (x ++ tail))).2).1.getD []).isEmpty) = false ∧
      ∃ after, (scanFraction (digits (w ++ (x ++ tail))).2).2 = x ++ after ∧ after <:+ tail := by
  obtain ⟨after, hdigits, hafter⟩ := hx.digits_append tail
  cases hm with
  | whole hd hne =>
    obtain ⟨hread, hrest⟩ := digits_append_tail hd (x ++ tail)
    obtain ⟨last, hfraction, hlast⟩ := hx.scanFraction_append after
    rw [hrest, hdigits]
    refine ⟨?_, last, hfraction, hlast.trans hafter⟩
    rw [Bool.and_eq_false_iff, List.isEmpty_eq_false_iff]
    exact .inl fun h => hne (hread h)
  | @pointed ds fs hd hf hne =>
    obtain ⟨hread, hrest⟩ := digits_append_tail hd ('.' :: (fs ++ (x ++ tail)))
    obtain ⟨hfread, hfrest⟩ := digits_append_tail hf (x ++ tail)
    have hpoint : digits ('.' :: (fs ++ (x ++ tail))) = ([], '.' :: (fs ++ (x ++ tail))) :=
      Token.digits_of_stop (by rintro d ⟨⟩; decide)
    rw [List.append_assoc, List.cons_append, hrest, hpoint]
    refine ⟨?_, after, hfrest.trans hdigits, hafter⟩
    rw [scanFraction, Option.getD_some, Bool.and_eq_false_iff, List.isEmpty_eq_false_iff,
      List.isEmpty_eq_false_iff]
    exact hne.imp (fun h e => h (hread e)) fun h e => h (hfread e)

/-- A numeral at the head of a text is read, and maybe more. -/
theorem IsNumeral.scan?_append (h : IsNumeral w) (tail : List Char) :
    ∃ n rest, scan? (w ++ tail) = some (n, rest) ∧ rest <:+ tail := by
  obtain ⟨hs, hm, hx⟩ := h
  obtain ⟨hne, after, hfraction, hafter⟩ := hm.digits_append hx tail
  rw [List.append_assoc, List.append_assoc, scan?, sign_append_of_isSign hs hm.head,
    if_neg (by simpa using hne), hfraction]
  exact ⟨_, _, rfl, (hx.scanExponent_append after).trans hafter⟩

lemma not_prefix_of_scan?_eq_none (h : scan? cs = none) (hw : IsNumeral w) : ¬ w <+: cs := by
  rintro ⟨tail, rfl⟩
  obtain ⟨n, rest, hscan, -⟩ := hw.scan?_append tail
  cases h.symm.trans hscan

/-- **No numeral is longer than the one that is read.** -/
theorem length_le_of_scan? (h : scan? cs = some (n, rest)) (hw : IsNumeral w) (hp : w <+: cs) :
    w.length + rest.length ≤ cs.length := by
  obtain ⟨tail, rfl⟩ := hp
  obtain ⟨m, after, hscan, hafter⟩ := hw.scan?_append tail
  cases h.symm.trans hscan
  rw [List.length_append]
  have := hafter.length_le
  omega

/-- A text that is a numeral is read to its end. -/
lemma IsNumeral.exists_scan? (h : IsNumeral w) : ∃ n, scan? w = some (n, []) := by
  obtain ⟨n, rest, hscan, hrest⟩ := h.scan?_append []
  rw [List.append_nil, List.suffix_nil.1 hrest] at hscan
  exact ⟨n, hscan⟩

/-- All digits of a whole numeral are read. -/
lemma IsWholeNumeral.scan?_eq {count : Nat} (h : IsWholeNumeral w count)
    (hscan : scan? w = some (n, rest)) :
    n.fraction = none ∧ n.exponent = none ∧ n.whole.length = count := by
  obtain ⟨sgn, ds, hs, hd, rfl, rfl⟩ := h
  have hsign : (sign (sgn ++ ds)).2 = ds := by
    refine sign_append_of_isSign hs fun c hc => ?_
    have hdigit := hd c (List.mem_of_mem_head? hc)
    constructor <;> rintro rfl <;> exact absurd hdigit (by decide)
  have hnil : (digits ds).2 = [] := by
    have hrest := (digits_append_tail hd []).2
    rwa [List.append_nil] at hrest
  have hlength := digits_length ds
  rw [hnil, List.length_nil, Nat.add_zero] at hlength
  obtain ⟨-, rfl, -⟩ := scan?_eq_some hscan
  rw [hsign, hnil]
  exact ⟨rfl, rfl, hlength⟩

/-! ### Cutting off what is not read -/

/-- What stands behind the part that is read has no part in the reading. -/
def Local {α : Type} (read : List Char → α × List Char) : Prop :=
  ∀ ds cut r, (read (ds ++ cut)).2 = r ++ cut → read ds = ((read (ds ++ cut)).1, r)

lemma eq_nil_of_suffix (hs : rest <:+ cut) (h : rest = r ++ cut) : r = [] := by
  have hlength := hs.length_le
  rw [h, List.length_append] at hlength
  exact List.length_eq_zero_iff.1 (by omega)

lemma suffix_of_suffix (h : rest = r ++ cut) (hs : rest <:+ cs) : cut <:+ cs :=
  (h ▸ List.suffix_append r cut).trans hs

lemma local_sign : Local sign := by
  intro ds cut r h
  cases ds with
  | nil =>
    -- a sign that is not read is none
    rw [List.nil_append] at h ⊢
    obtain rfl := eq_nil_of_suffix (sign_suffix cut) h
    unfold sign at h ⊢
    split at h <;> simp_all
  | cons d ds =>
    rw [sign_append (List.cons_ne_nil d ds)] at h ⊢
    exact Prod.ext rfl (List.append_cancel_right h)

lemma local_digits : Local digits := by
  intro ds cut r h
  induction ds generalizing r with
  | nil =>
    rw [List.nil_append] at h ⊢
    obtain rfl := eq_nil_of_suffix (digits_suffix cut) h
    have hlength := digits_length cut
    rw [h, List.nil_append, Nat.add_eq_right, List.length_eq_zero_iff] at hlength
    rw [hlength]
    rfl
  | cons d ds ih =>
    rw [List.cons_append, digits] at h ⊢
    rw [digits]
    cases hd : digit? d with
    | none =>
      rw [hd] at h
      obtain rfl : d :: ds = r := List.append_cancel_right (by simpa using h)
      rfl
    | some v =>
      rw [hd] at h
      dsimp only at h ⊢
      rw [ih r h]

lemma local_scanFraction : Local scanFraction := by
  intro ds cut r h
  cases ds with
  | nil =>
    rw [List.nil_append] at h ⊢
    obtain rfl := eq_nil_of_suffix (scanFraction_suffix cut) h
    unfold scanFraction at h ⊢
    split at h
    · rename_i after
      have := (digits_suffix after).length_le
      rw [show (digits after).2 = '.' :: after from h, List.length_cons] at this
      omega
    · rfl
  | cons d ds =>
    by_cases hd : d = '.'
    · subst hd
      have := local_digits ds cut r h
      rw [List.cons_append, scanFraction, scanFraction, this]
    · have hnone : ∀ us : List Char, scanFraction (d :: us) = (none, d :: us) := by
        intro us
        unfold scanFraction
        split
        · rename_i heq
          exact absurd (List.cons.inj heq).1 hd
        · rfl
      rw [List.cons_append, hnone] at h ⊢
      rw [hnone]
      obtain rfl : d :: ds = r := List.append_cancel_right (by simpa using h)
      rfl

lemma digits_eq_nil_of_append (h : (digits (ds ++ cut)).1 = []) : (digits ds).1 = [] := by
  cases ds with
  | nil => rfl
  | cons d ds =>
    rw [List.cons_append, digits] at h
    rw [digits]
    cases hd : digit? d with
    | none => rfl
    | some v => simp [hd] at h

/-- Where a text has no digits behind a sign, a text that it continues has none. -/
lemma digits_sign_eq_nil_of_append (h : (digits (sign (ds ++ cut)).2).1 = []) :
    (digits (sign ds).2).1 = [] := by
  cases ds with
  | nil => rfl
  | cons d ds =>
    rw [sign_append (List.cons_ne_nil d ds)] at h
    exact digits_eq_nil_of_append h

lemma local_scanExponent : Local scanExponent := by
  intro ds cut r h
  cases ds with
  | nil =>
    rw [List.nil_append] at h ⊢
    obtain rfl := eq_nil_of_suffix (scanExponent_suffix cut) h
    cases cut with
    | nil => rfl
    | cons e cs =>
      simp only [scanExponent] at h ⊢
      split at h
      · have := ((digits_suffix (sign cs).2).trans (sign_suffix cs)).length_le
        rw [show (digits (sign cs).2).2 = e :: cs from h, List.length_cons] at this
        omega
      · rename_i hcond
        rw [if_neg hcond]
  | cons e ds =>
    rw [List.cons_append] at h ⊢
    simp only [scanExponent] at h ⊢
    by_cases hcond : ((e == 'e' || e == 'E') && !(digits (sign (ds ++ cut)).2).1.isEmpty) = true
    · -- sign and digits are read one after the other, and both before the cut
      rw [if_pos hcond] at h ⊢
      dsimp only at h
      obtain ⟨us, hus⟩ := suffix_of_suffix h (digits_suffix (sign (ds ++ cut)).2)
      have hsign := local_sign ds cut us hus.symm
      rw [← hus] at h hcond ⊢
      have hdigits := local_digits us cut r h
      rw [hsign]
      dsimp only
      rw [hdigits, if_pos hcond]
    · obtain rfl : e :: ds = r := by
        rw [if_neg hcond] at h
        exact List.append_cancel_right h
      have hnot : ¬ ((e == 'e' || e == 'E') && !(digits (sign ds).2).1.isEmpty) = true := by
        intro hc
        rw [Bool.and_eq_true, Bool.not_eq_true', List.isEmpty_eq_false_iff] at hc hcond
        exact hcond ⟨hc.1, fun h => hc.2 (digits_sign_eq_nil_of_append h)⟩
      rw [if_neg hcond, if_neg hnot]

/-- **A numeral is read in the same way wherever the text is cut off behind it.** -/
theorem scan?_of_append (h : scan? (ds ++ cut) = some (n, r ++ cut)) : scan? ds = some (n, r) := by
  obtain ⟨hne, rfl, hexponent⟩ := scan?_eq_some h
  -- the cut stands behind the part that every reader leaves
  obtain ⟨fs, hfs⟩ := suffix_of_suffix hexponent (scanExponent_suffix _)
  obtain ⟨us, hus⟩ := suffix_of_suffix hfs.symm (scanFraction_suffix _)
  obtain ⟨ss, hss⟩ := suffix_of_suffix hus.symm (digits_suffix _)
  have hsign := local_sign ds cut ss hss.symm
  rw [← hss] at hus hfs hne hexponent ⊢
  have hdigits := local_digits ss cut us hus.symm
  rw [← hus] at hfs hne hexponent ⊢
  have hfraction := local_scanFraction us cut fs hfs.symm
  rw [← hfs] at hexponent ⊢
  have hpower := local_scanExponent fs cut r hexponent
  rw [scan?, hsign]
  dsimp only
  rw [hdigits]
  dsimp only
  rw [hfraction]
  dsimp only
  rw [hpower, if_neg (by simpa using hne)]

/-- A numeral is read as a whole text. -/
theorem read?_of_scan? (h : scan? cs = some (n, [])) : read? cs = some <$> n.value := by
  obtain ⟨w, hw, hcs⟩ := isNumeral_of_scan? h
  rw [List.append_nil] at hcs
  subst hcs
  rw [read?, trim_of_visible hw.isBlank_eq_false, h]

/-- **Only a whole numeral can be refused**, and only for its many digits. -/
theorem value_eq_error {fault : NumberFault} (h : n.value = .error fault) :
    n.fraction = none ∧ n.exponent = none ∧ fault = .tooManyDigits n.whole.length ∧
      digitLimit < n.whole.length := by
  unfold value at h
  split at h
  · rename_i hf hx
    unfold readInt at h
    split at h
    · cases h
    · rename_i hlong
      cases h
      exact ⟨hf, hx, rfl, Nat.lt_of_not_le hlong⟩
  · cases h

end Tabula.Numeral

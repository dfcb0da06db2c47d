import Tabula.Proofs.Statement.Reading

/-!
Groups in parentheses, and the segments between the commas that stand in no group.

How many groups are open after some tokens says where a group ends, which tokens stand in none, and
where a new segment starts. A group with balanced tokens in it lies in one segment, and counts for
nothing outside it.
-/

namespace Tabula.Statement

/-! ### Groups in parentheses -/

section Groups

/-- How many groups are open after the tokens. A closing parenthesis needs an open group. -/
def openAfter : ℕ → List Token → Option ℕ
  | depth, [] => some depth
  | depth, .symbol .opening :: ts => openAfter (depth + 1) ts
  | 0, .symbol .closing :: _ => none
  | depth + 1, .symbol .closing :: ts => openAfter depth ts
  | depth, _ :: ts => openAfter depth ts

/-- Every group that is opened is closed, and no other. -/
def Balanced (ts : List Token) : Prop := openAfter 0 ts = some 0

instance (ts : List Token) : Decidable (Balanced ts) :=
  inferInstanceAs (Decidable (openAfter 0 ts = some 0))

/-- A group with the given tokens in it, and what comes after it. -/
abbrev group (inner rest : List Token) : List Token :=
  .symbol .opening :: (inner ++ .symbol .closing :: rest)

/-- The tokens that stand in no group, without the parentheses. -/
def topLevel : ℕ → List Token → List Token
  | _, [] => []
  | depth, .symbol .opening :: ts => topLevel (depth + 1) ts
  | depth, .symbol .closing :: ts => topLevel (depth - 1) ts
  | 0, t :: ts => t :: topLevel 0 ts
  | depth + 1, _ :: ts => topLevel (depth + 1) ts

/-- The parts between the commas that stand in no group. -/
def segments : ℕ → List Token → List (List Token)
  | _, [] => [[]]
  | depth, .symbol .opening :: ts => (segments (depth + 1) ts).modifyHead (.symbol .opening :: ·)
  | depth, .symbol .closing :: ts => (segments (depth - 1) ts).modifyHead (.symbol .closing :: ·)
  | 0, .symbol .comma :: ts => [] :: segments 0 ts
  | depth, t :: ts => (segments depth ts).modifyHead (t :: ·)

/-- The texts of the tokens, one after the other. -/
def textOf (ts : List Token) : String := String.join (ts.map (·.text))

@[simp] lemma textOf_nil : textOf [] = "" := rfl

@[simp] lemma textOf_cons (t : Token) (ts : List Token) :
    textOf (t :: ts) = t.text ++ textOf ts := by
  simp [textOf]

/-- Neither an opening nor a closing parenthesis. -/
def Plain (t : Token) : Prop := t ≠ .symbol .opening ∧ t ≠ .symbol .closing

lemma parenthesis_or_plain (t : Token) :
    t = .symbol .opening ∨ t = .symbol .closing ∨ Plain t := by
  unfold Plain
  tauto

variable {depth d k : ℕ} {t : Token} {ts us x inner post rest : List Token}

lemma openAfter_plain (ht : Plain t) : openAfter depth (t :: ts) = openAfter depth ts := by
  rw [openAfter.eq_5] <;> simp_all [Plain]

lemma topLevel_plain_zero (ht : Plain t) : topLevel 0 (t :: ts) = t :: topLevel 0 ts := by
  rw [topLevel] <;> simp_all [Plain]

lemma topLevel_plain_succ (ht : Plain t) :
    topLevel (depth + 1) (t :: ts) = topLevel (depth + 1) ts := by
  rw [topLevel] <;> simp_all [Plain]

lemma openAfter_append (h : openAfter depth ts = some d) :
    openAfter depth (ts ++ us) = openAfter d us := by
  induction ts generalizing depth with
  | nil =>
    cases h
    rfl
  | cons t ts ih =>
    rcases parenthesis_or_plain t with rfl | rfl | ht
    · exact ih h
    · cases depth with
      | zero => cases h
      | succ depth => exact ih h
    · rw [openAfter_plain ht] at h
      rw [List.cons_append, openAfter_plain ht, ih h]

/-- Groups that were open before stay open. -/
lemma openAfter_add (h : openAfter depth ts = some d) (k : ℕ) :
    openAfter (depth + k) ts = some (d + k) := by
  induction ts generalizing depth with
  | nil =>
    cases h
    rfl
  | cons t ts ih =>
    rcases parenthesis_or_plain t with rfl | rfl | ht
    · have := ih h
      rwa [Nat.add_right_comm] at this
    · cases depth with
      | zero => cases h
      | succ depth =>
        rw [Nat.add_right_comm]
        exact ih h
    · rw [openAfter_plain ht] at h ⊢
      exact ih h

lemma Balanced.openAfter (h : Balanced ts) (depth : ℕ) : openAfter depth ts = some depth := by
  have := openAfter_add h depth
  rwa [Nat.zero_add] at this

/-- A group with balanced tokens in it leaves the depth as it is. -/
lemma Balanced.openAfter_group (h : Balanced inner) (depth : ℕ) :
    Statement.openAfter depth (group inner ts) = Statement.openAfter depth ts := by
  rw [Statement.openAfter, openAfter_append (h.openAfter (depth + 1)), Statement.openAfter]

lemma topLevel_append (h : openAfter depth ts = some d) :
    topLevel depth (ts ++ us) = topLevel depth ts ++ topLevel d us := by
  induction ts generalizing depth with
  | nil =>
    cases h
    rfl
  | cons t ts ih =>
    rcases parenthesis_or_plain t with rfl | rfl | ht
    · exact ih h
    · cases depth with
      | zero => cases h
      | succ depth => exact ih h
    · rw [openAfter_plain ht] at h
      cases depth with
      | zero => rw [List.cons_append, topLevel_plain_zero ht, topLevel_plain_zero ht, ih h,
          List.cons_append]
      | succ depth => rw [List.cons_append, topLevel_plain_succ ht, topLevel_plain_succ ht, ih h]

lemma topLevel_inside (h : openAfter depth ts = some d) (k : ℕ) :
    topLevel (depth + k + 1) ts = [] := by
  induction ts generalizing depth with
  | nil => rfl
  | cons t ts ih =>
    rcases parenthesis_or_plain t with rfl | rfl | ht
    · have := ih h
      rwa [Nat.add_right_comm depth] at this
    · cases depth with
      | zero => cases h
      | succ depth =>
        rw [Nat.add_right_comm depth]
        exact ih h
    · rw [openAfter_plain ht] at h
      rw [topLevel_plain_succ ht]
      exact ih h

lemma Balanced.topLevel_group (h : Balanced inner) (depth : ℕ) :
    topLevel depth (group inner ts) = topLevel depth ts := by
  have hinner : topLevel (depth + 1) inner = [] := by simpa using topLevel_inside h depth
  rw [topLevel, topLevel_append (h.openAfter (depth + 1)), hinner, List.nil_append, topLevel,
    Nat.add_sub_cancel]

lemma exists_openAfter (h : openAfter depth (ts ++ us) = some k) :
    ∃ d, openAfter depth ts = some d := by
  induction ts generalizing depth with
  | nil => exact ⟨depth, by rw [openAfter]⟩
  | cons t ts ih =>
    rcases parenthesis_or_plain t with rfl | rfl | ht
    · exact ih h
    · cases depth with
      | zero => simp [openAfter] at h
      | succ depth => exact ih h
    · rw [List.cons_append, openAfter_plain ht] at h
      rw [openAfter_plain ht]
      exact ih h

lemma topLevel_append_congr (h : ∀ e, topLevel e us = topLevel e ts) :
    topLevel depth (x ++ us) = topLevel depth (x ++ ts) := by
  induction x generalizing depth with
  | nil => exact h depth
  | cons t x ih =>
    rcases parenthesis_or_plain t with rfl | rfl | ht
    · exact ih
    · simpa only [List.cons_append, topLevel.eq_3] using ih
    · cases depth with
      | zero => rw [List.cons_append, List.cons_append, topLevel_plain_zero ht,
          topLevel_plain_zero ht, ih]
      | succ depth => rw [List.cons_append, List.cons_append, topLevel_plain_succ ht,
          topLevel_plain_succ ht, ih]

/-- A group that starts before all groups are closed also ends before. -/
lemma group_of_prefix (hx : openAfter d x = some 0) (hne : x ≠ []) (h : Balanced inner)
    (heq : x ++ rest = group inner post) : ∃ y, x = group inner y ∧ post = y ++ rest := by
  obtain ⟨t, x, rfl⟩ := List.exists_cons_of_ne_nil hne
  obtain ⟨rfl, htail⟩ := List.cons.inj heq
  have hopen : openAfter (d + 1) x = some 0 := hx
  rcases List.append_eq_append_iff.1 htail with ⟨a, rfl, -⟩ | ⟨a, rfl, hpost⟩
  · -- the group cannot go on where all groups are closed
    obtain ⟨e, he⟩ := exists_openAfter h
    have := openAfter_add he (d + 1)
    rw [Nat.zero_add, hopen] at this
    simp at this
  · rw [openAfter_append (h.openAfter (d + 1))] at hopen
    cases a with
    | nil => cases hopen
    | cons t y =>
      obtain ⟨rfl, rfl⟩ := List.cons.inj hpost
      exact ⟨y, rfl, rfl⟩

/-- Balanced tokens with no comma outside all groups. -/
def Whole (ts : List Token) : Prop := Balanced ts ∧ .symbol .comma ∉ topLevel 0 ts

lemma whole_word {word : String} : Whole (.word word :: ts) ↔ Whole ts := by
  simp [Whole, Balanced, topLevel, Statement.openAfter]

lemma whole_group (h : Balanced inner) : Whole (group inner ts) ↔ Whole ts := by
  rw [Whole, Balanced, h.openAfter_group, h.topLevel_group]
  rfl

end Groups

/-! ### The readers of groups -/

section Readers

variable {depth : ℕ} {ts us used inner inner' found rest : List Token} {text : String}

lemma groupText_opening : groupText depth (.symbol .opening :: ts) =
    (fun p => ("(" ++ p.1, p.2)) <$> groupText (depth + 1) ts := by
  cases depth <;> rfl

lemma groupText_plain {t : Token} (ht : Plain t) :
    groupText depth (t :: ts) = (fun p => (t.text ++ p.1, p.2)) <$> groupText depth ts := by
  rw [groupText.eq_5]
  · rfl
  all_goals simp_all [Plain]

lemma groupText_sound (h : groupText depth ts = .ok (text, rest)) :
    ∃ inner, ts = inner ++ .symbol .closing :: rest ∧ openAfter depth inner = some 0 ∧
      text = textOf inner ++ ")" := by
  induction ts generalizing depth text with
  | nil => simp [groupText] at h
  | cons t ts ih =>
    rcases parenthesis_or_plain t with rfl | rfl | ht
    · rw [groupText_opening] at h
      obtain ⟨⟨text, _⟩, hgroup, hp⟩ := map_eq_ok.1 h
      cases hp
      obtain ⟨inner, rfl, hopen, rfl⟩ := ih hgroup
      exact ⟨.symbol .opening :: inner, rfl, hopen, by simp [Token.text, Symbol.text,
        String.append_assoc]⟩
    · cases depth with
      | zero =>
        cases h
        exact ⟨[], rfl, rfl, rfl⟩
      | succ depth =>
        obtain ⟨⟨text, _⟩, hgroup, hp⟩ := map_eq_ok.1 h
        cases hp
        obtain ⟨inner, rfl, hopen, rfl⟩ := ih hgroup
        exact ⟨.symbol .closing :: inner, rfl, hopen, by simp [Token.text, Symbol.text,
          String.append_assoc]⟩
    · rw [groupText_plain ht] at h
      obtain ⟨⟨text, _⟩, hgroup, hp⟩ := map_eq_ok.1 h
      cases hp
      obtain ⟨inner, rfl, hopen, rfl⟩ := ih hgroup
      exact ⟨t :: inner, rfl, by rwa [openAfter_plain ht], by simp [String.append_assoc]⟩

lemma groupText_complete (h : openAfter depth inner = some 0) :
    groupText depth (inner ++ .symbol .closing :: rest) = .ok (textOf inner ++ ")", rest) := by
  induction inner generalizing depth with
  | nil =>
    cases h
    rfl
  | cons t ts ih =>
    rcases parenthesis_or_plain t with rfl | rfl | ht
    · rw [List.cons_append, groupText_opening, ih h]
      simp [Token.text, Symbol.text, String.append_assoc]
    · cases depth with
      | zero => cases h
      | succ depth =>
        rw [List.cons_append, groupText, ih h]
        simp [Except.map, Token.text, Symbol.text, String.append_assoc]
    · rw [openAfter_plain ht] at h
      rw [List.cons_append, groupText_plain ht, ih h]
      simp [String.append_assoc]

/-- Where a group ends is settled by its tokens. -/
lemma group_inj (h : Balanced inner) (h' : Balanced inner')
    (heq : group inner ts = group inner' us) : inner = inner' ∧ ts = us := by
  have hread : groupText 0 (inner ++ .symbol .closing :: ts) = .ok (textOf inner ++ ")", ts) :=
    groupText_complete h
  rw [List.cons.inj heq |>.2, groupText_complete h'] at hread
  obtain ⟨-, rfl⟩ : textOf inner' ++ ")" = textOf inner ++ ")" ∧ us = ts := by simpa using hread
  simpa using heq

lemma modifiers_plain {t : Token} (ht : Plain t) (hcomma : t ≠ .symbol .comma) :
    modifiers 0 (t :: ts) = (fun p => (t :: p.1, p.2)) <$> modifiers 0 ts := by
  rw [modifiers.eq_7]
  · rfl
  all_goals simp_all [Plain]

lemma modifiers_inside {t : Token} (ht : Plain t) :
    modifiers (depth + 1) (t :: ts) = modifiers (depth + 1) ts := by
  rw [modifiers.eq_8] <;> simp_all [Plain]

lemma modifiers_sound (h : modifiers depth ts = .ok (found, rest)) :
    ∃ used, ts = used ++ rest ∧ openAfter depth used = some 0 ∧ topLevel depth used = found ∧
      .symbol .comma ∉ found ∧ AfterDeclaration rest := by
  induction ts generalizing depth found with
  | nil => cases depth <;> simp [modifiers] at h
  | cons t ts ih =>
    rcases parenthesis_or_plain t with rfl | rfl | ht
    · rw [modifiers.eq_6] at h
      obtain ⟨used, rfl, hopen, hfound, hrest⟩ := ih h
      exact ⟨.symbol .opening :: used, rfl, hopen, hfound, hrest⟩
    · cases depth with
      | zero =>
        cases h
        exact ⟨[], rfl, rfl, rfl, by simp, .inr rfl⟩
      | succ depth =>
        obtain ⟨used, rfl, hopen, hfound, hrest⟩ := ih h
        exact ⟨.symbol .closing :: used, rfl, hopen, hfound, hrest⟩
    · cases depth with
      | zero =>
        by_cases hcomma : t = .symbol .comma
        · subst hcomma
          cases h
          exact ⟨[], rfl, rfl, rfl, by simp, .inl rfl⟩
        · rw [modifiers_plain ht hcomma] at h
          obtain ⟨⟨found, _⟩, hmodifiers, hp⟩ := map_eq_ok.1 h
          cases hp
          obtain ⟨used, rfl, hopen, rfl, hfound, hrest⟩ := ih hmodifiers
          exact ⟨t :: used, rfl, by rwa [openAfter_plain ht], topLevel_plain_zero ht,
            by simpa [Ne.symm hcomma] using hfound, hrest⟩
      | succ depth =>
        rw [modifiers_inside ht] at h
        obtain ⟨used, rfl, hopen, hfound, hrest⟩ := ih h
        exact ⟨t :: used, rfl, by rwa [openAfter_plain ht], by rwa [topLevel_plain_succ ht], hrest⟩

lemma modifiers_complete (h : openAfter depth used = some 0)
    (hcomma : .symbol .comma ∉ topLevel depth used) (hrest : AfterDeclaration rest) :
    modifiers depth (used ++ rest) = .ok (topLevel depth used, rest) := by
  induction used generalizing depth with
  | nil =>
    cases h
    cases rest with
    | nil => simp [AfterDeclaration] at hrest
    | cons t ts => rcases hrest with h | h <;> cases h <;> rfl
  | cons t ts ih =>
    rcases parenthesis_or_plain t with rfl | rfl | ht
    · rw [List.cons_append, modifiers.eq_6]
      exact ih h hcomma
    · cases depth with
      | zero => cases h
      | succ depth => exact ih h hcomma
    · rw [openAfter_plain ht] at h
      cases depth with
      | zero =>
        rw [topLevel_plain_zero ht, List.mem_cons, not_or] at hcomma
        rw [List.cons_append, modifiers_plain ht (Ne.symm hcomma.1), ih h hcomma.2,
          topLevel_plain_zero ht]
        rfl
      | succ depth =>
        rw [topLevel_plain_succ ht] at hcomma ⊢
        rw [List.cons_append, modifiers_inside ht]
        exact ih h hcomma

end Readers

/-! ### Segments -/

section Segments

variable {depth d : ℕ} {t : Token} {ts us inner : List Token} {B : List (List Token)}

lemma segments_plain (ht : Plain t) (h : t ≠ .symbol .comma ∨ depth ≠ 0) :
    segments depth (t :: ts) = (segments depth ts).modifyHead (t :: ·) := by
  rw [segments.eq_5]
  · exact ht.1
  · exact ht.2
  · rintro rfl rfl
    simp at h

lemma exists_segments_eq (depth : ℕ) (ts : List Token) : ∃ v B, segments depth ts = v :: B := by
  fun_induction segments depth ts with
  | case1 | case4 => exact ⟨_, _, rfl⟩
  | case2 depth ts ih | case3 depth ts ih | case5 depth t ts _ _ _ ih =>
    obtain ⟨v, B, h⟩ := ih
    exact ⟨_ :: v, B, by rw [h]; rfl⟩

/-- A new segment starts at every comma outside all groups, and what comes after the tokens goes on
with the last one. -/
lemma exists_segments_append (h : openAfter depth ts = some d) :
    ∃ A u, segments depth ts = A ++ [u] ∧ ∀ us v B, segments d us = v :: B →
      segments depth (ts ++ us) = A ++ (u ++ v) :: B := by
  suffices ∃ A u, ∀ us v B, segments d us = v :: B →
      segments depth (ts ++ us) = A ++ (u ++ v) :: B by
    obtain ⟨A, u, hA⟩ := this
    exact ⟨A, u, by simpa using hA [] [] [] (by rw [segments]), hA⟩
  induction ts generalizing depth with
  | nil =>
    cases h
    exact ⟨[], [], fun us v B h => h⟩
  | cons t ts ih =>
    have hgrow {e : ℕ} (h : openAfter e ts = some d) : ∃ A u, ∀ us v B, segments d us = v :: B →
        (segments e (ts ++ us)).modifyHead (t :: ·) = A ++ (u ++ v) :: B := by
      obtain ⟨A, u, hA⟩ := ih h
      cases A with
      | nil => exact ⟨[], t :: u, fun us v B h => by rw [hA us v B h]; rfl⟩
      | cons a A => exact ⟨(t :: a) :: A, u, fun us v B h => by rw [hA us v B h]; rfl⟩
    rcases parenthesis_or_plain t with rfl | rfl | ht
    · simpa only [List.cons_append, segments.eq_2] using hgrow h
    · cases depth with
      | zero => cases h
      | succ depth =>
        simpa only [List.cons_append, segments.eq_3, Nat.add_sub_cancel] using hgrow h
    · rw [openAfter_plain ht] at h
      by_cases hcomma : t = .symbol .comma ∧ depth = 0
      · obtain ⟨rfl, rfl⟩ := hcomma
        obtain ⟨A, u, hA⟩ := ih h
        exact ⟨[] :: A, u, fun us v B h => congrArg ([] :: ·) (hA us v B h)⟩
      · simpa only [List.cons_append, segments_plain ht (not_and_or.1 hcomma)] using hgrow h

/-- Tokens without a comma outside all groups are one segment. -/
lemma segments_eq_singleton (h : openAfter depth ts = some d)
    (hcomma : .symbol .comma ∉ topLevel depth ts) : segments depth ts = [ts] := by
  induction ts generalizing depth with
  | nil => rw [segments]
  | cons t ts ih =>
    rcases parenthesis_or_plain t with rfl | rfl | ht
    · rw [segments.eq_2, ih h hcomma]
      rfl
    · cases depth with
      | zero => cases h
      | succ depth =>
        rw [segments.eq_3, Nat.add_sub_cancel, ih h hcomma]
        rfl
    · rw [openAfter_plain ht] at h
      cases depth with
      | zero =>
        rw [topLevel_plain_zero ht, List.mem_cons, not_or] at hcomma
        rw [segments_plain ht (.inl (Ne.symm hcomma.1)), ih h hcomma.2]
        rfl
      | succ depth =>
        rw [topLevel_plain_succ ht] at hcomma
        rw [segments_plain ht (.inr (Nat.succ_ne_zero _)), ih h hcomma]
        rfl

lemma segments_append_of_not_mem {v : List Token} (h : openAfter depth ts = some d)
    (hcomma : .symbol .comma ∉ topLevel depth ts) (hv : segments d us = v :: B) :
    segments depth (ts ++ us) = (ts ++ v) :: B := by
  obtain ⟨A, u, hts, happend⟩ := exists_segments_append h
  rw [segments_eq_singleton h hcomma] at hts
  obtain ⟨rfl, rfl⟩ : A = [] ∧ u = ts := by simpa [List.singleton_eq_append_iff, eq_comm] using hts
  exact happend us v B hv

lemma Whole.segments_comma (h : Whole ts) :
    segments 0 (ts ++ .symbol .comma :: us) = ts :: segments 0 us := by
  rw [segments_append_of_not_mem h.1 h.2 (segments.eq_4 us), List.append_nil]

/-- A group lies in one segment. -/
lemma Balanced.segments_group (h : Balanced inner) {v : List Token}
    (hv : segments depth ts = v :: B) :
    segments depth (group inner ts) = group inner v :: B := by
  have hinner : topLevel (depth + 1) inner = [] := by simpa using topLevel_inside h depth
  have hclosing : segments (depth + 1) (.symbol .closing :: ts) = (.symbol .closing :: v) :: B := by
    rw [segments.eq_3, Nat.add_sub_cancel, hv]
    rfl
  rw [segments.eq_2,
    segments_append_of_not_mem (h.openAfter (depth + 1)) (by simp [hinner]) hclosing]
  rfl

/-- Balanced tokens end with their first segment, or a comma comes after it. -/
lemma exists_first_segment (h : openAfter depth ts = some 0) :
    .symbol .comma ∉ topLevel depth ts ∨
      ∃ first more, ts = first ++ .symbol .comma :: more ∧ openAfter depth first = some 0 ∧
        .symbol .comma ∉ topLevel depth first ∧ Balanced more := by
  induction ts generalizing depth with
  | nil => exact .inl (by simp [topLevel])
  | cons t ts ih =>
    rcases parenthesis_or_plain t with rfl | rfl | ht
    · refine (ih h).imp id ?_
      rintro ⟨first, more, rfl, hfirst⟩
      exact ⟨.symbol .opening :: first, more, rfl, hfirst⟩
    · cases depth with
      | zero => cases h
      | succ depth =>
        refine (ih h).imp id ?_
        rintro ⟨first, more, rfl, hfirst⟩
        exact ⟨.symbol .closing :: first, more, rfl, hfirst⟩
    · rw [openAfter_plain ht] at h
      cases depth with
      | zero =>
        by_cases hcomma : t = .symbol .comma
        · exact .inr ⟨[], ts, by rw [hcomma, List.nil_append], rfl, by simp [topLevel], h⟩
        · rw [topLevel_plain_zero ht]
          refine (ih h).imp (by simp [Ne.symm hcomma]) ?_
          rintro ⟨first, more, rfl, hfirst, hnot, hmore⟩
          exact ⟨t :: first, more, rfl, by rwa [openAfter_plain ht],
            by simp [topLevel_plain_zero ht, Ne.symm hcomma, hnot], hmore⟩
      | succ depth =>
        rw [topLevel_plain_succ ht]
        refine (ih h).imp id ?_
        rintro ⟨first, more, rfl, hfirst, hnot, hmore⟩
        exact ⟨t :: first, more, rfl, by rwa [openAfter_plain ht],
          by rwa [topLevel_plain_succ ht], hmore⟩

end Segments

end Tabula.Statement

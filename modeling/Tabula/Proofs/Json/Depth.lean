import Mathlib.Data.List.TakeWhile
import Mathlib.Tactic.Lemma
import Mathlib.Tactic.Push
import Tabula.Json.Read
import Tabula.Proofs.Except

/-!
Documents that are too deep.

A scan of a text counts how many lists and objects are open at once; brackets inside texts do not
count. Main statements: what is read is nested no deeper than the limit, what is refused as too deep
is nested deeper, and every other outcome is the same for all greater limits.
-/

namespace Tabula.Json

variable {α β : Type} {opened limit : Nat} {cs ds rest : List Char}

/-- Where a scan stands. -/
inductive Mode where
  | outside
  /-- between the quotes of a text -/
  | inside
  /-- behind the backslash of an escape -/
  | escaped

/-- The greatest number of lists and objects that are open at once, if `depth` are at the start. -/
def nestingFrom : Mode → Nat → List Char → Nat
  | _, depth, [] => depth
  | .outside, depth, c :: cs =>
    if c = '\x22' then nestingFrom .inside depth cs
    else if c = '[' || c = '\x7b' then nestingFrom .outside (depth + 1) cs
    else if c = ']' || c = '\x7d' then max depth (nestingFrom .outside (depth - 1) cs)
    else nestingFrom .outside depth cs
  | .inside, depth, c :: cs =>
    if c = '\x22' then nestingFrom .outside depth cs
    else if c = '\x5c' then nestingFrom .escaped depth cs
    else nestingFrom .inside depth cs
  | .escaped, depth, _ :: cs => nestingFrom .inside depth cs

/-- How deep the lists and objects of a text are nested. -/
def nesting (s : String) : Nat := nestingFrom .outside 0 s.toList

lemma le_nestingFrom (mode : Mode) (depth : Nat) (cs : List Char) :
    depth ≤ nestingFrom mode depth cs := by
  fun_induction nestingFrom mode depth cs <;> omega

/-! ### What leaves a scan where it is -/

/-- A character that is no bracket and no quote. -/
def IsLevel (c : Char) : Prop :=
  c ≠ '\x22' ∧ c ≠ '[' ∧ c ≠ '\x7b' ∧ c ≠ ']' ∧ c ≠ '\x7d'

/-- Between the two texts nothing is opened or closed. -/
def Levels (cs rest : List Char) : Prop :=
  ∀ depth, nestingFrom .outside depth cs = nestingFrom .outside depth rest

namespace Levels

lemma refl (cs : List Char) : Levels cs cs := fun _ => rfl

lemma trans (h : Levels cs ds) (k : Levels ds rest) : Levels cs rest :=
  fun depth => (h depth).trans (k depth)

lemma cons {c : Char} (hc : IsLevel c) (h : Levels cs rest) : Levels (c :: cs) rest := by
  intro depth
  obtain ⟨hquote, hl, hb, hr, hd⟩ := hc
  simp [nestingFrom, hquote, hl, hb, hr, hd, h depth]

lemma append {run : List Char} (h : ∀ c ∈ run, IsLevel c) (rest : List Char) :
    Levels (run ++ rest) rest := by
  induction run with
  | nil => exact refl rest
  | cons c run ih =>
    exact cons (h c List.mem_cons_self) (ih fun d hd => h d (List.mem_cons_of_mem _ hd))

lemma dropWhile {p : Char → Bool} (h : ∀ c, p c = true → IsLevel c) (cs : List Char) :
    Levels cs (cs.dropWhile p) := by
  have hrun : Levels (cs.takeWhile p ++ cs.dropWhile p) (cs.dropWhile p) :=
    append (fun c hc => h c (List.mem_takeWhile_imp hc)) _
  rwa [List.takeWhile_append_dropWhile] at hrun

end Levels

lemma levels_skipBlanks (cs : List Char) : Levels cs (skipBlanks cs) := by
  refine Levels.dropWhile (fun c hc => ?_) cs
  simp only [Bool.or_eq_true, beq_iff_eq] at hc
  rcases hc with ((rfl | rfl) | rfl) | rfl <;> simp [IsLevel]

lemma levels_readDigits (cs : List Char) : Levels cs (readDigits cs).2 := by
  refine Levels.dropWhile (fun c hc => ?_) cs
  refine ⟨?_, ?_, ?_, ?_, ?_⟩ <;>
    · rintro rfl
      simp at hc

lemma levels_readWhole (cs : List Char) : Levels cs (readWhole cs).2 := by
  unfold readWhole
  split
  · exact .cons (by simp [IsLevel]) (.refl _)
  · exact levels_readDigits _

lemma levels_readFraction (cs : List Char) : Levels cs (readFraction cs).2 := by
  unfold readFraction
  split
  · rename_i rest
    have hdigits := levels_readDigits rest
    split
    · exact .refl _
    · rename_i hread
      rw [hread] at hdigits
      exact .cons (by simp [IsLevel]) hdigits
  · exact .refl _

lemma levels_sign (cs : List Char) : Levels cs (Numeral.sign cs).2 := by
  unfold Numeral.sign
  split
  · exact .cons (by simp [IsLevel]) (.refl _)
  · exact .cons (by simp [IsLevel]) (.refl _)
  · exact .refl _

lemma levels_readExponent (cs : List Char) : Levels cs (readExponent cs).2 := by
  unfold readExponent
  split
  · rename_i e rest
    have hdigits := (levels_sign rest).trans (levels_readDigits _)
    split
    · rename_i he
      split
      · exact .refl _
      · rename_i hread
        rw [hread] at hdigits
        refine .cons ?_ hdigits
        simp only [Bool.or_eq_true, beq_iff_eq] at he
        rcases he with rfl | rfl <;> simp [IsLevel]
    · exact .refl _
  · exact .refl _

/-! ### Readers -/

/-- Of the rest of a text, so much is taken that `opened` lists and objects that are open before
are closed, and no more than `limit` are opened inside each other on the way. -/
def Takes (opened limit : Nat) (cs rest : List Char) : Prop :=
  ∃ inner ≤ limit, ∀ depth, nestingFrom .outside (depth + opened) cs =
    max (depth + opened + inner) (nestingFrom .outside depth rest)

lemma Levels.takes (h : Levels cs rest) : Takes 0 limit cs rest := by
  refine ⟨0, Nat.zero_le _, fun depth => ?_⟩
  rw [Nat.add_zero, h depth]
  exact (Nat.max_eq_right (le_nestingFrom .outside depth rest)).symm

lemma takes_close {c : Char} (hc : c = ']' ∨ c = '\x7d') (rest : List Char) :
    Takes 1 limit (c :: rest) rest := by
  refine ⟨0, Nat.zero_le _, fun depth => ?_⟩
  rcases hc with rfl | rfl <;> simp [nestingFrom]

lemma Takes.open {c : Char} (hc : c = '[' ∨ c = '\x7b') (h : Takes 1 limit cs rest) :
    Takes 0 (limit + 1) (c :: cs) rest := by
  obtain ⟨inner, hle, h⟩ := h
  refine ⟨inner + 1, by omega, fun depth => ?_⟩
  have hopen : nestingFrom .outside (depth + 0) (c :: cs) = nestingFrom .outside (depth + 1) cs := by
    rcases hc with rfl | rfl <;> simp [nestingFrom]
  rw [hopen, h]
  omega

lemma Takes.trans (h : Takes 0 limit cs ds) (k : Takes opened limit ds rest) :
    Takes opened limit cs rest := by
  obtain ⟨first, hfirst, h⟩ := h
  obtain ⟨second, hsecond, k⟩ := k
  refine ⟨max first second, by omega, fun depth => ?_⟩
  have h : nestingFrom .outside (depth + opened) cs =
    max (depth + opened + first) (nestingFrom .outside (depth + opened) ds) := h (depth + opened)
  rw [h, k depth]
  omega

/-- What a reader makes of a text: a part of it and what comes after, or a fault. It is too deep
only where more is opened than the limit. -/
structure Descends (opened limit : Nat) (cs : List Char) (x : Except Fault (α × List Char)) :
    Prop where
  takes : ∀ a rest, x = .ok (a, rest) → Takes opened limit cs rest
  tooDeep : x = .error .tooDeep →
    ∀ depth, depth + opened + limit < nestingFrom .outside (depth + opened) cs

namespace Descends

lemma ok {a : α} (h : Takes opened limit cs rest) :
    Descends opened limit cs (.ok (a, rest)) where
  takes := by
    rintro _ _ ⟨⟩
    exact h
  tooDeep := by simp

lemma fails {fault : Fault} (h : fault ≠ .tooDeep) :
    Descends opened limit cs (.error fault : Except Fault (α × List Char)) where
  takes := by simp
  tooDeep hx := absurd (Except.error.inj hx) h

lemma unexpected (left : List Char) :
    Descends opened limit cs (Json.unexpected left : Except Fault (α × List Char)) :=
  fails (by simp)

lemma of_levels {x : Except Fault (α × List Char)} (hs : Levels cs ds)
    (h : Descends opened limit ds x) : Descends opened limit cs x where
  takes a rest hx := hs.takes.trans (h.takes a rest hx)
  tooDeep hx depth := hs (depth + opened) ▸ h.tooDeep hx depth

/-- One reader after another. -/
lemma bind {x : Except Fault (α × List Char)} {f : α × List Char → Except Fault (β × List Char)}
    (h : Descends 0 limit cs x)
    (hf : ∀ a rest, x = .ok (a, rest) → Descends opened limit rest (f (a, rest))) :
    Descends opened limit cs (x >>= f) := by
  cases x with
  | error fault =>
    exact ⟨by simp [Bind.bind, Except.bind],
      fun hx depth => h.tooDeep (by cases hx; rfl) (depth + opened)⟩
  | ok y =>
    obtain ⟨a, rest⟩ := y
    have hnext := hf a rest rfl
    have htakes := h.takes a rest rfl
    refine ⟨fun b rest' hb => htakes.trans (hnext.takes b rest' hb), fun hx depth => ?_⟩
    obtain ⟨inner, -, htakes⟩ := htakes
    have htakes : nestingFrom .outside (depth + opened) cs =
      max (depth + opened + inner) (nestingFrom .outside (depth + opened) rest) :=
        htakes (depth + opened)
    have := hnext.tooDeep hx depth
    omega

/-- What was read is put into a document. -/
lemma bind_pure {x : Except Fault (α × List Char)}
    {f : α × List Char → Except Fault (β × List Char)} (h : Descends opened limit cs x)
    (hf : ∀ a rest, ∃ b, f (a, rest) = .ok (b, rest)) : Descends opened limit cs (x >>= f) := by
  cases x with
  | error fault =>
    exact ⟨by simp [Bind.bind, Except.bind], fun hx => h.tooDeep (by cases hx; rfl)⟩
  | ok y =>
    obtain ⟨a, rest⟩ := y
    obtain ⟨b, hb⟩ := hf a rest
    change Descends opened limit cs (f (a, rest))
    rw [hb]
    exact .ok (h.takes a rest rfl)

/-- A list or an object is read only where one more level is left. -/
lemma nested {x : Except Fault (α × List Char)} {c : Char} (hc : c = '[' ∨ c = '\x7b')
    (h : ∀ inner, limit = inner + 1 → Descends 1 inner cs x) :
    Descends 0 limit (c :: cs) (if limit = 0 then .error .tooDeep else x) := by
  have hopen : ∀ depth, nestingFrom .outside (depth + 0) (c :: cs) =
      nestingFrom .outside (depth + 1) cs := by
    intro depth
    rcases hc with rfl | rfl <;> simp [nestingFrom]
  cases limit with
  | zero =>
    refine ⟨by simp, fun _ depth => ?_⟩
    rw [hopen]
    have := le_nestingFrom .outside (depth + 1) cs
    omega
  | succ inner =>
    rw [if_neg (Nat.succ_ne_zero inner)]
    have hinner := h inner rfl
    refine ⟨fun a rest hx => (hinner.takes a rest hx).open hc, fun hx depth => ?_⟩
    rw [hopen]
    have := hinner.tooDeep hx depth
    omega

end Descends

/-! ### Text and numbers -/

/-- The digits of a unit neither end a text nor escape. -/
lemma nestingFrom_unit {a b c d : Char} {unit : Nat} (h : unit? a b c d = some unit)
    (depth : Nat) : nestingFrom .inside depth (a :: b :: c :: d :: cs) =
      nestingFrom .inside depth cs := by
  obtain ⟨_, ha, h⟩ := Option.bind_eq_some_iff.1 h
  obtain ⟨_, hb, h⟩ := Option.bind_eq_some_iff.1 h
  obtain ⟨_, hc, h⟩ := Option.bind_eq_some_iff.1 h
  obtain ⟨_, hd, -⟩ := Option.bind_eq_some_iff.1 h
  have hdigit : ∀ {e : Char} {n : Nat}, Text.hexValue? e = some n → e ≠ '\x22' ∧ e ≠ '\x5c' := by
    intro e n he
    constructor <;>
      · rintro rfl
        cases he
  simp [nestingFrom, hdigit ha, hdigit hb, hdigit hc, hdigit hd]

/-- A text is read up to the quote that ends it. -/
lemma readText_nesting {s : Wide} (h : readText cs = .ok (s, rest)) (depth : Nat) :
    nestingFrom .inside depth cs = nestingFrom .outside depth rest := by
  fun_induction readText cs generalizing s with
  | case1 => cases h
  | case2 =>
    cases h
    rfl
  | case3 => cases h
  | case4 a b c d after unit hunit ih =>
    obtain ⟨⟨s', rest'⟩, hread, hs⟩ := map_eq_ok.1 h
    cases hs
    rw [← ih hread]
    exact nestingFrom_unit hunit depth
  | case5 => cases h
  | case6 e after _ c _ ih =>
    obtain ⟨⟨s', rest'⟩, hread, hs⟩ := map_eq_ok.1 h
    cases hs
    exact ih hread
  | case7 => cases h
  | case8 c after hquote _ _ hplain ih =>
    obtain ⟨⟨s', rest'⟩, hread, hs⟩ := map_eq_ok.1 h
    cases hs
    have hback : c ≠ '\x5c' := by
      rintro rfl
      simp at hplain
    have hend : c ≠ '\x22' := by
      rintro rfl
      exact hquote rfl
    rw [← ih hread, nestingFrom, if_neg hend, if_neg hback]

lemma readText_ne_tooDeep (cs : List Char) : readText cs ≠ .error .tooDeep := by
  fun_induction readText cs with
  | case1 | case3 | case5 | case7 => simp [unexpected]
  | case2 => simp
  | case4 _ _ _ _ _ _ _ ih | case6 _ _ _ _ _ ih | case8 _ _ _ _ _ _ ih =>
    exact fun h => ih (map_eq_error.1 h)

lemma descends_readText (limit : Nat) (cs : List Char) :
    Descends 0 limit ('\x22' :: cs) (readText cs) where
  takes _ _ h := Levels.takes (readText_nesting h)
  tooDeep h := absurd h (readText_ne_tooDeep cs)

lemma descends_readNumber (limit : Nat) (cs : List Char) :
    Descends 0 limit cs (readNumber cs) := by
  unfold readNumber
  split
  rename_i negative unsigned hsign
  have hlevels : Levels cs unsigned := by
    split at hsign
    · cases hsign
      exact .cons (by simp [IsLevel]) (.refl _)
    · cases hsign
      exact .refl _
  have hwhole := hlevels.trans (levels_readWhole unsigned)
  split
  · exact .unexpected _
  · rename_i whole rest _ hread
    rw [hread] at hwhole
    dsimp only at hwhole ⊢
    split
    · exact .ok ((hwhole.trans (levels_readFraction _)).trans (levels_readExponent _)).takes
    · exact .fails (by simp)

lemma descends_readScalar (limit : Nat) (cs : List Char) :
    Descends 0 limit cs (readScalar cs) := by
  have hword : ∀ (word rest : List Char) (v : Value), (∀ c ∈ word, IsLevel c) →
      Descends 0 limit (word ++ rest) (.ok (v, rest)) :=
    fun word rest v h => .ok (Levels.append h rest).takes
  unfold readScalar
  split
  · exact hword ['n', 'u', 'l', 'l'] _ _ (by simp [IsLevel])
  · exact hword ['t', 'r', 'u', 'e'] _ _ (by simp [IsLevel])
  · exact hword ['f', 'a', 'l', 's', 'e'] _ _ (by simp [IsLevel])
  · exact hword ['N', 'a', 'N'] _ _ (by simp [IsLevel])
  · exact hword ['I', 'n', 'f', 'i', 'n', 'i', 't', 'y'] _ _ (by simp [IsLevel])
  · exact hword ['-', 'I', 'n', 'f', 'i', 'n', 'i', 't', 'y'] _ _ (by simp [IsLevel])
  · exact descends_readNumber limit _

/-! ### Documents -/

lemma isLevel_comma : IsLevel ',' := by simp [IsLevel]

lemma isLevel_colon : IsLevel ':' := by simp [IsLevel]

section Steps

variable {fuel : Nat}

lemma descends_readItems
    (hvalue : ∀ limit cs, Descends 0 limit cs (readValue fuel limit cs))
    (hitems : ∀ limit cs, Descends 1 limit cs (readItems fuel limit cs)) (limit : Nat)
    (cs : List Char) : Descends 1 limit cs (readItems (fuel + 1) limit cs) := by
  rw [readItems]
  refine (hvalue limit cs).bind fun x rest _ => ?_
  dsimp only
  have hblanks := levels_skipBlanks rest
  split
  · rename_i after hskip
    rw [hskip] at hblanks
    refine .of_levels (hblanks.trans (.cons isLevel_comma (levels_skipBlanks after))) ?_
    exact (hitems limit _).bind_pure fun xs rest => ⟨x :: xs, rfl⟩
  · rename_i after hskip
    rw [hskip] at hblanks
    exact .of_levels hblanks (.ok (takes_close (.inl rfl) after))
  · exact .unexpected _

lemma descends_readMembers
    (hvalue : ∀ limit cs, Descends 0 limit cs (readValue fuel limit cs))
    (hmembers : ∀ limit cs, Descends 1 limit cs (readMembers fuel limit cs)) (limit : Nat)
    (cs : List Char) : Descends 1 limit cs (readMembers (fuel + 1) limit cs) := by
  unfold readMembers
  split
  · rename_i rest
    refine (descends_readText limit rest).bind fun name rest _ => ?_
    dsimp only
    have hblanks := levels_skipBlanks rest
    split
    · rename_i after hskip
      rw [hskip] at hblanks
      refine .of_levels (hblanks.trans (.cons isLevel_colon (levels_skipBlanks after))) ?_
      refine (hvalue limit _).bind fun x rest _ => ?_
      dsimp only
      have hblanks := levels_skipBlanks rest
      split
      · rename_i after hskip
        rw [hskip] at hblanks
        refine .of_levels (hblanks.trans (.cons isLevel_comma (levels_skipBlanks after))) ?_
        exact (hmembers limit _).bind_pure fun xs rest => ⟨(name, x) :: xs, rfl⟩
      · rename_i after hskip
        rw [hskip] at hblanks
        exact .of_levels hblanks (.ok (takes_close (.inr rfl) after))
      · exact .unexpected _
    · exact .unexpected _
  · exact .unexpected _

lemma descends_readValue
    (hitems : ∀ limit cs, Descends 1 limit cs (readItems fuel limit cs))
    (hmembers : ∀ limit cs, Descends 1 limit cs (readMembers fuel limit cs)) (limit : Nat)
    (cs : List Char) : Descends 0 limit cs (readValue (fuel + 1) limit cs) := by
  unfold readValue
  split
  · exact (descends_readText limit _).bind_pure fun _ _ => ⟨_, rfl⟩
  · refine .nested (.inl rfl) fun inner hinner => .of_levels (levels_skipBlanks _) ?_
    split
    · rename_i hskip
      rw [hskip]
      exact .ok (takes_close (.inl rfl) _)
    · subst hinner
      exact (hitems inner _).bind_pure fun _ _ => ⟨_, rfl⟩
  · refine .nested (.inr rfl) fun inner hinner => .of_levels (levels_skipBlanks _) ?_
    split
    · rename_i hskip
      rw [hskip]
      exact .ok (takes_close (.inr rfl) _)
    · subst hinner
      exact (hmembers inner _).bind_pure fun _ _ => ⟨_, rfl⟩
  · exact (descends_readScalar limit _).bind_pure fun _ _ => ⟨_, rfl⟩

end Steps

lemma descends (fuel : Nat) :
    (∀ limit cs, Descends 0 limit cs (readValue fuel limit cs)) ∧
      (∀ limit cs, Descends 1 limit cs (readItems fuel limit cs)) ∧
      ∀ limit cs, Descends 1 limit cs (readMembers fuel limit cs) := by
  induction fuel with
  | zero =>
    refine ⟨fun limit cs => ?_, fun limit cs => ?_, fun limit cs => ?_⟩
    · rw [readValue]
      exact .unexpected _
    · rw [readItems]
      exact .unexpected _
    · rw [readMembers]
      exact .unexpected _
  | succ fuel ih =>
    obtain ⟨hvalue, hitems, hmembers⟩ := ih
    exact ⟨descends_readValue hitems hmembers, descends_readItems hvalue hitems,
      descends_readMembers hvalue hmembers⟩

/-- **What is read is not too deep.** -/
theorem nesting_le_of_readDocument {s : String} {d : Document} (h : readDocument limit s = .ok d) :
    nesting s ≤ limit := by
  obtain ⟨⟨d', rest⟩, hread, h⟩ := bind_eq_ok.1 h
  have hend : skipBlanks rest = [] := by
    dsimp only at h
    split at h
    · assumption
    · cases h
  have hrest := levels_skipBlanks rest 0
  rw [hend] at hrest
  have hblanks := levels_skipBlanks s.toList 0
  obtain ⟨inner, hle, htakes⟩ := ((descends _).1 limit _).takes d' rest hread
  have htakes : nestingFrom .outside 0 (skipBlanks s.toList) =
    max (0 + inner) (nestingFrom .outside 0 rest) := htakes 0
  rw [nesting, hblanks, htakes, hrest, nestingFrom]
  omega

/-- **What is refused as too deep is.** -/
theorem lt_nesting_of_tooDeep {s : String} (h : readDocument limit s = .error .tooDeep) :
    limit < nesting s := by
  rw [nesting, levels_skipBlanks s.toList 0]
  rcases bind_eq_error.1 h with h | ⟨⟨d, rest⟩, -, h⟩
  · have hdeep := ((descends _).1 limit _).tooDeep h 0
    rwa [Nat.zero_add, Nat.zero_add] at hdeep
  · dsimp only at h
    split at h <;> cases h

/-! ### Greater limits -/

/-- Under a greater limit comes what came before, unless that was too deep. -/
def Settles (x y : Except Fault α) : Prop := x = .error .tooDeep ∨ y = x

lemma Settles.bind {x y : Except Fault α} {f g : α → Except Fault β} (h : Settles x y)
    (hf : ∀ a, Settles (f a) (g a)) : Settles (x >>= f) (y >>= g) := by
  rcases h with rfl | rfl
  · exact .inl rfl
  · cases y with
    | error fault => exact .inr rfl
    | ok a => exact hf a

section Steps

variable {fuel other : Nat}

lemma settles_readItems
    (hvalue : ∀ cs, Settles (readValue fuel limit cs) (readValue fuel other cs))
    (hitems : ∀ cs, Settles (readItems fuel limit cs) (readItems fuel other cs))
    (cs : List Char) :
    Settles (readItems (fuel + 1) limit cs) (readItems (fuel + 1) other cs) := by
  rw [readItems, readItems]
  refine (hvalue cs).bind fun x => ?_
  dsimp only
  split
  · exact (hitems _).bind fun _ => .inr rfl
  · exact .inr rfl
  · exact .inr rfl

lemma settles_readMembers
    (hvalue : ∀ cs, Settles (readValue fuel limit cs) (readValue fuel other cs))
    (hmembers : ∀ cs, Settles (readMembers fuel limit cs) (readMembers fuel other cs))
    (cs : List Char) :
    Settles (readMembers (fuel + 1) limit cs) (readMembers (fuel + 1) other cs) := by
  unfold readMembers
  split
  · refine .bind (.inr rfl) fun a => ?_
    obtain ⟨name, rest⟩ := a
    dsimp only
    split
    · refine (hvalue _).bind fun x => ?_
      split
      · exact (hmembers _).bind fun _ => .inr rfl
      · exact .inr rfl
      · exact .inr rfl
    · exact .inr rfl
  · exact .inr rfl

lemma settles_readValue (h : limit ≤ other)
    (hitems : ∀ cs, Settles (readItems fuel (limit - 1) cs) (readItems fuel (other - 1) cs))
    (hmembers : ∀ cs, Settles (readMembers fuel (limit - 1) cs) (readMembers fuel (other - 1) cs))
    (cs : List Char) :
    Settles (readValue (fuel + 1) limit cs) (readValue (fuel + 1) other cs) := by
  unfold readValue
  split
  · exact .inr rfl
  · by_cases hz : limit = 0
    · exact .inl (if_pos hz)
    · rw [if_neg hz, if_neg (by omega)]
      split
      · exact .inr rfl
      · exact (hitems _).bind fun _ => .inr rfl
  · by_cases hz : limit = 0
    · exact .inl (if_pos hz)
    · rw [if_neg hz, if_neg (by omega)]
      split
      · exact .inr rfl
      · exact (hmembers _).bind fun _ => .inr rfl
  · exact .inr rfl

end Steps

lemma settles (fuel : Nat) {limit other : Nat} (h : limit ≤ other) :
    (∀ cs, Settles (readValue fuel limit cs) (readValue fuel other cs)) ∧
      (∀ cs, Settles (readItems fuel limit cs) (readItems fuel other cs)) ∧
      ∀ cs, Settles (readMembers fuel limit cs) (readMembers fuel other cs) := by
  induction fuel generalizing limit other with
  | zero => exact ⟨fun _ => .inr rfl, fun _ => .inr rfl, fun _ => .inr rfl⟩
  | succ fuel ih =>
    obtain ⟨hvalue, hitems, hmembers⟩ := ih h
    obtain ⟨-, hinner, hinnerMembers⟩ := ih (Nat.sub_le_sub_right h 1)
    exact ⟨settles_readValue h hinner hinnerMembers, settles_readItems hvalue hitems,
      settles_readMembers hvalue hmembers⟩

/-- A text is read in the same way under every greater limit, unless it was too deep. -/
lemma settles_readDocument {other : Nat} (h : limit ≤ other) (s : String) :
    Settles (readDocument limit s) (readDocument other s) :=
  ((settles _ h).1 _).bind fun _ => .inr rfl

/-- **Whether a text is a document, and which one, is the same for all limits** that it is not too
deep for. -/
theorem readDocument_eq {other : Nat} {s : String}
    (h : readDocument limit s ≠ .error .tooDeep) (k : readDocument other s ≠ .error .tooDeep) :
    readDocument limit s = readDocument other s := by
  rcases Nat.le_total limit other with hle | hle
  · exact ((settles_readDocument hle s).resolve_left h).symm
  · exact (settles_readDocument hle s).resolve_left k

end Tabula.Json

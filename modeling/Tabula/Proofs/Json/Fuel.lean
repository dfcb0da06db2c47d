import Tabula.Proofs.Json.Depth

/-!
The number that bounds the steps of reading.

Every reader leaves less of the text than it was given. So twice the length of a text bounds the
steps that reading it takes. Main statement: with this bound or any greater one the same comes of a
text.
-/

namespace Tabula.Json

variable {α β : Type} {limit : Nat} {cs rest : List Char}

/-- A reader that leaves less of the text than this. -/
def Shrinks (cs : List Char) (x : Except Fault (α × List Char)) : Prop :=
  ∀ a rest, x = .ok (a, rest) → rest.length < cs.length

namespace Shrinks

lemma ok {a : α} (h : rest.length < cs.length) : Shrinks cs (.ok (a, rest)) := by
  rintro _ _ ⟨⟩
  exact h

lemma error (fault : Fault) : Shrinks cs (.error fault : Except Fault (α × List Char)) := by
  rintro _ _ ⟨⟩

lemma mono {ds : List Char} {x : Except Fault (α × List Char)} (h : Shrinks ds x)
    (hle : ds.length ≤ cs.length) : Shrinks cs x :=
  fun a rest hx => Nat.lt_of_lt_of_le (h a rest hx) hle

lemma bind {x : Except Fault (α × List Char)} {f : α × List Char → Except Fault (β × List Char)}
    (h : Shrinks cs x) (hf : ∀ a rest, rest.length < cs.length → Shrinks cs (f (a, rest))) :
    Shrinks cs (x >>= f) := by
  intro b rest hb
  obtain ⟨⟨a, mid⟩, ha, hb⟩ := bind_eq_ok.1 hb
  exact hf a mid (h a mid ha) b rest hb

end Shrinks

lemma length_skipBlanks_le (cs : List Char) : (skipBlanks cs).length ≤ cs.length :=
  (List.dropWhile_suffix _).length_le

/-- What stands behind the first character after blanks is shorter than the whole. -/
lemma length_lt_of_skipBlanks {c : Char} {after : List Char} (h : skipBlanks cs = c :: after) :
    after.length < cs.length := by
  have hle := length_skipBlanks_le cs
  rw [h, List.length_cons] at hle
  omega

lemma shrinks_readText (cs : List Char) : Shrinks cs (readText cs) := by
  fun_induction readText cs with
  | case1 | case3 | case5 | case7 => exact .error _
  | case2 rest => exact .ok (by simp)
  | case4 a b c d rest unit _ ih =>
    intro s after h
    obtain ⟨⟨s', rest'⟩, hread, hs⟩ := map_eq_ok.1 h
    cases hs
    have := ih s' after hread
    simp only [List.length_cons]
    omega
  | case6 e rest _ c _ ih | case8 c rest _ _ _ _ ih =>
    intro s after h
    obtain ⟨⟨s', rest'⟩, hread, hs⟩ := map_eq_ok.1 h
    cases hs
    have := ih s' after hread
    simp only [List.length_cons]
    omega

lemma length_readDigits (cs : List Char) :
    (readDigits cs).1.length + (readDigits cs).2.length = cs.length := by
  rw [readDigits, List.length_map, ← List.length_append, List.takeWhile_append_dropWhile]

lemma length_readWhole (cs : List Char) :
    (readWhole cs).1.length + (readWhole cs).2.length = cs.length := by
  unfold readWhole
  split
  · simp [Nat.add_comm]
  · exact length_readDigits cs

lemma length_readFraction_le (cs : List Char) : (readFraction cs).2.length ≤ cs.length := by
  unfold readFraction
  split
  · rename_i rest
    have := length_readDigits rest
    split
    · exact Nat.le_refl _
    · simp_all
      omega
  · exact Nat.le_refl _

lemma length_sign_le (cs : List Char) : (Numeral.sign cs).2.length ≤ cs.length := by
  unfold Numeral.sign
  split <;> simp

lemma length_readExponent_le (cs : List Char) : (readExponent cs).2.length ≤ cs.length := by
  unfold readExponent
  split
  · rename_i e rest
    have := length_sign_le rest
    have := length_readDigits (Numeral.sign rest).2
    split
    · split
      · exact Nat.le_refl _
      · simp_all
        omega
    · exact Nat.le_refl _
  · exact Nat.le_refl _

lemma shrinks_readNumber (cs : List Char) : Shrinks cs (readNumber cs) := by
  unfold readNumber
  split
  rename_i negative unsigned hsign
  have hle : unsigned.length ≤ cs.length := by
    split at hsign <;> cases hsign <;> simp
  have hwhole := length_readWhole unsigned
  split
  · exact .error _
  · rename_i whole rest hne hread
    rw [hread] at hwhole
    have := List.length_pos_of_ne_nil hne
    have := length_readFraction_le rest
    have := length_readExponent_le (readFraction rest).2
    dsimp only at hwhole ⊢
    split
    · exact .ok (by omega)
    · exact .error _

lemma shrinks_readScalar (cs : List Char) : Shrinks cs (readScalar cs) := by
  unfold readScalar
  split
  case h_7 => exact shrinks_readNumber _
  all_goals exact .ok (by simp only [List.length_cons]; omega)

/-! ### Documents -/

section Shrinks

variable {fuel : Nat}

lemma shrinks_readItems (hvalue : ∀ limit cs, Shrinks cs (readValue fuel limit cs))
    (hitems : ∀ limit cs, Shrinks cs (readItems fuel limit cs)) (limit : Nat) (cs : List Char) :
    Shrinks cs (readItems (fuel + 1) limit cs) := by
  rw [readItems]
  refine (hvalue limit cs).bind fun x rest hrest => ?_
  dsimp only
  split
  · rename_i after hskip
    have := length_lt_of_skipBlanks hskip
    have := length_skipBlanks_le after
    exact ((hitems _ _).mono (by omega)).bind fun _ _ h => .ok h
  · rename_i after hskip
    have := length_lt_of_skipBlanks hskip
    exact .ok (by omega)
  · exact .error _

lemma shrinks_readMembers (hvalue : ∀ limit cs, Shrinks cs (readValue fuel limit cs))
    (hmembers : ∀ limit cs, Shrinks cs (readMembers fuel limit cs)) (limit : Nat)
    (cs : List Char) : Shrinks cs (readMembers (fuel + 1) limit cs) := by
  unfold readMembers
  split
  · rename_i quoted
    refine ((shrinks_readText quoted).mono (Nat.le_succ _)).bind fun name rest hrest => ?_
    dsimp only
    split
    · rename_i after hskip
      have := length_lt_of_skipBlanks hskip
      have := length_skipBlanks_le after
      refine ((hvalue _ _).mono (by omega)).bind fun x rest hrest => ?_
      dsimp only
      split
      · rename_i after hskip
        have := length_lt_of_skipBlanks hskip
        have := length_skipBlanks_le after
        exact ((hmembers _ _).mono (by omega)).bind fun _ _ h => .ok h
      · rename_i after hskip
        have := length_lt_of_skipBlanks hskip
        exact .ok (by omega)
      · exact .error _
    · exact .error _
  · exact .error _

lemma shrinks_readValue (hitems : ∀ limit cs, Shrinks cs (readItems fuel limit cs))
    (hmembers : ∀ limit cs, Shrinks cs (readMembers fuel limit cs)) (limit : Nat)
    (cs : List Char) : Shrinks cs (readValue (fuel + 1) limit cs) := by
  unfold readValue
  split
  · exact ((shrinks_readText _).mono (by simp)).bind fun _ _ h => .ok h
  · split
    · exact .error _
    · split
      · rename_i hskip
        exact .ok (Nat.lt_succ_of_lt (length_lt_of_skipBlanks hskip))
      · refine ((hitems _ _).mono ?_).bind fun _ _ h => .ok h
        exact Nat.le_succ_of_le (length_skipBlanks_le _)
  · split
    · exact .error _
    · split
      · rename_i hskip
        exact .ok (Nat.lt_succ_of_lt (length_lt_of_skipBlanks hskip))
      · refine ((hmembers _ _).mono ?_).bind fun _ _ h => .ok h
        exact Nat.le_succ_of_le (length_skipBlanks_le _)
  · exact (shrinks_readScalar _).bind fun _ _ h => .ok h

end Shrinks

lemma shrinks (fuel : Nat) :
    (∀ limit cs, Shrinks cs (readValue fuel limit cs)) ∧
      (∀ limit cs, Shrinks cs (readItems fuel limit cs)) ∧
      ∀ limit cs, Shrinks cs (readMembers fuel limit cs) := by
  induction fuel with
  | zero => exact ⟨fun _ _ => .error _, fun _ _ => .error _, fun _ _ => .error _⟩
  | succ fuel ih =>
    obtain ⟨hvalue, hitems, hmembers⟩ := ih
    exact ⟨shrinks_readValue hitems hmembers, shrinks_readItems hvalue hitems,
      shrinks_readMembers hvalue hmembers⟩

/-! ### Steps -/

section Steps

variable {fuel more : Nat}

lemma readItems_steps (hvalue : ∀ cs, 2 * cs.length < fuel →
      readValue more limit cs = readValue fuel limit cs)
    (hitems : ∀ cs, 2 * cs.length + 1 < fuel → readItems more limit cs = readItems fuel limit cs)
    (h : 2 * cs.length + 1 < fuel + 1) :
    readItems (more + 1) limit cs = readItems (fuel + 1) limit cs := by
  rw [readItems, readItems]
  refine bind_congr_ok (hvalue _ (by omega)) fun a hread => ?_
  obtain ⟨x, rest⟩ := a
  have hrest := (shrinks fuel).1 limit cs x rest hread
  dsimp only
  split
  · rename_i after hskip
    have := length_lt_of_skipBlanks hskip
    have := length_skipBlanks_le after
    rw [hitems _ (by omega)]
  · rfl
  · rfl

lemma readMembers_steps (hvalue : ∀ cs, 2 * cs.length < fuel →
      readValue more limit cs = readValue fuel limit cs)
    (hmembers : ∀ cs, 2 * cs.length + 1 < fuel →
      readMembers more limit cs = readMembers fuel limit cs)
    (h : 2 * cs.length + 1 < fuel + 1) :
    readMembers (more + 1) limit cs = readMembers (fuel + 1) limit cs := by
  unfold readMembers
  split
  · rename_i quoted
    refine bind_congr_ok rfl fun a hname => ?_
    obtain ⟨name, rest⟩ := a
    have hrest := shrinks_readText quoted name rest hname
    rw [List.length_cons] at h
    dsimp only
    split
    · rename_i after hskip
      have := length_lt_of_skipBlanks hskip
      have := length_skipBlanks_le after
      refine bind_congr_ok (hvalue _ (by omega)) fun b hread => ?_
      obtain ⟨x, rest⟩ := b
      have hrest := (shrinks fuel).1 _ _ x rest hread
      dsimp only
      split
      · rename_i after hskip
        have := length_lt_of_skipBlanks hskip
        have := length_skipBlanks_le after
        rw [hmembers _ (by omega)]
      · rfl
      · rfl
    · rfl
  · rfl

/-- Behind an opening bracket one level less is left. -/
lemma readValue_steps (hitems : ∀ cs, 2 * cs.length + 1 < fuel →
      readItems more (limit - 1) cs = readItems fuel (limit - 1) cs)
    (hmembers : ∀ cs, 2 * cs.length + 1 < fuel →
      readMembers more (limit - 1) cs = readMembers fuel (limit - 1) cs)
    (h : 2 * cs.length < fuel + 1) :
    readValue (more + 1) limit cs = readValue (fuel + 1) limit cs := by
  unfold readValue
  split
  · rfl
  · rename_i rest
    have hle := length_skipBlanks_le rest
    rw [List.length_cons] at h
    have hinner := hitems (skipBlanks rest) (by omega)
    split
    · rfl
    · split
      · rfl
      · rw [hinner]
  · rename_i rest
    have hle := length_skipBlanks_le rest
    rw [List.length_cons] at h
    have hinner := hmembers (skipBlanks rest) (by omega)
    split
    · rfl
    · split
      · rfl
      · rw [hinner]
  · rfl

end Steps

/-- More steps than these change nothing. -/
lemma steps (fuel : Nat) : ∀ more ≥ fuel, ∀ limit,
    (∀ cs, 2 * cs.length < fuel → readValue more limit cs = readValue fuel limit cs) ∧
      (∀ cs, 2 * cs.length + 1 < fuel → readItems more limit cs = readItems fuel limit cs) ∧
      ∀ cs, 2 * cs.length + 1 < fuel → readMembers more limit cs = readMembers fuel limit cs := by
  induction fuel with
  | zero => exact fun _ _ _ => ⟨fun _ h => absurd h (by omega), fun _ h => absurd h (by omega),
      fun _ h => absurd h (by omega)⟩
  | succ fuel ih =>
    intro more hle limit
    obtain ⟨more, rfl⟩ : ∃ n, more = n + 1 := ⟨more - 1, by omega⟩
    obtain ⟨hvalue, hitems, hmembers⟩ := ih more (by omega) limit
    obtain ⟨-, hinner, hinnerMembers⟩ := ih more (by omega) (limit - 1)
    exact ⟨fun _ h => readValue_steps hinner hinnerMembers h,
      fun _ h => readItems_steps hvalue hitems h, fun _ h => readMembers_steps hvalue hmembers h⟩

/-- **The bound on the steps is never reached**: with any greater one the same is read. -/
theorem readDocument_fuel (limit : Nat) (s : String) {fuel : Nat}
    (h : 2 * s.toList.length + 1 ≤ fuel) :
    readDocument limit s = (do
      let (d, rest) ← readValue fuel limit (skipBlanks s.toList)
      match skipBlanks rest with
      | [] => return d
      | rest => unexpected rest) := by
  have hle := length_skipBlanks_le s.toList
  rewrite [readDocument, (steps (2 * s.toList.length + 1) fuel h limit).1 _ (by omega)]
  rfl

end Tabula.Json

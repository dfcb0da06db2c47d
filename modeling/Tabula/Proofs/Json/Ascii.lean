import Tabula.Proofs.Json.RoundTrip

/-!
Documents are written in ASCII, whatever characters their texts are made of.
-/

namespace Tabula.Json

open Text

def IsAscii (cs : List Char) : Prop := ∀ c ∈ cs, c.toNat < 0x80

instance (cs : List Char) : Decidable (IsAscii cs) :=
  List.decidableBAll (fun c : Char => c.toNat < 0x80) cs

variable {cs ds : List Char}

lemma isAscii_nil : IsAscii [] := by simp [IsAscii]

lemma isAscii_cons {c : Char} : IsAscii (c :: cs) ↔ c.toNat < 0x80 ∧ IsAscii cs :=
  List.forall_mem_cons

lemma isAscii_append : IsAscii (cs ++ ds) ↔ IsAscii cs ∧ IsAscii ds := List.forall_mem_append

lemma IsAscii.of_subset (h : IsAscii ds) (hs : ∀ c ∈ cs, c ∈ ds) : IsAscii cs :=
  fun c hc => h c (hs c hc)

lemma isAscii_replicate (n : Nat) {c : Char} (h : c.toNat < 0x80) :
    IsAscii (List.replicate n c) := by
  intro d hd
  rwa [(List.mem_replicate.1 hd).2]

/-! ### Numbers -/

lemma isAscii_of_isDigit (h : ∀ c ∈ cs, c.isDigit = true) : IsAscii cs := by
  intro c hc
  have hd := h c hc
  simp only [Char.isDigit, Bool.and_eq_true, decide_eq_true_eq, UInt32.le_iff_toNat_le] at hd
  have hnine : c.toNat ≤ '9'.toNat := hd.2
  exact lt_of_le_of_lt hnine (by decide)

lemma isAscii_decimal (n : Nat) : IsAscii (decimal n) :=
  isAscii_of_isDigit fun _ => isDigit_of_mem_decimal

lemma isAscii_withSign (negative : Bool) (h : IsAscii cs) : IsAscii (withSign negative cs) := by
  unfold withSign
  split
  · exact isAscii_cons.2 ⟨by decide, h⟩
  · exact h

lemma isAscii_decimalInt (n : Int) : IsAscii (decimalInt n) := by
  rw [decimalInt_eq]
  exact isAscii_withSign _ (isAscii_decimal _)

lemma isAscii_layOut (h : IsAscii ds) (power : Int) : IsAscii (Binary64.layOut ds power) := by
  have htake (n : Nat) : IsAscii (ds.take n) := h.of_subset fun _ => List.mem_of_mem_take
  have hdrop (n : Nat) : IsAscii (ds.drop n) := h.of_subset fun _ => List.mem_of_mem_drop
  have hzeros (n : Nat) : IsAscii (List.replicate n '0') := isAscii_replicate n (by decide)
  have htail : IsAscii ('e' :: (if power < 0 then '-' else '+') ::
      (if (decimal power.natAbs).length < 2 then '0' :: decimal power.natAbs
        else decimal power.natAbs)) := by
    refine isAscii_cons.2 ⟨by decide, isAscii_cons.2 ⟨by split <;> decide, ?_⟩⟩
    split
    · exact isAscii_cons.2 ⟨by decide, isAscii_decimal _⟩
    · exact isAscii_decimal _
  unfold Binary64.layOut
  dsimp only
  split
  · split
    · exact isAscii_cons.2 ⟨(isAscii_cons.1 h).1, htail⟩
    · obtain ⟨hd, hrest⟩ := isAscii_cons.1 h
      exact isAscii_append.2 ⟨isAscii_cons.2 ⟨hd, isAscii_cons.2 ⟨by decide, hrest⟩⟩, htail⟩
    · exact htail
  · split
    · exact isAscii_append.2
        ⟨isAscii_cons.2 ⟨by decide, isAscii_cons.2 ⟨by decide, hzeros _⟩⟩, h⟩
    · split
      · exact isAscii_append.2 ⟨isAscii_append.2 ⟨h, hzeros _⟩, by decide⟩
      · exact isAscii_append.2 ⟨htake _, isAscii_cons.2 ⟨by decide, hdrop _⟩⟩

lemma isAscii_magnitudeText (rank : Fin rankCount) : IsAscii (Binary64.magnitudeText rank) := by
  have hsignificant (m : Nat) : IsAscii (Binary64.significant m) := by
    refine (isAscii_decimal m).of_subset fun c hc => ?_
    exact List.mem_reverse.1 ((List.dropWhile_sublist _).subset (List.mem_reverse.1 hc))
  unfold Binary64.magnitudeText
  generalize Binary64.shortest rank = d
  obtain ⟨m, e⟩ := d
  split
  · exact isAscii_cons.2 ⟨by decide, by decide⟩
  · exact isAscii_layOut (hsignificant m) _

/-! ### Text -/

lemma isAscii_hexDigits (width n : Nat) : IsAscii (hexDigits width n) := by
  have hdigit : ∀ m < 16, (hexDigit m).toNat < 0x80 := by decide
  induction width generalizing n with
  | zero => exact isAscii_nil
  | succ width ih =>
    refine isAscii_append.2 ⟨ih _, isAscii_cons.2 ⟨?_, isAscii_nil⟩⟩
    exact hdigit _ (Nat.mod_lt n (by decide))

lemma isAscii_escapeUnit (n : Nat) : IsAscii (escapeUnit n) :=
  isAscii_cons.2 ⟨by decide, isAscii_cons.2 ⟨by decide, isAscii_hexDigits 4 n⟩⟩

lemma isAscii_escapeChar (c : Char) : IsAscii (escapeChar c) := by
  unfold escapeChar
  dsimp only
  split_ifs with hself hn hr ht hf hb hshown hunit
  · rw [Bool.or_eq_true, decide_eq_true_eq, decide_eq_true_eq] at hself
    rcases hself with rfl | rfl <;> decide
  · decide
  · decide
  · decide
  · decide
  · decide
  · rw [Bool.and_eq_true, decide_eq_true_eq, decide_eq_true_eq] at hshown
    exact isAscii_cons.2 ⟨by omega, isAscii_nil⟩
  · exact isAscii_escapeUnit _
  · exact isAscii_append.2 ⟨isAscii_escapeUnit _, isAscii_escapeUnit _⟩

lemma isAscii_writeText (s : String) : IsAscii (writeText s) := by
  refine isAscii_append.2 ⟨isAscii_cons.2 ⟨by decide, fun c hc => ?_⟩, by decide⟩
  obtain ⟨d, -, hd⟩ := List.mem_flatMap.1 hc
  exact isAscii_escapeChar d c hd

lemma isAscii_writeScalar (v : Value) : IsAscii (writeScalar v) := by
  match v with
  | .null => decide
  | .bool true => decide
  | .bool false => decide
  | .int n => exact isAscii_decimalInt n
  | .real (.finite negative rank) =>
    rw [writeScalar_real]
    exact isAscii_withSign negative (isAscii_magnitudeText rank)
  | .real (.infinite true) => decide
  | .real (.infinite false) => decide
  | .real (.nan _) =>
    change IsAscii ['N', 'a', 'N']
    decide
  | .text s => exact isAscii_writeText s

/-! ### Documents -/

lemma isAscii_newline (depth : Nat) : IsAscii (newline depth) :=
  isAscii_cons.2 ⟨by decide, isAscii_replicate _ (by decide)⟩

/-- **Documents are written in ASCII.** -/
theorem isAscii_writeAt {limit : Nat} {j : Json} (h : Fits limit j) (depth : Nat) :
    IsAscii (writeAt depth j) := by
  have hline := isAscii_newline
  have hitem (depth : Nat) {cs : List Char} (h : IsAscii cs) :
      IsAscii (',' :: newline depth ++ cs) :=
    isAscii_append.2 ⟨isAscii_cons.2 ⟨by decide, hline depth⟩, h⟩
  induction h generalizing depth with
  | scalar => exact isAscii_writeScalar _
  | @array limit items _ ih =>
    have hitems : ∀ xs : List Json, (∀ x ∈ xs, IsAscii (writeAt (depth + 1) x)) →
        IsAscii (writeAt.items depth xs) := by
      intro xs hxs
      induction xs with
      | nil => exact isAscii_nil
      | cons x xs ihxs =>
        obtain ⟨hx, hrest⟩ := List.forall_mem_cons.1 hxs
        exact isAscii_append.2 ⟨hitem _ hx, ihxs hrest⟩
    cases items with
    | nil => exact isAscii_cons.2 ⟨by decide, by decide⟩
    | cons x xs =>
      obtain ⟨hx, hrest⟩ := List.forall_mem_cons.1 fun y hy => ih y hy (depth + 1)
      rw [writeAt]
      simp only [isAscii_append, isAscii_cons, hline, hx, hitems xs hrest, isAscii_nil]
      decide
  | @object limit members _ _ ih =>
    have hmembers : ∀ xs : List (String × Json),
        (∀ x ∈ xs, IsAscii (writeAt (depth + 1) x.2)) →
        IsAscii (writeAt.members depth xs) := by
      intro xs hxs
      induction xs with
      | nil => exact isAscii_nil
      | cons x xs ihxs =>
        obtain ⟨hx, hrest⟩ := List.forall_mem_cons.1 hxs
        rw [writeAt.members]
        simp only [isAscii_append, isAscii_cons, hline, isAscii_writeText, hx, ihxs hrest]
        decide
    cases members with
    | nil => exact isAscii_cons.2 ⟨by decide, by decide⟩
    | cons x xs =>
      obtain ⟨hx, hrest⟩ := List.forall_mem_cons.1 fun y hy => ih y hy (depth + 1)
      rw [writeAt]
      simp only [isAscii_append, isAscii_cons, hline, isAscii_writeText, hx, hmembers xs hrest,
        isAscii_nil]
      decide

end Tabula.Json

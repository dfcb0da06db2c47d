import Tabula.Proofs.Json.Number
import Tabula.Proofs.Json.Text
import Tabula.Proofs.Keyed
import Tabula.Proofs.Value.Storable

/-!
Reading what was written.

A document can be kept if its numbers can be written, the members of its objects have different
names, and it is not too deep. Main statement: such a document reads back from its text.
-/

namespace Tabula

namespace Json

/-- A document of at most the given depth that can be kept. -/
inductive Fits : Nat → Json → Prop
  | scalar {depth : Nat} {v : Value} (h : v.Storable) : Fits depth (.scalar v)
  | array {depth : Nat} {items : List Json} (h : ∀ x ∈ items, Fits depth x) :
    Fits (depth + 1) (.array items)
  | object {depth : Nat} {members : List (String × Json)}
    (distinct : Keyed.Distinct (Keyed.keys members)) (h : ∀ m ∈ members, Fits depth m.2) :
    Fits (depth + 1) (.object members)

/-! ### Scalars -/

lemma writeScalar_real (negative : Bool) (rank : Fin rankCount) :
    writeScalar (.real (.finite negative rank)) =
      withSign negative (Binary64.magnitudeText rank) := rfl

lemma readScalar_writeScalar {v : Value} {rest : List Char} (hv : v.Storable)
    (htext : ∀ s, v ≠ .text s) (hr : Ends rest) :
    readScalar (writeScalar v ++ rest) = .ok (v, rest) := by
  match v with
  | .null => rfl
  | .bool true => rfl
  | .bool false => rfl
  | .int n =>
    rw [writeScalar, decimalInt_eq, withSign_append,
      readScalar_number _ ((startsWithDigit_decimal _).append rest), ← withSign_append,
      ← decimalInt_eq]
    exact readNumber_decimalInt hv hr
  | .real (.finite negative rank) =>
    rw [writeScalar_real, withSign_append,
      readScalar_number _ ((startsWithDigit_magnitudeText _).append rest)]
    exact readNumber_magnitudeText negative rank hr
  | .real (.infinite true) => rfl
  | .real (.infinite false) => rfl
  | .real (.nan _) => exact absurd hv id
  | .text s => exact absurd rfl (htext s)

/-- No blank, and nothing that text, a list or an object starts with. -/
def IsScalarHead (c : Char) : Prop := c ≠ '\x22' ∧ c ≠ '[' ∧ c ≠ '\x7b'

/-- The first character is no blank and ends no list. -/
def Visible (cs : List Char) : Prop :=
  ∃ c ∈ cs.head?, c ≠ ' ' ∧ c ≠ '\t' ∧ c ≠ '\n' ∧ c ≠ '\r' ∧ c ≠ ']'

lemma isDigit_ne {c d : Char} (h : c.isDigit = true) (hd : d.isDigit = false) : c ≠ d := by
  rintro rfl
  rw [h] at hd
  exact absurd hd (by decide)

lemma head_withSign (negative : Bool) {cs : List Char} (h : StartsWithDigit cs) :
    ∃ c ∈ (withSign negative cs).head?, c = '-' ∨ c.isDigit = true := by
  cases negative with
  | false =>
    obtain ⟨c, hc, hd⟩ := h
    exact ⟨c, hc, .inr hd⟩
  | true => exact ⟨'-', rfl, .inl rfl⟩

lemma head_writeScalar {v : Value} (htext : ∀ s, v ≠ .text s) :
    ∃ c ∈ (writeScalar v).head?, c ∈ ['n', 't', 'f', 'I', 'N', '-'] ∨ c.isDigit = true := by
  match v with
  | .null => exact ⟨'n', rfl, by simp⟩
  | .bool true => exact ⟨'t', rfl, by simp⟩
  | .bool false => exact ⟨'f', rfl, by simp⟩
  | .int n =>
    obtain ⟨c, hc, h⟩ := head_withSign (n < 0) (startsWithDigit_decimal n.natAbs)
    exact ⟨c, by rwa [writeScalar, decimalInt_eq], h.imp_left (by simp +contextual)⟩
  | .real (.finite negative rank) =>
    obtain ⟨c, hc, h⟩ := head_withSign negative (startsWithDigit_magnitudeText rank)
    exact ⟨c, hc, h.imp_left (by simp +contextual)⟩
  | .real (.infinite true) => exact ⟨'-', rfl, by simp⟩
  | .real (.infinite false) => exact ⟨'I', rfl, by simp⟩
  | .real (.nan _) => exact ⟨'N', rfl, by simp⟩
  | .text s => exact absurd rfl (htext s)

lemma not_blank_of_head {c : Char}
    (h : c ∈ ['n', 't', 'f', 'I', 'N', '-'] ∨ c.isDigit = true) :
    IsScalarHead c ∧ c ≠ ' ' ∧ c ≠ '\t' ∧ c ≠ '\n' ∧ c ≠ '\r' ∧ c ≠ ']' := by
  rcases h with h | h
  · simp only [List.mem_cons, List.not_mem_nil, or_false] at h
    rcases h with rfl | rfl | rfl | rfl | rfl | rfl <;>
      exact ⟨⟨by decide, by decide, by decide⟩, by decide⟩
  · exact ⟨⟨isDigit_ne h (by decide), isDigit_ne h (by decide), isDigit_ne h (by decide)⟩,
      isDigit_ne h (by decide), isDigit_ne h (by decide), isDigit_ne h (by decide),
      isDigit_ne h (by decide), isDigit_ne h (by decide)⟩

lemma visible_writeScalar (v : Value) : Visible (writeScalar v) := by
  by_cases htext : ∀ s, v ≠ .text s
  · obtain ⟨c, hc, h⟩ := head_writeScalar htext
    exact ⟨c, hc, (not_blank_of_head h).2⟩
  · push Not at htext
    obtain ⟨s, rfl⟩ := htext
    exact ⟨'\x22', by simp [writeScalar, writeText, Text.doubleQuote], by decide⟩

lemma visible_writeText (s : String) : Visible (writeText s) := visible_writeScalar (.text s)

lemma visible_writeAt (depth : Nat) (j : Json) : Visible (writeAt depth j) := by
  match j with
  | .scalar v =>
    rw [writeAt]
    exact visible_writeScalar v
  | .array [] => exact ⟨'[', by simp [writeAt], by decide⟩
  | .array (x :: xs) => exact ⟨'[', by simp [writeAt], by decide⟩
  | .object [] => exact ⟨'\x7b', by simp [writeAt], by decide⟩
  | .object ((name, x) :: xs) => exact ⟨'\x7b', by simp [writeAt], by decide⟩

lemma Visible.append {cs : List Char} (h : Visible cs) (rest : List Char) :
    Visible (cs ++ rest) := by
  obtain ⟨c, hc, hv⟩ := h
  cases cs with
  | nil => cases hc
  | cons d cs => exact ⟨c, hc, hv⟩

lemma skipBlanks_visible {cs : List Char} (h : Visible cs) : skipBlanks cs = cs := by
  obtain ⟨c, hc, h1, h2, h3, h4, -⟩ := h
  cases cs with
  | nil => cases hc
  | cons d cs =>
    obtain rfl : d = c := by simpa using hc
    simp [skipBlanks, h1, h2, h3, h4]

lemma skipBlanks_newline (depth : Nat) (cs : List Char) :
    skipBlanks (newline depth ++ cs) = skipBlanks cs := by
  unfold skipBlanks newline
  rw [List.cons_append, List.dropWhile_cons_of_pos (by decide),
    List.dropWhile_append_of_pos (by simp +contextual)]

lemma ends_newline (depth : Nat) (rest : List Char) : Ends (newline depth ++ rest) := by
  intro c hc
  right
  simpa [newline] using hc.symm

/-! ### Whole documents -/

/-- The document is read back from its text at this depth, and no more than it. -/
def ReadsBack (limit depth : Nat) (j : Json) : Prop :=
  ∀ fuel rest, (writeAt depth j).length ≤ fuel → Ends rest →
    readValue fuel limit (writeAt depth j ++ rest) = .ok (j.document, rest)

lemma length_writeAt_pos (depth : Nat) (j : Json) : 0 < (writeAt depth j).length := by
  obtain ⟨c, hc, -⟩ := visible_writeAt depth j
  cases h : writeAt depth j with
  | nil => rw [h] at hc; cases hc
  | cons d cs => simp

lemma readText_writeText (s : String) (rest : List Char) :
    readText (s.toList.flatMap escapeChar ++ Text.doubleQuote :: rest) =
      .ok (Wide.ofString s, rest) :=
  readText_append _

lemma readValue_scalar {v : Value} {fuel limit : Nat} {rest : List Char} (hv : v.Storable)
    (hr : Ends rest) :
    readValue (fuel + 1) limit (writeScalar v ++ rest) = .ok (.atom (.ofValue v), rest) := by
  by_cases htext : ∀ s, v ≠ .text s
  · have hread := readScalar_writeScalar hv htext hr
    obtain ⟨c, hc, h⟩ := head_writeScalar htext
    obtain ⟨⟨h1, h2, h3⟩, -⟩ := not_blank_of_head h
    cases hw : writeScalar v with
    | nil => rw [hw] at hc; cases hc
    | cons d cs =>
      rw [hw] at hread hc
      obtain rfl : d = c := by simpa using hc
      rw [List.cons_append] at hread ⊢
      rw [readValue.eq_5 _ _ _ (by simpa using h1) (by simpa using h2) (by simpa using h3), hread]
      rfl
  · push Not at htext
    obtain ⟨s, rfl⟩ := htext
    rw [writeScalar, writeText, List.cons_append, List.cons_append, List.append_assoc,
      List.singleton_append, Text.doubleQuote, readValue]
    have h := readText_writeText s rest
    rw [Text.doubleQuote] at h
    rw [h]
    rfl

lemma readsBack_scalar {limit depth : Nat} {v : Value} (hv : v.Storable) :
    ReadsBack limit depth (.scalar v) := by
  intro fuel rest hf hr
  have hpos := length_writeAt_pos depth (.scalar v)
  obtain ⟨n, rfl⟩ : ∃ n, fuel = n + 1 := ⟨fuel - 1, by omega⟩
  rw [writeAt, document]
  exact readValue_scalar hv hr

section Lists

variable {limit depth : Nat} (rest : List Char)

/-- The items from the first one on, each with its comma and line before it. -/
lemma readItems_items {x : Json} {xs : List Json}
    (h : ∀ y ∈ x :: xs, ReadsBack limit (depth + 1) y) :
    ∀ fuel, (writeAt (depth + 1) x ++ writeAt.items depth xs).length < fuel →
      readItems fuel limit
        (writeAt (depth + 1) x ++ (writeAt.items depth xs ++ (newline depth ++ ']' :: rest))) =
        .ok ((x :: xs).map document, rest) := by
  induction xs generalizing x with
  | nil =>
    intro fuel hf
    obtain ⟨n, rfl⟩ : ∃ n, fuel = n + 1 := ⟨fuel - 1, by omega⟩
    have hx := h x List.mem_cons_self n (newline depth ++ ']' :: rest)
      (by simp [writeAt.items] at hf; omega) (ends_newline depth _)
    rw [writeAt.items, List.nil_append, readItems, hx]
    simp only [bind, Except.bind, skipBlanks_newline]
    rfl
  | cons y ys ih =>
    intro fuel hf
    obtain ⟨n, rfl⟩ : ∃ n, fuel = n + 1 := ⟨fuel - 1, by omega⟩
    simp only [writeAt.items, newline, List.length_append, List.length_cons] at hf
    have hx := h x List.mem_cons_self n
      (writeAt.items depth (y :: ys) ++ (newline depth ++ ']' :: rest)) (by omega)
      (by intro c hc; left; simpa [writeAt.items] using hc.symm)
    have hys := ih (fun z hz => h z (List.mem_cons_of_mem x hz)) n
      (by simp only [List.length_append]; omega)
    rw [readItems, hx]
    simp only [bind, Except.bind, writeAt.items, List.cons_append, List.append_assoc]
    rw [skipBlanks_visible ⟨',', rfl, by decide⟩]
    simp only [skipBlanks_newline]
    rw [skipBlanks_visible ((visible_writeAt (depth + 1) y).append _), hys]
    rfl

/-- What comes after a member decides whether there are more. -/
lemma readMembers_cons {name : String} {x : Json} {fuel : Nat} {after : List Char}
    (hx : readValue fuel limit (writeAt (depth + 1) x ++ after) = .ok (x.document, after)) :
    readMembers (fuel + 1) limit
        (writeText name ++ (':' :: ' ' :: (writeAt (depth + 1) x ++ after))) =
      match skipBlanks after with
      | ',' :: rest =>
        (readMembers fuel limit (skipBlanks rest)).map fun (xs, rest) =>
          ((Wide.ofString name, x.document) :: xs, rest)
      | '\x7d' :: rest => .ok ([(Wide.ofString name, x.document)], rest)
      | rest => unexpected rest := by
  have hname := readText_writeText name (':' :: ' ' :: (writeAt (depth + 1) x ++ after))
  have hblank : skipBlanks (' ' :: (writeAt (depth + 1) x ++ after)) =
      writeAt (depth + 1) x ++ after := by
    rw [show skipBlanks (' ' :: (writeAt (depth + 1) x ++ after)) =
      skipBlanks (writeAt (depth + 1) x ++ after) from rfl]
    exact skipBlanks_visible ((visible_writeAt (depth + 1) x).append _)
  rw [Text.doubleQuote] at hname
  rw [writeText, List.cons_append, List.cons_append, List.append_assoc, List.singleton_append,
    Text.doubleQuote, readMembers, hname]
  simp only [bind, Except.bind]
  rw [skipBlanks_visible ⟨':', rfl, by decide⟩]
  simp only [hblank, hx]
  cases skipBlanks after with
  | nil => rfl
  | cons c rest =>
    by_cases hcomma : c = ','
    · subst hcomma
      cases hrest : readMembers fuel limit (skipBlanks rest) <;> simp only [hrest] <;> rfl
    · by_cases hbrace : c = '\x7d'
      · subst hbrace
        rfl
      · simp [hcomma, hbrace]

lemma readMembers_members {name : String} {x : Json} {xs : List (String × Json)}
    (h : ∀ m ∈ (name, x) :: xs, ReadsBack limit (depth + 1) m.2) :
    ∀ fuel, (writeAt (depth + 1) x ++ writeAt.members depth xs).length < fuel →
      readMembers fuel limit
        (writeText name ++ (':' :: ' ' :: (writeAt (depth + 1) x ++
          (writeAt.members depth xs ++ (newline depth ++ '\x7d' :: rest))))) =
        .ok (((name, x) :: xs).map fun m => (Wide.ofString m.1, m.2.document), rest) := by
  induction xs generalizing name x with
  | nil =>
    intro fuel hf
    obtain ⟨n, rfl⟩ : ∃ n, fuel = n + 1 := ⟨fuel - 1, by omega⟩
    have hlen : (writeAt (depth + 1) x).length ≤ n := by
      simp only [writeAt.members, List.append_nil] at hf
      omega
    have hx := h (name, x) List.mem_cons_self n (newline depth ++ '\x7d' :: rest) hlen
      (ends_newline depth _)
    rw [writeAt.members, List.nil_append, readMembers_cons hx, skipBlanks_newline]
    rfl
  | cons m ms ih =>
    intro fuel hf
    obtain ⟨other, y⟩ := m
    obtain ⟨n, rfl⟩ : ∃ n, fuel = n + 1 := ⟨fuel - 1, by omega⟩
    simp only [writeAt.members, newline, List.length_append, List.length_cons] at hf
    have hx := h (name, x) List.mem_cons_self n
      (writeAt.members depth ((other, y) :: ms) ++ (newline depth ++ '\x7d' :: rest))
      (by dsimp only; omega) (by intro c hc; left; simpa [writeAt.members] using hc.symm)
    have hms := ih (fun z hz => h z (List.mem_cons_of_mem _ hz)) n
      (by simp only [List.length_append]; omega)
    rw [readMembers_cons hx]
    simp only [writeAt.members, List.cons_append, List.append_assoc]
    rw [skipBlanks_visible ⟨',', rfl, by decide⟩]
    simp only [skipBlanks_newline]
    rw [skipBlanks_visible ((visible_writeText other).append _), hms]
    rfl

end Lists

lemma readsBack_array {limit depth : Nat} {items : List Json}
    (h : ∀ x ∈ items, ReadsBack limit (depth + 1) x) :
    ReadsBack (limit + 1) depth (.array items) := by
  intro fuel rest hf hr
  obtain ⟨n, rfl⟩ : ∃ n, fuel = n + 1 :=
    ⟨fuel - 1, by have := length_writeAt_pos depth (.array items); omega⟩
  cases items with
  | nil =>
    rw [writeAt, List.cons_append, List.singleton_append, readValue, if_neg (by omega)]
    rfl
  | cons x xs =>
    simp only [writeAt, newline, List.length_append, List.length_cons] at hf
    have hitems := readItems_items rest h n (by simp only [List.length_append]; omega)
    obtain ⟨c, cs, hc, hcs⟩ : ∃ c cs, c ≠ ']' ∧ writeAt (depth + 1) x ++
        (writeAt.items depth xs ++ (newline depth ++ ']' :: rest)) = c :: cs := by
      obtain ⟨c, hc, h⟩ := (visible_writeAt (depth + 1) x).append
        (writeAt.items depth xs ++ (newline depth ++ ']' :: rest))
      obtain ⟨cs, hcs⟩ := List.head?_eq_some_iff.1 hc
      exact ⟨c, cs, h.2.2.2.2, hcs⟩
    simp only [writeAt, List.cons_append, List.append_assoc, List.nil_append]
    rw [readValue, if_neg (by omega)]
    simp only [skipBlanks_newline]
    rw [skipBlanks_visible ((visible_writeAt (depth + 1) x).append _)]
    simp only [Nat.add_sub_cancel]
    rw [hcs] at hitems ⊢
    split
    · rename_i heq
      cases heq
      exact absurd rfl hc
    · rw [hitems, document_array]
      rfl

/-- Members of different names have different names when they are read. -/
lemma distinct_ofString {α β : Type} {ms : List (String × α)} (f : α → β)
    (h : Keyed.Distinct (Keyed.keys ms)) :
    Keyed.Distinct (Keyed.keys (ms.map fun m => (Wide.ofString m.1, f m.2))) := by
  unfold Keyed.Distinct Keyed.keys at h ⊢
  rw [List.map_map, List.pairwise_map]
  rw [List.pairwise_map] at h
  exact h.imp fun hab => (Wide.same_ofString _ _).trans hab

lemma readsBack_object {limit depth : Nat} {members : List (String × Json)}
    (hd : Keyed.Distinct (Keyed.keys members))
    (h : ∀ m ∈ members, ReadsBack limit (depth + 1) m.2) :
    ReadsBack (limit + 1) depth (.object members) := by
  intro fuel rest hf hr
  obtain ⟨n, rfl⟩ : ∃ n, fuel = n + 1 :=
    ⟨fuel - 1, by have := length_writeAt_pos depth (.object members); omega⟩
  cases members with
  | nil =>
    rw [writeAt, List.cons_append, List.singleton_append, readValue, if_neg (by omega)]
    rfl
  | cons m ms =>
    obtain ⟨name, x⟩ := m
    simp only [writeAt, newline, List.length_append, List.length_cons] at hf
    have hmembers := readMembers_members rest h n
      (by simp only [List.length_append]; omega)
    simp only [writeAt, List.cons_append, List.append_assoc, List.nil_append]
    rw [readValue, if_neg (by omega)]
    simp only [skipBlanks_newline]
    rw [skipBlanks_visible ((visible_writeText name).append _)]
    simp only [Nat.add_sub_cancel, writeText, Text.doubleQuote, List.cons_append] at hmembers ⊢
    split
    · rename_i heq
      exact absurd (List.head_eq_of_cons_eq heq) (by decide)
    · rw [hmembers, document_object]
      simp only [bind, Except.bind, pure, Except.pure,
        Keyed.ofList_of_distinct (distinct_ofString document hd)]

/-- **A document that can be kept reads back**, at every depth it may have. -/
theorem readsBack_of_fits {limit : Nat} {j : Json} (h : Fits limit j) (depth : Nat) :
    ReadsBack limit depth j := by
  induction h generalizing depth with
  | scalar hv => exact readsBack_scalar hv
  | array _ ih => exact readsBack_array fun x hx => ih x hx (depth + 1)
  | object hd _ ih => exact readsBack_object hd fun m hm => ih m hm (depth + 1)

/-- **Round trip of texts.** -/
theorem readDocument_writeAt {limit : Nat} {j : Json} (h : Fits limit j) :
    readDocument limit (String.ofList (writeAt 0 j)) = .ok j.document := by
  have hread := readsBack_of_fits h 0 (2 * (writeAt 0 j).length + 1) [] (by omega)
    (by intro c hc; cases hc)
  rw [List.append_nil] at hread
  unfold readDocument
  rw [String.toList_ofList]
  simp only [skipBlanks_visible (visible_writeAt 0 j), hread]
  rfl

/-! ### Writing -/

lemma storable_of_mem_scalars {limit : Nat} {j : Json} (h : Fits limit j) :
    ∀ v ∈ j.scalars, v.Storable := by
  have items : ∀ xs : List Json, (∀ x ∈ xs, ∀ v ∈ x.scalars, v.Storable) →
      ∀ v ∈ scalars.ofItems xs, v.Storable := by
    intro xs hxs v hv
    induction xs with
    | nil => cases hv
    | cons x xs ih =>
      rcases List.mem_append.1 hv with hv | hv
      · exact hxs x List.mem_cons_self v hv
      · exact ih (fun y hy => hxs y (List.mem_cons_of_mem _ hy)) hv
  have members : ∀ ms : List (String × Json), (∀ m ∈ ms, ∀ v ∈ m.2.scalars, v.Storable) →
      ∀ v ∈ scalars.ofMembers ms, v.Storable := by
    intro ms hms v hv
    induction ms with
    | nil => cases hv
    | cons m ms ih =>
      rcases List.mem_append.1 hv with hv | hv
      · exact hms m List.mem_cons_self v hv
      · exact ih (fun y hy => hms y (List.mem_cons_of_mem _ hy)) hv
  induction h with
  | scalar hv =>
    intro w hw
    obtain rfl : w = _ := by simpa [scalars] using hw
    exact hv
  | array _ ih => exact items _ ih
  | object _ _ ih => exact members _ ih

lemma isWritable_of_fits {limit : Nat} {j : Json} (h : Fits limit j) : j.isWritable = true := by
  unfold isWritable
  rw [List.all_eq_true]
  intro v hv
  have hs := storable_of_mem_scalars h v hv
  cases v with
  | int n => exact decide_eq_true hs
  | null | bool _ | real _ | text _ => rfl

/-- **Round trip.** A document that can be kept is written, and what was written reads back. -/
theorem write_read {limit : Nat} {j : Json} (h : Fits limit j) :
    ∃ s, write j = .ok s ∧ readDocument limit s = .ok j.document :=
  ⟨String.ofList (j.writeAt 0), by rw [write, if_pos (isWritable_of_fits h)],
    readDocument_writeAt h⟩

end Json

end Tabula

import Tabula.Proofs.Condition
import Tabula.Proofs.Token.Passage

/-!
Texts that are one number.

Numbers are read in two places: among the tokens of a command, and from text that is compared with a
number. Both readers have one grammar. A text spells a number exactly if that number is its only
token, so a number in a condition is equal to every text that spells the same number, and text that
is no such token is not compared as a number.
-/

namespace Tabula

open Text

/-! ### The only token of a text -/

namespace Token

variable {position finish : Nat} {cs rest : List Char} {t : Token}

/-- Where no token is passed there are blanks only. -/
lemma Passes.isBlank_of_nil (h : Passes position cs [] finish []) :
    ∀ c ∈ cs, Text.isBlank c = true := by
  generalize hplaced : ([] : List Placed) = placed at h
  generalize hrest : ([] : List Char) = rest at h
  induction h with
  | here => simp [← hrest]
  | blank hc h ih => exact List.forall_mem_cons.2 ⟨hc, ih hplaced hrest⟩
  | token => cases hplaced

/-- The only token of a text without blanks at its ends is all of the text. -/
lemma begins_of_single (h : Passes 0 (trim cs) [⟨t, position⟩] finish []) :
    Begins (trim cs) t [] := by
  generalize htrim : trim cs = ds at h
  cases h with
  | blank hc h =>
    have hhead := trim_head cs
    rw [htrim] at hhead
    rw [hhead _ rfl] at hc
    cases hc
  | @token _ _ _ tail _ _ _ ht h =>
    cases htail : tail.getLast? with
    | none =>
      rw [List.getLast?_eq_none_iff] at htail
      rwa [htail] at ht
    | some c =>
      -- the last character would be a blank
      have hblank := h.isBlank_of_nil c (List.mem_of_mem_getLast? htail)
      have hlast : c ∈ (trim cs).getLast? := by
        rw [htrim, ← ht.append, List.getLast?_append, htail]
        rfl
      rw [trim_last cs c hlast] at hblank
      cases hblank

/-- A text has one token and no other. -/
def Only (s : String) (t : Token) : Prop :=
  ∃ position finish, marks s = .ok [.token ⟨t, position⟩, .finish finish]

lemma begins_of_only {s : String} (h : Only (trimmed s) t) : Begins (trim s.toList) t [] := by
  obtain ⟨position, finish, h⟩ := h
  obtain ⟨placed, hscan, hmarks⟩ := map_eq_ok.1 h
  obtain ⟨p, rfl⟩ : ∃ p, placed = [p] := by
    rw [← List.length_eq_one_iff]
    simpa using congrArg List.length hmarks
  obtain ⟨finish, hpasses⟩ := scanFrom_eq_ok.1 hscan
  rw [trimmed, String.toList_ofList] at hpasses
  cases hmarks
  exact begins_of_single hpasses

end Token

/-! ### One grammar -/

namespace Numeral

variable {s : String} {x : Number}

/-- Text that spells a number is one numeral, blanks around it aside. -/
lemma scan?_of_read? (h : read? s.toList = .ok (some x)) :
    ∃ n, scan? (trim s.toList) = some (n, []) ∧ n.value = .ok x := by
  unfold read? at h
  split at h
  · rename_i n hn
    obtain ⟨y, hy, hsome⟩ := map_eq_ok.1 h
    cases hsome
    exact ⟨n, hn, hy⟩
  · cases h

/-- A number is found exactly in a numeral, unless it is a whole one of too many digits. -/
lemma exists_read?_iff : (∃ x, read? s.toList = .ok (some x)) ↔
    IsNumeral (trim s.toList) ∧
      ∀ count, IsWholeNumeral (trim s.toList) count → count ≤ digitLimit := by
  constructor
  · rintro ⟨x, hx⟩
    obtain ⟨n, hn, hv⟩ := scan?_of_read? hx
    obtain ⟨w, hnumeral, hw⟩ := isNumeral_of_scan? hn
    rw [List.append_nil] at hw
    refine ⟨hw ▸ hnumeral, fun count hwhole => ?_⟩
    obtain ⟨hf, he, hlength⟩ := hwhole.scan?_eq hn
    rw [value, hf, he, map_eq_ok] at hv
    obtain ⟨k, hk, -⟩ := hv
    by_contra hlong
    rw [readInt, if_neg (by omega)] at hk
    cases hk
  · rintro ⟨hnumeral, hshort⟩
    obtain ⟨n, hn⟩ := hnumeral.exists_scan?
    obtain ⟨x, hx⟩ : ∃ x, n.value = .ok x := by
      unfold value
      split
      · rename_i hf he
        obtain ⟨w, hwhole, hw⟩ := isWholeNumeral_of_scan? hn hf he
        rw [List.append_nil] at hw
        rw [readInt, if_pos (hshort _ (hw ▸ hwhole))]
        exact ⟨_, rfl⟩
      · exact ⟨_, rfl⟩
    refine ⟨x, ?_⟩
    rw [read?, hn]
    simp only [hx]
    rfl

/-- A text that spells a number has it for its token. -/
lemma marks_of_read? (h : read? s.toList = .ok (some x)) :
    Token.marks (trimmed s) =
      .ok [.token ⟨.number (trimmed s) x, 0⟩, .finish (trimmed s).length] := by
  obtain ⟨n, hn, hv⟩ := scan?_of_read? h
  have hbegins := Token.begins_number hn hv
  have htext : Token.lexeme (trim s.toList) [] = trimmed s := by
    rw [trimmed, ← Token.lexeme_append (trim s.toList) [], List.append_nil]
  rw [htext, ← String.toList_ofList (l := trim s.toList)] at hbegins
  have hpasses : Token.Passes 0 (trimmed s).toList _ _ [] := .token hbegins (.here _ _)
  rw [Token.marks_of_passes hpasses, Nat.zero_add]
  rfl

/-- Text whose only token is a number spells that number. -/
lemma read?_of_only {text : String} (h : Token.Only (trimmed s) (.number text x)) :
    read? s.toList = .ok (some x) := by
  have hbegins := Token.begins_of_only h
  obtain ⟨hnumeral, hread⟩ := hbegins.spelled
  have htrim : trim s.toList = text.toList := by
    rw [← hbegins.append, List.append_nil]
    rfl
  rwa [read?, htrim, ← trim_of_visible hnumeral.isBlank_eq_false]

/-- A number that the one reader refuses for its many digits, the other refuses as well. -/
lemma marks_of_refused {fault : NumberFault} (h : read? s.toList = .error fault) :
    Token.marks (trimmed s) = .error ⟨.number fault, 0⟩ := by
  unfold read? at h
  split at h
  · rename_i n hn
    have hv : n.value = .error fault := map_eq_error.1 h
    obtain ⟨c, cs, htrim⟩ : ∃ c cs, trim s.toList = c :: cs := by
      refine List.exists_cons_of_ne_nil fun hnil => ?_
      rw [hnil] at hn
      cases hn
    have hblank : isBlank c = false := trim_head s.toList c (by rw [htrim]; rfl)
    have hrefused : Token.readToken c cs = .error (.number fault) := by
      rw [htrim] at hn
      rw [Token.readToken, hn]
      simp only [hv]
    rw [Token.marks, Token.scan, trimmed, String.toList_ofList, htrim,
      Token.scanFrom_refused hblank hrefused]
    rfl
  · cases h

end Numeral

/-! ### Text that is compared with a number -/

namespace Value

variable {v w : Value} {a : Number} {s : String}

/-- One of two values is the text, and the other a number. -/
def NumberAgainst (s : String) (v w : Value) : Prop :=
  (v.number?.isSome ∧ w = text s) ∨ (w.number?.isSome ∧ v = text s)

lemma looselyEqual_text (ha : v.number? = some a) (s : String) :
    v.looselyEqual (text s) = (·.any a.equal) <$> Numeral.read? s.toList := by
  have hv : v ≠ null := by
    rintro rfl
    cases ha
  rw [looselyEqual, if_neg (by simp [hv]), pair_text ha]
  cases Numeral.read? s.toList with
  | error fault => rfl
  | ok r => cases r <;> rfl

/-- Where the text spells no number, the two are neither equal nor in any order, and what is in the
way of reading the text is in the way of comparing it. -/
lemma NumberAgainst.apart (h : NumberAgainst s v w) {r : Except NumberFault Unit}
    (hr : Numeral.read? s.toList = (fun _ => none) <$> r) :
    v.looselyEqual w = (fun _ => false) <$> r ∧ v.looselyCompare w = (fun _ => none) <$> r := by
  have hnumber {u : Value} (hu : u.number?.isSome) :
      u.looselyEqual (text s) = (fun _ => false) <$> r ∧
        u.looselyCompare (text s) = (fun _ => none) <$> r := by
    obtain ⟨a, ha⟩ := Option.isSome_iff_exists.1 hu
    rw [looselyEqual_text ha, looselyCompare, pair_text ha, hr]
    cases r <;> exact ⟨rfl, rfl⟩
  rcases h with ⟨hv, rfl⟩ | ⟨hw, rfl⟩
  · exact hnumber hv
  · rw [looselyEqual_comm, looselyCompare_swap w, (hnumber hw).1, (hnumber hw).2]
    cases r <;> exact ⟨rfl, rfl⟩

end Value

namespace Numeral

/-- How a text is read as a number and as tokens, and how it is compared with numbers. -/
structure OneGrammar (s : String) : Prop where
  /-- a number is found where all of the text, blanks around it aside, is a numeral, and nowhere
  else; a whole one must not have too many digits -/
  numeral : (∃ x, read? s.toList = .ok (some x)) ↔
    IsNumeral (trim s.toList) ∧
      ∀ count, IsWholeNumeral (trim s.toList) count → count ≤ digitLimit
  /-- what the text spells is its only token, from its start to its end -/
  token : ∀ x, read? s.toList = .ok (some x) → Token.marks (trimmed s) =
    .ok [.token ⟨.number (trimmed s) x, 0⟩, .finish (trimmed s).length]
  /-- a number that is its only token is what it spells -/
  spelled : ∀ text x, Token.Only (trimmed s) (.number text x) → read? s.toList = .ok (some x)
  equal : ∀ x, read? s.toList = .ok (some x) →
    (Value.ofNumber x).looselyEqual (.text s) = .ok true ∧
      (Value.text s).looselyEqual (.ofNumber x) = .ok true
  /-- a condition with a number is satisfied if the text spells an equal one -/
  condition : ∀ x, read? s.toList = .ok (some x) → ∀ y (column : ColumnName) row,
    Row.cell row column.text = .text s →
      Condition.holds ⟨column, .equal, .ofNumber y⟩ row = .ok (y.equal x)
  /-- what is no single number is not compared as one; it may be refused by both readers -/
  words : (∀ text x, ¬ Token.Only (trimmed s) (.number text x)) → ∀ v w,
    Value.NumberAgainst s v w →
      (v.looselyEqual w = .ok false ∧ v.looselyCompare w = .ok none) ∨
      ∃ fault, Token.marks (trimmed s) = .error ⟨.number fault, 0⟩ ∧
        v.looselyEqual w = .error fault ∧ v.looselyCompare w = .error fault

/-- **Numbers have one grammar**, wherever they are read. -/
theorem one_grammar (s : String) : OneGrammar s where
  numeral := exists_read?_iff
  token x hx := marks_of_read? hx
  spelled text x h := read?_of_only h
  equal x hx := by
    have hself : x.equal x = true := Number.equal_of_place rfl (Value.place_of_read? hx)
    have hequal : (Value.ofNumber x).looselyEqual (.text s) = .ok true := by
      rw [Value.looselyEqual_text (Value.number?_ofNumber x), hx]
      exact congrArg Except.ok hself
    exact ⟨hequal, by rw [Value.looselyEqual_comm, hequal]⟩
  condition x hx y column row hcell := by
    rw [Condition.holds, hcell]
    change Value.looselyEqual (.text s) (.ofNumber y) = _
    rw [Value.looselyEqual_comm, Value.looselyEqual_text (Value.number?_ofNumber y), hx]
    rfl
  words hnone v w h := by
    cases hread : read? s.toList with
    | error fault => exact .inr ⟨fault, marks_of_refused hread, h.apart (r := .error fault) hread⟩
    | ok r =>
      cases r with
      | none => exact .inl (h.apart (r := .ok ()) hread)
      | some x => exact absurd ⟨_, _, marks_of_read? hread⟩ (hnone (trimmed s) x)

end Numeral

end Tabula

import Mathlib.Data.Int.Order.Basic
import Mathlib.Data.String.Basic
import Tabula.Proofs.Value.Equal
import Tabula.Proofs.Value.Short

/-!
The order of values, and their loose equality.

Both look at the same pair of numbers or of texts, and both take the two sides alike. So two values
that can be compared are in one of three relations, and which of them it is when the sides are
exchanged follows. Only a number and a text that spells none are in no relation, and NULL with
anything.
-/

namespace Tabula

/-! ### Places -/

namespace Place

lemma compare?_swap (p q : Place) : q.compare? p = (p.compare? q).map Ordering.swap := by
  cases p <;> cases q <;> simp [compare?, Int.compare_swap]

/-- Places on the line have an order. -/
lemma exists_compare? {p q : Place} (hp : p ≠ nowhere) (hq : q ≠ nowhere) :
    ∃ o, p.compare? q = some o := by
  cases p with
  | nowhere => exact absurd rfl hp
  | below | «at» _ | above =>
    cases q with
    | nowhere => exact absurd rfl hq
    | below | «at» _ | above => exact ⟨_, rfl⟩

end Place

namespace Number

lemma equal_comm (a b : Number) : a.equal b = b.equal a := by
  rw [equal, equal, Place.compare?_swap]
  cases b.place.compare? a.place with
  | none => rfl
  | some o => cases o <;> rfl

lemma place_ne_nowhere {n : Number} (h : ∀ payload, n ≠ .real (.nan payload)) :
    n.place ≠ .nowhere := by
  cases n with
  | int _ => exact Place.noConfusion
  | real x =>
    cases x with
    | finite _ _ => exact Place.noConfusion
    | infinite negative => cases negative <;> exact Place.noConfusion
    | nan payload => exact absurd rfl (h payload)

end Number

namespace Value

lemma isNaN_iff {v : Value} : v.IsNaN ↔ ∃ payload, v = real (.nan payload) := by
  cases v with
  | null | bool _ | int _ | text _ => simp [IsNaN]
  | real x => cases x <;> simp [IsNaN]

lemma number?_ofNumber (x : Number) : (ofNumber x).number? = some x := by
  cases x <;> rfl

/-! ### The two sides exchanged -/

/-- The pair with its sides exchanged. -/
def Pair.swap : Pair → Pair
  | .numbers a b => .numbers b a
  | .texts s t => .texts t s
  | .incomparable => .incomparable

lemma pair_swap (v w : Value) : pair w v = Pair.swap <$> pair v w := by
  have hspelled {r : Except NumberFault (Option Number)}
      {f g : Option Number → Except NumberFault Pair} (hfg : ∀ o, g o = Pair.swap <$> f o) :
      (r >>= g) = Pair.swap <$> (r >>= f) := by
    cases r with
    | error fault => rfl
    | ok o => exact hfg o
  cases v with
  | null => cases w <;> rfl
  | text s =>
    cases w with
    | null | text _ => rfl
    | bool _ | int _ | real _ => exact hspelled fun o => by cases o <;> rfl
  | bool _ | int _ | real _ =>
    cases w with
    | null | bool _ | int _ | real _ => rfl
    | text t => exact hspelled fun o => by cases o <;> rfl

theorem looselyEqual_comm (v w : Value) : looselyEqual v w = looselyEqual w v := by
  unfold looselyEqual
  by_cases hnull : v = null ∨ w = null
  · rw [if_pos hnull, if_pos hnull.symm, Bool.and_comm]
  · rw [if_neg hnull, if_neg fun h => hnull h.symm, pair_swap v w]
    cases pair v w with
    | error fault => rfl
    | ok p =>
      cases p with
      | numbers a b => exact congrArg Except.ok (a.equal_comm b)
      | texts s t => exact congrArg Except.ok (Bool.beq_comm)
      | incomparable => rfl

/-- The order of two texts. -/
def textOrder (s t : String) : Ordering := if s < t then .lt else if s = t then .eq else .gt

lemma textOrder_swap (s t : String) : textOrder t s = (textOrder s t).swap := by
  unfold textOrder
  rcases lt_trichotomy s t with h | rfl | h
  · rw [if_pos h, if_neg h.asymm, if_neg h.ne']
    rfl
  · simp
  · rw [if_pos h, if_neg h.asymm, if_neg h.ne']
    rfl

theorem looselyCompare_swap (v w : Value) :
    looselyCompare w v = Option.map Ordering.swap <$> looselyCompare v w := by
  unfold looselyCompare
  rw [pair_swap v w]
  cases pair v w with
  | error fault => rfl
  | ok p =>
    cases p with
    | numbers a b =>
      have hswap : (b.place.compare? a.place).getD .eq =
          ((a.place.compare? b.place).getD .eq).swap := by
        rw [Place.compare?_swap a.place]
        cases a.place.compare? b.place <;> rfl
      exact congrArg (fun o => Except.ok (some o)) hswap
    | texts s t => exact congrArg (fun o => Except.ok (some o)) (textOrder_swap s t)
    | incomparable => rfl

/-! ### What has an order -/

/-- Text that spells a whole number has no more digits than so many. -/
def DigitsWithin (limit : Nat) : Value → Prop
  | text s => ∀ n, Numeral.scan? (Text.trim s.toList) = some (n, []) →
    n.fraction = none → n.exponent = none → n.whole.length ≤ limit
  | _ => True

/-- The limit is all that is in the way of reading. -/
lemma readable_iff {v : Value} : v.Readable ↔ v.DigitsWithin digitLimit := by
  cases v with
  | null | bool _ | int _ | real _ => exact Iff.rfl
  | text s =>
    constructor
    · rintro ⟨r, hr⟩ n hn hf he
      rw [Numeral.read?, hn] at hr
      obtain ⟨x, hx, -⟩ := map_eq_ok.1 hr
      simp only [Numeral.value, hf, he] at hx
      obtain ⟨k, hk, -⟩ := map_eq_ok.1 hx
      by_contra hlong
      rw [readInt, if_neg hlong] at hk
      cases hk
    · intro h
      change ∃ r, Numeral.read? s.toList = .ok r
      unfold Numeral.read?
      split
      · rename_i n hn
        obtain ⟨x, hx⟩ : ∃ x, n.value = .ok x := by
          unfold Numeral.value
          split
          · rename_i hf he
            obtain ⟨k, hk⟩ := Numeral.exists_readInt n.negative (h n hn hf he)
            exact ⟨.int k, by rw [hk]; rfl⟩
          · exact ⟨_, rfl⟩
        exact ⟨some x, by rw [hx]; rfl⟩
      · exact ⟨none, rfl⟩

/-- A short text has few digits. -/
lemma digitsWithin_of_length {s : String} {limit : Nat} (h : s.toList.length ≤ limit) :
    (text s).DigitsWithin limit := by
  intro n hn _ _
  exact Numeral.length_whole_le hn
    (Text.runsWithin_of_length ((Text.trim_part s.toList).length_le.trans h))

/-- A number on one side, and on the other a text that spells none. -/
def NumberAgainstWords (v w : Value) : Prop :=
  (v.number?.isSome ∧ ∃ s, w = text s ∧ Numeral.read? s.toList = .ok none) ∨
    (w.number?.isSome ∧ ∃ s, v = text s ∧ Numeral.read? s.toList = .ok none)

lemma numberAgainstWords_comm {v w : Value} :
    w.NumberAgainstWords v ↔ v.NumberAgainstWords w := Or.comm

/-- What a text spells is on the line. -/
lemma place_of_read? {cs : List Char} {n : Number} (h : Numeral.read? cs = .ok (some n)) :
    n.place ≠ .nowhere := by
  refine Number.place_ne_nowhere ?_
  rintro payload rfl
  unfold Numeral.read? at h
  split at h
  · rename_i hn
    obtain ⟨x, hx, hsome⟩ := map_eq_ok.1 h
    cases hsome
    exact Numeral.storable_value hn hx
  · cases h

/-- How two values stand to each other. They are in no order exactly if they are a number and a text
that spells none. -/
structure Stand (v w : Value) (o : Option Ordering) : Prop where
  compare : looselyCompare v w = .ok o
  equal : looselyEqual v w = .ok (o == some .eq)
  none_iff : o = none ↔ v.NumberAgainstWords w

lemma Stand.swap {v w : Value} {o : Option Ordering} (h : v.Stand w o) :
    w.Stand v (o.map .swap) where
  compare := by
    rw [looselyCompare_swap v w, h.compare]
    rfl
  equal := by
    rw [looselyEqual_comm w v, h.equal]
    rcases o with _ | _ | _ | _ <;> rfl
  none_iff := by rw [Option.map_eq_none_iff, h.none_iff, numberAgainstWords_comm]

lemma stand_numbers {v w : Value} {a b : Number} (hv : v ≠ null) (hw : w ≠ null)
    (hp : pair v w = .ok (.numbers a b)) (ha : a.place ≠ .nowhere) (hb : b.place ≠ .nowhere)
    (hn : ¬ v.NumberAgainstWords w) : ∃ o, v.Stand w o := by
  obtain ⟨o, ho⟩ := Place.exists_compare? ha hb
  refine ⟨some o, ?_, ?_, by simpa using hn⟩
  · rw [looselyCompare, hp]
    exact congrArg (fun o => Except.ok (some o)) (congrArg (·.getD .eq) ho)
  · rw [looselyEqual, if_neg (by simp [hv, hw]), hp]
    change Except.ok (a.equal b) = _
    rw [Number.equal, ho]

lemma stand_texts (s t : String) : (text s).Stand (text t) (some (textOrder s t)) where
  compare := rfl
  equal := by
    have heq : (s == t) = (some (textOrder s t) == some .eq) := by
      unfold textOrder
      rcases lt_trichotomy s t with h | rfl | h
      · rw [if_pos h]
        simpa using h.ne
      · simp
      · rw [if_neg h.asymm, if_neg h.ne']
        simpa using h.ne'
    exact congrArg Except.ok heq
  none_iff := by simp [NumberAgainstWords, number?]

/-- A number and a text are compared as two numbers if the text spells one. -/
lemma pair_text {v : Value} {a : Number} (ha : v.number? = some a) (s : String) :
    pair v (text s) = (·.elim .incomparable (.numbers a)) <$> Numeral.read? s.toList := by
  cases v with
  | null | text _ => cases ha
  | bool _ | int _ | real _ =>
    cases ha
    simp only [pair, number?]
    cases Numeral.read? s.toList with
    | error fault => rfl
    | ok r => cases r <;> rfl

/-- A number stands to a text as to the number that the text spells. -/
lemma stand_text {v : Value} {a : Number} (ha : v.number? = some a) (hn : ¬ v.IsNaN) {t : String}
    (ht : (text t).Readable) : ∃ o, v.Stand (text t) o := by
  have hv : v ≠ null := by
    rintro rfl
    cases ha
  obtain ⟨r, hr⟩ := ht
  have hpair : pair v (text t) = .ok (r.elim .incomparable (.numbers a)) := by
    rw [pair_text ha, hr]
    rfl
  have hagainst : v.NumberAgainstWords (text t) ↔ r = none := by
    simp [NumberAgainstWords, ha, hr, show (text t).number? = none from rfl]
  cases r with
  | some b =>
    exact stand_numbers hv (by simp) hpair (identity_of_number? ha hn).2 (place_of_read? hr)
      (by simp [hagainst])
  | none =>
    refine ⟨none, ?_, ?_, by simp [hagainst]⟩
    · rw [looselyCompare, hpair]
      rfl
    · rw [looselyEqual, if_neg (by simp [hv]), hpair]
      rfl

/-- **Any two values stand to each other in some way**, but for NULL, for what is no number, and for
text with too many digits. -/
theorem exists_stand {v w : Value} (hv : v ≠ null) (hw : w ≠ null) (hvn : ¬ v.IsNaN)
    (hwn : ¬ w.IsNaN) (hvr : v.Readable) (hwr : w.Readable) : ∃ o, v.Stand w o := by
  cases ha : v.number? with
  | some a =>
    cases hb : w.number? with
    | some b =>
      have hpair : pair v w = .ok (.numbers a b) := by
        cases v with
        | null | text _ => cases ha
        | bool _ | int _ | real _ =>
          cases w with
          | null | text _ => cases hb
          | bool _ | int _ | real _ =>
            cases ha
            cases hb
            rfl
      refine stand_numbers hv hw hpair (identity_of_number? ha hvn).2
        (identity_of_number? hb hwn).2 ?_
      rintro (⟨-, s, rfl, -⟩ | ⟨-, s, rfl, -⟩)
      · cases hb
      · cases ha
    | none =>
      cases w with
      | null => exact absurd rfl hw
      | bool _ | int _ | real _ => cases hb
      | text t => exact stand_text ha hvn hwr
  | none =>
    cases v with
    | null => exact absurd rfl hv
    | bool _ | int _ | real _ => cases ha
    | text s =>
      cases hb : w.number? with
      | some b =>
        obtain ⟨o, ho⟩ := stand_text hb hwn hvr
        exact ⟨_, ho.swap⟩
      | none =>
        cases w with
        | null => exact absurd rfl hw
        | bool _ | int _ | real _ => cases hb
        | text t => exact ⟨_, stand_texts s t⟩

end Value

end Tabula

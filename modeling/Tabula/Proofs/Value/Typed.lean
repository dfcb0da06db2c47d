import Tabula.Proofs.Value.Storable
import Tabula.Proofs.Statement.Literals

/-!
The types of values.

A cast gives NULL or a value of the type that it is a cast to. So neither a cast nor a literal is
ever a truth value, and none is a value that is no number.
-/

namespace Tabula

/-- Neither a truth value nor one that is no number. -/
def Value.Plain : Value → Prop
  | .bool _ => False
  | .real (.nan _) => False
  | _ => True

namespace ColumnType

/-- The values of a type, NULL aside. -/
def Admits : ColumnType → Value → Prop
  | integer, v => ∃ n, v = .int n
  | real, v => ∃ x, v = .real x
  | text, v => ∃ s, v = .text s

lemma asText_admits {v w : Value} (h : v.asText = .ok w) : w = .null ∨ text.Admits w := by
  unfold Value.asText at h
  split at h
  · cases h
    exact .inl rfl
  · split at h
    · obtain ⟨s, -, rfl⟩ := map_eq_ok.1 h
      exact .inr ⟨s, rfl⟩
    · cases h
      exact .inr ⟨_, rfl⟩
  · obtain ⟨s, -, rfl⟩ := map_eq_ok.1 h
    exact .inr ⟨s, rfl⟩

lemma toInteger_admits {n : Number} {w : Value} (h : toInteger n = .ok w) :
    w = .null ∨ integer.Admits w := by
  cases n with
  | int k =>
    obtain ⟨_, -, hw⟩ := bind_eq_ok.1 h
    cases hw
    exact .inr ⟨k, rfl⟩
  | real x =>
    cases h
    cases x.truncate? with
    | none => exact .inl rfl
    | some k => exact .inr ⟨k, rfl⟩

lemma toReal_admits {n : Number} {w : Value} (h : toReal n = .ok w) : real.Admits w := by
  cases n with
  | int k =>
    obtain ⟨x, -, rfl⟩ := map_eq_ok.1 h
    exact ⟨x, rfl⟩
  | real x =>
    cases h
    exact ⟨x, rfl⟩

/-- **A cast gives NULL or a value of the type.** -/
theorem cast_admits {type : ColumnType} {column : String} {v w : Value} {notices : List Notice}
    (h : type.cast column v = .ok (w, notices)) : w = .null ∨ type.Admits w := by
  unfold cast at h
  split at h
  · obtain ⟨u, hu, hw⟩ := map_eq_ok.1 h
    cases hw
    exact asText_admits hu
  · cases h
    exact .inl rfl
  · obtain ⟨found, -, hw⟩ := bind_eq_ok.1 h
    cases found with
    | none =>
      cases hw
      exact .inl rfl
    | some n =>
      cases hw
      exact .inr ⟨n, rfl⟩
  · split at h
    · cases h
      exact .inr ⟨_, rfl⟩
    · cases h
      exact .inl rfl
  · obtain ⟨u, hu, hw⟩ := map_eq_ok.1 h
    cases hw
    cases hn : v.number? with
    | none =>
      rw [hn] at hu
      cases hu
      exact .inl rfl
    | some n =>
      rw [hn] at hu
      exact toInteger_admits hu
  · obtain ⟨u, hu, hw⟩ := map_eq_ok.1 h
    cases hw
    cases hn : v.number? with
    | none =>
      rw [hn] at hu
      cases hu
      exact .inl rfl
    | some n =>
      rw [hn] at hu
      exact .inr (toReal_admits hu)

lemma castUndeclared_admits {v w : Value} (h : castUndeclared v = .ok w) :
    w = .null ∨ text.Admits w := by
  unfold castUndeclared at h
  split at h
  · cases h
    exact .inl rfl
  · obtain ⟨s, -, rfl⟩ := map_eq_ok.1 h
    exact .inr ⟨s, rfl⟩

end ColumnType

/-! ### Plain values -/

lemma Value.plain_iff {v : Value} :
    v.Plain ↔ (∀ b, v ≠ .bool b) ∧ ∀ payload, v ≠ .real (.nan payload) := by
  cases v with
  | null | int _ | text _ | bool _ => simp [Plain]
  | real x => cases x <;> simp [Plain]

lemma ColumnType.plain_of_admits {type : ColumnType} {v : Value} (h : v = .null ∨ type.Admits v)
    (hs : v.Storable) : v.Plain := by
  rcases h with rfl | h
  · trivial
  · cases type with
    | integer =>
      obtain ⟨n, rfl⟩ := h
      trivial
    | real =>
      obtain ⟨x, rfl⟩ := h
      cases x with
      | finite _ _ | infinite _ => trivial
      | nan _ => exact hs
    | text =>
      obtain ⟨s, rfl⟩ := h
      trivial

lemma Token.plain_readToken {c : Char} {cs rest : List Char} {t : Token}
    (h : readToken c cs = .ok (t, rest)) : t.Gives Value.Plain := by
  intro v hv
  have hs := storable_readToken h v hv
  cases t with
  | quoted _ _ =>
    cases hv
    trivial
  | number _ value =>
    cases hv
    cases value with
    | int n => trivial
    | real x =>
      have hreal : ColumnType.real.Admits (.real x) := ⟨x, rfl⟩
      exact ColumnType.plain_of_admits (.inr hreal) hs
  | word text =>
    cases hv
    split <;> trivial
  | symbol _ => cases hv

/-- The literals of a statement are plain, whatever command it is read from. -/
lemma Statement.plain_parse {command : String} {s : Statement} (h : parse command = .ok s) :
    s.Literals Value.Plain :=
  literals_parse (fun _ hread => Token.plain_readToken hread) h

end Tabula

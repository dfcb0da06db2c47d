/-!
Pairs of a key and what it stands for, in the order in which the keys first came.

A row, the tables of a database and the members of an object are of this kind. Keys need not be
equal to be the same: which of them are, `Key` tells.
-/

namespace Tabula

/-- Keys, and when two of them are the same. -/
class Key (κ : Type) where
  same : κ → κ → Bool
  same_refl (a : κ) : same a a = true
  same_symm {a b : κ} (h : same a b = true) : same b a = true
  same_trans {a b c : κ} (h : same a b = true) (k : same b c = true) : same a c = true

instance : Key String where
  same a b := a == b
  same_refl a := by simp
  same_symm h := by simpa using (by simpa using h : _ = _).symm
  same_trans h k := by simpa using (by simpa using h : _ = _).trans (by simpa using k : _ = _)

theorem Key.same_string (a b : String) : Key.same a b = (a == b) := rfl

theorem Key.same_congr {κ : Type} [Key κ] {a b : κ} (h : same a b = true) (c : κ) :
    same a c = same b c := by
  by_cases hc : same a c = true
  · rw [hc, same_trans (same_symm h) hc]
  · by_cases hd : same b c = true
    · exact absurd (same_trans h hd) hc
    · rw [Bool.not_eq_true] at hc hd
      rw [hc, hd]

namespace Keyed

variable {κ α : Type} [Key κ]

def find? (xs : List (κ × α)) (key : κ) : Option α :=
  (xs.find? fun x => Key.same x.1 key).map (·.2)

/-- A key that is there keeps its place and its form; a new one comes last. -/
def put (key : κ) (a : α) : List (κ × α) → List (κ × α)
  | [] => [(key, a)]
  | x :: xs => if Key.same x.1 key then (x.1, a) :: xs else x :: put key a xs

def keys (xs : List (κ × α)) : List κ := xs.map (·.1)

/-- Later pairs replace what earlier ones of the same key stand for. -/
def putAll (xs new : List (κ × α)) : List (κ × α) := new.foldl (fun xs x => put x.1 x.2 xs) xs

def ofList (xs : List (κ × α)) : List (κ × α) := putAll [] xs

/-- No two of the keys are the same. -/
def Distinct (keys : List κ) : Prop := keys.Pairwise fun a b => Key.same a b = false

theorem find?_put (key other : κ) (a : α) (xs : List (κ × α)) :
    find? (put key a xs) other = if Key.same key other then some a else find? xs other := by
  induction xs with
  | nil => by_cases h : Key.same key other <;> simp [put, find?, h]
  | cons x xs ih =>
    by_cases hx : Key.same x.1 key
    · have hc := Key.same_congr hx other
      by_cases h : Key.same key other <;> simp [put, hx, find?, h, hc]
    · by_cases ho : Key.same x.1 other
      · have h : ¬ Key.same key other = true := fun h => hx (Key.same_trans ho (Key.same_symm h))
        simp [put, hx, find?, h, ho]
      · simp only [put, hx, Bool.false_eq_true, if_false]
        simpa [find?, ho] using ih

omit [Key κ] in
theorem keys_cons (x : κ × α) (xs : List (κ × α)) : keys (x :: xs) = x.1 :: keys xs := rfl

theorem keys_put (key : κ) (a : α) (xs : List (κ × α)) :
    keys (put key a xs) =
      if (keys xs).any (Key.same · key) then keys xs else keys xs ++ [key] := by
  induction xs with
  | nil => rfl
  | cons x xs ih =>
    unfold put
    by_cases hx : Key.same x.1 key
    · simp [hx, keys_cons]
    · rw [if_neg hx, keys_cons, keys_cons, ih, List.any_cons]
      by_cases h : (keys xs).any (Key.same · key) <;> simp [h, hx]

theorem distinct_keys_put {key : κ} {a : α} {xs : List (κ × α)} (h : Distinct (keys xs)) :
    Distinct (keys (put key a xs)) := by
  rw [keys_put]
  split
  · exact h
  · rename_i hn
    unfold Distinct
    rw [List.pairwise_append]
    refine ⟨h, List.pairwise_singleton _ _, ?_⟩
    intro b hb c hc
    rw [List.mem_singleton] at hc
    subst hc
    rw [← Bool.not_eq_true]
    exact fun hs => hn (List.any_eq_true.2 ⟨b, hb, hs⟩)

theorem distinct_keys_putAll {xs new : List (κ × α)} (h : Distinct (keys xs)) :
    Distinct (keys (putAll xs new)) := by
  induction new generalizing xs with
  | nil => exact h
  | cons x new ih => exact ih (distinct_keys_put h)

theorem distinct_keys_ofList (xs : List (κ × α)) : Distinct (keys (ofList xs)) :=
  distinct_keys_putAll List.Pairwise.nil

end Keyed

end Tabula

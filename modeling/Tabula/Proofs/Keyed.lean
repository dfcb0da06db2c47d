import Mathlib.Tactic.Lemma
import Tabula.Keyed

/-!
Pairs with different keys are what `Keyed.put` makes, and putting them in again one by one gives
them back.
-/

namespace Tabula

lemma Key.same_comm {κ : Type} [Key κ] (a b : κ) : same a b = same b a :=
  Bool.eq_iff_iff.2 ⟨same_symm, same_symm⟩

namespace Keyed

variable {κ α β γ : Type} [Key κ]

lemma distinct_of_nodup (names : List String) (h : names.Nodup) : Distinct names :=
  List.Pairwise.imp (fun hab => by simpa [Key.same_string] using hab) h

lemma put_of_new {key : κ} {a : α} {xs : List (κ × α)}
    (h : ∀ k ∈ keys xs, Key.same k key = false) : put key a xs = xs ++ [(key, a)] := by
  induction xs with
  | nil => rfl
  | cons x xs ih =>
    have hx : Key.same x.1 key = false := h x.1 List.mem_cons_self
    rw [put, hx, ih fun k hk => h k (List.mem_cons_of_mem _ hk)]
    rfl

lemma putAll_of_distinct {xs new : List (κ × α)} (h : Distinct (keys (xs ++ new))) :
    putAll xs new = xs ++ new := by
  induction new generalizing xs with
  | nil => rw [List.append_nil]; rfl
  | cons x new ih =>
    have hnew : ∀ k ∈ keys xs, Key.same k x.1 = false := by
      intro k hk
      unfold Distinct keys at h
      rw [List.map_append, List.pairwise_append] at h
      exact h.2.2 k hk x.1 List.mem_cons_self
    change putAll (put x.1 x.2 xs) new = xs ++ x :: new
    rw [put_of_new hnew, ih (by rwa [List.append_assoc]), List.append_assoc]
    rfl

lemma ofList_of_distinct {xs : List (κ × α)} (h : Distinct (keys xs)) : ofList xs = xs :=
  putAll_of_distinct h

/-- A pair after putting one in is an old one, or holds the new value under the key. -/
lemma mem_put {key : κ} {a : α} {xs : List (κ × α)} {x : κ × α} (h : x ∈ put key a xs) :
    x ∈ xs ∨ (x.2 = a ∧ (x.1 = key ∨ x.1 ∈ keys xs)) := by
  induction xs with
  | nil =>
    obtain rfl : x = (key, a) := by simpa [put] using h
    exact .inr ⟨rfl, .inl rfl⟩
  | cons y xs ih =>
    rw [put] at h
    split at h
    · rcases List.mem_cons.1 h with rfl | h
      · exact .inr ⟨rfl, .inr List.mem_cons_self⟩
      · exact .inl (List.mem_cons_of_mem _ h)
    · rcases List.mem_cons.1 h with rfl | h
      · exact .inl List.mem_cons_self
      · rcases ih h with h | ⟨ha, hk⟩
        · exact .inl (List.mem_cons_of_mem _ h)
        · exact .inr ⟨ha, hk.imp_right (List.mem_cons_of_mem _)⟩

/-- Where keys are different, a pair after putting one in is the new one, or has another key. -/
lemma mem_put_of_distinct {key : κ} {a : α} {xs : List (κ × α)} {x : κ × α}
    (hd : Distinct (keys xs)) (h : x ∈ put key a xs) :
    (Key.same x.1 key = true ∧ x.2 = a) ∨ (x ∈ xs ∧ Key.same x.1 key = false) := by
  induction xs with
  | nil =>
    obtain rfl : x = (key, a) := by simpa [put] using h
    exact .inl ⟨Key.same_refl key, rfl⟩
  | cons y xs ih =>
    obtain ⟨hy, hxs⟩ := List.pairwise_cons.1 hd
    rw [put] at h
    split at h
    · rename_i hs
      rcases List.mem_cons.1 h with rfl | h
      · exact .inl ⟨hs, rfl⟩
      · have hother := hy x.1 (List.mem_map_of_mem h)
        refine .inr ⟨List.mem_cons_of_mem _ h, ?_⟩
        rw [← hother, Key.same_congr hs x.1, Key.same_comm]
    · rename_i hs
      rcases List.mem_cons.1 h with rfl | h
      · exact .inr ⟨List.mem_cons_self, Bool.not_eq_true _ ▸ hs⟩
      · rcases ih hxs h with h | ⟨h, ho⟩
        · exact .inl h
        · exact .inr ⟨List.mem_cons_of_mem _ h, ho⟩

/-- What holds of all pairs and of a new one holds after putting it in, if keys do not matter. -/
lemma forall_put {P : α → Prop} {key : κ} {a : α} {xs : List (κ × α)} (ha : P a)
    (h : ∀ x ∈ xs, P x.2) : ∀ x ∈ put key a xs, P x.2 := by
  intro x hx
  rcases mem_put hx with hx | ⟨rfl, -⟩
  · exact h x hx
  · exact ha

lemma forall_putAll {P : α → Prop} {xs new : List (κ × α)} (hnew : ∀ x ∈ new, P x.2)
    (h : ∀ x ∈ xs, P x.2) : ∀ x ∈ putAll xs new, P x.2 := by
  induction new generalizing xs with
  | nil => exact h
  | cons y new ih =>
    exact ih (fun x hx => hnew x (List.mem_cons_of_mem _ hx))
      (forall_put (hnew y List.mem_cons_self) h)

/-- What holds of all keys and of a new one holds after putting it in. -/
lemma forall_keys_put {P : κ → Prop} {key : κ} {a : α} {xs : List (κ × α)} (hkey : P key)
    (h : ∀ k ∈ keys xs, P k) : ∀ k ∈ keys (put key a xs), P k := by
  intro k hk
  obtain ⟨x, hx, rfl⟩ := List.mem_map.1 hk
  rcases mem_put hx with hx | ⟨-, hx | hx⟩
  · exact h x.1 (List.mem_map_of_mem hx)
  · exact hx ▸ hkey
  · exact h x.1 hx

lemma forall_keys_putAll {P : κ → Prop} {xs new : List (κ × α)} (hnew : ∀ k ∈ keys new, P k)
    (h : ∀ k ∈ keys xs, P k) : ∀ k ∈ keys (putAll xs new), P k := by
  induction new generalizing xs with
  | nil => exact h
  | cons y new ih =>
    obtain ⟨hy, hnew⟩ := List.forall_mem_cons.1 hnew
    exact ih hnew (forall_keys_put hy h)

lemma mem_of_find? {key : κ} {a : α} {xs : List (κ × α)} (h : find? xs key = some a) :
    ∃ k, Key.same k key = true ∧ (k, a) ∈ xs := by
  unfold find? at h
  rw [Option.map_eq_some_iff] at h
  obtain ⟨x, hx, rfl⟩ := h
  have hsame : Key.same x.1 key = true := by simpa using List.find?_some hx
  exact ⟨x.1, hsame, List.mem_of_find?_eq_some hx⟩

/-- Where keys are different, a pair is found under its key. -/
lemma find?_of_mem {xs : List (κ × α)} (hd : Distinct (keys xs)) {x : κ × α} (h : x ∈ xs) :
    find? xs x.1 = some x.2 := by
  induction xs with
  | nil => cases h
  | cons y xs ih =>
    obtain ⟨hy, hxs⟩ := List.pairwise_cons.1 hd
    rcases List.mem_cons.1 h with rfl | h
    · simp [find?, Key.same_refl]
    · have hother := hy x.1 (List.mem_map_of_mem h)
      have htail := ih hxs h
      simpa [find?, hother] using htail

/-- A pair that is there already is put in its own place. -/
lemma put_of_find? {key : κ} {a : α} {xs : List (κ × α)} (h : find? xs key = some a) :
    put key a xs = xs := by
  induction xs with
  | nil => cases h
  | cons x xs ih =>
    rw [put]
    rw [find?, List.find?_cons] at h
    by_cases hx : Key.same x.1 key
    · rw [if_pos hx]
      obtain rfl : x.2 = a := by simpa [hx] using h
      rfl
    · rw [if_neg hx, ih (by simpa [find?, hx] using h)]

/-- Only the last of two values under one key counts. -/
lemma put_put (key : κ) (a b : α) (xs : List (κ × α)) :
    put key b (put key a xs) = put key b xs := by
  induction xs with
  | nil => simp [put, Key.same_refl]
  | cons x xs ih =>
    by_cases h : Key.same x.1 key = true
    · simp [put, h]
    · simp [put, h, ih]

/-- Of several pairs with one key the last counts. -/
lemma find?_putAll (xs new : List (κ × α)) (key : κ) :
    find? (putAll xs new) key =
      ((new.reverse.find? fun x => Key.same x.1 key).map (·.2)).or (find? xs key) := by
  induction new generalizing xs with
  | nil => rfl
  | cons x new ih =>
    change find? (putAll (put x.1 x.2 xs) new) key = _
    rw [ih, find?_put, List.reverse_cons, List.find?_append]
    cases new.reverse.find? fun x => Key.same x.1 key with
    | some y => rfl
    | none => by_cases hx : Key.same x.1 key = true <;> simp [hx]

lemma find?_ofList (xs : List (κ × α)) (key : κ) :
    find? (ofList xs) key = (xs.reverse.find? fun x => Key.same x.1 key).map (·.2) := by
  rw [ofList, find?_putAll]
  exact Option.or_none

lemma mem_keys {key : String} {xs : List (String × α)} :
    key ∈ keys xs ↔ ∃ a, find? xs key = some a := by
  rw [keys, List.mem_map]
  constructor
  · rintro ⟨x, hx, rfl⟩
    have hfound : (xs.find? fun y => Key.same y.1 x.1).isSome = true :=
      List.find?_isSome.2 ⟨x, hx, Key.same_refl _⟩
    rwa [← Option.isSome_map (f := (·.2)), Option.isSome_iff_exists] at hfound
  · rintro ⟨a, ha⟩
    obtain ⟨k, hk, hm⟩ := mem_of_find? ha
    rw [Key.same_string, beq_iff_eq] at hk
    exact ⟨(k, a), hm, hk⟩

/-- Of names none is lost. -/
lemma mem_ofList_of_mem {xs : List (String × α)} {x : String × α} (h : x ∈ xs) :
    ∃ a, (x.1, a) ∈ ofList xs := by
  cases hfound : find? (ofList xs) x.1 with
  | none =>
    rw [find?_ofList, Option.map_eq_none_iff, List.find?_eq_none] at hfound
    exact absurd (Key.same_refl x.1) (hfound x (List.mem_reverse.2 h))
  | some a =>
    obtain ⟨key, hsame, hmem⟩ := mem_of_find? hfound
    rw [Key.same_string, beq_iff_eq] at hsame
    exact ⟨a, hsame ▸ hmem⟩

/-! ### Merging -/

/-- New values in the places of the keys that are there already, and then the new pairs of the
others. -/
def merge (xs new : List (κ × α)) : List (κ × α) :=
  xs.map (fun x => (x.1, (find? new x.1).getD x.2)) ++
    new.filter fun y => !xs.any fun x => Key.same x.1 y.1

lemma find?_cons (x : κ × α) (xs : List (κ × α)) (key : κ) :
    find? (x :: xs) key = if Key.same x.1 key then some x.2 else find? xs key := by
  rw [find?, List.find?_cons]
  by_cases h : Key.same x.1 key = true
  · rw [h]
    rfl
  · rw [if_neg h, Bool.eq_false_iff.2 h]
    rfl

/-- Values under two keys that are there already may be put in either first. -/
lemma put_comm {k l : κ} {a b : α} {xs : List (κ × α)} (h : Key.same k l = false)
    (hk : (find? xs k).isSome) (hl : (find? xs l).isSome) :
    put l b (put k a xs) = put k a (put l b xs) := by
  induction xs with
  | nil => cases hk
  | cons x xs ih =>
    rw [find?_cons] at hk hl
    by_cases hxk : Key.same x.1 k = true
    · have hxl : Key.same x.1 l = false := by rw [Key.same_congr hxk, h]
      simp [put, hxk, hxl]
    · rw [if_neg hxk] at hk
      by_cases hxl : Key.same x.1 l = true
      · simp [put, hxk, hxl]
      · rw [if_neg hxl] at hl
        simp [put, hxk, hxl, ih hk hl]

lemma find?_eq_none {xs : List (κ × α)} {key : κ} (h : ∀ k ∈ keys xs, Key.same k key = false) :
    find? xs key = none := by
  rw [find?, Option.map_eq_none_iff, List.find?_eq_none]
  intro x hx
  rw [h x.1 (List.mem_map_of_mem hx)]
  exact Bool.false_ne_true

/-- The pairs of other keys do not touch a pair. -/
lemma find?_filter {xs : List (κ × α)} {key other : κ} (h : Key.same key other = false) :
    find? (xs.filter fun x => !Key.same key x.1) other = find? xs other := by
  induction xs with
  | nil => rfl
  | cons x xs ih =>
    by_cases hx : Key.same key x.1 = true
    · have hother : Key.same x.1 other = false := by rw [← Key.same_congr hx, h]
      rw [List.filter_cons_of_neg (by simp [hx]), ih, find?_cons, hother]
      rfl
    · rw [List.filter_cons_of_pos (by simp [hx]), find?_cons, find?_cons, ih]

/-- The first pair takes what is new under its key, the rest goes to the others. -/
lemma putAll_cons {x : κ × α} {xs new : List (κ × α)} (hd : Distinct (keys new)) :
    putAll (x :: xs) new =
      (x.1, (find? new x.1).getD x.2) :: putAll xs (new.filter fun y => !Key.same x.1 y.1) := by
  induction new generalizing x xs with
  | nil => rfl
  | cons y new ih =>
    obtain ⟨hy, hnew⟩ := List.pairwise_cons.1 hd
    change putAll (put y.1 y.2 (x :: xs)) new = _
    by_cases hx : Key.same x.1 y.1 = true
    · have hyx := Key.same_symm hx
      have hnone : find? new x.1 = none := by
        refine find?_eq_none fun k hk => ?_
        rw [← hy k hk, Key.same_congr hyx k, Key.same_comm]
      rw [put, if_pos hx, ih hnew, find?_cons, if_pos hyx, hnone,
        List.filter_cons_of_neg (by simp [hx])]
      rfl
    · have hyx : ¬ Key.same y.1 x.1 = true := fun h => hx (Key.same_symm h)
      rw [put, if_neg hx, ih hnew, find?_cons, if_neg hyx, List.filter_cons_of_pos (by simp [hx])]
      rfl

/-- **Putting in pairs one after the other is merging.** -/
theorem putAll_eq_merge {xs new : List (κ × α)} (hx : Distinct (keys xs))
    (hd : Distinct (keys new)) : putAll xs new = merge xs new := by
  induction xs generalizing new with
  | nil =>
    have hall : (new.filter fun _ => true) = new := List.filter_eq_self.2 fun _ _ => rfl
    exact (ofList_of_distinct hd).trans hall.symm
  | cons x xs ih =>
    obtain ⟨hhead, htail⟩ := List.pairwise_cons.1 hx
    have hrest : Distinct (keys (new.filter fun y => !Key.same x.1 y.1)) :=
      List.Pairwise.sublist (List.filter_sublist.map _) hd
    have hfind : ∀ z ∈ xs, find? (new.filter fun y => !Key.same x.1 y.1) z.1 = find? new z.1 :=
      fun z hz => find?_filter (hhead z.1 (List.mem_map_of_mem hz))
    rw [putAll_cons hd, ih htail hrest, merge, merge, List.filter_filter]
    simp only [List.map_cons, List.cons_append, List.any_cons, Bool.not_or]
    congr 2
    · exact List.map_congr_left fun z hz => by rw [hfind z hz]
    · exact List.filter_congr fun y _ => Bool.and_comm _ _

lemma find?_putAll_of_mem {xs new : List (κ × α)} (hd : Distinct (keys new)) {x : κ × α}
    (h : x ∈ new) : find? (putAll xs new) x.1 = some x.2 := by
  have hreverse : Distinct (keys new.reverse) := by
    unfold Distinct keys at *
    rw [List.map_reverse, List.pairwise_reverse]
    exact hd.imp fun hab => by rw [Key.same_comm, hab]
  have hfound := find?_of_mem hreverse (List.mem_reverse.2 h)
  rw [find?_putAll]
  change (find? new.reverse x.1).or _ = _
  rw [hfound]
  rfl

lemma putAll_of_found {xs new : List (κ × α)} (h : ∀ x ∈ new, find? xs x.1 = some x.2) :
    putAll xs new = xs := by
  induction new with
  | nil => rfl
  | cons x new ih =>
    obtain ⟨hx, hnew⟩ := List.forall_mem_cons.1 h
    change putAll (put x.1 x.2 xs) new = xs
    rw [put_of_find? hx, ih hnew]

/-- What has been put in once is there. -/
lemma putAll_putAll (xs : List (κ × α)) {new : List (κ × α)} (hd : Distinct (keys new)) :
    putAll (putAll xs new) new = putAll xs new :=
  putAll_of_found fun _ h => find?_putAll_of_mem hd h

section Map

/-- Every value replaced by what a function makes of it. -/
def mapValues (f : α → β) (xs : List (κ × α)) : List (κ × β) := xs.map fun x => (x.1, f x.2)

omit [Key κ] in
lemma keys_mapValues (f : α → β) (xs : List (κ × α)) : keys (mapValues f xs) = keys xs := by
  simp [keys, mapValues]

lemma find?_mapValues (f : α → β) (xs : List (κ × α)) (key : κ) :
    find? (mapValues f xs) key = (find? xs key).map f := by
  induction xs with
  | nil => rfl
  | cons x xs ih =>
    by_cases h : Key.same x.1 key = true
    · simp [find?, mapValues, h]
    · simpa [find?, mapValues, h] using ih

lemma put_mapValues (f : α → β) (key : κ) (a : α) (xs : List (κ × α)) :
    put key (f a) (mapValues f xs) = mapValues f (put key a xs) := by
  induction xs with
  | nil => rfl
  | cons x xs ih =>
    change put key (f a) ((x.1, f x.2) :: mapValues f xs) = _
    rw [put, put, ih]
    split <;> rfl

omit [Key κ] in
lemma mapValues_mapValues (f : α → β) (g : β → γ) (xs : List (κ × α)) :
    mapValues g (mapValues f xs) = mapValues (g ∘ f) xs := by
  simp [mapValues, Function.comp_def]

omit [Key κ] in
lemma mapValues_congr {f g : α → β} {xs : List (κ × α)} (h : ∀ x ∈ xs, f x.2 = g x.2) :
    mapValues f xs = mapValues g xs :=
  List.map_congr_left fun x hx => congrArg (Prod.mk x.1) (h x hx)

omit [Key κ] in
lemma mapValues_eq_self {f : α → α} {xs : List (κ × α)} (h : ∀ x ∈ xs, f x.2 = x.2) :
    mapValues f xs = xs :=
  (mapValues_congr (g := id) h).trans (List.map_id xs)

end Map

end Keyed

end Tabula

import Mathlib.Data.Finset.Card
import Tabula.Proofs.Database.Filed
import Tabula.Proofs.Database.Given

/-!
Keys from the counter that are stored already.

An insertion that leaves the key out is refused if some row has the number of the counter for its
key. The counter moves on with every insertion, and the rows that such insertions add have keys that
it has passed. So in the way of a run of them is what was stored before the first, and each stored
number is in the way of one insertion only.
-/

namespace Tabula

namespace Value

/-- The whole number that a value is, if it is one. -/
def whole? : Value → Option Int
  | int m => some m
  | _ => none

lemma whole?_eq_some {v : Value} {m : Int} : v.whole? = some m ↔ v = .int m := by
  cases v <;> simp [whole?]

end Value

namespace Table

variable {t u : Table} {key : String} {m : Int} {n : Nat}

/-- A statement is an insertion into the table that leaves its key out, of values that can be
cast. -/
def Receives (t : Table) (name key : String) (s : Statement) : Prop :=
  ∃ columns values, s = .insert name columns values ∧ key ∉ columns ∧
    ∀ c ∈ columns.zip values, ∃ r, t.cast c.1 c.2 = .ok r

/-- A whole number is the key of a row. -/
def Stores (t : Table) (key : String) (m : Int) : Prop :=
  ∃ row ∈ t.rows, Row.cell row key = .int m

instance (t : Table) (key : String) (m : Int) : Decidable (t.Stores key m) :=
  inferInstanceAs (Decidable (∃ row ∈ t.rows, Row.cell row key = .int m))

lemma holds_int : t.holds (.name key) (.int m) = true ↔ t.Stores key m := by
  simp only [holds_iff, Value.same_int]
  rfl

/-- The numbers that the counter comes to next, so many of them. -/
def numbers (t : Table) (n : Nat) : List Int :=
  (List.range n).map fun i : Nat => t.counter + (i : Int)

lemma mem_numbers : m ∈ t.numbers n ↔ t.counter ≤ m ∧ m < t.counter + n := by
  simp only [numbers, List.mem_map, List.mem_range]
  constructor
  · rintro ⟨i, hi, rfl⟩
    omega
  · rintro ⟨hle, hlt⟩
    exact ⟨(m - t.counter).toNat, by omega, by omega⟩

lemma numbers_succ (t : Table) (n : Nat) : t.numbers (n + 1) = t.numbers n ++ [t.counter + n] := by
  simp [numbers, List.range_succ]

lemma nodup_numbers (t : Table) (n : Nat) : (t.numbers n).Nodup :=
  List.nodup_range.map fun i j hij => by simpa using hij

/-- How an insertion ends that draws a number. -/
def drawnOutcome (t : Table) (key : String) (m : Int) : Except Failure Answer :=
  if t.Stores key m then .error (.primaryKey (.name key) .duplicate) else .ok (.done .inserted)

/-! ### One insertion -/

/-- What is at fault with a row whose key is a whole number, if no other column is unique. -/
lemma fault?_int (hu : ∀ j ∈ t.constraints.unique, j = .text key) {row : Row}
    (hrow : Row.at row (.name key) = .int m) :
    t.fault? (some (.name key)) row =
      if t.Stores key m then some (.primaryKey (.name key) .duplicate) else none := by
  by_cases hs : t.Stores key m
  · rw [if_pos hs]
    exact fault?_of_holds (by simp [hrow]) (by rwa [hrow, holds_int])
  · have hholds : t.holds (.name key) (Row.at row (.name key)) = false := by
      rw [hrow, Bool.eq_false_iff]
      exact fun hh => hs (holds_int.1 hh)
    have hunique : t.uniqueFault? row = none := by
      rw [uniqueFault?, List.findSome?_eq_none_iff]
      intro j hj
      rw [hu j hj]
      change (if _ then some (Failure.unique (.name key)) else none) = none
      rw [if_neg fun hh => Bool.false_ne_true (hholds ▸ hh.2)]
    rw [if_neg hs, fault?_eq, hunique, Option.or_none, keyFault?, Option.bind_some,
      if_neg (by simp [hrow]), if_neg (by simp [hholds])]

/-- A table after so many insertions that have drawn their keys from the counter: the rows that were
added have the numbers for keys that no row had before. -/
structure Drawn (t : Table) (key : String) (n : Nat) (u : Table) : Prop where
  columns : u.columns = t.columns
  constraints : u.constraints = t.constraints
  counter : u.counter = t.counter + n
  rows : ∃ added, u.rows = t.rows ++ added ∧ added.map (Row.cell · key) =
    ((t.numbers n).filter fun m => ¬ t.Stores key m).map .int

lemma Drawn.refl (t : Table) (key : String) : t.Drawn key 0 t :=
  ⟨rfl, rfl, by simp, [], by simp, rfl⟩

/-- What is stored then was stored before, or has been drawn. -/
lemma Drawn.stores (h : t.Drawn key n u) (m : Int) :
    u.Stores key m ↔ t.Stores key m ∨ m ∈ t.numbers n := by
  obtain ⟨added, hrows, hkeys⟩ := h.rows
  have hadded : (∃ row ∈ added, Row.cell row key = .int m) ↔
      m ∈ t.numbers n ∧ ¬ t.Stores key m := by
    rw [← List.mem_map, hkeys]
    simp
  have hor : u.Stores key m ↔
      t.Stores key m ∨ ∃ row ∈ added, Row.cell row key = .int m := by
    simp only [Stores, hrows, List.mem_append, or_and_right, exists_or]
  rw [hor, hadded]
  tauto

/-- The next number has not been drawn. -/
lemma Drawn.stores_counter (h : t.Drawn key n u) :
    u.Stores key u.counter ↔ t.Stores key (t.counter + n) := by
  rw [h.stores, h.counter, mem_numbers]
  simp

lemma Drawn.counter_spend (h : t.Drawn key n u) (hk : t.constraints.key = .ok (some (.name key)))
    {columns : List String} (hc : key ∉ columns) :
    (u.spend columns).counter = t.counter + (n + 1 : Nat) := by
  rw [Table.counter_spend (h.constraints ▸ hk), if_neg (by simpa using hc), h.counter]
  push_cast
  ring

/-- A row whose number is stored is refused. -/
lemma Drawn.spend (h : t.Drawn key n u) (hk : t.constraints.key = .ok (some (.name key)))
    {columns : List String} (hc : key ∉ columns) (hs : t.Stores key (t.counter + n)) :
    t.Drawn key (n + 1) (u.spend columns) := by
  obtain ⟨added, hrows, hadded⟩ := h.rows
  refine ⟨u.spend_columns.trans h.columns, u.spend_constraints.trans h.constraints,
    h.counter_spend hk hc, added, ?_, ?_⟩
  · rw [Table.rows, u.spend_records, ← hrows, Table.rows]
  · rw [hadded, numbers_succ, List.filter_append]
    simp [hs]

/-- A row whose number is not stored comes last. -/
lemma Drawn.append (h : t.Drawn key n u) (hk : t.constraints.key = .ok (some (.name key)))
    {columns : List String} (hc : key ∉ columns) (hs : ¬ t.Stores key (t.counter + n)) {r : Record}
    (hr : Row.cell r.row key = .int (t.counter + n)) :
    t.Drawn key (n + 1) { u.spend columns with records := u.records ++ [r] } := by
  obtain ⟨added, hrows, hadded⟩ := h.rows
  refine ⟨u.spend_columns.trans h.columns, u.spend_constraints.trans h.constraints,
    h.counter_spend hk hc, added ++ [r.row], ?_, ?_⟩
  · rw [rows_concat, hrows, List.append_assoc]
  · rw [List.map_append, hadded, numbers_succ, List.filter_append, List.map_append]
    simp [hs, hr]

/-- **One more insertion** is refused if its number was stored, and adds a row with it if not. -/
lemma Drawn.insert (h : t.Drawn key n u) (hk : t.constraints.key = .ok (some (.name key)))
    (hu : ∀ j ∈ t.constraints.unique, j = .text key) {columns : List String} {values : List Value}
    (hc : key ∉ columns) (hcast : ∀ c ∈ columns.zip values, ∃ r, t.cast c.1 c.2 = .ok r)
    (id : Nat) :
    t.Drawn key (n + 1) (u.insert id columns values).table ∧
      ∃ row, (u.insert id columns values).outcome =
        if t.Stores key (t.counter + n) then .error (.primaryKey (.name key) .duplicate)
        else .ok ⟨id, row⟩ := by
  obtain ⟨row, hrow⟩ : ∃ row,
      (u.fill (u.startRow (some (.name key)) columns).1 (columns.zip values)).2 = .ok row := by
    rw [fill_congr h.columns]
    exact exists_fill_of_cast hcast _
  have hat := at_drawn hc hrow
  have hout := insert_outcome (h.constraints ▸ hk) id hrow
  rw [fault?_int (h.constraints ▸ hu) hat] at hout
  by_cases hs : t.Stores key (t.counter + n)
  · rw [if_pos (h.stores_counter.2 hs)] at hout
    refine ⟨?_, row, by rw [hout, if_pos hs]⟩
    obtain ⟨_, -, htable⟩ | ⟨_, _, -, -, -, hok, -⟩ := u.insert_cases id columns values
    · rw [htable]
      exact h.spend hk hc hs
    · cases hout.symm.trans hok
  · rw [if_neg fun hc => hs (h.stores_counter.1 hc)] at hout
    refine ⟨?_, row, by rw [hout, if_neg hs]⟩
    obtain ⟨_, herror, -⟩ | ⟨_, _, -, -, -, hok, htable⟩ := u.insert_cases id columns values
    · cases hout.symm.trans herror
    · cases hout.symm.trans hok
      rw [htable]
      exact h.append hk hc hs (by rw [Row.cell, hat, h.counter])

/-! ### Counting -/

/-- The whole numbers that are keys of rows. -/
def wholeKeys (t : Table) (key : String) : Finset Int :=
  (t.rows.filterMap fun row => (Row.cell row key).whole?).toFinset

lemma mem_wholeKeys : m ∈ t.wholeKeys key ↔ t.Stores key m := by
  simp [wholeKeys, Stores, Value.whole?_eq_some]

/-- A row has one key at most. -/
lemma card_wholeKeys_le (t : Table) (key : String) : (t.wholeKeys key).card ≤ t.rows.length :=
  (List.toFinset_card_le _).trans (List.length_filterMap_le _ _)

/-- Of the next numbers of the counter, as many are stored as there are keys among them. -/
lemma countP_numbers (t : Table) (key : String) (n : Nat) :
    (t.numbers n).countP (t.Stores key ·) =
      ((t.wholeKeys key).filter fun m => t.counter ≤ m ∧ m < t.counter + n).card := by
  have hset : ((t.numbers n).filter (t.Stores key ·)).toFinset =
      (t.wholeKeys key).filter fun m => t.counter ≤ m ∧ m < t.counter + n := by
    ext m
    simp [mem_wholeKeys, mem_numbers, and_comm]
  rw [← hset, List.toFinset_card_of_nodup ((t.nodup_numbers n).filter _),
    List.countP_eq_length_filter]

lemma countP_numbers_le (t : Table) (key : String) (n : Nat) :
    (t.numbers n).countP (t.Stores key ·) ≤ t.rows.length := by
  rw [countP_numbers]
  exact (Finset.card_filter_le _ _).trans (t.card_wholeKeys_le key)

/-- Of more numbers than there are rows, one is not stored. -/
lemma exists_not_stores (t : Table) (key : String) :
    ∃ i ≤ t.rows.length, ¬ t.Stores key (t.counter + i) := by
  by_contra hall
  push Not at hall
  have hstored : ∀ m ∈ t.numbers (t.rows.length + 1), t.Stores key m := by
    intro m hm
    obtain ⟨i, hi, rfl⟩ := List.mem_map.1 hm
    exact hall i (Nat.lt_succ_iff.1 (List.mem_range.1 hi))
  have hcount := t.countP_numbers_le key (t.rows.length + 1)
  rw [List.countP_eq_length.2 (by simpa using hstored), numbers, List.length_map,
    List.length_range] at hcount
  omega

end Table

/-! ### Insertions one after the other -/

namespace Database

/-- How statements end, one after the other. -/
def outcomes (db : Database) : Log → List (Except Failure Answer)
  | [] => []
  | s :: log => (db.execute s).outcome :: (db.execute s).database.outcomes log

variable {db : Database} {name key : String} {t u : Table} {log : Log} {s : Statement}

lemma outcomes_append (db : Database) (log more : Log) :
    db.outcomes (log ++ more) = db.outcomes log ++ (db.replay log).outcomes more := by
  induction log generalizing db with
  | nil => rfl
  | cons s log ih =>
    rw [List.cons_append, outcomes, ih, outcomes, List.cons_append]
    rfl

lemma outcomes_concat (db : Database) (log : Log) (s : Statement) :
    db.outcomes (log ++ [s]) = db.outcomes log ++ [((db.replay log).execute s).outcome] :=
  db.outcomes_append log [s]

@[simp] lemma length_outcomes (db : Database) (log : Log) :
    (db.outcomes log).length = log.length := by
  induction log generalizing db with
  | nil => rfl
  | cons s log ih => rw [outcomes, List.length_cons, ih, List.length_cons]

/-- One more insertion into a table. -/
lemma execute_receives {n : Nat} (hi : ∀ e ∈ db.indexes, e.2.column.IsText)
    (hd : t.Drawn key n u) (ht : db.table? name = some u)
    (hk : t.constraints.key = .ok (some (.name key)))
    (hu : ∀ j ∈ t.constraints.unique, j = .text key) (hs : t.Receives name key s) :
    (db.execute s).outcome = t.drawnOutcome key (t.counter + n) ∧
      ∃ v, (db.execute s).database.table? name = some v ∧ t.Drawn key (n + 1) v := by
  obtain ⟨columns, values, rfl, hc, hcast⟩ := hs
  obtain ⟨hdrawn, row, hout⟩ := hd.insert hk hu hc hcast db.freshId
  refine ⟨?_, _, ?_, hdrawn⟩
  · rw [execute, Table.drawnOutcome]
    by_cases hstores : t.Stores key (t.counter + n)
    · rw [if_pos hstores] at hout ⊢
      rw [insert_refused ht hout]
    · rw [if_neg hstores] at hout ⊢
      rw [insert_accepted ht hi hout]
  · rw [table?_execute, ht, Statement.onTable, if_pos rfl, Option.map_some]

/-- **Insertions that leave the key out**, one after the other: how they end, and what the table is
after them. -/
theorem outcomes_receives (hf : db.Formed fun _ => True) (ht : db.table? name = some t)
    (hk : t.constraints.key = .ok (some (.name key)))
    (hu : ∀ j ∈ t.constraints.unique, j = .text key) (hlog : ∀ s ∈ log, t.Receives name key s) :
    db.outcomes log = (t.numbers log.length).map (t.drawnOutcome key) ∧
      ∃ u, (db.replay log).table? name = some u ∧ t.Drawn key log.length u := by
  induction log using List.reverseRecOn with
  | nil => exact ⟨rfl, t, ht, .refl t key⟩
  | append_singleton log s ih =>
    rw [List.forall_mem_append, List.forall_mem_singleton] at hlog
    obtain ⟨houtcomes, u, hu', hdrawn⟩ := ih hlog.1
    have hindexes := (hf.replay log).indexes
    obtain ⟨hout, v, hv, hnext⟩ :=
      execute_receives (fun e he => (hindexes e he).column) hdrawn hu' hk hu hlog.2
    rw [List.length_append, List.length_singleton, replay_concat]
    refine ⟨?_, v, hv, hnext⟩
    rw [outcomes_concat, houtcomes, hout, Table.numbers_succ, List.map_append, List.map_singleton]

/-- What is in the way of insertions that leave the key out, one after the other. -/
structure DrawsKeys (db : Database) (name key : String) (t : Table) (log : Log) : Prop where
  /-- each is refused if its number is stored before the first of them, and succeeds otherwise -/
  outcome : ∀ i < log.length, (db.outcomes log)[i]? =
    some (if t.Stores key (t.counter + i) then .error (.primaryKey (.name key) .duplicate)
      else .ok (.done .inserted))
  /-- a row that one of them adds has its number for a key -/
  drawn : ∀ n ≤ log.length, ∃ u, (db.replay (log.take n)).table? name = some u ∧ t.Drawn key n u
  failures : (db.outcomes log).countP (!·.isOk) =
    ((t.wholeKeys key).filter fun m => t.counter ≤ m ∧ m < t.counter + log.length).card
  failures_le : (db.outcomes log).countP (!·.isOk) ≤ t.rows.length
  succeeds : t.rows.length < log.length →
    ∃ i ≤ t.rows.length, (db.outcomes log)[i]? = some (.ok (.done .inserted))

/-- **Stored keys are in the way of the counter once each.** -/
theorem drawsKeys (hf : db.Formed fun _ => True) (ht : db.table? name = some t)
    (hk : t.constraints.key = .ok (some (.name key)))
    (hu : ∀ j ∈ t.constraints.unique, j = .text key) (hlog : ∀ s ∈ log, t.Receives name key s) :
    db.DrawsKeys name key t log := by
  obtain ⟨houtcomes, -⟩ := outcomes_receives hf ht hk hu hlog
  have hget : ∀ i < log.length, (db.outcomes log)[i]? =
      some (t.drawnOutcome key (t.counter + i)) := by
    intro i hi
    rw [houtcomes]
    simp [Table.numbers, hi]
  have hfailures : (db.outcomes log).countP (!·.isOk) =
      (t.numbers log.length).countP (t.Stores key ·) := by
    rw [houtcomes, List.countP_map]
    refine List.countP_congr fun m _ => ?_
    by_cases hs : t.Stores key m <;>
      simp [Table.drawnOutcome, hs, Except.isOk, Except.toBool]
  refine ⟨hget, fun n hn => ?_, hfailures.trans (t.countP_numbers key _),
    hfailures.trans_le (t.countP_numbers_le key _), fun hlt => ?_⟩
  · obtain ⟨-, u, hu', hdrawn⟩ :=
      outcomes_receives hf ht hk hu fun s hs => hlog s (List.mem_of_mem_take hs)
    rw [List.length_take_of_le hn] at hdrawn
    exact ⟨u, hu', hdrawn⟩
  · obtain ⟨i, hi, hs⟩ := t.exists_not_stores key
    refine ⟨i, hi, ?_⟩
    rw [hget i (by omega), Table.drawnOutcome, if_neg hs]

end Database

end Tabula

import Tabula.Proofs.Database.Formed
import Tabula.Proofs.Statement.Literals

/-!
Execution keeps a database storable.

Statements give values that read back, casts give such values, and the counter of a table moves by
one at most. So as long as there are not too many statements, the database after them can be stored.
-/

namespace Tabula

/-! ### What can be stored is formed of what reads back -/

lemma Row.storable_iff {row : Row} : Row.Storable row ↔ Row.Formed Value.Storable row :=
  ⟨fun h => ⟨h.named, h.distinct, h.cells⟩, fun h => ⟨h.named, h.distinct, h.cells⟩⟩

lemma Table.storable_iff {t : Table} :
    t.Storable ↔ t.Formed Value.Storable ∧ Writable t.counter := by
  constructor
  · intro h
    exact ⟨⟨h.columns, h.primaryKey, h.unique, fun r hr => Row.storable_iff.1 (h.rows r hr)⟩,
      h.counter⟩
  · rintro ⟨h, hcounter⟩
    exact ⟨h.columns, h.primaryKey, h.unique, fun r hr => Row.storable_iff.2 (h.rows r hr),
      hcounter⟩

lemma Index.storable_iff {i : Index} : i.Storable ↔ i.Formed Value.Storable := by
  constructor
  · intro h
    exact ⟨h.name, h.table, h.column, h.keys, h.distinct,
      fun e he r hr => Row.storable_iff.1 (h.rows e he r hr)⟩
  · intro h
    exact ⟨h.name, h.table, h.column, h.keys, h.distinct,
      fun e he r hr => Row.storable_iff.2 (h.rows e he r hr)⟩

lemma Database.storable_iff {db : Database} :
    db.Storable ↔ db.Formed Value.Storable ∧ ∀ e ∈ db.tables, Writable e.2.counter := by
  constructor
  · intro h
    exact ⟨⟨h.tableNames, h.indexKeys, fun e he => (Table.storable_iff.1 (h.tables e he)).1,
      fun e he => Index.storable_iff.1 (h.indexes e he)⟩, fun e he => (h.tables e he).counter⟩
  · rintro ⟨h, hcounters⟩
    exact ⟨h.tableNames, h.indexKeys,
      fun e he => Table.storable_iff.2 ⟨h.tables e he, hcounters e he⟩,
      fun e he => Index.storable_iff.2 (h.indexes e he)⟩

lemma ColumnType.casts_storable : Casts Value.Storable Value.Storable :=
  ⟨storable_cast, fun _ => storable_castUndeclared⟩

lemma Statement.Storable.supplies {s : Statement} (h : s.Storable) :
    s.Supplies Value.Storable Value.Storable := by
  cases s <;> exact h

/-- The key of a table that can be stored is a name, if there is one. -/
lemma Table.Storable.key {t : Table} (h : t.Storable) :
    t.constraints.key = .ok none ∨ ∃ s, t.constraints.key = .ok (some (.name s)) :=
  (Table.storable_iff.1 h).1.key

/-! ### Counters -/

/-- A table that can be stored, whose counter has come at most this far. -/
structure Table.Within (n : Nat) (t : Table) : Prop where
  storable : t.Storable
  started : 1 ≤ t.counter
  counter : t.counter ≤ n

/-- The counter may move once. -/
lemma Table.Within.spend {n : Nat} {t : Table} (h : t.Within n) (columns : List String) :
    1 ≤ (t.spend columns).counter ∧ (t.spend columns).counter ≤ (n + 1 : Nat) := by
  have hstarted := h.started
  have hcounter := h.counter
  have hspend := t.spend_counter columns
  omega

namespace Database

/-- A database that can be stored, no counter of which has come further than this. -/
structure Within (n : Nat) (db : Database) : Prop where
  storable : db.Storable
  counters : ∀ e ∈ db.tables, 1 ≤ e.2.counter ∧ e.2.counter ≤ n

variable {n : Nat} {db : Database} {name : String} {t : Table}

lemma within_empty : empty.Within n :=
  ⟨storable_iff.2 ⟨formed_empty, by simp [empty]⟩, by simp [empty]⟩

lemma Within.mono {m : Nat} (h : db.Within n) (hm : n ≤ m) : db.Within m :=
  ⟨h.storable, fun e he => by have := h.counters e he; omega⟩

/-- Counters are part of the content. -/
lemma forall_counter_congr {P : Int → Prop} {a b : Database} (h : ∀ e ∈ a.tables, P e.2.counter)
    (hab : a.content = b.content) : ∀ e ∈ b.tables, P e.2.counter := by
  intro e he
  have hm : (e.1, e.2.content) ∈ b.content.tables := List.mem_map.2 ⟨e, he, rfl⟩
  rw [← hab] at hm
  obtain ⟨d, hd, hde⟩ := List.mem_map.1 hm
  have hcounter : d.2.counter = e.2.counter := congrArg (fun x => x.2.counter) hde
  rw [← hcounter]
  exact h d hd

lemma Within.congr {a b : Database} (h : a.Within n) (hab : a.content = b.content) :
    b.Within n := by
  obtain ⟨hformed, hwritable⟩ := storable_iff.1 h.storable
  exact ⟨storable_iff.2 ⟨hformed.congr hab, forall_counter_congr hwritable hab⟩,
    forall_counter_congr (P := fun k => 1 ≤ k ∧ k ≤ n) h.counters hab⟩

lemma Within.table (h : db.Within n) (ht : db.table? name = some t) : t.Within n := by
  obtain ⟨k, -, hm⟩ := Keyed.mem_of_find? ht
  exact ⟨h.storable.tables (k, t) hm, (h.counters (k, t) hm).1, (h.counters (k, t) hm).2⟩

/-- No counter moves by more than one. -/
lemma Within.counters_step (h : db.Within n) {s : Statement} {after : Database}
    (hs : Step db s after) :
    ∀ e ∈ after.tables, 1 ≤ e.2.counter ∧ e.2.counter ≤ (n + 1 : Nat) := by
  have hmono := (h.mono (Nat.le_succ n)).counters
  have hput : ∀ {name : String} {u : Table}, 1 ≤ u.counter ∧ u.counter ≤ (n + 1 : Nat) →
      ∀ e ∈ (db.putTable name u).tables, 1 ≤ e.2.counter ∧ e.2.counter ≤ (n + 1 : Nat) :=
    fun hu => Keyed.forall_put (P := fun u : Table => 1 ≤ u.counter ∧ u.counter ≤ (n + 1 : Nat))
      hu hmono
  have hkept : ∀ {name : String} {u : Table}, db.table? name = some u →
      1 ≤ u.counter ∧ u.counter ≤ (n + 1 : Nat) := by
    intro name u hu
    have hu := h.table hu
    exact ⟨hu.started, by have := hu.counter; omega⟩
  cases hs with
  | same | index => exact hmono
  | create name defs => exact hput ⟨le_refl _, by simp [Table.ofColumns]⟩
  | refuse columns values ht => exact hput ((h.table ht).spend columns)
  | append ht hkey hrow hfault => exact hput ((h.table ht).spend _)
  | @update name t assignments c ht =>
    have hu : 1 ≤ t.counter ∧ t.counter ≤ (n + 1 : Nat) := hkept ht
    exact hput hu
  | @delete name t c gone kept ht hc =>
    have hu : 1 ≤ t.counter ∧ t.counter ≤ (n + 1 : Nat) := hkept ht
    exact hput hu

lemma writable_of_le {k : Int} (hn : n < 10 ^ digitLimit) (h1 : 1 ≤ k) (hk : k ≤ n) :
    Writable k := by
  rw [writable_iff_lt]
  omega

/-- **A statement keeps a database storable**, and moves its counters by at most one. -/
theorem Within.execute (h : db.Within n) {s : Statement} (hs : s.Storable)
    (hn : n + 1 < 10 ^ digitLimit) : (db.execute s).database.Within (n + 1) := by
  obtain ⟨hformed, hwritable⟩ := storable_iff.1 h.storable
  have hcounters := h.counters_step
    (step_execute (fun e he => (hformed.indexes e he).column) s)
  have hafter := hformed.execute ColumnType.casts_storable trivial hwritable hs.supplies
  exact ⟨storable_iff.2 ⟨hafter, fun e he =>
    writable_of_le hn (hcounters e he).1 (hcounters e he).2⟩, hcounters⟩

end Database

end Tabula

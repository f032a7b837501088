import Mathlib.Data.List.Induction
import Mathlib.Data.List.Nodup
import ReferencePage.Toml.Document

/-! Tables that hold only values.  A header and a key of more parts each leave a table behind, which
stays under their first part; so such a table is written as plain assignments, and each of them is
one of its entries. -/
namespace ReferencePage.Toml

namespace Item

def IsValue : Item → Prop
  | value _ _ => True
  | _ => False

end Item

/-- One key without dots, and what it leads to. -/
def Statement.plain (entry : Key × Item) : Statement := .assignment [entry.1] entry.2

def names (entries : List (Key × Item)) : List Text := entries.map fun entry => entry.1.name

theorem nodup_names_concat {entries : List (Key × Item)} {entry : Key × Item} :
    (names (entries ++ [entry])).Nodup ↔
      (names entries).Nodup ∧ entry.1.name ∉ names entries := by
  rw [names, List.map_append, List.map_singleton, ← List.concat_eq_append, List.nodup_concat,
    and_comm]
  rfl

namespace Table

def HoldsValues (t : Table) : Prop := ∀ entry ∈ t.entries, entry.2.IsValue

section

variable {t after : Table} {key : Key} {item old : Item} {name : Text} {keys path : List Key}
  {through : Origin} {change : Table → Option Table}

@[simp] theorem entries_append : (t.append key item).entries = t.entries ++ [(key, item)] := rfl

@[simp] theorem entries_replace : (t.replace name item).entries =
    t.entries.map fun e => if e.1.name = name then (e.1, item) else e := rfl

theorem item?_eq_none : t.item? name = none ↔ name ∉ names t.entries := by
  simp [item?, names]

theorem exists_of_item? (found : t.item? name = some item) :
    ∃ key, (key, item) ∈ t.entries ∧ key.name = name := by
  obtain ⟨⟨key, _⟩, first, rfl⟩ := Option.map_eq_some_iff.mp found
  have named := List.find?_some first
  exact ⟨key, List.mem_of_find?_eq_some first, of_decide_eq_true named⟩

theorem item?_of_mem (distinct : (names t.entries).Nodup) (member : (key, item) ∈ t.entries) :
    t.item? key.name = some item := by
  cases found : t.item? key.name with
  | none => exact absurd (List.mem_map_of_mem member) (item?_eq_none.mp found)
  | some other =>
    obtain ⟨key', member', named⟩ := exists_of_item? found
    cases List.inj_on_of_nodup_map distinct member' member named
    rfl

theorem HoldsValues.of_append (values : (t.append key item).HoldsValues) : t.HoldsValues :=
  fun entry member => values entry (List.mem_append_left _ member)

theorem not_holdsValues_append (other : ¬ item.IsValue) : ¬ (t.append key item).HoldsValues :=
  fun values => other (values (key, item) (by simp))

theorem not_holdsValues_replace (found : t.item? name = some old) (other : ¬ item.IsValue) :
    ¬ (t.replace name item).HoldsValues := by
  obtain ⟨key, member, named⟩ := exists_of_item? found
  intro values
  refine other (values (key, item) ?_)
  rw [entries_replace, List.mem_map]
  exact ⟨(key, old), member, if_pos named⟩

theorem not_holdsValues_update (changed : t.update through (key :: path) change = some after) :
    ¬ after.HoldsValues := by
  unfold update at changed
  split at changed
  · obtain ⟨s, -, rfl⟩ := Option.map_eq_some_iff.mp changed
    exact not_holdsValues_append id
  · rename_i found
    split at changed
    · obtain ⟨s, -, rfl⟩ := Option.map_eq_some_iff.mp changed
      exact not_holdsValues_replace found id
    · contradiction
  · rename_i found
    obtain ⟨last, -, changed⟩ := Option.bind_eq_some_iff.mp changed
    obtain ⟨s, -, rfl⟩ := Option.map_eq_some_iff.mp changed
    exact not_holdsValues_replace found id
  · contradiction

theorem addOnce_eq_some :
    t.addOnce key item = some after ↔ t.item? key.name = none ∧ after = t.append key item := by
  unfold addOnce
  split
  · rename_i taken
    obtain ⟨old, found⟩ := Option.isSome_iff_exists.mp taken
    simp [found]
  · rename_i free
    rw [Bool.not_eq_true, Option.isSome_eq_false_iff, Option.isNone_iff_eq_none] at free
    simp [free, eq_comm]

theorem assign_plain : t.assign [key] item = some after ↔
    t.origin ≠ .dotted ∧ t.item? key.name = none ∧ after = t.append key item := by
  simp only [assign, update, List.getLast?_singleton, Option.bind_some, List.dropLast_singleton,
    List.isEmpty_nil]
  split
  · simp_all
  · simp_all [addOnce_eq_some]

theorem plain_of_assign (assigned : t.assign keys item = some after) (values : after.HoldsValues) :
    ∃ key, keys = [key] := by
  obtain ⟨key, last, updated⟩ := Option.bind_eq_some_iff.mp assigned
  cases front : keys.dropLast with
  | nil =>
    refine ⟨key, ?_⟩
    obtain ⟨before, rfl⟩ := List.getLast?_eq_some_iff.mp last
    rw [List.dropLast_concat] at front
    rw [front, List.nil_append]
  | cons first path =>
    rw [front] at updated
    exact absurd values (not_holdsValues_update updated)

end

end Table

namespace Progress

open Table

section

variable {p : Progress} {root : Table} {s : Section} {statement : Statement}
  {statements : List Statement}

theorem not_holdsValues_addRepeated {key : Key} {table parent : Table}
    (added : addRepeated key table parent = some root) : ¬ root.HoldsValues := by
  unfold addRepeated at added
  split at added
  · cases added
    exact not_holdsValues_append id
  · rename_i found
    cases added
    exact not_holdsValues_replace found id
  · contradiction

theorem not_holdsValues_close (closed : p.close = some root) (current : p.current = some s) :
    ¬ root.HoldsValues := by
  rw [close, current] at closed
  obtain ⟨key, -, updated⟩ := Option.bind_eq_some_iff.mp closed
  cases front : s.path.dropLast with
  | nil =>
    rw [front, update] at updated
    split at updated
    · exact not_holdsValues_addRepeated updated
    · obtain ⟨-, rfl⟩ := addOnce_eq_some.mp updated
      exact not_holdsValues_append id
  | cons first path =>
    rw [front] at updated
    exact not_holdsValues_update updated

/-- What a statement can do where no header is open behind it: it assigns, and no header was open in
front of it. -/
theorem step_eq_some : p.step statement = some ⟨root, none⟩ ↔
    p.current = none ∧ ∃ keys item, statement = .assignment keys item ∧
      p.root.assign keys item = some root := by
  obtain ⟨before, current⟩ := p
  cases statement with
  | assignment keys item => cases current <;> simp [step]
  | header keys passage =>
    simp only [step, Option.bind_eq_some_iff, reduceCtorEq, false_and, exists_false, and_false,
      iff_false, not_exists, not_and]
    intro root' _ opened
    simp [openTable, Option.bind_eq_some_iff] at opened
  | repeated keys passage => simp [step]

theorem step_plain (values : root.HoldsValues) : p.step statement = some ⟨root, none⟩ ↔
    p.current = none ∧ ∃ key item, statement = .plain (key, item) ∧ p.root.origin ≠ .dotted ∧
      p.root.item? key.name = none ∧ root = p.root.append key item := by
  rw [step_eq_some]
  refine and_congr_right fun _ => ⟨?_, ?_⟩
  · rintro ⟨keys, item, rfl, assigned⟩
    obtain ⟨key, rfl⟩ := plain_of_assign assigned values
    exact ⟨key, item, rfl, assign_plain.mp assigned⟩
  · rintro ⟨key, item, rfl, assigned⟩
    exact ⟨[key], item, rfl, assign_plain.mpr assigned⟩

theorem close_plain (values : root.HoldsValues) :
    p.close = some root ↔ p = ⟨root, none⟩ := by
  obtain ⟨before, current⟩ := p
  cases current with
  | none => simp [close]
  | some s => simpa using fun closed => not_holdsValues_close closed rfl values

/-- From an empty table, statements come to a table of values exactly where they are its entries as
plain assignments, no name twice. -/
theorem run_plain (values : root.HoldsValues) :
    statements.foldlM step ⟨.empty .own, none⟩ = some ⟨root, none⟩ ↔
      ∃ entries, root = .mk .own none entries ∧ statements = entries.map Statement.plain ∧
        (names entries).Nodup := by
  -- By the last statement, since a table of values behind it means one in front of it.
  induction statements using List.reverseRecOn generalizing root with
  | nil => simp [Table.empty, names, eq_comm]
  | append_singleton statements statement ih =>
    simp only [List.foldlM_append, List.foldlM_cons, List.foldlM_nil, bind_pure,
      Option.bind_eq_bind, Option.bind_eq_some_iff, step_plain values]
    constructor
    · rintro ⟨⟨before, current⟩, run, rfl, key, item, rfl, -, free, rfl⟩
      obtain ⟨entries, rfl, rfl, distinct⟩ := (ih values.of_append).mp run
      refine ⟨entries ++ [(key, item)], rfl, ?_, ?_⟩
      · rw [List.map_append]
        rfl
      · exact nodup_names_concat.mpr ⟨distinct, item?_eq_none.mp free⟩
    · rintro ⟨entries, rfl, written, distinct⟩
      obtain ⟨front, last, rfl, rfl, same⟩ := List.append_eq_map_iff.mp written
      obtain ⟨⟨key, item⟩, rfl, rfl⟩ := List.map_eq_singleton_iff.mp same
      obtain ⟨distinct, free⟩ := nodup_names_concat.mp distinct
      have before : Table.HoldsValues (.mk .own none front) := HoldsValues.of_append values
      exact ⟨⟨.mk .own none front, none⟩, (ih before).mpr ⟨front, rfl, rfl, distinct⟩, rfl, key,
        item, rfl, by simp [Table.origin], item?_eq_none.mpr free, rfl⟩

end

end Progress

/-- A source comes to a table of values exactly when its statements are the table's entries as plain
assignments, no name twice. -/
theorem parse?_values {source : Text} {table : Table} (values : table.HoldsValues) :
    parse? source = some table ↔ ∃ entries, table = .mk .own none entries ∧
      statements? source = some (entries.map Statement.plain) ∧ (names entries).Nodup := by
  simp only [parse?, Option.bind_eq_some_iff, Progress.close_plain values, exists_eq_right,
    Progress.run_plain values]
  constructor
  · rintro ⟨statements, read, entries, rfl, rfl, distinct⟩
    exact ⟨entries, rfl, read, distinct⟩
  · rintro ⟨entries, rfl, read, distinct⟩
    exact ⟨_, read, entries, rfl, rfl, distinct⟩

end ReferencePage.Toml

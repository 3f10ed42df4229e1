import Mathlib.Algebra.GroupWithZero.Nat
import Mathlib.Data.List.Forall2
import SqlDialect.CommandLine.Table
import SqlDialect.Proofs.Text.Width

/-! The alignment of a printed table.

The width of a column is the least that the bytes of its name and the cells at its place fit in.
Names are measured in bytes and padded in columns, which is safe since a text never takes more
columns than bytes: padding brings every text to exactly the width of its column, and all lines
of a table are equally wide, by any measure that is safe so.
-/

set_option autoImplicit false

namespace SqlDialect

variable {measure : Text → Nat}

theorem Text.Measures.padRight (measures : Text.Measures measure) {s : Text} {n : Nat}
    (fits : measure s ≤ n) : measure (s.padRight measure n) = n := by
  have signs : ∀ c ∈ List.replicate (n - measure s) ' ', c ∈ " |-+".toList := by
    intro c mem
    rw [List.eq_of_mem_replicate mem]
    decide
  unfold Text.padRight
  by_cases full : n - measure s = 0
  · rw [full, List.replicate_zero, List.append_nil]
    omega
  · have some : List.replicate (n - measure s) ' ' ≠ [] := by simpa using full
    have padded := measures.separated s [] some signs
    rw [List.append_nil, List.length_replicate, measures.nil] at padded
    omega

/-! ## The width of a column -/

namespace ResultSet

variable {columns : List (Text × Text)} {rows : List (List Cell)} {name : Text} {i n : Nat}

theorem columnWidth_le_iff :
    columnWidth measure name i rows ≤ n ↔
      name.byteLength ≤ n ∧ ∀ row ∈ rows, ∀ cell, row[i]? = some cell →
        cell.widthBy measure ≤ n := by
  unfold columnWidth
  generalize name.byteLength = least
  induction rows generalizing least with
  | nil => simp
  | cons row rows ih =>
    rw [List.foldl_cons, ih]
    cases at_place : row[i]? with
    | none => simp [at_place]
    | some cell =>
      rw [Nat.max_le, and_assoc]
      simp [at_place]

@[simp] theorem length_columns_measured :
    (measured measure columns rows).columns.length = columns.length := by
  simp [measured]

theorem width_getElem_columns (h : i < (measured measure columns rows).columns.length) :
    ((measured measure columns rows).columns[i]).width =
      columnWidth measure ((measured measure columns rows).columns[i]).name i rows := by
  simp [measured]

theorem name_fits (measures : Text.Measures measure) {c : Column}
    (mem : c ∈ (measured measure columns rows).columns) : measure c.name ≤ c.width := by
  obtain ⟨i, h, rfl⟩ := List.mem_iff_getElem.1 mem
  rw [width_getElem_columns]
  exact Nat.le_trans (measures.le_byteLength _) (columnWidth_le_iff.1 Nat.le.refl).1

theorem cells_fit {row : List Cell} (mem : row ∈ rows) (full : row.length = columns.length) :
    List.Forall₂ (fun cell c => cell.widthBy measure ≤ c.width) row
      (measured measure columns rows).columns := by
  refine List.forall₂_iff_get.2
    ⟨full.trans length_columns_measured.symm, fun i inRow inColumns => ?_⟩
  simp only [List.get_eq_getElem]
  rw [width_getElem_columns]
  exact (columnWidth_le_iff.1 Nat.le.refl).2 row mem _ (List.getElem?_eq_getElem inRow)

/-! ## The lines of a table -/

/-- The columns of a terminal that a line takes: those of its columns and the three between each
two of them. -/
def lineWidth (result : ResultSet) : Nat :=
  (result.columns.map Column.width).sum + 3 * (result.columns.length - 1)

section

variable {result : ResultSet} (measures : Text.Measures measure)

include measures

theorem measure_line {separator : Text} {parts : List Text} (three : separator.length = 3)
    (signs : ∀ c ∈ separator, c ∈ " |-+".toList)
    (fit : parts.map measure = result.columns.map Column.width) :
    measure (List.intercalate separator parts) = result.lineWidth := by
  have some : separator ≠ [] := by
    rintro rfl
    cases three
  have count : parts.length = result.columns.length := by simpa using congrArg List.length fit
  rw [measures.intercalate some signs, fit, three, count, lineWidth]

theorem measure_headerLine (fit : ∀ c ∈ result.columns, measure c.name ≤ c.width) :
    measure (result.headerLine measure) = result.lineWidth := by
  refine measure_line measures (by decide) (by simp) ?_
  rw [List.map_map]
  exact List.map_congr_left fun c mem => measures.padRight (fit c mem)

theorem measure_ruleLine : measure result.ruleLine = result.lineWidth := by
  refine measure_line measures (by decide) (by simp) ?_
  rw [List.map_map]
  refine List.map_congr_left fun c _ => ?_
  have signs : ∀ d ∈ List.replicate c.width '-', d ∈ " |-+".toList := by
    intro d mem
    rw [List.eq_of_mem_replicate mem]
    decide
  exact (measures.of_separator signs).trans List.length_replicate

theorem measure_rowLine {row : List Cell}
    (fit : List.Forall₂ (fun cell c => cell.widthBy measure ≤ c.width) row result.columns) :
    measure (result.rowLine measure row) = result.lineWidth := by
  refine measure_line measures (by decide) (by simp) ?_
  generalize result.columns = shown at fit ⊢
  induction fit with
  | nil => rfl
  | cons cell _ ih =>
    simp only [List.zip_cons_cons, List.map_cons, ih]
    rw [measures.padRight cell]

/-- All lines of a table are equally wide, and no name and no cell is wider than its column. -/
theorem tableLines_aligned (full : ∀ row ∈ rows, row.length = columns.length) :
    (∀ line ∈ (measured measure columns rows).tableLines measure,
      measure line = (measured measure columns rows).lineWidth) ∧
      (∀ c ∈ (measured measure columns rows).columns, measure c.name ≤ c.width) ∧
      ∀ row ∈ rows, List.Forall₂ (fun cell c => cell.widthBy measure ≤ c.width) row
        (measured measure columns rows).columns := by
  have cells : ∀ row ∈ rows, List.Forall₂ (fun cell c => cell.widthBy measure ≤ c.width) row
      (measured measure columns rows).columns := fun row mem => cells_fit mem (full row mem)
  refine ⟨fun line mem => ?_, fun c => name_fits measures, cells⟩
  simp only [tableLines, List.mem_cons, List.mem_map] at mem
  obtain rfl | rfl | ⟨row, inRows, rfl⟩ := mem
  · exact measure_headerLine measures fun c => name_fits measures
  · exact measure_ruleLine measures
  · exact measure_rowLine measures (cells row inRows)

end

/-- A wide name beside one of two bytes, over wide characters and a combining mark. -/
theorem tableLines_aligned_wide :
    let result := measured Text.width [("日", "TEXT"), ("é", "TEXT")]
      [[.text "日本", .null], [.text "e\u0301", .int 7]]
    ∀ line ∈ result.tableLines Text.width, line.width = 4 + 4 + 3 :=
  (tableLines_aligned Text.measures_width (by decide)).1

end ResultSet

end SqlDialect

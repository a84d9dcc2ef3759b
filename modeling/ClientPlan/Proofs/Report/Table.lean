import ClientPlan.Proofs.Pointer.Location
import ClientPlan.Report.Reporter

/-!
# Reading plain tables

A plain table is read back by splitting it into lines at line ends and each line into cells at tabs.
A cell is written as it is, so a table reads back to its rows exactly if no cell has a tab or a line
end (`tableRows_rowLines_iff`): such a character makes one cell more or one line more, and there is
none that could make up for it.
-/

set_option autoImplicit false

namespace ClientPlan

/-! ## Cells -/

/-- A text that can stand as a cell: it has no tabs and no line ends. -/
def IsCell (s : String) : Prop := '\t' ∉ s.toList ∧ '\n' ∉ s.toList

instance (s : String) : Decidable (IsCell s) := inferInstanceAs (Decidable (_ ∧ _))

/-- A text is a cell if its characters have a property that tabs and line ends do not have. -/
theorem isCell_of_forall {P : Char → Prop} {s : String} (h : ∀ c ∈ s.toList, P c) (ht : ¬ P '\t')
    (hn : ¬ P '\n') : IsCell s :=
  ⟨fun hmem => ht (h _ hmem), fun hmem => hn (h _ hmem)⟩

@[simp] theorem isCell_append {s s' : String} : IsCell (s ++ s') ↔ IsCell s ∧ IsCell s' := by
  simp only [IsCell, String.toList_append, List.mem_append, not_or]
  exact and_and_and_comm

theorem not_mem_intercalate {c : Char} {sep : String} (hsep : c ∉ sep.toList) {l : List String} :
    c ∉ (sep.intercalate l).toList ↔ ∀ s ∈ l, c ∉ s.toList := by
  induction l with
  | nil => exact iff_of_true List.not_mem_nil (List.forall_mem_nil _)
  | cons s r ih =>
    rw [List.forall_mem_cons, ← ih]
    cases r with
    | nil =>
      rw [String.intercalate_singleton]
      exact (and_iff_left List.not_mem_nil).symm
    | cons s' r =>
      rw [String.toList_intercalate, String.toList_intercalate, List.map_cons, List.map_cons,
        List.intercalate_cons_cons, List.mem_append, List.mem_append, not_or, not_or,
        and_iff_left hsep]

/-- Texts joined by a cell are a cell if and only if they are cells. -/
theorem isCell_intercalate {sep : String} (hsep : IsCell sep) {l : List String} :
    IsCell (sep.intercalate l) ↔ ∀ s ∈ l, IsCell s := by
  simp only [IsCell, not_mem_intercalate hsep.1, not_mem_intercalate hsep.2, forall_and]

/-! ## Replacing items by lists -/

theorem length_le_length_flatMap {α : Type} {f : α → List α} (hf : ∀ a, f a ≠ []) (l : List α) :
    l.length ≤ (l.flatMap f).length := by
  induction l with
  | nil => exact Nat.le_refl 0
  | cons a r ih =>
    have hpos := List.length_pos_iff.2 (hf a)
    rw [List.flatMap_cons, List.length_append, List.length_cons]
    omega

/-- If every item is replaced by one item or more, the list stays the same only if every item is
replaced by itself. -/
theorem flatMap_eq_self_iff {α : Type} {f : α → List α} (hf : ∀ a, f a ≠ []) {l : List α} :
    l.flatMap f = l ↔ ∀ a ∈ l, f a = [a] := by
  induction l with
  | nil => exact iff_of_true rfl (List.forall_mem_nil _)
  | cons a r ih =>
    rw [List.flatMap_cons, List.forall_mem_cons, ← ih]
    constructor
    · intro h
      obtain ⟨b, more, hb⟩ := List.exists_cons_of_ne_nil (hf a)
      rw [hb, List.cons_append] at h
      obtain ⟨rfl, hrest⟩ := List.cons.inj h
      -- The rest is no shorter than it was, so there was no room for more.
      have hlength := congrArg List.length hrest
      have hle := length_le_length_flatMap hf r
      rw [List.length_append] at hlength
      have hmore : more = [] := List.length_eq_zero_iff.1 (by omega)
      rw [hmore] at hb hrest
      exact ⟨hb, hrest⟩
    · rintro ⟨ha, hr⟩
      rw [ha, hr, List.singleton_append]

/-! ## Reading -/

/-- The cells of a line. -/
def lineCells (line : List Char) : List String := (line.splitOn '\t').map String.ofList

/-- The rows of what is written: the cells of its lines.  What stands behind the last line end is no
line. -/
def tableRows (output : String) : List (List String) :=
  (output.toList.splitOn '\n').dropLast.map lineCells

/-- What is read of a row that is written as a line. -/
def rereadRow (row : List String) : List (List String) :=
  (("\t".intercalate row).toList.splitOn '\n').map lineCells

theorem rereadRow_ne_nil (row : List String) : rereadRow row ≠ [] := fun h =>
  List.splitOn_ne_nil '\n' _ (List.map_eq_nil_iff.1 h)

/-- Lines are read one after another. -/
theorem tableRows_line_append (text rest : String) : tableRows (text ++ "\n" ++ rest) =
    (text.toList.splitOn '\n').map lineCells ++ tableRows rest := by
  have hsplit : (text ++ "\n" ++ rest).toList.splitOn '\n' =
      text.toList.splitOn '\n' ++ rest.toList.splitOn '\n' := by
    rw [String.toList_append, String.toList_append, List.append_assoc]
    exact List.splitOn_append_cons_self _ _
  rw [tableRows, hsplit, List.dropLast_append_of_ne_nil (List.splitOn_ne_nil _ _), List.map_append,
    tableRows]

/-- The line of a row has the row's cells if and only if none of them has a tab. -/
theorem lineCells_intercalate_iff {row : List String} (hne : row ≠ []) :
    lineCells ("\t".intercalate row).toList = row ↔ ∀ cell ∈ row, '\t' ∉ cell.toList := by
  have hparts (cell : String) : (cell.toList.splitOn '\t').map String.ofList ≠ [] :=
    fun h => List.splitOn_ne_nil '\t' _ (List.map_eq_nil_iff.1 h)
  rw [lineCells, map_splitOn_intercalate rfl hne, flatMap_eq_self_iff hparts]
  refine forall₂_congr fun cell _ => ⟨fun h => ?_, fun h => ?_⟩
  · obtain ⟨part, hpart, rfl⟩ := List.map_eq_singleton_iff.1 h
    rw [String.toList_ofList] at hpart ⊢
    exact not_mem_of_mem_splitOn (hpart ▸ List.mem_singleton_self part)
  · rw [List.splitOn_eq_singleton h, List.map_singleton, String.ofList_toList]

/-- A row is read back if and only if its cells can stand as cells. -/
theorem rereadRow_eq_iff {row : List String} (hne : row ≠ []) :
    rereadRow row = [row] ↔ ∀ cell ∈ row, IsCell cell := by
  have hcells : (∀ cell ∈ row, IsCell cell) ↔ (∀ cell ∈ row, '\t' ∉ cell.toList) ∧
      '\n' ∉ ("\t".intercalate row).toList := by
    rw [not_mem_intercalate (by decide), ← forall₂_and]
    exact Iff.rfl
  rw [hcells, ← lineCells_intercalate_iff hne]
  constructor
  · intro h
    obtain ⟨line, hline, hrow⟩ := List.map_eq_singleton_iff.1 h
    have hsame : line = ("\t".intercalate row).toList := by
      have hjoined := congrArg (List.intercalate ['\n']) hline
      rw [List.intercalate_splitOn, List.intercalate_singleton] at hjoined
      exact hjoined.symm
    exact ⟨hsame ▸ hrow, hsame ▸ not_mem_of_mem_splitOn (hline ▸ List.mem_singleton_self line)⟩
  · rintro ⟨hrow, hline⟩
    rw [rereadRow, List.splitOn_eq_singleton hline, List.map_singleton, hrow]

/-! ## Tables -/

namespace Streams

theorem output_foldl_append (start : Streams) (l : List Streams) :
    (l.foldl (· ++ ·) start).output = start.output ++ (concat l).output := by
  induction l generalizing start with
  | nil => exact String.append_empty.symm
  | cons a r ih =>
    have hr : (concat (a :: r)).output = ({} ++ a : Streams).output ++ (concat r).output := ih _
    rw [List.foldl_cons, ih, hr, output_append, output_append, String.append_assoc]
    exact congrArg _ (congrArg (· ++ _) String.empty_append.symm)

theorem output_concat_cons (a : Streams) (r : List Streams) :
    (concat (a :: r)).output = a.output ++ (concat r).output := by
  rw [concat, List.foldl_cons, output_foldl_append, output_append]
  exact congrArg (· ++ _) String.empty_append

end Streams

namespace Reporter

/-- The lines of rows are read row by row. -/
theorem tableRows_rowLines (rows : List (List String)) :
    tableRows (Streams.concat (rows.map rowLine)).output = rows.flatMap rereadRow := by
  induction rows with
  | nil => rfl
  | cons row r ih =>
    rw [List.map_cons, Streams.output_concat_cons, List.flatMap_cons, ← ih]
    exact tableRows_line_append _ _

/-- The lines of rows are read back if and only if all cells can stand as cells. -/
theorem tableRows_rowLines_iff {rows : List (List String)} (hne : ∀ row ∈ rows, row ≠ []) :
    tableRows (Streams.concat (rows.map rowLine)).output = rows ↔
      ∀ row ∈ rows, ∀ cell ∈ row, IsCell cell := by
  rw [tableRows_rowLines, flatMap_eq_self_iff rereadRow_ne_nil]
  exact forall₂_congr fun row hrow => rereadRow_eq_iff (hne row hrow)

end Reporter

end ClientPlan

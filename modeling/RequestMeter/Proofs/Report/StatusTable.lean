/-
Reading the table of a status page.

The reader takes the page character by character.  It knows tags and text: the text before the end
of a cell is what the cell says, and a row has the cells between its beginning and its end.  What
the reader does with a text does not depend on how the text is put together, so the page is read
line by line (`read_lines`), and a row adds its cells and nothing else (`readLines_row`).  Nothing
that is shown has a character of markup in it, so nothing shown is taken for a tag, and the cells
of every page are read back (`rows_html`).
-/
import RequestMeter.Proofs.Number.Spelling
import RequestMeter.Report.StatusPage
import Mathlib.Data.List.Basic

namespace RequestMeter

/-! ### The reader -/

/-- What has been read of a page: the rows that have ended, the cells of the row that is open, the
tag that is open, and the text since the last tag. -/
structure TableReader where
  rows : List (List String)
  cells : List String
  tag : Option (List Char)
  text : List Char
deriving DecidableEq

namespace TableReader

/-- Nothing has been read. -/
def start : TableReader := ⟨[], [], none, []⟩

/-- The end of a tag.  A row begins without cells, and at the end of a cell there is one more. -/
def close (r : TableReader) (name : List Char) : TableReader :=
  if name = "tr".toList then ⟨r.rows, [], none, []⟩
  else if name = "/tr".toList then ⟨r.rows ++ [r.cells], [], none, []⟩
  else if name = "/td".toList ∨ name = "/th".toList then
    ⟨r.rows, r.cells ++ [String.ofList r.text], none, []⟩
  else ⟨r.rows, r.cells, none, []⟩

/-- Reads a character. -/
def step (r : TableReader) (c : Char) : TableReader :=
  match r.tag with
  | none => if c = '<' then { r with tag := some [] } else { r with text := r.text ++ [c] }
  | some name => if c = '>' then r.close name else { r with tag := some (name ++ [c]) }

/-- Reads a text. -/
def read (r : TableReader) (s : List Char) : TableReader := s.foldl step r

/-- Reads a line break and a line. -/
def readLine (r : TableReader) (line : String) : TableReader := r.read ('\n' :: line.toList)

private theorem read_append (r : TableReader) (s t : List Char) :
    r.read (s ++ t) = (r.read s).read t := List.foldl_append

theorem read_lines (r : TableReader) (lines : List String) :
    r.read (lines.flatMap fun line => '\n' :: line.toList) = lines.foldl readLine r := by
  induction lines generalizing r with
  | nil => rfl
  | cons line rest ih =>
      rw [List.flatMap_cons, read_append, ih]
      rfl

/-- Outside tags a text is kept, up to where a tag begins. -/
theorem read_text {s : List Char} (h : '<' ∉ s) (rows : List (List String)) (cells : List String)
    (text : List Char) :
    read ⟨rows, cells, none, text⟩ s = ⟨rows, cells, none, text ++ s⟩ := by
  induction s generalizing text with
  | nil =>
      rw [List.append_nil]
      rfl
  | cons c rest ih =>
      obtain ⟨hc, hrest⟩ := not_or.mp (mt List.mem_cons.mpr h)
      have hstep : step ⟨rows, cells, none, text⟩ c = ⟨rows, cells, none, text ++ [c]⟩ :=
        if_neg (Ne.symm hc)
      change read (step _ c) rest = _
      rw [hstep, ih hrest, List.append_assoc]
      rfl

theorem read_name {name : List Char} (h : '>' ∉ name) (rows : List (List String))
    (cells : List String) (text begun : List Char) :
    read ⟨rows, cells, some begun, text⟩ (name ++ ['>']) =
      close ⟨rows, cells, none, text⟩ (begun ++ name) := by
  induction name generalizing begun with
  | nil =>
      rw [List.append_nil]
      rfl
  | cons c rest ih =>
      obtain ⟨hc, hrest⟩ := not_or.mp (mt List.mem_cons.mpr h)
      have hstep : step ⟨rows, cells, some begun, text⟩ c =
          ⟨rows, cells, some (begun ++ [c]), text⟩ := if_neg (Ne.symm hc)
      change read (step _ c) (rest ++ ['>']) = _
      rw [hstep, ih hrest, List.append_assoc]
      rfl

/-- A text and a tag after it. -/
theorem read_tag {s name : List Char} (hs : '<' ∉ s) (hname : '>' ∉ name)
    (rows : List (List String)) (cells : List String) (text : List Char) :
    read ⟨rows, cells, none, text⟩ (s ++ '<' :: (name ++ ['>'])) =
      close ⟨rows, cells, none, text ++ s⟩ name := by
  rw [read_append, read_text hs]
  exact read_name hname rows cells (text ++ s) []

/-! ### Rows that have ended stay

No tag takes a row back.  So reading on behind some rows is reading from the start with those rows
in front, and what stands below the rows of a page can be read by itself.
-/

/-- A reader that has read some rows before. -/
def after (before : List (List String)) (r : TableReader) : TableReader :=
  { r with rows := before ++ r.rows }

variable (before : List (List String)) (r : TableReader)

private theorem close_after (name : List Char) :
    (after before r).close name = after before (r.close name) := by
  dsimp only [close, after]
  rw [List.append_assoc]
  split
  · rfl
  · split
    · rfl
    · split <;> rfl

private theorem step_after (c : Char) : (after before r).step c = after before (r.step c) := by
  obtain ⟨rows, cells, tag, text⟩ := r
  cases tag with
  | none =>
      dsimp only [step, after]
      split <;> rfl
  | some name =>
      have hclose := close_after before ⟨rows, cells, some name, text⟩ name
      dsimp only [step, after] at hclose ⊢
      split
      · exact hclose
      · rfl

private theorem read_after (s : List Char) : (after before r).read s = after before (r.read s) := by
  induction s generalizing r with
  | nil => rfl
  | cons c rest ih =>
      change read (step _ c) rest = _
      rw [step_after, ih]
      rfl

theorem readLine_after (line : String) :
    (after before r).readLine line = after before (r.readLine line) := read_after before r _

theorem after_start : after before start = ⟨before, [], none, []⟩ := by
  rw [after, start, List.append_nil]

end TableReader

/-- The rows of the table of a page, each with what its cells say. -/
def tableRows (page : String) : List (List String) := (TableReader.start.read page.toList).rows

/-! ### What is shown

A cell is read back as it is only if nothing in it could be taken for markup.  That depends on what
writes the cell, so there is one lemma for each kind.
-/

/-- A text without a character of markup in it: it stands for itself in a page. -/
def IsPlainText (s : String) : Prop := ∀ c ∈ s.toList, c ≠ '<' ∧ c ≠ '>' ∧ c ≠ '&'

instance (s : String) : Decidable (IsPlainText s) :=
  List.decidableBAll (fun c => c ≠ '<' ∧ c ≠ '>' ∧ c ≠ '&') s.toList

namespace IsPlainText

open Numeral

theorem lt_notMem {s : String} (h : IsPlainText s) : '<' ∉ s.toList :=
  fun hc => (h _ hc).1 rfl

theorem append {s t : String} (hs : IsPlainText s) (ht : IsPlainText t) :
    IsPlainText (s ++ t) := by
  intro c hc
  rw [String.toList_append, List.mem_append] at hc
  exact hc.elim (hs c) (ht c)

theorem natural (n : Nat) : IsPlainText (toString n) := by
  intro c hc
  change c ∈ n.repr.toList at hc
  rw [Nat.toList_repr] at hc
  refine ⟨?_, ?_, ?_⟩ <;> rintro rfl <;> exact notMem_toDigits (by decide) n hc

theorem twoPlaces (hundredths : Nat) : IsPlainText (twoPlaces hundredths) := by
  dsimp only [RequestMeter.twoPlaces]
  refine .append (.append (.append (natural _) (by decide)) ?_) (natural _)
  split <;> decide

theorem latency (l : Latency) : IsPlainText l.text := by
  cases l with
  | microseconds n => exact (natural n).append (by decide)
  | milliseconds h => exact (twoPlaces h).append (by decide)
  | seconds h => exact (twoPlaces h).append (by decide)

theorem inWords (d : Duration) : IsPlainText d.inWords := by
  dsimp only [Duration.inWords]
  split
  · decide
  · split
    · exact (natural _).append (by decide)
    · split
      · decide
      · split
        · exact (natural _).append (by decide)
        · exact (twoPlaces _).append (by decide)

theorem of_mem_cells {r : StatusRow} : ∀ cell ∈ r.cells, IsPlainText cell := by
  unfold StatusRow.cells
  simp only [List.forall_mem_cons, List.not_mem_nil, false_implies, implies_true, and_true]
  exact ⟨inWords _, natural _, twoPlaces _, latency _, latency _, latency _⟩

end IsPlainText

/-! ### Reading the page -/

namespace TableReader

variable {rows : List (List String)} {cells : List String} {text : List Char}

theorem readLine_cell {cell : String} (h : IsPlainText cell) :
    readLine ⟨rows, cells, none, text⟩ ("          <td>" ++ cell ++ "</td>") =
      ⟨rows, cells ++ [cell], none, []⟩ := by
  have hline : '\n' :: ("          <td>" ++ cell ++ "</td>").toList =
      ("\n          ".toList ++ '<' :: ("td".toList ++ ['>'])) ++
        (cell.toList ++ '<' :: ("/td".toList ++ ['>'])) := by simp
  unfold readLine
  rw [hline, read_append, read_tag (by decide) (by decide)]
  change read ⟨rows, cells, none, []⟩ _ = _
  rw [read_tag h.lt_notMem (by decide)]
  change TableReader.mk rows (cells ++ [String.ofList cell.toList]) none [] = _
  rw [String.ofList_toList]

theorem readLines_cells {more : List String} (h : ∀ cell ∈ more, IsPlainText cell) :
    (more.map fun cell => "          <td>" ++ cell ++ "</td>").foldl readLine
        ⟨rows, cells, none, []⟩ =
      ⟨rows, cells ++ more, none, []⟩ := by
  induction more generalizing cells with
  | nil => rw [List.append_nil]; rfl
  | cons cell rest ih =>
      rw [List.forall_mem_cons] at h
      rw [List.map_cons, List.foldl_cons, readLine_cell h.1, ih h.2, List.append_assoc]
      rfl

theorem readLine_endRow :
    readLine ⟨rows, cells, none, text⟩ "        </tr>" = ⟨rows ++ [cells], [], none, []⟩ := by
  have hline : '\n' :: "        </tr>".toList =
      "\n        ".toList ++ '<' :: ("/tr".toList ++ ['>']) := by decide
  unfold readLine
  rw [hline, read_tag (by decide) (by decide)]
  rfl

/-- A row of the page adds its cells, whatever has been read before. -/
theorem readLines_row (r : StatusRow) :
    r.lines.foldl readLine ⟨rows, [], none, []⟩ = ⟨rows ++ [r.cells], [], none, []⟩ := by
  have hopen : (start.readLine "        ").readLine "        <tr>" = start := by decide +kernel
  unfold StatusRow.lines
  simp only [List.foldl_append, List.foldl_cons, List.foldl_nil]
  rw [← after_start, readLine_after, readLine_after, hopen, after_start,
    readLines_cells IsPlainText.of_mem_cells, List.nil_append, readLine_endRow]

theorem readLines_rows {r : TableReader} (before : List (List String))
    (h : r = ⟨before, [], none, []⟩) (shown : List StatusRow) :
    (shown.flatMap StatusRow.lines).foldl readLine r =
      ⟨before ++ shown.map StatusRow.cells, [], none, []⟩ := by
  subst h
  induction shown generalizing before with
  | nil => rw [List.map_nil, List.append_nil]; rfl
  | cons row rest ih =>
      rw [List.flatMap_cons, List.foldl_append, readLines_row, ih, List.map_cons,
        List.append_assoc]
      rfl

/-- The line that tells the retention leaves the table alone. -/
theorem readLine_retention {words : String} (h : IsPlainText words) {r : TableReader}
    (hr : r.tag = none) :
    r.readLine ("    <p>Keeping data for the last " ++ words ++ ".</p>") =
      ⟨r.rows, r.cells, none, []⟩ := by
  obtain ⟨rows, cells, tag, text⟩ := r
  obtain rfl : tag = none := hr
  have hline : '\n' :: ("    <p>Keeping data for the last " ++ words ++ ".</p>").toList =
      ("\n    ".toList ++ '<' :: ("p".toList ++ ['>'])) ++
        (("Keeping data for the last " ++ words ++ ".").toList ++
          '<' :: ("/p".toList ++ ['>'])) := by simp
  have hshown : IsPlainText ("Keeping data for the last " ++ words ++ ".") :=
    .append (.append (by decide) h) (by decide)
  unfold readLine
  rw [hline, read_append, read_tag (by decide) (by decide)]
  change read ⟨rows, cells, none, []⟩ _ = _
  rw [read_tag hshown.lt_notMem (by decide)]
  rfl

end TableReader

namespace StatusPage

open TableReader

theorem toList_html (p : StatusPage) :
    p.html.toList =
      "<!DOCTYPE html>".toList ++ p.lines.tail.flatMap fun line => '\n' :: line.toList := by
  have hjoin : ∀ (line : String) (rest : List String), ("\n".intercalate (line :: rest)).toList =
      line.toList ++ rest.flatMap fun line => '\n' :: line.toList := by
    intro line rest
    induction rest generalizing line with
    | nil => simp
    | cons next later ih =>
        rw [String.intercalate_cons_cons, String.toList_append, String.toList_append, ih next]
        simp
  exact hjoin "<!DOCTYPE html>" p.lines.tail

/-- What stands above the columns. -/
def headings : List String := ["Window", "Requests", "Requests/sec", "Average", "Min", "Max"]

/-- The table of a page is read back: its headings, and then the cells of each of its rows. -/
theorem rows_html (p : StatusPage) :
    tableRows p.html = headings :: p.rows.map StatusRow.cells := by
  unfold tableRows
  rw [toList_html, read_append, read_lines]
  simp only [lines, List.cons_append, List.nil_append, List.tail_cons, List.foldl_cons,
    List.foldl_append]
  rw [readLine_retention (IsPlainText.inWords p.retention), readLines_rows [headings]]
  · -- the lines below the rows end no row
    rw [← after_start]
    simp only [readLine_after, List.foldl_nil]
    refine (congrArg ([headings] ++ p.rows.map StatusRow.cells ++ ·) (?_ : _ = [])).trans
      (List.append_nil _)
    decide +kernel
  · decide +kernel
  · decide +kernel

end StatusPage

end RequestMeter

import Diagnostics.Location.FileTable

/-!
# Lines and columns

A text is cut at its line feeds into lines, and a line starts behind the lines in front of it and their
line feeds. The table of starts that a file has lists exactly these offsets, in ascending order, so that
the number of starts at or before an offset is where a search in the table ends. From that, offsets and
positions are two names for one thing: every offset that is not negative, also one behind the end of the
text, has one position, and every column of a line in front of the next line has one offset.
-/

set_option autoImplicit false

namespace Diagnostics

/-- The lines of a text, without the line feeds between them. -/
def textLines (text : List Char) : List (List Char) :=
  text.splitOn '\n'

/-- Where a line starts: behind the lines in front of it, each with its line feed. Lines are counted
from zero here. -/
def lineStart (text : List Char) (line : Nat) : Nat :=
  ((textLines text).take line).flatten.length + line

/-- The text has a line, counted from zero, and a column lies in it: it is in front of the start of the
next line, if there is one. -/
structure HasPosition (text : List Char) (line : Nat) (column : Int) : Prop where
  line_lt : line < (textLines text).length
  column_pos : 1 ≤ column
  before_next : line + 1 < (textLines text).length →
    lineStart text line + column - 1 < lineStart text (line + 1)

variable {text rest : List Char} {c : Char} {offset line : Nat}

/-! ## The table of starts -/

/-- Every text has a line, the empty one too. -/
theorem textLines_ne_nil (text : List Char) : textLines text ≠ [] :=
  List.splitOnP_ne_nil _ text

/-- A line feed ends the first line. -/
theorem textLines_feed (rest : List Char) : textLines ('\n' :: rest) = [] :: textLines rest := by
  unfold textLines List.splitOn
  rw [List.splitOnP_cons_eq_if_modifyHead]
  rfl

/-- Any other character belongs to the first line. -/
theorem textLines_cons (hc : c ≠ '\n') (rest : List Char) :
    textLines (c :: rest) = (textLines rest).modifyHead (c :: ·) := by
  unfold textLines List.splitOn
  rw [List.splitOnP_cons_eq_if_modifyHead, if_neg (by simpa using hc)]

/-- The first line starts at offset zero. -/
theorem lineStart_zero (text : List Char) : lineStart text 0 = 0 := rfl

/-- Behind a line feed, lines start one character later. -/
theorem lineStart_feed (rest : List Char) (line : Nat) :
    lineStart ('\n' :: rest) (line + 1) = lineStart rest line + 1 := by
  unfold lineStart
  rw [textLines_feed, List.take_succ_cons, List.flatten_cons, List.nil_append]
  rfl

/-- Any other character moves the later lines by one. -/
theorem lineStart_cons (hc : c ≠ '\n') (rest : List Char) (line : Nat) :
    lineStart (c :: rest) (line + 1) = lineStart rest (line + 1) + 1 := by
  obtain ⟨first, others, hlines⟩ := List.exists_cons_of_ne_nil (textLines_ne_nil rest)
  unfold lineStart
  rw [textLines_cons hc, hlines, List.modifyHead_cons, List.take_succ_cons, List.take_succ_cons,
    List.flatten_cons, List.flatten_cons, List.cons_append, List.length_cons]
  omega

/-- The offset that counting begins at is added to every start. -/
theorem startsBehind_succ (offset : Nat) (text : List Char) :
    startsBehind (offset + 1) text = (startsBehind offset text).map (· + 1) := by
  induction text generalizing offset with
  | nil => rfl
  | cons c rest ih =>
    rw [startsBehind, startsBehind, ih]
    split <;> rfl

/-- The table of a text lists where its lines start. -/
theorem lineStarts_eq (text : List Char) :
    lineStarts text = (List.range (textLines text).length).map (lineStart text) := by
  induction text with
  | nil => rfl
  | cons c rest ih =>
    by_cases hc : c = '\n'
    · subst hc
      have hstarts : lineStarts ('\n' :: rest) = 0 :: (lineStarts rest).map (· + 1) := by
        unfold lineStarts
        rw [startsBehind, if_pos rfl, startsBehind_succ, List.map_cons]
      rw [hstarts, ih, textLines_feed, List.length_cons, List.range_succ_eq_map, List.map_cons,
        List.map_map, List.map_map, lineStart_zero]
      refine congrArg (List.cons 0) (List.map_congr_left fun line _ => ?_)
      exact (lineStart_feed rest line).symm
    · obtain ⟨first, others, hlines⟩ := List.exists_cons_of_ne_nil (textLines_ne_nil rest)
      rw [hlines, List.length_cons, List.range_succ_eq_map, List.map_cons, List.map_map,
        lineStart_zero] at ih
      have hbehind : startsBehind 0 rest =
          (List.range others.length).map (lineStart rest ∘ Nat.succ) := (List.cons.inj ih).2
      unfold lineStarts
      rw [startsBehind, if_neg hc, startsBehind_succ, hbehind, textLines_cons hc, hlines,
        List.modifyHead_cons, List.length_cons, List.range_succ_eq_map, List.map_cons, List.map_map,
        List.map_map, lineStart_zero]
      refine congrArg (List.cons 0) (List.map_congr_left fun line _ => ?_)
      exact (lineStart_cons hc rest line).symm

/-- There are as many starts as lines. -/
theorem length_lineStarts (text : List Char) :
    (lineStarts text).length = (textLines text).length := by
  rw [lineStarts_eq, List.length_map, List.length_range]

/-- The table holds the start of every line, and so does looking it up with a default. -/
theorem getD_lineStarts (h : line < (textLines text).length) :
    (lineStarts text).getD line 0 = lineStart text line := by
  rw [lineStarts_eq, List.getD_eq_getElem?_getD, List.getElem?_map, List.getElem?_range h]
  rfl

/-- The table holds the start of every line. -/
theorem getElem_lineStarts (h : line < (lineStarts text).length) :
    (lineStarts text)[line] = lineStart text line := by
  simp only [lineStarts_eq, List.getElem_map, List.getElem_range]

/-! ## Searching the table -/

/-- Every start in the table is behind the offset that counting begins at. -/
theorem lt_of_mem_startsBehind {start : Nat} (h : start ∈ startsBehind offset text) :
    offset < start := by
  induction text generalizing offset with
  | nil => cases h
  | cons c rest ih =>
    rw [startsBehind] at h
    split at h
    · rcases List.mem_cons.mp h with rfl | h
      · exact Nat.lt_succ_self offset
      · exact Nat.lt_of_succ_lt (ih h)
    · exact Nat.lt_of_succ_lt (ih h)

/-- The starts come in order. -/
theorem sorted_lineStarts (text : List Char) : (lineStarts text).Pairwise (· < ·) := by
  have hbehind : ∀ (text : List Char) (offset : Nat),
      (startsBehind offset text).Pairwise (· < ·) := by
    intro text
    induction text with
    | nil => exact fun _ => .nil
    | cons c rest ih =>
      intro offset
      rw [startsBehind]
      split
      · exact .cons (fun _ h => lt_of_mem_startsBehind h) (ih _)
      · exact ih _
  exact .cons (fun _ h => lt_of_mem_startsBehind h) (hbehind text 0)

/-- How many entries of a table are at or before an offset. -/
def startsUpTo (starts : List Nat) (bound : Int) : Nat :=
  starts.countP fun (start : Nat) => decide ((start : Int) ≤ bound)

/-- In an ascending table this is where a search ends: what is at or before the offset stands in front
of that place, and the other entries stand behind it. -/
theorem lt_startsUpTo_iff {starts : List Nat} (hsorted : starts.Pairwise (· < ·)) {i : Nat}
    (hi : i < starts.length) (bound : Int) :
    i < startsUpTo starts bound ↔ (starts[i] : Int) ≤ bound := by
  unfold startsUpTo
  induction starts generalizing i with
  | nil => exact absurd hi (Nat.not_lt_zero i)
  | cons start starts ih =>
    obtain ⟨hfirst, hsorted⟩ := List.pairwise_cons.mp hsorted
    by_cases hstart : (start : Int) ≤ bound
    · rw [List.countP_cons_of_pos (by simpa using hstart)]
      cases i with
      | zero => simpa using hstart
      | succ i =>
        rw [List.length_cons] at hi
        rw [Nat.succ_lt_succ_iff, ih hsorted (Nat.lt_of_succ_lt_succ hi), List.getElem_cons_succ]
    · have hnone : starts.countP (fun (start : Nat) => decide ((start : Int) ≤ bound)) = 0 := by
        rw [List.countP_eq_zero]
        intro other hother
        have := hfirst other hother
        simp only [decide_eq_true_eq]
        omega
      rw [List.countP_cons_of_neg (by simpa using hstart), hnone]
      have hmem : start ≤ (start :: starts)[i] := by
        rcases List.mem_cons.mp (List.getElem_mem hi) with h | h
        · exact Nat.le_of_eq h.symm
        · exact Nat.le_of_lt (hfirst _ h)
      omega

/-- No more starts lie before an offset than there are. -/
theorem startsUpTo_le_length (starts : List Nat) (bound : Int) :
    startsUpTo starts bound ≤ starts.length :=
  List.countP_le_length

/-- The starts up to an offset are as many as the line feeds in front of it. -/
theorem startsUpTo_behind (text : List Char) (offset size : Nat) :
    startsUpTo (startsBehind offset text) ((offset + size : Nat) : Int) =
      (text.take size).count '\n' := by
  unfold startsUpTo
  induction text generalizing offset size with
  | nil => rw [List.take_nil]; rfl
  | cons c rest ih =>
    cases size with
    | zero =>
      rw [List.take_zero, List.count_nil, List.countP_eq_zero]
      intro start hstart
      have := lt_of_mem_startsBehind hstart
      simp only [decide_eq_true_eq]
      omega
    | succ size =>
      have hsum : offset + (size + 1) = offset + 1 + size := by omega
      rw [hsum, startsBehind, List.take_succ_cons]
      split
      · rename_i hc
        rw [List.countP_cons_of_pos (by simp only [decide_eq_true_eq]; omega), ih, hc,
          List.count_cons_self]
      · rename_i hc
        rw [ih, List.count_cons_of_ne hc]

/-- One line starts at the front, and one behind each line feed. -/
theorem startsUpTo_lineStarts (text : List Char) (offset : Nat) :
    startsUpTo (lineStarts text) offset = (text.take offset).count '\n' + 1 := by
  have hbehind := startsUpTo_behind text 0 offset
  rw [Nat.zero_add] at hbehind
  unfold startsUpTo at hbehind
  unfold lineStarts startsUpTo
  rw [List.countP_cons_of_pos (by simp only [decide_eq_true_eq]; omega), hbehind]

/-! ## Positions and offsets -/

/-- The line of an offset is the last one that starts at or before it. -/
theorem hasPosition_of_offset (text : List Char) (offset : Nat) :
    HasPosition text ((text.take offset).count '\n')
      (offset - lineStart text ((text.take offset).count '\n') + 1) := by
  have hcount := startsUpTo_lineStarts text offset
  have hlength := length_lineStarts text
  have hline : (text.take offset).count '\n' < (lineStarts text).length := by
    have := startsUpTo_le_length (lineStarts text) offset
    omega
  have hline' : (text.take offset).count '\n' < (textLines text).length := hlength ▸ hline
  refine ⟨hline', ?_, ?_⟩
  · have hbefore := (lt_startsUpTo_iff (sorted_lineStarts text) hline offset).mp (by omega)
    rw [getElem_lineStarts] at hbefore
    omega
  · intro hnext
    have hbehind := mt (lt_startsUpTo_iff (sorted_lineStarts text) (hlength ▸ hnext) offset).mpr
      (by omega)
    rw [getElem_lineStarts] at hbehind
    omega

namespace SourceFile

variable {file : SourceFile} {column : Int}

/-- The line and column of an offset, from the number of starts up to it. -/
theorem lineColumn_of_count {offset : Int} (hline : line < (textLines file.text.toList).length)
    (hcount : startsUpTo file.starts offset = line + 1) :
    file.lineColumn offset = ((line : Int) + 1, offset - lineStart file.text.toList line + 1) := by
  unfold startsUpTo at hcount
  unfold lineColumn
  dsimp only
  rw [hcount, if_neg (Nat.succ_ne_zero line), Nat.add_sub_cancel]
  unfold starts
  rw [getD_lineStarts hline]
  rfl

/-- The line and column of an offset that is not negative: the line feeds in front of it are counted. -/
theorem lineColumn_of_nat (file : SourceFile) (offset : Nat) :
    file.lineColumn offset = (((file.text.toList.take offset).count '\n' : Int) + 1,
      (offset : Int) - lineStart file.text.toList ((file.text.toList.take offset).count '\n') + 1) :=
  lineColumn_of_count (hasPosition_of_offset _ _).line_lt (startsUpTo_lineStarts _ _)

/-- The offset of a line and a column. -/
theorem offsetAt?_of_line (hline : line < (textLines file.text.toList).length) (column : Int) :
    file.offsetAt? (line + 1) column = some (lineStart file.text.toList line + column - 1) := by
  unfold offsetAt? starts
  rw [length_lineStarts, if_pos (by omega), show ((line : Int) + 1 - 1).toNat = line by omega,
    getD_lineStarts hline]

/-- A position is found back from its offset. -/
theorem lineColumn_of_position (h : HasPosition file.text.toList line column) :
    file.lineColumn (lineStart file.text.toList line + column - 1) =
      ((line : Int) + 1, column) := by
  obtain ⟨hline, hcolumn, hnext⟩ := h
  have hlength := length_lineStarts file.text.toList
  have hsorted := sorted_lineStarts file.text.toList
  have hcount : startsUpTo file.starts (lineStart file.text.toList line + column - 1) =
      line + 1 := by
    unfold starts
    have hlow := (lt_startsUpTo_iff hsorted (hlength ▸ hline)
      (lineStart file.text.toList line + column - 1)).mpr (by
        rw [getElem_lineStarts]
        omega)
    have hhigh : ¬line + 1 < startsUpTo (lineStarts file.text.toList)
        (lineStart file.text.toList line + column - 1) := by
      intro hlt
      have hnext' : line + 1 < (lineStarts file.text.toList).length :=
        Nat.lt_of_lt_of_le hlt (startsUpTo_le_length _ _)
      have hle := (lt_startsUpTo_iff hsorted hnext' _).mp hlt
      rw [getElem_lineStarts] at hle
      have := hnext (hlength ▸ hnext')
      omega
    omega
  rw [lineColumn_of_count hline hcount]
  congr 1
  omega

end SourceFile

namespace FileTable

variable {table : FileTable} {id : Int} {file : SourceFile}

/-- The spelling of a location in a known file is its name, line and column. -/
theorem spelling_eq_ok (hfile : table.file id = .ok file) (offset : Int) :
    table.spelling ⟨id, offset⟩ =
      .ok (file.name, (file.lineColumn offset).1, (file.lineColumn offset).2) := by
  unfold spelling
  rw [hfile]
  rfl

/-- A line and column that have an offset are a location. -/
theorem locationAt_eq_ok (hfile : table.file id = .ok file) {line column offset : Int}
    (h : file.offsetAt? line column = some offset) :
    table.locationAt id line column = .ok ⟨id, offset⟩ := by
  unfold locationAt
  rw [hfile]
  simp only [bind, Except.bind, h]

/-- Every offset has a position of the text, which is told by the line feeds in front of it, and that
position leads back to the offset. Every position of the text leads to an offset, which has that
position. -/
theorem positions_inverse (hfile : table.file id = .ok file) :
    (∀ offset : Nat, ∃ (line : Nat) (column : Int),
      line = (file.text.toList.take offset).count '\n' ∧
      column = offset - lineStart file.text.toList line + 1 ∧
      HasPosition file.text.toList line column ∧
      file.lineColumn offset = ((line : Int) + 1, column) ∧
      table.spelling ⟨id, offset⟩ = .ok (file.name, line + 1, column) ∧
      table.locationAt id (line + 1) column = .ok ⟨id, offset⟩) ∧
    ∀ (line : Nat) (column : Int), HasPosition file.text.toList line column →
      ∃ offset : Nat, table.locationAt id (line + 1) column = .ok ⟨id, offset⟩ ∧
        file.lineColumn offset = ((line : Int) + 1, column) ∧
        table.spelling ⟨id, offset⟩ = .ok (file.name, line + 1, column) := by
  constructor
  · intro offset
    have hposition := hasPosition_of_offset file.text.toList offset
    have hfound := file.lineColumn_of_nat offset
    refine ⟨_, _, rfl, rfl, hposition, hfound, ?_, ?_⟩
    · rw [spelling_eq_ok hfile, hfound]
    · rw [locationAt_eq_ok hfile (SourceFile.offsetAt?_of_line hposition.line_lt _)]
      congr 2
      omega
  · intro line column hposition
    have hat := SourceFile.offsetAt?_of_line hposition.line_lt column
    have hback := SourceFile.lineColumn_of_position hposition
    obtain ⟨offset, hoffset⟩ : ∃ offset : Nat,
        (lineStart file.text.toList line : Int) + column - 1 = offset :=
      Int.eq_ofNat_of_zero_le (by have := hposition.column_pos; omega)
    rw [hoffset] at hat hback
    refine ⟨offset, locationAt_eq_ok hfile hat, hback, ?_⟩
    rw [spelling_eq_ok hfile, hback]

/-- A file with an empty line and a line feed at the end. -/
def feedsFile : SourceFile :=
  ⟨"main.c", "ab\n\nc\n", none⟩

/-- The line feed behind the third line has a column of its own, and behind the end of the text the last
line, which is empty, goes on. -/
theorem positions_of_feeds :
    (⟨[feedsFile]⟩ : FileTable).file 1 = .ok feedsFile ∧
      HasPosition feedsFile.text.toList 2 2 ∧
      (∃ offset : Nat, (⟨[feedsFile]⟩ : FileTable).locationAt 1 3 2 = .ok ⟨1, offset⟩ ∧
        feedsFile.lineColumn offset = (3, 2)) ∧
      (⟨[feedsFile]⟩ : FileTable).spelling ⟨1, 9⟩ = .ok ("main.c", 4, 4) := by
  have hfile : (⟨[feedsFile]⟩ : FileTable).file 1 = .ok feedsFile := rfl
  have hposition : HasPosition feedsFile.text.toList 2 2 := ⟨by decide, by decide, by decide⟩
  obtain ⟨hforward, hback⟩ := positions_inverse hfile
  obtain ⟨offset, hat, hfound, -⟩ := hback 2 2 hposition
  obtain ⟨line, column, hline, hcolumn, -, -, hspelled, -⟩ := hforward 9
  refine ⟨hfile, hposition, ⟨offset, hat, hfound⟩, ?_⟩
  have hfour : line = 3 := hline.trans (by decide)
  have hstart : lineStart feedsFile.text.toList 3 = 6 := by decide
  rw [hcolumn, hfour, hstart] at hspelled
  exact hspelled

end FileTable

end Diagnostics

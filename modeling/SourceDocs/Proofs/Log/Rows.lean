import SourceDocs.Proofs.Log.Excerpt

/-!
# Rows of an excerpt

An excerpt consists of rows, one for each line that it shows.  A row is a mark, the number of its
line, a bar and the line (`IsRow`).  The numbers stand in a column that is as wide as the last of
them; as no number before it has more digits (`length_ofNat_mono`), all bars stand below each other.
The main result is `rows_line_up`, that complaints show all lines near a line or of a node, in
order, and no others.
-/

namespace SourceDocs

namespace Text

theorem ofNat_eq (n : Nat) : ofNat n = (Nat.toDigits 10 n).map CodePoint.ofChar := by
  rw [ofNat, ofString, Nat.toList_repr]

theorem length_ofNat (n : Nat) : (ofNat n).length = (Nat.toDigits 10 n).length := by
  rw [ofNat_eq, List.length_map]

/-- A greater number has no fewer digits. -/
theorem length_ofNat_mono {m n : Nat} (h : m ≤ n) : (ofNat m).length ≤ (ofNat n).length := by
  have hwidth : n < 10 ^ (Nat.toDigits 10 n).length :=
    (Nat.length_toDigits_le_iff (by decide) Nat.length_toDigits_pos).1 (Nat.le_refl _)
  rw [length_ofNat, length_ofNat]
  apply (Nat.length_toDigits_le_iff (by decide) Nat.length_toDigits_pos).2
  omega

theorem ofInt_eq {n : Int} (h : 0 ≤ n) : ofInt n = ofNat n.toNat := by
  obtain ⟨k, rfl⟩ := Int.eq_ofNat_of_zero_le h
  rfl

/-- Numbers consist of digits. -/
theorem not_mem_ofNat {c : Char} (hc : c.isDigit = false) (n : Nat) :
    CodePoint.ofChar c ∉ ofNat n := by
  rw [ofNat_eq, List.mem_map]
  rintro ⟨d, hd, heq⟩
  have hdigit : d.isDigit := Nat.isDigit_of_mem_toDigits (by decide) (by decide) hd
  have hnat : d.toNat = c.toNat := congrArg (fun p : CodePoint => p.val) heq
  rw [Char.toNat_inj.1 hnat, hc] at hdigit
  cases hdigit

end Text

namespace Excerpt

variable {lines : List Text} {first last marked number : Int} {width : Nat} {row : Text}

/-! ## Rows -/

/-- What a marked row begins with. -/
def mark : CodePoint := .ofChar '>'

/-- What stands between the number of a line and the line. -/
def bar : CodePoint := .ofChar '|'

/-- What numbers are padded with. -/
def blank : CodePoint := .ofChar ' '

/-- A row for a line of a list: a mark, if the line is the marked one, the number of the line in a
column of a width, a bar, and the line. -/
structure IsRow (lines : List Text) (width : Nat) (marked number : Int) (row : Text) : Prop where
  pos : 1 ≤ number
  parts : ∃ (blanks : Nat) (line : Text), lines[number.toNat - 1]? = some line ∧
    blanks + (Text.ofInt number).length = width ∧
    row = [if number = marked then mark else blank, blank] ++ List.replicate blanks blank ++
      Text.ofInt number ++ [bar, blank] ++ line
  idxOf_bar : row.idxOf bar = width + 2

/-- Only the row of the marked line begins with a mark. -/
theorem IsRow.head (h : IsRow lines width marked number row) :
    row.head? = some mark ↔ number = marked := by
  obtain ⟨blanks, line, -, -, rfl⟩ := h.parts
  show some (if number = marked then mark else blank) = some mark ↔ number = marked
  by_cases heq : number = marked
  · simp [heq]
  · have hblank : blank ≠ mark := by decide
    simp [heq, hblank]

theorem row_eq (width : Nat) (marked number : Int) (line : Text) :
    Excerpt.row width marked number line =
      [if number = marked then mark else blank, blank] ++
        List.replicate (width - (Text.ofInt number).length) blank ++ Text.ofInt number ++
        [bar, blank] ++ line := by
  have hmark : Text.ofString (if number = marked then "> " else "  ") =
      [if number = marked then mark else blank, blank] := by
    split <;> rfl
  rw [Excerpt.row, hmark, padLeft]
  simp only [List.append_assoc]
  rfl

/-- The row of a line that exists, if its number fits into the column. -/
theorem isRow_row (hpos : 1 ≤ number) (hexists : number ≤ lines.length)
    (hwidth : (Text.ofInt number).length ≤ width) :
    IsRow lines width marked number
      (Excerpt.row width marked number (nth lines number.toNat)) := by
  have hlt : number.toNat - 1 < lines.length := by omega
  have hline : lines[number.toNat - 1]? = some (nth lines number.toNat) := by
    rw [nth, List.getElem?_eq_getElem hlt, List.getD_eq_getElem _ _ hlt]
  rw [row_eq]
  refine ⟨hpos, ⟨_, _, hline, by omega, rfl⟩, ?_⟩
  -- No bar stands in front: neither the mark nor a blank nor a digit is one.
  have hfront : bar ∉ [if number = marked then mark else blank, blank] ++
      List.replicate (width - (Text.ofInt number).length) blank ++ Text.ofInt number := by
    have hmark : bar ≠ if number = marked then mark else blank := by split <;> decide
    have hblank : bar ≠ blank := by decide
    have hdigits : bar ∉ Text.ofInt number := by
      rw [Text.ofInt_eq (by omega)]
      exact Text.not_mem_ofNat (by decide) _
    simp [hmark, hblank, hdigits]
  rw [List.append_assoc, List.idxOf_append_of_notMem hfront]
  show _ + 0 = width + 2
  simp only [List.length_append, List.length_cons, List.length_nil, List.length_replicate]
  omega

/-! ## Excerpts -/

/-- Rows for the lines from one number to another, in order, with all numbers in one column. -/
structure Shows (lines : List Text) (first last marked : Int) (rows : List Text) : Prop where
  length : rows.length = (last + 1 - first).toNat
  rows : ∃ width, ∀ (i : Nat) (h : i < rows.length), IsRow lines width marked (first + i) rows[i]

/-- A row is marked if and only if the marked line is among those that are shown. -/
theorem Shows.exists_mark {rows : List Text} (h : Shows lines first last marked rows) :
    (∃ row ∈ rows, row.head? = some mark) ↔ first ≤ marked ∧ marked ≤ last := by
  obtain ⟨width, hrows⟩ := h.rows
  have hlength := h.length
  constructor
  · rintro ⟨row, hmem, hhead⟩
    obtain ⟨i, hi, rfl⟩ := List.mem_iff_getElem.1 hmem
    have hnumber : first + i = marked := (hrows i hi).head.1 hhead
    omega
  · rintro ⟨hfirst, hlast⟩
    have hi : (marked - first).toNat < rows.length := by omega
    refine ⟨rows[(marked - first).toNat], List.getElem_mem hi, (hrows _ hi).head.2 ?_⟩
    omega

/-- An excerpt of lines that exist shows these lines. -/
theorem exists_shows (marked : Int) (hfirst : 1 ≤ first) (hlast : last ≤ lines.length) :
    ∃ rows, Excerpt.rows (nth lines) first last marked = Text.join "\n" rows ∧
      Shows lines first last marked rows := by
  have hlength : (numbers first last).length = (last + 1 - first).toNat := by
    rw [numbers, List.length_map, List.length_range]
  refine ⟨_, rfl, by rw [List.length_map, hlength], (Text.ofInt last).length, fun i hi => ?_⟩
  rw [List.length_map, hlength] at hi
  have hi' : i < (numbers first last).length := by omega
  have hnumber : (numbers first last)[i] = first + i := by
    simp only [numbers, List.getElem_map, List.getElem_range]
  rw [List.getElem_map, hnumber]
  apply isRow_row
  · omega
  · omega
  · rw [Text.ofInt_eq (by omega), Text.ofInt_eq (by omega)]
    exact Text.length_ofNat_mono (by omega)

/-- The line on which a node ends: the one where it begins, if no other is known. -/
def endOf (first : Int) : Option Int → Int
  | none => first
  | some last => if last = 0 then first else last

theorem getD_knownLine (first : Int) (last : Option Int) :
    (Complaint.knownLine last).getD first = endOf first last := by
  cases last with
  | none => rfl
  | some last =>
    rw [Complaint.knownLine, endOf, Option.filter_some]
    by_cases hzero : last = 0 <;> simp [hzero]

end Excerpt

namespace Complaint

open SourceDocs.Action Excerpt

/-- A complaint about a file shows the lines near the one that it is about, which is marked if it
exists; a complaint about a node shows the lines of the node.  All of them exist, and every other
line is left out. -/
theorem rows_line_up {lines : List Text} (hlines : lines ≠ []) :
    (∀ line : Int, 1 ≤ line → ∃ rows,
      around lines line = some (Text.join "\n" rows) ∧
      Shows lines (max 1 (line - 3)) (min lines.length (line + 3)) line rows ∧
      ((∃ row ∈ rows, row.head? = some mark) ↔ line ≤ lines.length) ∧
      ∀ (w : World) (p : Path) (data : List UInt8) (f : SyntaxFault),
        w.entry p = .ok (.file data) → shownLines data = lines → f.line = some line →
        (aboutSource p f).runIn w = (.ok (), { w with
          log := .badSource p f.reason (some line) (some (Text.join "\n" rows)) :: w.log })) ∧
    (∀ (first : Int) (last : Option Int), 1 ≤ first → ∃ rows,
      between lines first (endOf first last) = some (Text.join "\n" rows) ∧
      Shows lines first (min (endOf first last) lines.length) first rows ∧
      ∀ (w : World) (p : Path) (data : List UInt8) (node : Value),
        w.entry p = .ok (.file data) → shownLines data = lines →
        numberOf node "lineno" = some first → numberOf node "end_lineno" = last →
        (aboutNode p node).runIn w = (.ok (), { w with
          log := .badNode p node.typeName (some first) (some (Text.join "\n" rows)) ::
            w.log })) := by
  constructor
  · intro line hline
    have hfirst : 1 ≤ max 1 (line - 3) := Int.le_max_left _ _
    have hlast : min (lines.length : Int) (line + 3) ≤ lines.length := Int.min_le_left _ _
    obtain ⟨rows, hrows, hshows⟩ := exists_shows line hfirst hlast
    refine ⟨rows, ?_, hshows, ?_, ?_⟩
    · rw [around_eq]
      exact congrArg some hrows
    · rw [hshows.exists_mark]
      omega
    · rintro w p data f hfile rfl hnumber
      rw [runIn_aboutSource hfile hlines hnumber (by omega), ← hrows]
      rfl
  · intro first last hfirst
    have hlast : min (endOf first last) lines.length ≤ lines.length := Int.min_le_right _ _
    obtain ⟨rows, hrows, hshows⟩ := exists_shows first hfirst hlast
    refine ⟨rows, ?_, hshows, ?_⟩
    · rw [between_eq _ hfirst, hrows]
    · rintro w p data node hfile rfl hnumber rfl
      rw [aboutNode, hnumber, runIn_aboutLines hfile hlines hfirst, getD_knownLine, hrows]

/-! ## A file of twelve lines -/

/-- A file whose lines are letters. -/
def letterBytes : List UInt8 := "a\nb\nc\nd\ne\nf\ng\nh\ni\nj\nk\nl\n".toList.map fun c =>
  UInt8.ofNat c.toNat

/-- The path of a file with these bytes. -/
def letterPath : Path := ⟨1, ["a.py"]⟩

/-- A tree with this file. -/
def lettering : World where
  tree := .directory [("a.py", .file letterBytes)]
  current := []
  home := ⟨1, []⟩

theorem shownLines_letterBytes : shownLines letterBytes =
    ["a", "b", "c", "d", "e", "f", "g", "h", "i", "j", "k", "l"] := by
  decide +kernel

/-- The numbers around the tenth line are padded to two digits; around a line behind the last one
there is no mark; and a node that ends behind the last line is shown up to there. -/
theorem rows_line_up_letters : shownLines letterBytes ≠ [] ∧
    lettering.entry letterPath = .ok (.file letterBytes) ∧
    (∀ reason, (aboutSource letterPath ⟨letterPath, reason, some 10, none⟩).runIn lettering =
      (.ok (), { lettering with log := [.badSource letterPath reason (some 10)
        (some "   7| g\n   8| h\n   9| i\n> 10| j\n  11| k\n  12| l")] })) ∧
    (∀ reason, (aboutSource letterPath ⟨letterPath, reason, some 14, none⟩).runIn lettering =
      (.ok (), { lettering with log := [.badSource letterPath reason (some 14)
        (some "  11| k\n  12| l")] })) ∧
    (aboutNode letterPath (.node .pass [] [("lineno", .int 9), ("end_lineno", .int 20)])).runIn
      lettering = (.ok (), { lettering with log := [.badNode letterPath "Pass" (some 9)
        (some ">  9| i\n  10| j\n  11| k\n  12| l")] }) := by
  have hlines : shownLines letterBytes ≠ [] := by
    rw [shownLines_letterBytes]
    exact List.cons_ne_nil _ _
  have hfile : lettering.entry letterPath = .ok (.file letterBytes) := entry_alone letterBytes
  obtain ⟨hsource, hnode⟩ := rows_line_up hlines
  refine ⟨hlines, hfile, fun reason => ?_, fun reason => ?_, ?_⟩
  · obtain ⟨rows, haround, -, -, hreport⟩ := hsource 10 (by decide)
    have hshown : around (shownLines letterBytes) 10 =
        some "   7| g\n   8| h\n   9| i\n> 10| j\n  11| k\n  12| l" := by decide +kernel
    rw [hreport lettering letterPath letterBytes _ hfile rfl rfl, ← haround, hshown]
    rfl
  · obtain ⟨rows, haround, -, -, hreport⟩ := hsource 14 (by decide)
    have hshown : around (shownLines letterBytes) 14 = some "  11| k\n  12| l" := by decide +kernel
    rw [hreport lettering letterPath letterBytes _ hfile rfl rfl, ← haround, hshown]
    rfl
  · obtain ⟨rows, hbetween, -, hreport⟩ := hnode 9 (some 20) (by decide)
    have hshown : between (shownLines letterBytes) 9 (endOf 9 (some 20)) =
        some ">  9| i\n  10| j\n  11| k\n  12| l" := by decide +kernel
    rw [hreport lettering letterPath letterBytes _ hfile rfl rfl rfl, ← hbetween, hshown]
    rfl

end Complaint

end SourceDocs

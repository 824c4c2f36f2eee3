import SourceDocs.Proofs.Looking
import SourceDocs.Proofs.Source.Coding

/-!
# What complaints show of a file

A complaint about a file or about a node in it shows numbered lines of the file (`Excerpt.rows`).
`lines_shown` compares these lines with those that the parser counts.
-/

namespace SourceDocs

namespace Excerpt

variable {lines : List Text} {start stop marked : Int}

/-- The rows of an excerpt, given the line with each number. -/
def rows (line : Nat → Text) (start stop marked : Int) : Text :=
  Text.join "\n" ((numbers start stop).map fun n =>
    row (Text.ofInt stop).length marked n (line n.toNat))

/-- The line of a list with a number; the first one has the number one. -/
def nth (lines : List Text) (number : Nat) : Text := lines.getD (number - 1) []

theorem mem_numbers {n : Int} : n ∈ numbers start stop ↔ start ≤ n ∧ n ≤ stop := by
  rw [numbers, List.mem_map]
  constructor
  · rintro ⟨i, hi, rfl⟩
    rw [List.mem_range] at hi
    omega
  · rintro ⟨hstart, hstop⟩
    refine ⟨(n - start).toNat, List.mem_range.2 ?_, ?_⟩ <;> omega

theorem lineAt?_eq {n : Int} (hpos : 1 ≤ n) (hlast : n ≤ lines.length) :
    lineAt? lines n = some (nth lines n.toNat) := by
  have hsome : ¬(n - 1 < 0) := by omega
  have hlt : (n - 1).toNat < lines.length := by omega
  have hindex : n.toNat - 1 = (n - 1).toNat := by omega
  rw [lineAt?, if_neg hsome, if_neg hsome, List.getElem?_eq_getElem hlt, nth, hindex,
    List.getD_eq_getElem _ _ hlt]

theorem mapM_eq_some {α β : Type} {f : α → Option β} {g : α → β} {l : List α}
    (h : ∀ a ∈ l, f a = some (g a)) : l.mapM f = some (l.map g) := by
  induction l with
  | nil => rfl
  | cons a rest ih =>
    rw [List.mapM_cons, h a List.mem_cons_self, ih fun b hb => h b (List.mem_cons_of_mem _ hb)]
    rfl

/-- An excerpt of lines that exist has a row for each of them. -/
theorem excerpt_eq (hstart : 1 ≤ start) (hstop : stop ≤ lines.length) :
    excerpt lines start stop marked = some (rows (nth lines) start stop marked) := by
  have hrows := mapM_eq_some (l := numbers start stop)
    (f := fun n => (lineAt? lines n).map (row (Text.ofInt stop).length marked n))
    (g := fun n => row (Text.ofInt stop).length marked n (nth lines n.toNat)) fun n hn => by
      obtain ⟨hfirst, hlast⟩ := mem_numbers.1 hn
      rw [lineAt?_eq (by omega) (by omega)]
      rfl
  rw [excerpt, hrows]
  rfl

/-- An excerpt around a line leaves out the lines that do not exist. -/
theorem around_eq (lines : List Text) (line : Int) : around lines line =
    some (rows (nth lines) (max 1 (line - contextLines))
      (min lines.length (line + contextLines)) line) :=
  excerpt_eq (Int.le_max_left _ _) (Int.min_le_left _ _)

theorem between_eq {first : Int} (last : Int) (h : 1 ≤ first) : between lines first last =
    some (rows (nth lines) first (min last lines.length) first) :=
  excerpt_eq h (Int.min_le_right _ _)

end Excerpt

namespace Complaint

open SourceDocs.Action Source Excerpt

variable {w : World} {p : Path} {data : List UInt8}

/-- The lines of a file as they are shown. -/
def shownLines (data : List UInt8) : List Text :=
  Lines.split (Lines.universal (Utf8.decodeReplacing data))

/-- The text of a file with unified line ends. -/
def sourceText (data : List UInt8) : Text := ended (Lines.universal (Utf8.decodeReplacing data))

theorem runIn_readLines (hfile : w.entry p = .ok (.file data)) :
    (Files.readLines p).runIn w = (.ok (shownLines data), w) := by
  rw [Files.readLines, runIn_attempt_bind, runIn_readBytes, hfile]
  rfl

/-- A complaint about a file in which a line is known shows the lines around it. -/
theorem runIn_aboutSource {f : SyntaxFault} {line : Int} (hfile : w.entry p = .ok (.file data))
    (hlines : shownLines data ≠ []) (hline : f.line = some line) (hknown : line ≠ 0) :
    (aboutSource p f).runIn w = (.ok (), { w with
      log := .badSource p f.reason (some line) (some (rows (nth (shownLines data))
        (max 1 (line - contextLines)) (min (shownLines data).length (line + contextLines)) line))
        :: w.log }) := by
  have hknown : knownLine f.line = some line := by simp [knownLine, hline, hknown]
  obtain ⟨first, rest, hshown⟩ := List.exists_cons_of_ne_nil hlines
  rw [aboutSource, runIn_bind_ok (runIn_readLines hfile), hknown, hshown]
  simp only [around_eq]
  rfl

/-- A complaint about a node with a line shows the lines from there to the node's end. -/
theorem runIn_aboutLines {typeName : String} {first : Int} {last : Option Int}
    (hfile : w.entry p = .ok (.file data)) (hlines : shownLines data ≠ []) (hfirst : 1 ≤ first) :
    (aboutLines p typeName (some first) last).runIn w = (.ok (), { w with
      log := .badNode p typeName (some first) (some (rows (nth (shownLines data)) first
        (min ((knownLine last).getD first) (shownLines data).length) first)) :: w.log }) := by
  have hknown : knownLine (some first) = some first := by
    simp [knownLine, show first ≠ 0 by omega]
  obtain ⟨head, rest, hshown⟩ := List.exists_cons_of_ne_nil hlines
  rw [aboutLines, runIn_bind_ok (runIn_readLines hfile), hknown, hshown]
  simp only [between_eq _ hfirst]
  rfl

/-- Complaints show the lines around a line, or those of a node.  Up to any line, what they show
next to each number is the line that the parser counts as this one exactly if none of these lines
holds a line boundary; in a file in UTF-8 they are the lines of the text that the parser reads, but
for the mark at its start. -/
theorem lines_shown (hfile : w.entry p = .ok (.file data)) (hlines : shownLines data ≠ []) :
    (∀ (f : SyntaxFault) (line : Int), f.line = some line → line ≠ 0 →
      (aboutSource p f).runIn w = (.ok (), { w with
        log := .badSource p f.reason (some line) (some (rows (nth (shownLines data))
          (max 1 (line - contextLines)) (min (shownLines data).length (line + contextLines)) line))
          :: w.log })) ∧
    (∀ (node : Value) (first : Int), numberOf node "lineno" = some first → 1 ≤ first →
      (aboutNode p node).runIn w = (.ok (), { w with
        log := .badNode p node.typeName (some first) (some (rows (nth (shownLines data)) first
          (min ((knownLine (numberOf node "end_lineno")).getD first) (shownLines data).length)
          first)) :: w.log })) ∧
    (∀ last : Nat,
      (∀ k, 1 ≤ k → k ≤ last → nth (shownLines data) k = lineAt (sourceText data) k) ↔
        ∀ k, 1 ≤ k → k ≤ last → ∀ c ∈ lineAt (sourceText data) k, Lines.isBoundary c = false) ∧
    ∀ t, Utf8.encode? t = some data → (∀ c ∈ t, c.val ≠ 0) →
      (∀ name, declared ((unmarked (sourceText data)).flatMap Utf8.encodePoint) = some name →
        name = "utf-8") →
      decode data = .ok (unmarked (sourceText data)) ∧
      ∀ k, lineAt (unmarked (sourceText data)) k =
        if k = 1 then unmarked (lineAt (sourceText data) k) else lineAt (sourceText data) k := by
  refine ⟨fun f line => runIn_aboutSource hfile hlines, fun node first hnumber hfirst => ?_,
    fun last => ?_, fun t hencode hnul hdeclared => ⟨?_, lineAt_unmarked _⟩⟩
  · rw [aboutNode, hnumber]
    exact runIn_aboutLines hfile hlines hfirst
  · exact getD_split_eq_iff (Utf8.decodeReplacing data) last
  · rw [sourceText, Utf8.decodeReplacing_of_encode? hencode] at hdeclared ⊢
    exact decode_of_encode? hencode hnul hdeclared

/-! ## A form feed -/

/-- A source text with a form feed on its first line, whose second line is not well formed. -/
def feedText : Text := "x = 1\x0c\ny = (\n"

/-- The bytes of this text. -/
def feedBytes : List UInt8 := feedText.flatMap Utf8.encodePoint

/-- The path of a file with these bytes. -/
def feedPath : Path := ⟨1, ["a.py"]⟩

/-- A tree with this file. -/
def feeding : World where
  tree := .directory [("a.py", .file feedBytes)]
  current := []
  home := ⟨1, []⟩

/-- A file that is alone is found, whatever bytes are in it. -/
theorem entry_alone (data : List UInt8) :
    World.entry { tree := .directory [("a.py", .file data)], current := [], home := ⟨1, []⟩ }
      ⟨1, ["a.py"]⟩ = .ok (.file data) := rfl

theorem shownLines_feedBytes : shownLines feedBytes = ["x = 1", "", "y = ("] := by decide +kernel

theorem shownLines_feedBytes_ne_nil : shownLines feedBytes ≠ [] := by
  rw [shownLines_feedBytes]
  exact List.cons_ne_nil _ _

/-- What is shown of the file around its second line. -/
def feedExcerpt : Text := "  1| x = 1\n> 2| \n  3| y = ("

theorem rows_feedBytes : rows (nth (shownLines feedBytes)) (max 1 (2 - contextLines))
    (min (shownLines feedBytes).length (2 + contextLines)) 2 = feedExcerpt := by
  decide +kernel

/-- The form feed is a line boundary on the first line that the parser counts, so that what is shown
goes wrong from there on. -/
theorem lines_shown_feeding : feeding.entry feedPath = .ok (.file feedBytes) ∧
    shownLines feedBytes ≠ [] ∧
    (∀ f : SyntaxFault, f.line = some 2 → (aboutSource feedPath f).runIn feeding =
      (.ok (), { feeding with
        log := [.badSource feedPath f.reason (some 2) (some feedExcerpt)] })) ∧
    ¬ ∀ k, 1 ≤ k → k ≤ 1 → nth (shownLines feedBytes) k = lineAt (sourceText feedBytes) k := by
  have hfile : feeding.entry feedPath = .ok (.file feedBytes) := entry_alone feedBytes
  obtain ⟨hsource, -, hexact, -⟩ := lines_shown hfile shownLines_feedBytes_ne_nil
  refine ⟨hfile, shownLines_feedBytes_ne_nil, fun f hline => ?_, fun hsame => ?_⟩
  · rw [hsource f 2 hline (by decide), rows_feedBytes]
    rfl
  · have hplain := (hexact 1).1 hsame 1 (Nat.le_refl 1) (Nat.le_refl 1) (CodePoint.ofChar '\x0c')
      (by decide +kernel)
    revert hplain
    decide

/-- Whether a file is malformed on a line. -/
def isFaultOn (line : Int) (r : Except Failure Value) : Bool :=
  match r with
  | .error (.source f) => decide (f.line = some line)
  | _ => false

theorem exists_of_isFaultOn {line : Int} {r : Except Failure Value} (h : isFaultOn line r = true) :
    ∃ f, r = .error (.source f) ∧ f.line = some line := by
  unfold isFaultOn at h
  split at h
  case h_1 f => exact ⟨f, rfl, of_decide_eq_true h⟩
  case h_2 => cases h

/-- The parser finds the fault on the second line, `y = (`, but an empty line is marked. -/
theorem wrong_line_marked : ∃ f,
    ((Extraction.parseFile feedPath).runIn feeding).1 = .error (.source f) ∧ f.line = some 2 ∧
    decode feedBytes = .ok feedText ∧ lineAt feedText 2 = "y = (" ∧
    (aboutSource feedPath f).runIn feeding = (.ok (), { feeding with
      log := [.badSource feedPath f.reason (some 2) (some "  1| x = 1\n> 2| \n  3| y = (")] }) := by
  have hfault : isFaultOn 2 ((Extraction.parseFile feedPath).runIn feeding).1 = true := by
    decide +kernel
  obtain ⟨f, hparse, hline⟩ := exists_of_isFaultOn hfault
  have hread : decode feedBytes = .ok feedText := by
    have htext : unmarked (ended (Lines.universal feedText)) = feedText := by decide +kernel
    have hundeclared : declared (feedText.flatMap Utf8.encodePoint) = none := by rfl
    have hencode : Utf8.encode? feedText = some feedBytes := if_pos (by decide +kernel)
    have hnul : feedText.all (fun c => decide (c.val ≠ 0)) = true := by decide +kernel
    have hdecode := decode_of_encode? hencode (by simpa using hnul) fun name hname => by
      rw [htext, hundeclared] at hname
      cases hname
    rw [hdecode, htext]
  refine ⟨f, hparse, hline, hread, by decide +kernel, ?_⟩
  have hfile : feeding.entry feedPath = .ok (.file feedBytes) := entry_alone feedBytes
  rw [runIn_aboutSource hfile shownLines_feedBytes_ne_nil hline (by decide), rows_feedBytes]
  rfl

end Complaint

end SourceDocs

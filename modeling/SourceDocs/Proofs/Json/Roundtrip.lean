import SourceDocs.Proofs.Json.Entries
import SourceDocs.Proofs.Json.Reading

/-!
# What is written is read back

`Data v` says that JSON can hold a value as it is.  Such a value has an indented text, which is free
of surrogates and is read as the value (`Data.indented`).
-/

namespace SourceDocs

namespace Text

theorem isWellFormed_append {s t : Text} (hs : s.isWellFormed) (ht : t.isWellFormed) :
    isWellFormed (s ++ t) := by
  rw [isWellFormed, List.all_append, Bool.and_eq_true]
  exact ⟨hs, ht⟩

theorem isWellFormed_map_ofChar (cs : List Char) : isWellFormed (cs.map CodePoint.ofChar) := by
  rw [isWellFormed, List.all_map, List.all_eq_true]
  intro c _
  have hvalid := c.valid
  have hval : (CodePoint.ofChar c).val = c.toNat := rfl
  simp only [UInt32.isValidChar, Nat.isValidChar] at hvalid
  simp only [Function.comp_apply, CodePoint.isSurrogate, hval, Char.toNat, Bool.not_eq_true',
    Bool.and_eq_false_iff, decide_eq_false_iff_not]
  omega

theorem isWellFormed_ofString (s : String) : isWellFormed (ofString s) :=
  isWellFormed_map_ofChar _

theorem isWellFormed_join {separator : Text} (hseparator : separator.isWellFormed) {ts : List Text}
    (h : ∀ t ∈ ts, isWellFormed t) : isWellFormed (join separator ts) := by
  induction ts with
  | nil => rfl
  | cons t rest ih =>
    have hrest := ih fun t ht => h t (List.mem_cons_of_mem _ ht)
    cases rest with
    | nil => exact h t List.mem_cons_self
    | cons s rest =>
      exact isWellFormed_append (isWellFormed_append (h t List.mem_cons_self) hseparator) hrest

theorem isWellFormed_ofInt (n : Int) : isWellFormed (ofInt n) := by
  cases n with
  | ofNat k => exact isWellFormed_ofString _
  | negSucc k => exact isWellFormed_append (isWellFormed_ofString "-") (isWellFormed_ofString _)

end Text

namespace Json

/-! ## Data -/

/-- Values that JSON can hold as they are. -/
inductive Data : Value → Prop where
  | null : Data .null
  | bool (b : Bool) : Data (.bool b)
  | int {n : Int} : (Text.ofNat n.natAbs).length ≤ digitLimit → Data (.int n)
  | float {x : Binary64} : RoundTrips x → Data (.float x)
  | text {t : Text} : t.isWellFormed → Data (.text t)
  | list {items : List Value} : (∀ v ∈ items, Data v) → Data (.list items)
  | mapping {entries : List (Value × Value)} : TextKeys entries →
      (∀ e ∈ entries, Data e.1) → (∀ e ∈ entries, Data e.2) → Data (.mapping entries)

theorem Data.name {t : Text} (h : Data (.text t)) : t.isWellFormed := by
  cases h
  assumption

/-! ## Layout -/

theorem isWellFormed_escape {c : CodePoint} (h : c.isSurrogate = false) :
    (escape c).isWellFormed := by
  have hself : Text.isWellFormed [c] := by simp [Text.isWellFormed, h]
  rw [escape]
  split
  case h_6 =>
    split_ifs
    · exact Text.isWellFormed_ofString _
    · exact Text.isWellFormed_ofString _
    · exact Text.isWellFormed_map_ofChar _
    · exact hself
  all_goals exact Text.isWellFormed_ofString _

theorem isWellFormed_quote {t : Text} (h : t.isWellFormed) : (quote t).isWellFormed := by
  have hinside : Text.isWellFormed (t.flatMap escape) := by
    induction t with
    | nil => rfl
    | cons c rest ih =>
      rw [Text.isWellFormed, List.all_cons, Bool.and_eq_true, Bool.not_eq_true'] at h
      exact Text.isWellFormed_append (isWellFormed_escape h.1) (ih h.2)
  exact Text.isWellFormed_append
    (Text.isWellFormed_append (Text.isWellFormed_ofString "\"") hinside)
    (Text.isWellFormed_ofString "\"")

theorem blank_lineBreak (depth : Nat) : Blank (lineBreak depth) := by
  intro c hc
  rw [lineBreak, chars_append, chars_ofChar, chars, List.map_replicate, toChar_ofChar] at hc
  rcases List.mem_append.1 hc with hc | hc
  · rw [List.mem_singleton.1 hc]
    rfl
  · rw [List.eq_of_mem_replicate hc]
    rfl

theorem isWellFormed_lineBreak (depth : Nat) : (lineBreak depth).isWellFormed := by
  have hchars : lineBreak depth =
      ('\n' :: List.replicate (2 * depth) ' ').map CodePoint.ofChar := by
    rw [List.map_cons, List.map_replicate]
    rfl
  rw [hchars]
  exact Text.isWellFormed_map_ofChar _

/-- A value has an indented text that is read as this value. -/
def Prints (v : Value) : Prop :=
  ∀ depth, ∃ t, indented depth v = .ok t ∧ t.isWellFormed ∧ Reads v t

theorem exists_indentedAll {items : List Value} (h : ∀ v ∈ items, Prints v) (depth : Nat) :
    ∃ ts, indentedAll depth items = .ok ts ∧ (∀ t ∈ ts, t.isWellFormed) ∧
      List.Forall₂ Reads items ts := by
  induction items with
  | nil => exact ⟨[], rfl, fun _ ht => absurd ht List.not_mem_nil, .nil⟩
  | cons v rest ih =>
    obtain ⟨t, ht, hformed, hreads⟩ := h v List.mem_cons_self depth
    obtain ⟨ts, hts, hallFormed, hall⟩ := ih fun v hv => h v (List.mem_cons_of_mem _ hv)
    refine ⟨t :: ts, ?_, ?_, .cons hreads hall⟩
    · rw [indentedAll, ht, hts]
      rfl
    · exact List.forall_mem_cons.2 ⟨hformed, hallFormed⟩

theorem exists_indentedEntries {entries : List (Value × Value)} (hkeys : TextKeys entries)
    (hnames : ∀ e ∈ entries, ∀ t, e.1 = .text t → t.isWellFormed)
    (h : ∀ e ∈ entries, Prints e.2) (depth : Nat) :
    ∃ ts, indentedEntries depth entries = .ok ts ∧ (∀ t ∈ ts, t.isWellFormed) ∧
      List.Forall₂ ReadsEntry entries ts := by
  induction entries with
  | nil => exact ⟨[], rfl, fun _ ht => absurd ht List.not_mem_nil, .nil⟩
  | cons e rest ih =>
    obtain ⟨key, v⟩ := e
    obtain ⟨name, rfl⟩ : ∃ t, key = .text t := hkeys.text (key, v) List.mem_cons_self
    have hname := hnames _ List.mem_cons_self name rfl
    obtain ⟨t, ht, hformed, hreads⟩ := h _ List.mem_cons_self depth
    obtain ⟨ts, hts, hallFormed, hall⟩ := ih hkeys.tail
      (fun e he => hnames e (List.mem_cons_of_mem _ he)) fun e he => h e (List.mem_cons_of_mem _ he)
    refine ⟨(quote name ++ Text.ofString ": " ++ t) :: ts, ?_, ?_,
      .cons ⟨name, t, rfl, hname, hreads, rfl⟩ hall⟩
    · rw [indentedEntries, ht, hts]
      rfl
    · exact List.forall_mem_cons.2 ⟨Text.isWellFormed_append (Text.isWellFormed_append
        (isWellFormed_quote hname) (Text.isWellFormed_ofString _)) hformed, hallFormed⟩

theorem isWellFormed_block (opening closing : String) (depth : Nat) {ts : List Text}
    (h : ∀ t ∈ ts, t.isWellFormed) : (block opening closing depth ts).isWellFormed := by
  have hopening := Text.isWellFormed_ofString opening
  have hclosing := Text.isWellFormed_ofString closing
  have hseparator : (Text.ofChar ',' ++ lineBreak (depth + 1)).isWellFormed :=
    Text.isWellFormed_append (Text.isWellFormed_ofString ",") (isWellFormed_lineBreak _)
  rw [block]
  split_ifs
  · exact Text.isWellFormed_append hopening hclosing
  · exact Text.isWellFormed_append (Text.isWellFormed_append (Text.isWellFormed_append
      (Text.isWellFormed_append hopening (isWellFormed_lineBreak _))
      (Text.isWellFormed_join hseparator h)) (isWellFormed_lineBreak _)) hclosing

theorem reads_block_list {items : List Value} {ts : List Text} (h : List.Forall₂ Reads items ts)
    (depth : Nat) : Reads (.list items) (block "[" "]" depth ts) := by
  cases h with
  | nil => exact reads_nil
  | cons hv hitems =>
    exact reads_list (blank_lineBreak (depth + 1)) (blank_lineBreak depth)
      (blank_lineBreak (depth + 1)) (.cons hv hitems) (List.cons_ne_nil _ _)

theorem reads_block_mapping {entries : List (Value × Value)} {ts : List Text}
    (hkeys : TextKeys entries) (h : List.Forall₂ ReadsEntry entries ts) (depth : Nat) :
    Reads (.mapping entries) (block "\x7b" "\x7d" depth ts) := by
  have hentries := ofEntries_eq hkeys
  cases h with
  | nil => exact reads_empty
  | cons he hrest =>
    rw [← hentries]
    exact reads_mapping (blank_lineBreak (depth + 1)) (blank_lineBreak depth)
      (blank_lineBreak (depth + 1)) (.cons he hrest) (List.cons_ne_nil _ _)

/-! ## Writing and reading -/

/-- Data has an indented text at every depth, and it is read as the data that it is the text of. -/
theorem Data.prints {v : Value} (h : Data v) : Prints v := by
  induction h with
  | null => exact fun _ => ⟨_, rfl, Text.isWellFormed_ofString _, reads_word (by simp [words])⟩
  | bool b =>
    refine fun _ => ⟨_, rfl, Text.isWellFormed_ofString _, ?_⟩
    cases b <;> exact reads_word (by simp [words])
  | int hlimit =>
    refine fun _ => ⟨_, ?_, ?_, reads_int hlimit⟩
    · exact if_neg (Nat.not_lt.2 hlimit)
    · exact Text.isWellFormed_ofInt _
  | float hx => exact fun _ => ⟨_, rfl, Text.isWellFormed_ofString _, reads_float hx⟩
  | text ht => exact fun _ => ⟨_, rfl, isWellFormed_quote ht, reads_text ht⟩
  | list _ ih =>
    intro depth
    obtain ⟨ts, hts, hformed, hreads⟩ := exists_indentedAll ih (depth + 1)
    refine ⟨block "[" "]" depth ts, ?_, isWellFormed_block _ _ _ hformed,
      reads_block_list hreads depth⟩
    rw [Json.indented, hts]
    rfl
  | mapping hkeys hnames _ _ ih =>
    intro depth
    obtain ⟨ts, hts, hformed, hreads⟩ := exists_indentedEntries hkeys
      (fun e he t ht => (ht ▸ hnames e he : Data (.text t)).name) ih (depth + 1)
    refine ⟨block "\x7b" "\x7d" depth ts, ?_, isWellFormed_block _ _ _ hformed,
      reads_block_mapping hkeys hreads depth⟩
    rw [Json.indented, hts]
    rfl

end Json

end SourceDocs

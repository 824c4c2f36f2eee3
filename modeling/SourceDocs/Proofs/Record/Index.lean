import SourceDocs.Output
import SourceDocs.Proofs.Files.Refused
import SourceDocs.Proofs.Json.Roundtrip
import SourceDocs.Proofs.Text.Utf8

/-!
# The index, read back

A record is written as the mapping of its fields and of what its payload adds to them
(`toValue_eq`).  The main result is `index_reads_back`: the index of records that JSON can hold is
written, unless the file system refuses, and is read as one such mapping for each record.
-/

namespace SourceDocs

open Json

namespace DocRecord

/-! ## Records as mappings -/

/-- The names of the fields that every record has. -/
def coreNames : List String := ["__docId__", "kind", "name", "longname", "static", "access"]

/-- The payload without what is named like a field. -/
def additions (r : DocRecord) : List (Text × Value) :=
  r.payload.filter fun e => !coreNames.any e.1.isString

/-- An entry of a payload as that of a mapping. -/
def textEntry (e : Text × Value) : Value × Value := (.text e.1, e.2)

/-- Whether there is an entry under a text. -/
def holdsText (entries : List (Value × Value)) (t : Text) : Bool :=
  entries.any fun e => Value.keyEq e.1 (.text t)

theorem setDefault_eq (entries : List (Value × Value)) (t : Text) (v : Value) :
    Value.setDefault entries (.text t) v =
      if holdsText entries t then entries else entries ++ [(.text t, v)] := rfl

theorem holdsText_append_singleton (entries : List (Value × Value)) {s t : Text} (v : Value)
    (hne : t ≠ s) : holdsText (entries ++ [(.text s, v)]) t = holdsText entries t := by
  have hnew : Value.keyEq (.text s) (.text t) = false :=
    Bool.eq_false_iff.2 fun h => hne (Value.text.inj ((keyEq_text ⟨s, rfl⟩ t).1 h)).symm
  simp [holdsText, hnew]

/-- What is in a payload under a name that is taken is left out, and the rest is added in order. -/
theorem foldl_setDefault_eq (acc : List (Value × Value)) {payload : List (Text × Value)}
    (hnames : (payload.map Prod.fst).Nodup) :
    payload.foldl (fun acc e => Value.setDefault acc (.text e.1) e.2) acc =
      acc ++ (payload.filter fun e => !holdsText acc e.1).map textEntry := by
  induction payload generalizing acc with
  | nil => simp
  | cons e rest ih =>
    rw [List.map_cons, List.nodup_cons] at hnames
    rw [List.foldl_cons, setDefault_eq]
    split_ifs with hholds
    · rw [ih acc hnames.2, List.filter_cons_of_neg (by simp [hholds])]
    · -- The names behind are others, so that the new entry leaves none of them out.
      have hsame : (rest.filter fun e' => !holdsText (acc ++ [(.text e.1, e.2)]) e'.1) =
          rest.filter fun e' => !holdsText acc e'.1 := by
        refine List.filter_congr fun e' he' => ?_
        have hne : e'.1 ≠ e.1 := fun heq => hnames.1 (heq ▸ List.mem_map_of_mem he')
        rw [holdsText_append_singleton acc e.2 hne]
      rw [ih _ hnames.2, hsame, List.filter_cons_of_pos (by simp [hholds]), List.map_cons,
        List.append_assoc]
      rfl

theorem map_fst_coreEntries (r : DocRecord) :
    r.coreEntries.map Prod.fst = coreNames.map Value.ofString := rfl

theorem holdsText_coreEntries (r : DocRecord) (t : Text) :
    holdsText r.coreEntries t = coreNames.any t.isString := by
  have hname (name : String) : Value.keyEq (Value.ofString name) (.text t) = t.isString name := by
    rw [Value.ofString, Bool.eq_iff_iff, keyEq_text ⟨_, rfl⟩ t, Text.isString, decide_eq_true_eq,
      Value.text.injEq]
    exact eq_comm
  simp only [holdsText, coreEntries, coreNames, List.any_cons, List.any_nil, hname]

/-- The entries of a record: its fields, and then what the payload adds to them. -/
def entries (r : DocRecord) : List (Value × Value) := r.coreEntries ++ r.additions.map textEntry

theorem toValue_eq {r : DocRecord} (hnames : (r.payload.map Prod.fst).Nodup) :
    r.toValue = .mapping r.entries := by
  rw [toValue, foldl_setDefault_eq _ hnames, entries, additions]
  simp only [holdsText_coreEntries]

/-- No name stands twice among the entries of a record. -/
theorem textKeys_entries {r : DocRecord} (hnames : (r.payload.map Prod.fst).Nodup) :
    TextKeys r.entries where
  text := by
    intro e he
    rcases List.mem_append.1 he with he | he
    · simp only [coreEntries, List.mem_cons, List.not_mem_nil, or_false] at he
      rcases he with rfl | rfl | rfl | rfl | rfl | rfl <;> exact ⟨_, rfl⟩
    · obtain ⟨a, -, rfl⟩ := List.mem_map.1 he
      exact ⟨a.1, rfl⟩
  nodup := by
    have hadditions : (r.additions.map textEntry).map Prod.fst =
        (r.additions.map Prod.fst).map Value.text := by
      rw [List.map_map, List.map_map]
      rfl
    have hnodup : (r.additions.map Prod.fst).Nodup :=
      hnames.sublist (List.filter_sublist.map Prod.fst)
    rw [entries, List.map_append, hadditions, map_fst_coreEntries, List.nodup_append]
    refine ⟨List.Nodup.map ofString_injective (by decide),
      hnodup.map fun _ _ => Value.text.inj, ?_⟩
    rintro k hk k' hk' rfl
    obtain ⟨name, hname, rfl⟩ := List.mem_map.1 hk
    obtain ⟨t, ht, heq⟩ := List.mem_map.1 hk'
    obtain ⟨a, ha, rfl⟩ := List.mem_map.1 ht
    have hnot := (List.mem_filter.1 ha).2
    refine absurd hnot ?_
    rw [Bool.not_eq_true, Bool.not_eq_false', List.any_eq_true]
    exact ⟨name, hname, decide_eq_true (Value.text.inj heq)⟩

/-- A record that JSON can hold as it is. -/
structure IsData (r : DocRecord) : Prop where
  docId : Data (.int r.docId)
  kind : r.kind.isWellFormed
  name : r.name.isWellFormed
  longname : r.longname.isWellFormed
  access : r.access.isWellFormed
  distinct : (r.payload.map Prod.fst).Nodup
  payloadNames : ∀ e ∈ r.payload, e.1.isWellFormed
  payload : ∀ e ∈ r.payload, Data e.2

theorem IsData.toValue {r : DocRecord} (h : r.IsData) : Data r.toValue := by
  have hcore : ∀ e ∈ r.coreEntries, Data e.1 ∧ Data e.2 := by
    have hname (name : String) : Data (Value.ofString name) :=
      .text (Text.isWellFormed_ofString name)
    intro e he
    simp only [coreEntries, List.mem_cons, List.not_mem_nil, or_false] at he
    rcases he with rfl | rfl | rfl | rfl | rfl | rfl
    · exact ⟨hname _, h.docId⟩
    · exact ⟨hname _, .text h.kind⟩
    · exact ⟨hname _, .text h.name⟩
    · exact ⟨hname _, .text h.longname⟩
    · exact ⟨hname _, .bool _⟩
    · exact ⟨hname _, .text h.access⟩
  have hentries : ∀ e ∈ r.entries, Data e.1 ∧ Data e.2 := by
    intro e he
    rcases List.mem_append.1 he with he | he
    · exact hcore e he
    · obtain ⟨a, ha, rfl⟩ := List.mem_map.1 he
      have hmem := (List.mem_filter.1 ha).1
      exact ⟨.text (h.payloadNames a hmem), h.payload a hmem⟩
  rw [toValue_eq h.distinct]
  exact .mapping (textKeys_entries h.distinct) (fun e he => (hentries e he).1)
    fun e he => (hentries e he).2

/-- A field is found under its name, whatever the payload holds. -/
theorem lookup_core {r : DocRecord} (hnames : (r.payload.map Prod.fst).Nodup) {name : String}
    {v : Value} (h : (Value.ofString name, v) ∈ r.coreEntries) :
    Value.lookupText r.entries name = some v :=
  (textKeys_entries hnames).lookupText_eq (List.mem_append_left _ h)

end DocRecord

/-! ## The index -/

namespace Output

theorem exists_textOf {records : List DocRecord} (h : ∀ r ∈ records, r.IsData) :
    ∃ t, textOf records = .ok t ∧ t.isWellFormed ∧
      read? (chars t) = some (.list (records.map fun r => .mapping r.entries)) := by
  have hvalues : records.map DocRecord.toValue = records.map fun r => .mapping r.entries :=
    List.map_congr_left fun r hr => DocRecord.toValue_eq (h r hr).distinct
  have hdata : Data (.list (records.map DocRecord.toValue)) := by
    refine .list fun v hv => ?_
    obtain ⟨r, hr, rfl⟩ := List.mem_map.1 hv
    exact (h r hr).toValue
  obtain ⟨t, ht, hformed, hreads⟩ := hdata.prints 0
  exact ⟨t, ht, hformed, hvalues ▸ hreads.read?_eq⟩

theorem names_child_fileName (destination : Path) :
    (destination.child fileName).names ≠ [] := by
  have hfile : Path.ofText fileName = ⟨0, [fileName]⟩ := by decide +kernel
  rw [Path.child, hfile]
  simp [Path.join, Path.isAbsolute]

theorem refusable_write {records : List DocRecord} (destination : Path) {t : Text}
    {data : List UInt8} (ht : textOf records = .ok t) (hdata : Utf8.encode? t = some data) :
    Refusable (fun _ => True) (write records destination) := by
  rw [write]
  refine ((Refusable.makeDirectories destination).mono fun _ _ => trivial).bind fun _ => ?_
  rw [ht]
  exact (Refusable.writeUtf8 _ hdata).bind fun _ =>
    (Refusable.report _).bind fun _ => Refusable.pure _

/-- An index that is written is a file of the bytes of its text. -/
theorem entry_of_write {records : List DocRecord} {destination path : Path} {t : Text}
    {data : List UInt8} (ht : textOf records = .ok t) (hdata : Utf8.encode? t = some data)
    {w w' : World} (h : (write records destination).runIn w = (.ok path, w')) :
    path = destination.child fileName ∧ w'.entry path = .ok (.file data) := by
  rw [write] at h
  obtain ⟨_, v, -, h⟩ := Action.exists_of_runIn_bind h
  rw [ht] at h
  obtain ⟨_, v', hutf8, h⟩ := Action.exists_of_runIn_bind h
  rw [Action.runIn_bind_ok (Action.runIn_report _ _), Action.runIn_pure] at h
  cases h
  have hentry := Action.entry_of_writeUtf8 (names_child_fileName destination) hdata hutf8
  -- The log is no part of the tree.
  exact ⟨rfl, hentry⟩

/-- The index of records that JSON can hold has a text that is read as one mapping for each record,
in order.  -/
theorem index_reads_back {records : List DocRecord} (h : ∀ r ∈ records, r.IsData) :
    ∃ t, textOf records = .ok t ∧
      read? (chars t) = some (.list (records.map fun r => .mapping
        ([(Value.ofString "__docId__", .int r.docId), (Value.ofString "kind", .text r.kind),
          (Value.ofString "name", .text r.name), (Value.ofString "longname", .text r.longname),
          (Value.ofString "static", .bool r.static), (Value.ofString "access", .text r.access)] ++
          r.additions.map DocRecord.textEntry))) ∧
      (∀ r ∈ records, ∀ name v, (Value.ofString name, v) ∈ r.coreEntries →
        Value.lookupText r.entries name = some v) ∧
      ∀ destination w,
        (∃ g, ((write records destination).runIn w).1 = .error (.raised (.file g))) ∨
        ∃ w' data, (write records destination).runIn w = (.ok (destination.child fileName), w') ∧
          w'.entry (destination.child fileName) = .ok (.file data) ∧
          Utf8.decode? data = some t := by
  obtain ⟨t, ht, hformed, hread⟩ := exists_textOf h
  have hdata : Utf8.encode? t = some (t.flatMap Utf8.encodePoint) := if_pos hformed
  refine ⟨t, ht, hread, fun r hr name v hmem => DocRecord.lookup_core (h r hr).distinct hmem,
    fun destination w => ?_⟩
  rcases hwrite : (write records destination).runIn w with ⟨f | path, w'⟩
  · obtain ⟨g, -, rfl⟩ := refusable_write destination ht hdata w f (by rw [hwrite])
    exact .inl ⟨g, rfl⟩
  · obtain ⟨rfl, hentry⟩ := entry_of_write ht hdata hwrite
    exact .inr ⟨w', _, rfl, hentry, Utf8.decode?_of_encode? hdata⟩

/-- One and a half. -/
def sampleFloat : Binary64 := .finite false 6755399441055744 (-52)

/-- A record with a payload that is nested, and that has an entry named like a field. -/
def sampleRecord : DocRecord where
  docId := 3
  kind := Text.ofString "class"
  name := Text.ofString "A"
  longname := Text.ofString "a.py~A"
  payload := [(Text.ofString "kind", .int (-7)),
    (Text.ofString "values", .list [.float sampleFloat, .null, .list [],
      .mapping [(Value.ofString "x\n", .bool true)]])]

theorem isData_sampleRecord : sampleRecord.IsData where
  docId := .int (by decide +kernel)
  kind := by decide +kernel
  name := by decide +kernel
  longname := by decide +kernel
  access := by decide +kernel
  distinct := by decide +kernel
  payloadNames := by decide +kernel
  payload := by
    have hfloat : RoundTrips sampleFloat := by unfold RoundTrips; decide +kernel
    have hmapping : Data (.mapping [(Value.ofString "x\n", .bool true)]) := by
      refine .mapping ⟨?_, List.nodup_singleton _⟩ ?_ ?_ <;> intro e he <;>
        rw [List.mem_singleton.1 he]
      · exact ⟨_, rfl⟩
      · exact .text (by decide +kernel)
      · exact .bool true
    have hlist : Data (.list [.float sampleFloat, .null, .list [],
        .mapping [(Value.ofString "x\n", .bool true)]]) := by
      refine .list fun v hv => ?_
      simp only [List.mem_cons, List.not_mem_nil, or_false] at hv
      rcases hv with rfl | rfl | rfl | rfl
      · exact .float hfloat
      · exact .null
      · exact .list fun v hv => absurd hv List.not_mem_nil
      · exact hmapping
    intro e he
    simp only [sampleRecord, List.mem_cons, List.not_mem_nil, or_false] at he
    rcases he with rfl | rfl
    · exact .int (by decide +kernel)
    · exact hlist

/-- The entry of the payload that is named like a field is not in the index. -/
theorem index_reads_back_sample :
    ∃ t, textOf [sampleRecord] = .ok t ∧
      read? (chars t) = some (.list [.mapping (sampleRecord.coreEntries ++
        [(Value.ofString "values", .list [.float sampleFloat, .null, .list [],
          .mapping [(Value.ofString "x\n", .bool true)]])])]) := by
  have hdata : ∀ r ∈ [sampleRecord], r.IsData := fun r hr =>
    List.mem_singleton.1 hr ▸ isData_sampleRecord
  obtain ⟨t, ht, hread, -⟩ := index_reads_back hdata
  exact ⟨t, ht, hread.trans rfl⟩

end Output

end SourceDocs

import SourceDocs.Proofs.Files.Spared
import SourceDocs.Proofs.Record.Index

/-!
# The index of an earlier run

The text of the index is there before its file is opened.  So a write that fails leaves all files as
they were (`World.Spares`), be it that the records have no text or that the file system refuses
something, with two exceptions: a text with a surrogate is found to have no bytes only when the file
is open, and then the older index is empty; and the file system may take only the first bytes of the
text.  `index_spared` is the whole statement.
-/

namespace SourceDocs

open Files Entry World

/-- The file that a path leads to has these bytes now, and no other file has changed. -/
structure World.Replaced (p : Path) (place : List Text) (data : List UInt8) (w w' : World) :
    Prop where
  spares : Spares (· = place) w w'
  leads : w'.LeadsTo p (place, some (.file data))
  entry : w'.entry p = .ok (.file data)

/-- All files but the one that is replaced keep their bytes. -/
theorem World.Replaced.leadsTo {p q : Path} {place names : List Text} {data bytes : List UInt8}
    {w w' : World} (h : Replaced p place data w w') (hne : names ≠ place)
    (hfile : w.LeadsTo q (names, some (.file bytes))) :
    w'.LeadsTo q (names, some (.file bytes)) := h.spares.leadsTo hne hfile

theorem World.Replaced.after_spares {p : Path} {place : List Text} {data : List UInt8}
    {w v w' : World} (hmade : ∀ lost, Spares lost w v) (h : Replaced p place data v w') :
    Replaced p place data w w' := ⟨(hmade _).trans h.spares, h.leads, h.entry⟩

/-! ## What a failed write does -/

namespace Action

variable {w w' : World} {p : Path}

/-- A text that cannot be written leaves all as it was, or an empty file if it has no bytes, or the
bytes that the file system has taken. -/
theorem writeUtf8_error {t : Text} {f : Failure} (hp : p.names ≠ [])
    (h : (writeUtf8 p t).runIn w = (.error f, w')) :
    (∃ g, g ≠ .noSpace ∧ f = .raised (.file g)) ∧ w' = w ∨
    (Utf8.encode? t = none ∧ f = .raised (.codec .unencodable) ∧
      ∃ place, Replaced p place [] w w') ∨
    ∃ data place taken, Utf8.encode? t = some data ∧ w.refusal place data = some taken ∧
      f = .raised (.file .noSpace) ∧ Replaced p place (data.take taken) w w' := by
  rw [writeUtf8, runIn_bind] at h
  rcases openForWriting_cases p w with ⟨g, hopen⟩ | ⟨place, found, hleads, hfound, hopen⟩
  · rw [hopen] at h
    cases h
    exact .inl ⟨Refusable.openForWriting p w f (by rw [hopen]), rfl⟩
  · have hcheck := checkLookup_of_openForWriting hopen
    -- The file is empty by now, and nothing else has changed.
    have hfits := hleads.fits_file hp hfound []
    have hempty := hleads.put hfits
    rw [hopen] at h
    simp only [runIn_bind, encodeWith_utf8] at h
    cases hdata : Utf8.encode? t with
    | none =>
      rw [hdata] at h
      cases h
      exact .inr (.inl ⟨rfl, rfl, place, .put hfits, hempty, entry_eq_ok.2 ⟨hcheck, place, hempty⟩⟩)
    | some data =>
      rw [hdata] at h
      simp only at h
      rcases fill_cases place data (w.put place (.file [])) with hfill | ⟨taken, hrefusal, hfill⟩
      · cases hfill.symm.trans h
      · cases hfill.symm.trans h
        have hfile (es : List (Text × Entry)) : some (Entry.file []) ≠ some (.directory es) :=
          fun heq => by cases heq
        have hfits' := hempty.fits_file hp hfile (data.take taken)
        have hleft := hempty.put hfits'
        have hspares := (Spares.put hfits).trans (Spares.put hfits')
        exact .inr (.inr ⟨data, place, taken, rfl, hrefusal, rfl, hspares, hleft,
          entry_eq_ok.2 ⟨hcheck, place, hleft⟩⟩)

end Action

namespace Output

open SourceDocs.Action

variable {records : List DocRecord} {destination : Path} {w w' : World} {f : Failure}

/-- How the write of an index can fail, and what is lost then. -/
theorem write_error_cases (h : (write records destination).runIn w = (.error f, w')) :
    ((∃ g, g ≠ .noSpace ∧ f = .raised (.file g)) ∨
        ∃ g, textOf records = .error g ∧ f = .raised (.encode g)) ∧
      Spares (fun _ => False) w w' ∨
    (∃ t place, textOf records = .ok t ∧ ¬ t.isWellFormed ∧ f = .raised (.codec .unencodable) ∧
      Replaced (destination.child fileName) place [] w w') ∨
    ∃ t data place taken, textOf records = .ok t ∧ Utf8.encode? t = some data ∧
      w.refusal place data = some taken ∧ f = .raised (.file .noSpace) ∧
      Replaced (destination.child fileName) place (data.take taken) w w' := by
  rw [write, runIn_bind] at h
  have hmade (lost : List Text → Prop) : Spares lost w ((makeDirectories destination).runIn w).2 :=
    spares_makeDirectories destination w
  have hrefused := Refusable.makeDirectories destination w
  rcases hmake : (makeDirectories destination).runIn w with ⟨g | _, v⟩ <;>
    rw [hmake] at h hmade hrefused
  · cases h
    exact .inl ⟨.inl (hrefused f rfl), hmade _⟩
  · cases ht : textOf records with
    | error g =>
      rw [ht] at h
      cases h
      exact .inl ⟨.inr ⟨g, rfl, rfl⟩, hmade _⟩
    | ok t =>
      rw [ht] at h
      simp only [runIn_bind] at h
      rcases hwrite : (writeUtf8 (destination.child fileName) t).runIn v with ⟨g | _, v'⟩ <;>
        rw [hwrite] at h
      · cases h
        rcases writeUtf8_error (names_child_fileName destination) hwrite with
          ⟨hfile, rfl⟩ | ⟨hnone, rfl, place, hleft⟩ |
          ⟨data, place, taken, hdata, hrefusal, rfl, hleft⟩
        · exact .inl ⟨.inl hfile, hmade _⟩
        · have hformed : ¬ t.isWellFormed := fun hformed => by
            rw [Utf8.encode?, if_pos hformed] at hnone
            cases hnone
          exact .inr (.inl ⟨t, place, rfl, hformed, rfl, hleft.after_spares hmade⟩)
        · rw [(hmade fun _ => False).refusal] at hrefusal
          exact .inr (.inr ⟨t, data, place, taken, rfl, hdata, hrefusal, rfl,
            hleft.after_spares hmade⟩)
      · -- What has been written is reported, and that cannot fail.
        cases h

/-- A write that fails leaves the index and all other files with their bytes, if the text of the
records has no surrogate or something else is the matter, and the file system takes the whole text.
If it fails because of a surrogate, the index is empty afterwards, and only the index has changed.
If only the first bytes of the text are taken, the index holds these, and only the index has
changed. -/
theorem index_spared (h : (write records destination).runIn w = (.error f, w')) :
    ((∀ t, textOf records = .ok t → t.isWellFormed) → f ≠ .raised (.codec .unencodable)) ∧
    (f ≠ .raised (.codec .unencodable) → f ≠ .raised (.file .noSpace) →
      ∀ p data, w.entry p = .ok (.file data) → w'.entry p = .ok (.file data)) ∧
    (f = .raised (.codec .unencodable) →
      w'.entry (destination.child fileName) = .ok (.file []) ∧
      ∃ place, w'.LeadsTo (destination.child fileName) (place, some (.file [])) ∧
        ∀ p names data, names ≠ place → w.LeadsTo p (names, some (.file data)) →
          w'.LeadsTo p (names, some (.file data))) ∧
    (f = .raised (.file .noSpace) →
      ∃ t data place taken, textOf records = .ok t ∧ Utf8.encode? t = some data ∧
        w.refusal place data = some taken ∧
        w'.entry (destination.child fileName) = .ok (.file (data.take taken)) ∧
        w'.LeadsTo (destination.child fileName) (place, some (.file (data.take taken))) ∧
        ∀ p names data, names ≠ place → w.LeadsTo p (names, some (.file data)) →
          w'.LeadsTo p (names, some (.file data))) := by
  rcases write_error_cases h with ⟨hcause, hspares⟩ | ⟨t, place, ht, hformed, rfl, hleft⟩ |
    ⟨t, data, place, taken, ht, hdata, hrefusal, rfl, hleft⟩
  · have hne : f ≠ .raised (.codec .unencodable) := by
      rcases hcause with ⟨g, -, rfl⟩ | ⟨g, -, rfl⟩ <;> exact fun hfalse => by cases hfalse
    have hspace : f ≠ .raised (.file .noSpace) := by
      rcases hcause with ⟨g, hg, rfl⟩ | ⟨g, -, rfl⟩
      · exact fun hfalse => hg (by cases hfalse; rfl)
      · exact fun hfalse => by cases hfalse
    exact ⟨fun _ => hne, fun _ _ p data => hspares.entry_eq, fun heq => absurd heq hne,
      fun heq => absurd heq hspace⟩
  · exact ⟨fun hall => absurd (hall t ht) hformed, fun hne => absurd rfl hne, fun _ =>
      ⟨hleft.entry, place, hleft.leads, fun p names data => hleft.leadsTo⟩, nofun⟩
  · exact ⟨fun _ => nofun, fun _ hne => absurd rfl hne, nofun, fun _ =>
      ⟨t, data, place, taken, ht, hdata, hrefusal, hleft.entry, hleft.leads,
        fun p names data => hleft.leadsTo⟩⟩

/-- A destination with an index that an earlier run has written. -/
def indexed : World where
  tree := .directory [("out", .directory [(fileName, .file [0x5B, 0x5D])])]
  current := []
  home := ⟨1, []⟩

/-- A package record whose payload holds one value. -/
def recordOf (v : Value) : DocRecord where
  docId := 1
  kind := "package"
  name := "package.json"
  longname := "package.json"
  payload := [("content", v)]

/-- A set in a payload has no text, and the older index stays. -/
theorem index_spared_set :
    ∃ f w', (write [recordOf (.set [.int 1] false)] ⟨1, ["out"]⟩).runIn indexed = (.error f, w') ∧
      f ≠ .raised (.codec .unencodable) ∧
      w'.entry ((Path.mk 1 ["out"]).child fileName) = .ok (.file [0x5B, 0x5D]) := by
  have htext : (textOf [recordOf (.set [.int 1] false)]).toOption = none := by decide +kernel
  have hfails : ((write [recordOf (.set [.int 1] false)] ⟨1, ["out"]⟩).runIn
      indexed).1.toOption = none := by decide +kernel
  have hold : indexed.entry ((Path.mk 1 ["out"]).child fileName) = .ok (.file [0x5B, 0x5D]) := rfl
  rcases hrun : (write [recordOf (.set [.int 1] false)] ⟨1, ["out"]⟩).runIn indexed with ⟨f | p, w'⟩
  · obtain ⟨hcause, hkept, -, hcut⟩ := index_spared hrun
    have hne : f ≠ .raised (.codec .unencodable) := hcause fun t ht => by
      rw [ht] at htext
      cases htext
    have hspace : f ≠ .raised (.file .noSpace) := fun heq => by
      obtain ⟨_, _, _, _, -, -, hrefusal, -⟩ := hcut heq
      cases hrefusal
    exact ⟨f, w', rfl, hne, hkept hne hspace _ _ hold⟩
  · rw [hrun] at hfails
    cases hfails

/-- A lone surrogate in a payload empties the older index. -/
theorem index_not_spared :
    ¬ ∀ (records : List DocRecord) (destination : Path) (w w' : World) (f : Failure)
        (old : List UInt8), (write records destination).runIn w = (.error f, w') →
      w.entry (destination.child fileName) = .ok (.file old) →
      w'.entry (destination.child fileName) = .ok (.file old) := by
  intro hkept
  have hold : indexed.entry ((Path.mk 1 ["out"]).child fileName) = .ok (.file [0x5B, 0x5D]) := rfl
  have hfails : ((write [recordOf (.text [0xD800])] ⟨1, ["out"]⟩).runIn indexed).1.toOption =
      none := by decide +kernel
  have hempty : (((write [recordOf (.text [0xD800])] ⟨1, ["out"]⟩).runIn indexed).2.entry
      ((Path.mk 1 ["out"]).child fileName)).toOption.bind content? = some [] := by decide +kernel
  rcases hrun : (write [recordOf (.text [0xD800])] ⟨1, ["out"]⟩).runIn indexed with ⟨f | p, w'⟩
  · rw [hrun, hkept _ _ _ _ f _ hrun hold] at hempty
    cases hempty
  · rw [hrun] at hfails
    cases hfails

end Output

end SourceDocs

import SourceDocs.Proofs.Files.Placing

/-!
# Files that keep their bytes

`World.Spares` says that paths lead on to what they have led to and that files keep their bytes, but
for some of them.  Creating directories spares all files, and writing a file at a path spares all
but the one that the path leads to (`Spares.of_writes`), however far the writing gets.
-/

namespace SourceDocs

open Files Entry World

namespace World

variable {w w' v : World} {p : Path} {names place : List Text} {data : List UInt8}
  {lost lost' : List Text → Prop}

/-- Paths lead on to what they have led to, and the files outside of `lost` keep their bytes. -/
structure Spares (lost : List Text → Prop) (w v : World) : Prop where
  current : v.current = w.current
  refusal : v.refusal = w.refusal
  grows : Grows w.tree v.tree
  data : ∀ names bytes, ¬ lost names → w.tree.data? names = some bytes →
    v.tree.data? names = some bytes

namespace Spares

theorem refl (w : World) : Spares lost w w := ⟨rfl, rfl, fun _ _ h => h, fun _ _ _ h => h⟩

theorem trans (h : Spares lost w v) (h' : Spares lost v w') : Spares lost w w' where
  current := h'.current.trans h.current
  refusal := h'.refusal.trans h.refusal
  grows names k hk := h'.grows names k (h.grows names k hk)
  data names bytes hnot hdata := h'.data names bytes hnot (h.data names bytes hnot hdata)

theorem mono (h : Spares lost w v) (hlost : ∀ names, lost names → lost' names) :
    Spares lost' w v :=
  ⟨h.current, h.refusal, h.grows,
    fun names bytes hnot => h.data names bytes fun hin => hnot (hlost names hin)⟩

/-- Where something new is put, no other file loses its bytes. -/
theorem put {e : Entry} (hfits : Fits w.tree names e) : Spares (· = names) w (w.put names e) where
  current := rfl
  refusal := rfl
  grows := hfits.grows
  data there bytes hnot hdata := by
    rw [World.put, hfits.data?_set, if_neg hnot]
    exact hdata

/-- Where nothing was, no file loses its bytes at all. -/
theorem put_empty (hleads : w.LeadsTo p (names, none)) :
    Spares lost w (w.put names Entry.empty) where
  current := rfl
  refusal := rfl
  grows := (Leads.fits_empty hleads).grows
  data there bytes _ hdata := by
    have hne : there ≠ names := by
      rintro rfl
      have hkind := kind?_of_data? hdata
      rw [kind?, Leads.get? hleads] at hkind
      cases hkind
    rw [World.put, (Leads.fits_empty hleads).data?_set, if_neg hne]
    exact hdata

/-- A path to a file that is spared leads to the file with its bytes. -/
theorem leadsTo (h : Spares lost w v) (hnot : ¬ lost names)
    (hleads : w.LeadsTo p (names, some (.file data))) :
    v.LeadsTo p (names, some (.file data)) := by
  have hdata : w.tree.data? names = some data := by
    rw [data?, Leads.get? hleads]
    rfl
  obtain ⟨e, hfound, -⟩ := Leads.of_grows hleads h.grows
  have hstart : v.start p = w.start p := by rw [World.start, World.start, h.current]
  have hsame : e = .file data := by
    have hkept := h.data names data hnot hdata
    rw [data?, Leads.get? hfound] at hkept
    cases e with
    | file bytes => exact congrArg Entry.file (Option.some.inj hkept)
    | directory es => cases hkept
    | link target => cases hkept
  rw [World.LeadsTo, hstart, ← hsame]
  exact hfound

/-- A path to a file leads to the same bytes if nothing is lost. -/
theorem entry_eq (h : Spares (fun _ => False) w v) (hentry : w.entry p = .ok (.file data)) :
    v.entry p = .ok (.file data) := by
  obtain ⟨hcheck, names, hleads⟩ := entry_eq_ok.1 hentry
  exact entry_eq_ok.2 ⟨hcheck, names, h.leadsTo id hleads⟩

end Spares

end World

namespace Action

variable {w w' v : World} {p : Path} {lost : List Text → Prop}

theorem spares_of_makes (h : Makes p w v) : Spares lost w v := by
  obtain ⟨-, -, hleads⟩ := h
  exact .put_empty hleads

theorem spares_makeDirectories (p : Path) (w : World) :
    Spares lost w ((makeDirectories p).runIn w).2 := by
  rcases hrun : (makeDirectories p).runIn w with ⟨r, v⟩
  obtain ⟨hmakes, -⟩ := makeDirectories_cases p w hrun
  clear hrun
  induction hmakes with
  | refl => exact .refl w
  | tail _ hstep ih => exact ih.trans (spares_of_makes hstep)

/-- One step on the way to a file that is written at a path: a directory above it where nothing is,
the file itself with some bytes, in place of nothing or of a file, or nothing at all. -/
inductive Writes (p : Path) : World → World → Prop where
  | directory {w v : World} : Makes p.parent w v → Writes p w v
  | file {w : World} {names : List Text} {found : Option Entry} (data : List UInt8) :
      w.LeadsTo p (names, found) → (∀ es, found ≠ some (.directory es)) →
      Writes p w (w.put names (.file data))
  | other {w v : World} : w.SameFiles v → Writes p w v

/-- Where a path leads once something is there, there it leads on. -/
theorem exists_leadsTo_of_grows {names : List Text} (hcurrent : v.current = w.current)
    (hgrows : Grows w.tree v.tree) (h : ∃ e, w.LeadsTo p (names, some e)) :
    ∃ e, v.LeadsTo p (names, some e) := by
  obtain ⟨e, hleads⟩ := h
  obtain ⟨e', hleads', -⟩ := Leads.of_grows hleads hgrows
  have hstart : v.start p = w.start p := by rw [World.start, World.start, hcurrent]
  refine ⟨e', ?_⟩
  rw [World.LeadsTo, hstart]
  exact hleads'

theorem Writes.spares (hp : p.names ≠ []) (h : Writes p w v) :
    Spares (fun names => ∃ e, v.LeadsTo p (names, some e)) w v := by
  cases h with
  | directory hmakes => exact spares_of_makes hmakes
  | @file names found data hleads hfound =>
    have hfits := hleads.fits_file hp hfound data
    refine (Spares.put hfits).mono ?_
    rintro there rfl
    exact ⟨_, hleads.put hfits⟩
  | other hsame =>
    refine ⟨hsame.current, hsame.refusal, ?_, fun names bytes _ hdata => ?_⟩
    · rw [hsame.tree]
      exact fun _ _ hk => hk
    · rwa [hsame.tree]

end Action

/-- However far the writing of a file at a path has got, no other file has changed. -/
theorem World.Spares.of_writes {w v : World} {p : Path} (hp : p.names ≠ [])
    (h : Relation.ReflTransGen (Action.Writes p) w v) :
    Spares (fun names => ∃ e, v.LeadsTo p (names, some e)) w v := by
  induction h with
  | refl => exact .refl w
  | tail _ hstep ih =>
    have hspares := hstep.spares hp
    refine (ih.mono fun names hlost => ?_).trans hspares
    exact Action.exists_leadsTo_of_grows hspares.current hspares.grows hlost

end SourceDocs

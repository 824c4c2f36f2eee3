import SourceDocs.Proofs.Archive.Holding
import SourceDocs.Proofs.Files.Refused
import SourceDocs.Proofs.Text.Utf8

/-!
# A destination as a store of texts

Texts that are written below a destination stay there until they are written again, or as much of
them as the file system has taken (`Stored`).  `Stores` says what all files are after that, below
the destination and outside of it; it is kept by all that a write consists of (`Stores.makes`,
`Stores.file`), however the write ends (`Stores.writeUtf8`), and it says what is read
(`Stores.readText`).  The destination need not exist in the beginning, and it must be without links
where it turns out to be (`LinkFree`).
-/

namespace SourceDocs

open Files Entry World SourceDocs.Action

/-! ## The encoding -/

theorem CodecName.normal_utf8 : CodecName.normal "utf-8" = "utf_8" := by decide +kernel

theorem find?_names_cons {p : List Char → Bool} {main : String} {cs : List Char}
    {table : List (String × String)} (h : p cs = false)
    (hrest : (table.find? fun e => p e.2.toList) = none) :
    (((main, String.ofList cs) :: table).find? fun e => p e.2.toList) = none := by
  rw [List.find?_cons_of_neg, hrest]
  rw [String.toList_ofList, h]
  exact Bool.false_ne_true

/-- No other encoding has this name.  Its table is gone through entry by entry, each of them as a
list of characters, since the characters of a string literal take long to compute. -/
theorem CodecName.owner?_utf8 : CodecName.owner? "utf_8" = none := by
  have hname : "utf_8".toList = ['u', 't', 'f', '_', '8'] := by decide +kernel
  rw [owner?, hname, Option.map_eq_none_iff, furtherNames]
  repeat
    refine find?_names_cons
      (p := fun cs => (Text.partsAt ' ' cs).contains ['u', 't', 'f', '_', '8']) ?_ ?_
    · decide +kernel
  rfl

theorem CodecName.mainName_utf8 : CodecName.mainName "utf-8" = "utf_8" := by
  have hundotted : String.ofList ("utf_8".toList.map fun c => if c = '.' then '_' else c) =
      "utf_8" := by
    decide +kernel
  rw [mainName, normal_utf8]
  simp only [hundotted, owner?_utf8, Option.none_or, Option.getD_none]

theorem Codec.ofName?_utf8 : Codec.ofName? "utf-8" = some .utf8 := by
  simp only [ofName?, CodecName.mainName_utf8]

theorem writeText_utf8 (p : Path) (t : Text) :
    Files.writeText p t "utf-8" = Files.writeUtf8 p t := by
  have hname : checkEncoding "utf-8" = pure () := by rfl
  have husual : ("utf-8" : Text) ≠ usualEncoding := by decide +kernel
  rw [Files.writeText, hname, pure_bind]
  simp only [if_neg husual, Files.encodeText, hname, pure_bind, Codec.ofName?_utf8]
  rfl

/-! ## Stored texts -/

/-- What is left of a text that has been written. -/
inductive Stored where
  | whole (t : Text)
  /-- The file system has taken only the first bytes. -/
  | cut (t : Text)
deriving DecidableEq

/-- The bytes of what is stored in the file of these names. -/
def Stored.data? (w : World) (names : List Text) : Stored → Option (List UInt8)
  | .whole t => Utf8.encode? t
  | .cut t => do
    let data ← Utf8.encode? t
    let taken ← w.refusal names data
    return data.take taken

/-- What is stored below a directory, by the names from there on. -/
abbrev TextMap := List Text → Option Stored

variable {destination p q : Path} {w v v' : World} {texts : TextMap}
  {names place rest : List Text} {e : Entry} {found : Option Entry}

namespace Files

/-- The names of a way that leads on without links are plain. -/
theorem Leads.isPlain {t : Entry} {k : Nat} {here : List Text} {r : List Text × Option Entry}
    (h : Leads t k here rest r) (hlinks : NoLinks t here) (hdots : Path.NoDots rest) :
    ∀ n ∈ rest, IsPlain n := by
  induction h with
  | here => exact nofun
  | free _ hn _ => exact fun m hm => List.mem_singleton.1 hm ▸ hn
  | up _ hn _ _ =>
    rw [hdots _ List.mem_cons_self] at hn
    cases hn
  | @link k here rest n target r _ _ hc _ _ => exact absurd hc (hlinks [n] target)
  | @into k here rest n kind r _ hn _ _ _ ih =>
    rw [List.forall_mem_cons]
    exact ⟨hn, ih (hlinks.child n) fun m hm => hdots m (List.mem_cons_of_mem _ hm)⟩

end Files

namespace World

/-- Wherever a destination leads once directories on the way to it have been created, there are no
links. -/
def LinkFree (destination : Path) (w : World) : Prop :=
  ∀ u place, Relation.ReflTransGen (Makes destination) w u → u.IsPlace destination place →
    NoLinks u.tree place

/-- On the way to a destination that is there, nothing is created. -/
theorem linkFree_of_isPlace (hplace : w.IsPlace destination place) (hlinks : NoLinks w.tree place) :
    LinkFree destination w := by
  intro u place' hmakes hplace'
  obtain rfl | ⟨_, ⟨hroot, hway, hmissing⟩, -⟩ := hmakes.cases_head
  · exact hplace.unique hplace' ▸ hlinks
  · exact absurd hmissing (hplace.not_missing hroot hway)

/-- A directory that is put where nothing is changes no file. -/
theorem data?_put_empty (hmissing : v.LeadsTo q (names, none)) (there : List Text) :
    (v.put names Entry.empty).tree.data? there = v.tree.data? there := by
  rw [World.put, (Leads.fits_empty hmissing).data?_set]
  split_ifs with heq
  · rw [heq, data?, Leads.get? hmissing]
    rfl
  · rfl

end World

/-- Since `w` these texts have been stored below the destination, and no other file has changed. -/
structure Stores (destination : Path) (w v : World) (texts : TextMap) : Prop where
  current : v.current = w.current
  refusal : v.refusal = w.refusal
  stays : ∀ place, w.IsPlace destination place → v.IsPlace destination place
  /-- As long as the destination leads to no directory, only directories on the way are new. -/
  before : (∀ place, ¬ v.IsPlace destination place) →
    ∃ u, Relation.ReflTransGen (Makes destination) w u ∧ u.SameFiles v
  noLinks : ∀ place, v.IsPlace destination place → NoLinks v.tree place
  inside : ∀ place, v.IsPlace destination place → ∀ names,
    v.tree.data? (place ++ names) =
      match texts names with
      | some s => s.data? w (place ++ names)
      | none => w.tree.data? (place ++ names)
  outside : ∀ names, (∀ place, v.IsPlace destination place → ¬ place <+: names) →
    v.tree.data? names = w.tree.data? names
  /-- A text that is stored has bytes, and its path leads to them. -/
  reached : ∀ names s, texts names = some s →
    (∀ t, s = .whole t → (Utf8.encode? t).isSome) ∧ (∃ place, v.IsPlace destination place) ∧
      checkLookup ⟨destination.root, destination.names ++ names⟩ = .ok () ∧
      ∀ n ∈ names, IsPlain n

namespace Stores

theorem refl (h : LinkFree destination w) : Stores destination w w fun _ => none where
  current := rfl
  refusal := rfl
  stays _ hplace := hplace
  before _ := ⟨w, .refl, .refl w⟩
  noLinks place hplace := h w place .refl hplace
  inside _ _ _ := rfl
  outside _ _ := rfl
  reached := nofun

theorem of_sameFiles (h : Stores destination w v texts) (hsame : v.SameFiles v') :
    Stores destination w v' texts where
  current := hsame.current.trans h.current
  refusal := hsame.refusal.trans h.refusal
  stays place hplace := hsame.isPlace_iff.2 (h.stays place hplace)
  before hnone := by
    obtain ⟨u, hu, hsame'⟩ := h.before fun place hplace => hnone place (hsame.isPlace_iff.2 hplace)
    exact ⟨u, hu, hsame'.trans hsame⟩
  noLinks place hplace := by
    rw [hsame.tree]
    exact h.noLinks place (hsame.isPlace_iff.1 hplace)
  inside place hplace names := by
    rw [hsame.tree]
    exact h.inside place (hsame.isPlace_iff.1 hplace) names
  outside names hnot := by
    rw [hsame.tree]
    exact h.outside names fun place hplace => hnot place (hsame.isPlace_iff.2 hplace)
  reached names t ht := by
    obtain ⟨hbytes, ⟨place, hplace⟩, hrest⟩ := h.reached names t ht
    exact ⟨hbytes, ⟨place, hsame.isPlace_iff.2 hplace⟩, hrest⟩

/-- A directory where nothing is, on the way to something below the destination, stores nothing. -/
theorem directory (h : Stores destination w v texts) (hfree : LinkFree destination w)
    (hroot : q.root = destination.root) (hway : q.names <+: destination.names ++ rest)
    (hmissing : v.LeadsTo q (names, none)) :
    Stores destination w (v.put names Entry.empty) texts := by
  have hfits := Leads.fits_empty hmissing
  have hstays (place : List Text) (hplace : w.IsPlace destination place) :=
    (h.stays place hplace).put hfits
  by_cases hsome : ∃ place, v.IsPlace destination place
  · -- The destination is there, and leads on to where it has led.
    obtain ⟨place, hplace⟩ := hsome
    have hplace' := hplace.put hfits
    refine ⟨h.current, h.refusal, hstays, fun hnone => absurd hplace' (hnone place),
      fun place' hplace'' => ?_, fun place' hplace'' there => ?_, fun there hnot => ?_,
      fun there t ht => ?_⟩
    · obtain rfl := hplace'.unique hplace''
      exact (h.noLinks place hplace).set hfits
    · obtain rfl := hplace'.unique hplace''
      rw [data?_put_empty hmissing]
      exact h.inside place hplace there
    · rw [data?_put_empty hmissing]
      refine h.outside there fun place'' hplace'' => ?_
      exact hplace''.unique hplace ▸ hnot place hplace'
    · obtain ⟨hbytes, -, hrest⟩ := h.reached there t ht
      exact ⟨hbytes, ⟨place, hplace'⟩, hrest⟩
  · -- Nothing has been stored, and the directory is on the way to the destination.
    rw [not_exists] at hsome
    have hnothing : ∀ there, texts there = none := fun there => by
      by_contra hthere
      obtain ⟨t, ht⟩ := Option.ne_none_iff_exists'.1 hthere
      obtain ⟨-, ⟨place, hplace⟩, -⟩ := h.reached there t ht
      exact hsome place hplace
    have hdata (there : List Text) :
        (v.put names Entry.empty).tree.data? there = w.tree.data? there := by
      rw [data?_put_empty hmissing]
      exact h.outside there fun place hplace => absurd hplace (hsome place)
    obtain ⟨u, hu, hsame⟩ := h.before hsome
    have hu' : Relation.ReflTransGen (Makes destination) w (u.put names Entry.empty) :=
      hu.tail (.make hroot ?_ (hsame.symm.leadsTo hmissing))
    · have hsame' : (u.put names Entry.empty).SameFiles (v.put names Entry.empty) :=
        ⟨by rw [World.put, World.put, hsame.tree], hsame.current, hsame.stack, hsame.refusal⟩
      refine ⟨h.current, h.refusal, hstays, fun _ => ⟨_, hu', hsame'⟩, fun place hplace => ?_,
        fun place _ there => ?_, fun there _ => hdata there, fun there t ht => ?_⟩
      · rw [hsame'.tree]
        exact hfree _ place hu' (hsame'.isPlace_iff.1 hplace)
      · rw [hdata, hnothing]
      · rw [hnothing] at ht
        cases ht
    · -- A path through the destination would lead through a directory there.
      rcases List.prefix_or_prefix_of_prefix hway (List.prefix_append _ _) with hq | ⟨more, hmore⟩
      · exact hq
      · by_cases hnil : more = []
        · rw [← hmore, hnil, List.append_nil]
        · obtain ⟨root, qnames⟩ := q
          obtain rfl : root = destination.root := hroot
          obtain rfl : destination.names ++ more = qnames := hmore
          obtain ⟨place, -, hplace, -⟩ := hmissing.through hnil
          exact absurd hplace (hsome place)

theorem makes (h : Stores destination w v texts) (hfree : LinkFree destination w)
    (hroot : q.root = destination.root) (hway : q.names <+: destination.names ++ rest)
    (hmakes : Relation.ReflTransGen (Makes q) v v') : Stores destination w v' texts := by
  induction hmakes with
  | refl => exact h
  | tail _ hstep ih =>
    obtain ⟨hroot', hway', hmissing⟩ := hstep
    exact ih.directory hfree (hroot'.trans hroot) (hway'.trans hway) hmissing

/-- A file that is put below the destination is there with what is stored. -/
theorem file (h : Stores destination w v texts) (hdots : Path.NoDots rest) (hrest : rest ≠ [])
    (hcheck : checkLookup ⟨destination.root, destination.names ++ rest⟩ = .ok ())
    (hleads : v.LeadsTo ⟨destination.root, destination.names ++ rest⟩ (names, found))
    (hfound : ∀ es, found ≠ some (.directory es)) {s : Stored} {data : List UInt8}
    (hdata : s.data? w names = some data) :
    Stores destination w (v.put names (.file data)) (Function.update texts rest (some s)) := by
  have hfits := hleads.fits_file (by simp [hrest]) hfound data
  obtain ⟨place, j, hplace, hbelow⟩ := hleads.through hrest
  have hplace' := hplace.put hfits
  have hlinks := h.noLinks place hplace
  obtain rfl := hleads.straight hplace hlinks hdots hrest
  refine ⟨h.current, h.refusal, fun _ hplace₀ => (h.stays _ hplace₀).put hfits,
    fun hnone => absurd hplace' (hnone place), fun place' hplace'' => ?_,
    fun place' hplace'' there => ?_, fun there hnot => ?_, fun there t' ht => ?_⟩
  · obtain rfl := hplace'.unique hplace''
    exact hlinks.set hfits
  · obtain rfl := hplace'.unique hplace''
    rw [World.put, hfits.data?_set]
    by_cases heq : there = rest
    · rw [heq, if_pos rfl, Function.update_self]
      exact hdata.symm
    · rw [if_neg (by simpa using heq), Function.update_of_ne heq]
      exact h.inside place hplace there
  · have hne : there ≠ place ++ rest := by
      rintro rfl
      exact hnot place hplace' (List.prefix_append _ _)
    rw [World.put, hfits.data?_set, if_neg hne]
    refine h.outside there fun place'' hplace'' => ?_
    exact hplace''.unique hplace ▸ hnot place hplace'
  · by_cases heq : there = rest
    · subst heq
      rw [Function.update_self] at ht
      obtain rfl := Option.some.inj ht
      refine ⟨?_, ⟨place, hplace'⟩, hcheck, hbelow.isPlain hlinks hdots⟩
      rintro t rfl
      rw [show Utf8.encode? t = some data from hdata]
      rfl
    · rw [Function.update_of_ne heq] at ht
      obtain ⟨hbytes, -, hrest⟩ := h.reached there t' ht
      exact ⟨hbytes, ⟨place, hplace'⟩, hrest⟩

/-- How a write below the destination ends: with the text in its file, or with nothing done because
the file system has refused something, or with an empty file because the text has no bytes, or with
only the first bytes in the file. -/
theorem writeUtf8 (h : Stores destination w v texts) (hdots : Path.NoDots rest) (hrest : rest ≠ [])
    {t : Text} {r : Except Failure Unit}
    (hrun : (writeUtf8 ⟨destination.root, destination.names ++ rest⟩ t).runIn v = (r, v')) :
    r = .ok () ∧ Stores destination w v' (Function.update texts rest (some (.whole t))) ∨
    (∃ g, g ≠ .noSpace ∧ r = .error (.raised (.file g))) ∧ Stores destination w v' texts ∨
    r = .error (.raised (.codec .unencodable)) ∧
      Stores destination w v' (Function.update texts rest (some (.whole []))) ∨
    r = .error (.raised (.file .noSpace)) ∧
      Stores destination w v' (Function.update texts rest (some (.cut t))) := by
  rw [Files.writeUtf8, runIn_bind] at hrun
  rcases openForWriting_cases ⟨destination.root, destination.names ++ rest⟩ v with
    ⟨f, hopen⟩ | ⟨place, found, hleads, hfound, hopen⟩
  · rw [hopen] at hrun
    cases hrun
    obtain ⟨g, hg, rfl⟩ := Refusable.openForWriting _ _ f (by rw [hopen])
    exact .inr (.inl ⟨⟨g, hg, rfl⟩, h⟩)
  · have hcheck := checkLookup_of_openForWriting hopen
    have hnothing : (Stored.whole []).data? w place = some [] := rfl
    have hempty := h.file hdots hrest hcheck hleads hfound hnothing
    have hagain := hleads.put (hleads.fits_file (by simp [hrest]) hfound [])
    rw [hopen] at hrun
    simp only [runIn_bind, encodeWith_utf8] at hrun
    cases hdata : Utf8.encode? t with
    | none =>
      rw [hdata] at hrun
      cases hrun
      exact .inr (.inr (.inl ⟨rfl, hempty⟩))
    | some data =>
      rw [hdata] at hrun
      simp only at hrun
      have hnot (es : List (Text × Entry)) : some (Entry.file []) ≠ some (.directory es) := by simp
      rcases fill_cases place data (v.put place (.file [])) with hfill | ⟨taken, hrefusal, hfill⟩
      · cases hfill.symm.trans hrun
        have hwhole : (Stored.whole t).data? w place = some data := hdata
        have hwritten := hempty.file hdots hrest hcheck hagain hnot hwhole
        rw [Function.update_idem] at hwritten
        exact .inl ⟨rfl, hwritten⟩
      · cases hfill.symm.trans hrun
        have hcut : (Stored.cut t).data? w place = some (data.take taken) := by
          rw [hempty.refusal] at hrefusal
          rw [Stored.data?, hdata, Option.bind_eq_bind, Option.bind_some, hrefusal]
          rfl
        have hwritten := hempty.file hdots hrest hcheck hagain hnot hcut
        rw [Function.update_idem] at hwritten
        exact .inr (.inr (.inr ⟨rfl, hwritten⟩))

/-- A text that is stored is read, with its line ends unified. -/
theorem readText (h : Stores destination w v texts) {t : Text} (ht : texts rest = some (.whole t)) :
    (Files.readText ⟨destination.root, destination.names ++ rest⟩).runIn v =
      (.ok (Lines.universal t), v) := by
  obtain ⟨hbytes, ⟨place, hplace⟩, hcheck, hplain⟩ := h.reached rest (.whole t) ht
  obtain ⟨data, hdata⟩ := Option.isSome_iff_exists.1 (hbytes t rfl)
  have hfile := h.inside place hplace rest
  simp only [ht, Stored.data?, hdata] at hfile
  obtain ⟨e, he, hcontent⟩ := Option.bind_eq_some_iff.1 hfile
  obtain rfl : e = .file data := by
    cases e with
    | file bytes => exact congrArg Entry.file (Option.some.inj hcontent)
    | directory es => cases hcontent
    | link target => cases hcontent
  obtain ⟨es, hes⟩ := hplace
  obtain ⟨j, hj⟩ := Leads.join hes (IsPlace.kind? ⟨es, hes⟩)
  have hleads := hj _ _ (leads_of_get? he (h.noLinks place ⟨es, hes⟩) hplain)
  rw [runIn_readText_file (entry_eq_ok.2 ⟨hcheck, _, hleads⟩), Utf8.decode?_of_encode? hdata]

end Stores

end SourceDocs

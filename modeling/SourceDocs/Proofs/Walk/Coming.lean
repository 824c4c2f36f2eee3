import SourceDocs.Proofs.Files.Replaced
import SourceDocs.Proofs.Walk.Events

/-!
# How far a walk comes

What a walk of packages does in a directory is settled by a few questions, whose answers
`World.turn` sums up.  So a derivation (`Walk.Walked`) is determined by the stage that it begins
with (`Walked.unique`), and it can be carried over to another world in which the directories that it
reaches look the same (`Walked.carry`).  `Walk.ComesTo` says by which events a walk comes to read
the descriptor of a directory: a walk that comes there has found them, then finds what the directory
yields, and ends there if that is a failure (`Walked.of_comesTo`).
-/

namespace SourceDocs

namespace Walk

/-- What a walk of packages does in a directory. -/
inductive Turn where
  /-- It ends there, with these events. -/
  | ends (r : Except Failure Unit) (found : List Event)
  /-- It finds a package, and goes on with its sources. -/
  | goes (d : Descriptor) (src : Path)
  /-- It visits the entries. -/
  | lists

end Walk

open Walk

namespace World

/-- What a walk of packages does in a directory, by what the system answers and how many calls are
left. -/
def turn (w : World) (here : List Text) : Nat → Turn
  | 0 => .ends (.error (.raised .tooDeep)) []
  | room + 1 =>
    match w.holds Entry.isFile (descriptorPath here) with
    | .error f => .ends (.error (.raised (.file f))) []
    | .ok false => if room = 0 then .ends (.error (.raised .tooDeep)) [] else .lists
    | .ok true =>
      if w.overflowsAt room here then .ends (.error (.raised .tooDeep)) []
      else
        match w.packageAt? here with
        | none => .ends (.ok ()) []
        | some d =>
          match d.sourceName with
          | .error f => .ends (.error f) []
          | .ok s =>
            match w.resolve (d.directory.child s) with
            | .error f => .ends (.error (.raised (.file f))) []
            | .ok src =>
              match w.holds Entry.isDirectory src with
              | .error f => .ends (.error (.raised (.file f))) [.package d]
              | .ok false => .ends (.ok ()) [.package d]
              | .ok true => .goes d src

variable {w : World} {here : List Text} {d : Descriptor} {src : Path} {room : Nat}

theorem turn_unanswered {f : FileFault}
    (hfile : w.holds Entry.isFile (descriptorPath here) = .error f) :
    w.turn here (room + 1) = .ends (.error (.raised (.file f))) [] := by
  rw [turn, hfile]

theorem turn_buried (htell : w.Tells Entry.isFile (descriptorPath here) true)
    (hdeep : w.overflowsAt room here) :
    w.turn here (room + 1) = .ends (.error (.raised .tooDeep)) [] := by
  rw [turn, htell.answer]
  exact if_pos hdeep

theorem turn_cramped (htell : w.Tells Entry.isFile (descriptorPath here) false) :
    w.turn here 1 = .ends (.error (.raised .tooDeep)) [] := by
  rw [turn, htell.answer]
  rfl

theorem turn_lists (htell : w.Tells Entry.isFile (descriptorPath here) false) :
    w.turn here (room + 2) = .lists := by
  rw [turn, htell.answer]
  rfl

theorem turn_unreadable (hload : w.Loads room here) (hd : w.packageAt? here = none) :
    w.turn here (room + 1) = .ends (.ok ()) [] := by
  rw [turn, hload.tells.answer]
  simp only [hload.fits, Bool.false_eq_true, if_false, hd]

theorem turn_malformed {f : Failure} (hload : w.Loads room here)
    (hd : w.packageAt? here = some d) (hname : d.sourceName = .error f) :
    w.turn here (room + 1) = .ends (.error f) [] := by
  rw [turn, hload.tells.answer]
  simp only [hload.fits, Bool.false_eq_true, if_false, hd, hname]

theorem turn_unresolved {s : Text} {f : FileFault} (hload : w.Loads room here)
    (hd : w.packageAt? here = some d) (hname : d.sourceName = .ok s)
    (hsrc : w.resolve (d.directory.child s) = .error f) :
    w.turn here (room + 1) = .ends (.error (.raised (.file f))) [] := by
  rw [turn, hload.tells.answer]
  simp only [hload.fits, Bool.false_eq_true, if_false, hd, hname, hsrc]

theorem turn_package (hload : w.Loads room here) (hd : w.packageAt? here = some d)
    (hat : w.sourcesAt? here = some src) :
    w.turn here (room + 1) =
      match w.holds Entry.isDirectory src with
      | .error f => .ends (.error (.raised (.file f))) [.package d]
      | .ok false => .ends (.ok ()) [.package d]
      | .ok true => .goes d src := by
  obtain ⟨s, hname, hsrc⟩ := sourceName_of_sourcesAt? hd hat
  rw [turn, hload.tells.answer]
  simp only [hload.fits, Bool.false_eq_true, if_false, hd, hname, hsrc]

theorem turn_goes (hload : w.Loads room here) (hd : w.packageAt? here = some d)
    (hat : w.sourcesAt? here = some src) (hdir : w.Tells Entry.isDirectory src true) :
    w.turn here (room + 1) = .goes d src := by
  rw [turn_package hload hd hat, hdir.answer]

end World

namespace Walk

open World

variable {w w' : World} {root here there place : List Text} {package : Option Descriptor}
  {room last : Nat} {s : Stage} {r : Except Failure Unit} {found before : List Event}

/-! ## Derivations by what is seen -/

/-- Induction over derivations that tells directories apart only by what a walk does there. -/
theorem Walked.turn_induction
    {motive : ∀ room s r found, Walked w root room s r found → Prop}
    (ends : ∀ {room here package r found}
      (h : Walked w root room (.directory here package) r found),
      w.turn here room = .ends r found → motive _ _ _ _ h)
    (sources : ∀ {room here package d src r found}
      (h : Walked w root (room + 1) (.directory here package) r (.package d :: found)),
      w.turn here (room + 1) = .goes d src → w.sourcesAt? here = some src →
      w.Tells Entry.isDirectory src true →
      ∀ hsrc : Walked w root room (.directory src.names (some d)) r found,
      motive _ _ _ _ hsrc → motive _ _ _ _ h)
    (listing : ∀ {room here package es r found}
      (h : Walked w root (room + 2) (.directory here package) r found),
      w.turn here (room + 2) = .lists → w.Tells Entry.isFile (descriptorPath here) false →
      w.LinkFreeAt here es →
      ∀ hes : Walked w root room (.entries here package (Entry.inOrder es)) r found,
      motive _ _ _ _ hes → motive _ _ _ _ h)
    (done : ∀ {room here package}
      (h : Walked w root room (.entries here package []) (.ok ()) []), motive _ _ _ _ h)
    (file : ∀ {room here package n data left r found}
      (h : Walked w root room (.entries here package ((n, .file data) :: left)) r
        (fileEvent w root here package n :: found)),
      FileIn w here n → (∀ other ∈ left, n < other.1) →
      ∀ hleft : Walked w root room (.entries here package left) r found,
      motive _ _ _ _ hleft → motive _ _ _ _ h)
    (enter : ∀ {room here package n cs left r found more}
      (h : Walked w root room (.entries here package ((n, .directory cs) :: left)) r
        (found ++ more)),
      (∀ other ∈ left, n < other.1) →
      ∀ (hchild : Walked w root room (.directory (here ++ [n]) package) (.ok ()) found)
        (hleft : Walked w root room (.entries here package left) r more),
      motive _ _ _ _ hchild → motive _ _ _ _ hleft → motive _ _ _ _ h)
    (stopped : ∀ {room here package n cs left f found}
      (h : Walked w root room (.entries here package ((n, .directory cs) :: left)) (.error f) found)
      (hchild : Walked w root room (.directory (here ++ [n]) package) (.error f) found),
      motive _ _ _ _ hchild → motive _ _ _ _ h)
    (h : Walked w root room s r found) : motive room s r found h := by
  induction h with
  | exhausted => exact ends _ rfl
  | unanswered hfile => exact ends _ (turn_unanswered hfile)
  | buried htell hdeep => exact ends _ (turn_buried htell hdeep)
  | unreadable hload hd => exact ends _ (turn_unreadable hload hd)
  | malformed hload hd hname => exact ends _ (turn_malformed hload hd hname)
  | unresolved hload hd hname hsrc => exact ends _ (turn_unresolved hload hd hname hsrc)
  | refused hload hd hat hdir =>
    have hturn := turn_package hload hd hat
    rw [hdir] at hturn
    exact ends _ hturn
  | alone hload hd hat hdir =>
    have hturn := turn_package hload hd hat
    rw [hdir.answer] at hturn
    exact ends _ hturn
  | sources hload hd hat hdir hsrc ih =>
    exact sources _ (turn_goes hload hd hat hdir) hat hdir hsrc ih
  | cramped htell => exact ends _ (turn_cramped htell)
  | listing htell hfree hes ih => exact listing _ (turn_lists htell) htell hfree hes ih
  | done => exact done _
  | file hfile hfirst hleft ih => exact file _ hfile hfirst hleft ih
  | enter hfirst hchild hleft ih ih' => exact enter _ hfirst hchild hleft ih ih'
  | stopped hchild ih => exact stopped _ hchild ih

/-- What is seen of a directory says how its walk goes. -/
theorem Walked.directory (h : Walked w root room (.directory here package) r found) :
    w.turn here room = .ends r found ∨
    (∃ left d src more, room = left + 1 ∧ w.turn here room = .goes d src ∧
      found = .package d :: more ∧ Walked w root left (.directory src.names (some d)) r more) ∨
    ∃ left es, room = left + 2 ∧ w.turn here room = .lists ∧ w.LinkFreeAt here es ∧
      Walked w root left (.entries here package (Entry.inOrder es)) r found := by
  generalize hs : Stage.directory here package = s at h
  induction h using Walked.turn_induction with
  | ends _ hturn =>
    cases hs
    exact Or.inl hturn
  | sources _ hturn _ _ hsrc _ =>
    cases hs
    exact Or.inr (Or.inl ⟨_, _, _, _, rfl, hturn, rfl, hsrc⟩)
  | listing _ hturn _ hfree hes _ =>
    cases hs
    exact Or.inr (Or.inr ⟨_, _, rfl, hturn, hfree, hes⟩)
  | done | file | enter | stopped => cases hs

theorem Walked.of_goes {d : Descriptor} {src : Path}
    (h : Walked w root (room + 1) (.directory here package) r found)
    (hturn : w.turn here (room + 1) = .goes d src) :
    ∃ more, found = .package d :: more ∧
      Walked w root room (.directory src.names (some d)) r more := by
  rcases h.directory with heq | ⟨left, d', src', more, hroom, heq, rfl, hwalked⟩ |
    ⟨left, es, -, heq, -⟩ <;> rw [hturn] at heq <;> cases heq
  obtain rfl := Nat.succ.inj hroom
  exact ⟨more, rfl, hwalked⟩

theorem Walked.of_lists {es : List (Text × Entry)}
    (h : Walked w root (room + 2) (.directory here package) r found)
    (hturn : w.turn here (room + 2) = .lists) (hfree : w.LinkFreeAt here es) :
    Walked w root room (.entries here package (Entry.inOrder es)) r found := by
  rcases h.directory with heq | ⟨left, d, src, more, -, heq, -⟩ |
    ⟨left, es', hroom, heq, hfree', hwalked⟩
  · rw [hturn] at heq
    cases heq
  · rw [hturn] at heq
    cases heq
  · obtain rfl := Nat.succ.inj (Nat.succ.inj hroom)
    obtain rfl := Entry.directory.inj (Option.some.inj (hfree'.found.symm.trans hfree.found))
    exact hwalked

theorem Walked.of_ends {r' : Except Failure Unit} {found' : List Event}
    (h : Walked w root room (.directory here package) r found)
    (hturn : w.turn here room = .ends r' found') : r = r' ∧ found = found' := by
  rcases h.directory with heq | ⟨left, d, src, more, -, heq, -⟩ | ⟨left, es, -, heq, -⟩ <;>
    rw [hturn] at heq <;> cases heq
  exact ⟨rfl, rfl⟩

/-- A walk can only go one way. -/
theorem Walked.unique (h : Walked w root room s r found) {r' : Except Failure Unit}
    {found' : List Event} (h' : Walked w root room s r' found') : r' = r ∧ found' = found := by
  induction h using Walked.turn_induction generalizing r' found' with
  | ends _ hturn => exact h'.of_ends hturn
  | sources _ hturn _ _ _ ih =>
    obtain ⟨more, rfl, hwalked⟩ := h'.of_goes hturn
    obtain ⟨rfl, rfl⟩ := ih hwalked
    exact ⟨rfl, rfl⟩
  | listing _ hturn _ hfree _ ih => exact ih (h'.of_lists hturn hfree)
  | done =>
    cases h'
    exact ⟨rfl, rfl⟩
  | file _ _ _ _ ih =>
    cases h' with
    | file _ _ hwalked =>
      obtain ⟨rfl, rfl⟩ := ih hwalked
      exact ⟨rfl, rfl⟩
  | enter _ _ _ _ ih ih' =>
    cases h' with
    | enter _ hwalked hwalked' =>
      obtain ⟨-, rfl⟩ := ih hwalked
      obtain ⟨rfl, rfl⟩ := ih' hwalked'
      exact ⟨rfl, rfl⟩
    | stopped hwalked => cases (ih hwalked).1
  | stopped _ _ ih =>
    cases h' with
    | enter _ hwalked _ => cases (ih hwalked).1
    | stopped hwalked => exact ih hwalked

/-! ## Coming to a descriptor -/

/-- A walk with so many calls left comes to read the descriptor of the directory `place`, after it
has found these events; `last` calls are then left to read it. -/
inductive ComesTo (w : World) (root place : List Text) (last : Nat) :
    Nat → Stage → List Event → Prop where
  | here {package : Option Descriptor} :
    w.Loads last place → ComesTo w root place last (last + 1) (.directory place package) []
  | sources {room : Nat} {here : List Text} {package : Option Descriptor} {d : Descriptor}
      {src : Path} {before : List Event} :
    w.Loads room here → w.packageAt? here = some d → w.sourcesAt? here = some src →
      w.Tells Entry.isDirectory src true →
      ComesTo w root place last room (.directory src.names (some d)) before →
      ComesTo w root place last (room + 1) (.directory here package) (.package d :: before)
  | listing {room : Nat} {here : List Text} {package : Option Descriptor}
      {es : List (Text × Entry)} {before : List Event} :
    w.Tells Entry.isFile (descriptorPath here) false → w.LinkFreeAt here es →
      ComesTo w root place last room (.entries here package (Entry.inOrder es)) before →
      ComesTo w root place last (room + 2) (.directory here package) before
  | file {room : Nat} {here : List Text} {package : Option Descriptor} {n : Text}
      {data : List UInt8} {left : List (Text × Entry)} {before : List Event} :
    FileIn w here n → ComesTo w root place last room (.entries here package left) before →
      ComesTo w root place last room (.entries here package ((n, .file data) :: left))
        (fileEvent w root here package n :: before)
  | enter {room : Nat} {here : List Text} {package : Option Descriptor} {n : Text}
      {cs left : List (Text × Entry)} {before : List Event} :
    ComesTo w root place last room (.directory (here ++ [n]) package) before →
      ComesTo w root place last room (.entries here package ((n, .directory cs) :: left)) before
  /-- A directory has been walked to its end. -/
  | past {room : Nat} {here : List Text} {package : Option Descriptor} {n : Text}
      {cs left : List (Text × Entry)} {found before : List Event} :
    Walked w root room (.directory (here ++ [n]) package) (.ok ()) found →
      ComesTo w root place last room (.entries here package left) before →
      ComesTo w root place last room (.entries here package ((n, .directory cs) :: left))
        (found ++ before)

/-- A walk that comes to a directory finds what that yields, right after what it has found before,
and does not go on after a failure there. -/
theorem Walked.of_comesTo (h : Walked w root room s r found)
    (hcomes : ComesTo w root place last room s before) :
    ∃ package r₁ found₁ more, Walked w root (last + 1) (.directory place package) r₁ found₁ ∧
      found = before ++ found₁ ++ more ∧ (r₁ = .ok () ∨ r = r₁ ∧ more = []) := by
  induction hcomes generalizing r found with
  | here _ => exact ⟨_, r, found, [], h, by simp, Or.inr ⟨rfl, rfl⟩⟩
  | sources hload hd hat hdir _ ih =>
    obtain ⟨rest, rfl, hwalked⟩ := h.of_goes (turn_goes hload hd hat hdir)
    obtain ⟨package, r₁, found₁, more, hplace, rfl, hend⟩ := ih hwalked
    exact ⟨package, r₁, found₁, more, hplace, rfl, hend⟩
  | listing htell hfree _ ih => exact ih (h.of_lists (turn_lists htell) hfree)
  | file _ _ ih =>
    cases h with
    | file _ _ hwalked =>
      obtain ⟨package, r₁, found₁, more, hplace, rfl, hend⟩ := ih hwalked
      exact ⟨package, r₁, found₁, more, hplace, rfl, hend⟩
  | enter _ ih =>
    cases h with
    | @enter _ _ _ _ _ _ _ _ rest _ hwalked _ =>
      obtain ⟨package, r₁, found₁, more, hplace, rfl, hend⟩ := ih hwalked
      refine ⟨package, r₁, found₁, more ++ rest, hplace, by simp, Or.inl ?_⟩
      rcases hend with hok | ⟨hok, -⟩
      · exact hok
      · exact hok.symm
    | stopped hwalked => exact ih hwalked
  | past hbefore _ ih =>
    cases h with
    | enter _ hwalked hwalked' =>
      obtain ⟨-, rfl⟩ := hbefore.unique hwalked
      obtain ⟨package, r₁, found₁, more, hplace, rfl, hend⟩ := ih hwalked'
      exact ⟨package, r₁, found₁, more, hplace, by simp, hend⟩
    | stopped hwalked => cases (hbefore.unique hwalked).1

/-! ## Entries by their names and kinds -/

section Outline

variable {left left' : List (Text × Entry)}

theorem first_of_outline {n : Text} (hout : left'.map Entry.outline = left.map Entry.outline)
    (hfirst : ∀ other ∈ left, n < other.1) : ∀ other ∈ left', n < other.1 := by
  intro other hother
  have hmem : Entry.outline other ∈ left.map Entry.outline :=
    hout ▸ List.mem_map.2 ⟨other, hother, rfl⟩
  obtain ⟨same, hsame, heq⟩ := List.mem_map.1 hmem
  have hname : same.1 = other.1 := (Prod.mk.inj heq).1
  exact hname ▸ hfirst same hsame

/-- The head of a list with the outline of another one. -/
theorem cons_of_outline {n : Text} {e : Entry}
    (hout : left'.map Entry.outline = ((n, e) :: left).map Entry.outline) :
    ∃ e' rest, left' = (n, e') :: rest ∧ e'.kind = e.kind ∧
      rest.map Entry.outline = left.map Entry.outline := by
  obtain ⟨⟨m, e'⟩, rest, rfl, hhead, hrest⟩ := List.map_eq_cons_iff.1 hout
  obtain ⟨rfl, hkind⟩ := Prod.mk.inj hhead
  exact ⟨e', rest, rfl, hkind, hrest⟩

theorem Walked.of_outline (h : Walked w root room (.entries here package left) r found)
    (hout : left'.map Entry.outline = left.map Entry.outline) :
    Walked w root room (.entries here package left') r found := by
  induction left generalizing left' r found with
  | nil =>
    obtain rfl := List.map_eq_nil_iff.1 hout
    exact h
  | cons entry left ih =>
    obtain ⟨n, e⟩ := entry
    obtain ⟨e', rest, rfl, hkind, hrest⟩ := cons_of_outline hout
    cases h with
    | file hfile hfirst hleft =>
      cases e' with
      | file data' => exact .file hfile (first_of_outline hrest hfirst) (ih hleft hrest)
      | _ => cases hkind
    | enter hfirst hchild hleft =>
      obtain ⟨cs', rfl⟩ := Entry.kind_eq_directory hkind
      exact .enter (first_of_outline hrest hfirst) hchild (ih hleft hrest)
    | stopped hchild =>
      obtain ⟨cs', rfl⟩ := Entry.kind_eq_directory hkind
      exact .stopped hchild

theorem ComesTo.of_outline
    (h : ComesTo w root place last room (.entries here package left) before)
    (hout : left'.map Entry.outline = left.map Entry.outline) :
    ComesTo w root place last room (.entries here package left') before := by
  induction left generalizing left' before with
  | nil => cases h
  | cons entry left ih =>
    obtain ⟨n, e⟩ := entry
    obtain ⟨e', rest, rfl, hkind, hrest⟩ := cons_of_outline hout
    cases h with
    | file hfile hleft =>
      cases e' with
      | file data' => exact .file hfile (ih hleft hrest)
      | _ => cases hkind
    | enter hchild =>
      obtain ⟨cs', rfl⟩ := Entry.kind_eq_directory hkind
      exact .enter hchild
    | past hbefore hleft =>
      obtain ⟨cs', rfl⟩ := Entry.kind_eq_directory hkind
      exact .past hbefore (ih hleft hrest)

end Outline

/-! ## Worlds that look the same -/

/-- What the system says about the descriptor of a directory, and about its sources, is so. -/
structure Clear (w : World) (here : List Text) : Prop where
  free : ∃ es, w.LinkFreeAt here es
  sources : ∀ src b, w.sourcesAt? here = some src → w.holds Entry.isDirectory src = .ok b →
    (w.tree.get? src.names).any Entry.isDirectory = b

namespace Clear

theorem tells_descriptor (h : Clear w here) {b : Bool}
    (hfile : w.holds Entry.isFile (descriptorPath here) = .ok b) :
    w.Tells Entry.isFile (descriptorPath here) b := by
  obtain ⟨es, hfree⟩ := h.free
  exact ⟨hfile, hfree.holds_eq_ok noDots_fileName hfile⟩

/-- What a walk does in a directory whose descriptor it reads, and why. -/
theorem turn_cases_package (h : Clear w here) (hload : w.Loads room here) :
    (∃ r found, w.turn here (room + 1) = .ends r found ∧
      ∀ root package, Walked w root (room + 1) (.directory here package) r found) ∨
    ∃ left d src, room + 1 = left + 1 ∧ w.turn here (room + 1) = .goes d src ∧
      w.Loads left here ∧ w.packageAt? here = some d ∧ w.sourcesAt? here = some src ∧
      w.Tells Entry.isDirectory src true := by
  cases hd : w.packageAt? here with
  | none => exact Or.inl ⟨_, _, turn_unreadable hload hd, fun _ _ => .unreadable hload hd⟩
  | some d =>
    cases hname : d.sourceName with
    | error f =>
      exact Or.inl ⟨_, _, turn_malformed hload hd hname, fun _ _ => .malformed hload hd hname⟩
    | ok s =>
      cases hsrc : w.resolve (d.directory.child s) with
      | error f =>
        exact Or.inl ⟨_, _, turn_unresolved hload hd hname hsrc,
          fun _ _ => .unresolved hload hd hname hsrc⟩
      | ok src =>
        have hat := sourcesAt?_eq_some hd hname hsrc
        have hturn := turn_package hload hd hat
        cases hdir : w.holds Entry.isDirectory src with
        | error f =>
          rw [hdir] at hturn
          exact Or.inl ⟨_, _, hturn, fun _ _ => .refused hload hd hat hdir⟩
        | ok b =>
          have htell : w.Tells Entry.isDirectory src b := ⟨hdir, h.sources src b hat hdir⟩
          rw [hdir] at hturn
          cases b with
          | false => exact Or.inl ⟨_, _, hturn, fun _ _ => .alone hload hd hat htell⟩
          | true => exact Or.inr ⟨room, d, src, rfl, hturn, hload, rfl, hat, htell⟩

/-- What a walk does in a directory, and why. -/
theorem turn_cases (h : Clear w here) (room : Nat) :
    (∃ r found, w.turn here room = .ends r found ∧
      ∀ root package, Walked w root room (.directory here package) r found) ∨
    (∃ left d src, room = left + 1 ∧ w.turn here room = .goes d src ∧ w.Loads left here ∧
      w.packageAt? here = some d ∧ w.sourcesAt? here = some src ∧
      w.Tells Entry.isDirectory src true) ∨
    ∃ left, room = left + 2 ∧ w.turn here room = .lists ∧
      w.Tells Entry.isFile (descriptorPath here) false := by
  cases room with
  | zero => exact Or.inl ⟨_, _, rfl, fun _ _ => .exhausted⟩
  | succ room =>
    cases hfile : w.holds Entry.isFile (descriptorPath here) with
    | error f => exact Or.inl ⟨_, _, turn_unanswered hfile, fun _ _ => .unanswered hfile⟩
    | ok b =>
      have htell := h.tells_descriptor hfile
      cases b with
      | false =>
        cases room with
        | zero => exact Or.inl ⟨_, _, turn_cramped htell, fun _ _ => .cramped htell⟩
        | succ room => exact Or.inr (Or.inr ⟨room, rfl, turn_lists htell, htell⟩)
      | true =>
        cases hdeep : w.overflowsAt room here with
        | true => exact Or.inl ⟨_, _, turn_buried htell hdeep, fun _ _ => .buried htell hdeep⟩
        | false => exact (h.turn_cases_package ⟨htell, hdeep⟩).imp_right Or.inl

theorem walked (h : Clear w here) (hturn : w.turn here room = .ends r found) :
    Walked w root room (.directory here package) r found := by
  rcases h.turn_cases room with ⟨r', found', heq, hwalked⟩ | ⟨left, d, src, -, heq, -⟩ |
    ⟨left, -, heq, -⟩ <;> rw [hturn] at heq <;> cases heq
  exact hwalked root package

theorem of_goes (h : Clear w here) {d : Descriptor} {src : Path}
    (hturn : w.turn here (room + 1) = .goes d src) :
    w.Loads room here ∧ w.packageAt? here = some d ∧ w.sourcesAt? here = some src ∧
      w.Tells Entry.isDirectory src true := by
  rcases h.turn_cases (room + 1) with ⟨r, found, heq, -⟩ | ⟨left, d', src', hroom, heq, hgoes⟩ |
    ⟨left, -, heq, -⟩ <;> rw [hturn] at heq <;> cases heq
  obtain rfl := Nat.succ.inj hroom
  exact hgoes

theorem of_lists (h : Clear w here) (hturn : w.turn here room = .lists) :
    w.Tells Entry.isFile (descriptorPath here) false := by
  rcases h.turn_cases room with ⟨r, found, heq, -⟩ | ⟨left, d, src, -, heq, -⟩ |
    ⟨left, -, -, htell⟩
  · rw [hturn] at heq
    cases heq
  · rw [hturn] at heq
    cases heq
  · exact htell

end Clear

/-- What a walk does in a directory, and the names and kinds of what is in it, are the same in two
worlds. -/
structure Agrees (w w' : World) (here : List Text) : Prop where
  clear : Clear w' here
  turn : ∀ room, w'.turn here room = w.turn here room
  kinds : ∀ n, w'.tree.kind? (here ++ [n]) = w.tree.kind? (here ++ [n])

theorem descriptorData?_eq_none : w.descriptorData? here = none ↔
    w.tree.kind? (here ++ [Descriptor.fileName]) ≠ some .file := by
  rw [descriptorData?, Entry.kind?]
  rcases w.tree.get? (here ++ [Descriptor.fileName]) with _ | (_ | _ | _) <;>
    simp [Entry.kind]

namespace Agrees

theorem fileIn (h : Agrees w w' here) {n : Text} (hfile : FileIn w here n) : FileIn w' here n := by
  obtain ⟨hnone, data, hdata⟩ := hfile
  refine ⟨?_, ?_⟩
  · rw [descriptorData?_eq_none, h.kinds]
    exact descriptorData?_eq_none.1 hnone
  · obtain ⟨e', he', hkind⟩ := Files.get?_of_kind?_eq (h.kinds n) hdata
    cases e' with
    | file data' => exact ⟨data', he'⟩
    | _ => cases hkind

theorem outline (h : Agrees w w' here) {es : List (Text × Entry)} (hfree : w.LinkFreeAt here es) :
    ∃ es', w'.LinkFreeAt here es' ∧
      (Entry.inOrder es').map Entry.outline = (Entry.inOrder es).map Entry.outline := by
  obtain ⟨es', hfree'⟩ := h.clear.free
  refine ⟨es', hfree', Entry.map_outline_inOrder hfree.nodup hfree'.nodup fun n => ?_⟩
  rw [← Files.lookup_kind hfree'.found, ← Files.lookup_kind hfree.found, h.kinds]

end Agrees

/-- Two worlds agree on everything that a walk still comes to but for one directory. -/
structure Stage.AgreesBut (w w' : World) (place : List Text) (s : Stage) : Prop where
  directories : ∀ here, s.Reaches w here → here ≠ place → Agrees w w' here
  files : ∀ here n, s.Offers w here n → FileIn w' here n

theorem Stage.AgreesBut.within {s' : Stage} (h : s.AgreesBut w w' place) (hs : s'.Within w s) :
    s'.AgreesBut w w' place :=
  ⟨fun here hreach => h.directories here (hs.reaches here hreach),
    fun here n hoffers => h.files here n (hs.offers here n hoffers)⟩

/-- A walk that comes to a directory has so many calls left there. -/
def LeftAt (w : World) (place : List Text) (left : Nat → Prop) (room : Nat) (here : List Text) :
    Prop :=
  ∀ k, ReachesWith w (room, here) (k, place) → left k

theorem LeftAt.of_enters {left : Nat → Prop} {k : Nat} {next : List Text}
    (h : LeftAt w place left room here) (henters : EntersWith w (room, here) (k, next)) :
    LeftAt w place left k next :=
  fun j hreach => h j (.head henters hreach)

/-- If no way leads back, few calls are used up wherever a walk comes. -/
theorem Forward.leftAt {es : List (Text × Entry)} (h : Forward w here)
    (hget : w.tree.get? here = some (.directory es)) (place : List Text) (room : Nat) :
    LeftAt w place (fun left => room ≤ left + 2 * w.tree.size) room here := by
  intro left hreach
  obtain ⟨way, hway, hle⟩ := hreach.exists_way
  have hlength := h.length_le hget hway
  omega

theorem LeftAt.entries {left : Nat → Prop} {es : List (Text × Entry)}
    (h : LeftAt w place left (room + 2) here)
    (htell : w.Tells Entry.isFile (descriptorPath here) false) (hfree : w.LinkFreeAt here es) :
    (Stage.entries here package (Entry.inOrder es)).All (LeftAt w place left room) :=
  fun _ _ hmem => h.of_enters
    (.child (by simpa using htell.descriptorData?) (hfree.mem_inOrder_iff.1 hmem))

theorem fileEvent_of_relative (hrelative : ∀ p q, w'.relative p q = w.relative p q) (n : Text) :
    fileEvent w' root here package n = fileEvent w root here package n := by
  rw [fileEvent, hrelative, fileEvent]

/-- A derivation can be carried over to a world that agrees on all that it comes to, if that is so
for the walk of the one directory in which the worlds may differ. -/
theorem Walked.carry {P : Except Failure Unit → Prop} {Q : Nat → Prop}
    (h : Walked w root room s r found) (hagree : s.AgreesBut w w' place)
    (hleft : s.All (LeftAt w place Q room))
    (hrelative : ∀ p q, w'.relative p q = w.relative p q) (hok : P (.ok ())) (hr : P r)
    (hplace : ∀ k package r found, Q k → P r →
      Walked w root k (.directory place package) r found →
      Walked w' root k (.directory place package) r found) : Walked w' root room s r found := by
  induction h using Walked.turn_induction with
  | @ends _ here _ _ _ h hturn =>
    by_cases hhere : here = place
    · subst hhere
      exact hplace _ _ _ _ (hleft _ .refl) hr h
    · have hsame := hagree.directories here .refl hhere
      exact hsame.clear.walked ((hsame.turn _).trans hturn)
  | @sources _ here _ d src _ _ h hturn hat hdir _ ih =>
    by_cases hhere : here = place
    · subst hhere
      exact hplace _ _ _ _ (hleft _ .refl) hr h
    · have hsame := hagree.directories here .refl hhere
      obtain ⟨hload, hd, hat', hdir'⟩ := hsame.clear.of_goes ((hsame.turn _).trans hturn)
      obtain ⟨cs, hcs⟩ := hdir.directory
      exact .sources hload hd hat' hdir' (ih (hagree.within (Stage.within_sources _ _ hat hdir))
        (LeftAt.of_enters hleft (.sources hat hcs)) hr)
  | @listing _ here _ _ _ _ h hturn htell hfree _ ih =>
    by_cases hhere : here = place
    · subst hhere
      exact hplace _ _ _ _ (hleft _ .refl) hr h
    · have hsame := hagree.directories here .refl hhere
      obtain ⟨es', hfree', hout⟩ := hsame.outline hfree
      exact .listing (hsame.clear.of_lists ((hsame.turn _).trans hturn)) hfree'
        ((ih (hagree.within (Stage.within_listing _ htell hfree))
          (LeftAt.entries hleft htell hfree) hr).of_outline hout)
  | done _ => exact .done
  | @file _ here _ n _ _ _ _ _ hfile hfirst _ ih =>
    have hfile' := hagree.files here n ((Stage.offers_cons_file hfile).2 (Or.inl ⟨rfl, rfl⟩))
    rw [← fileEvent_of_relative hrelative]
    exact .file hfile' hfirst (ih (hagree.within (Stage.within_cons_file hfile))
      (Stage.all_cons_file.1 hleft) hr)
  | enter _ hfirst _ _ ih ih' =>
    obtain ⟨hfirst', hrest⟩ := Stage.all_cons_directory.1 hleft
    exact .enter hfirst (ih (hagree.within Stage.within_first) hfirst' hok)
      (ih' (hagree.within Stage.within_rest) hrest hr)
  | stopped _ _ ih =>
    exact .stopped (ih (hagree.within Stage.within_first) (Stage.all_cons_directory.1 hleft).1 hr)

/-- If the descriptor of a directory is malformed, a walk comes there just so in a world that agrees
on everything else. -/
theorem ComesTo.carry {d : Descriptor} {f : Failure} (h : ComesTo w root place last room s before)
    (hagree : s.AgreesBut w w' place) (hrelative : ∀ p q, w'.relative p q = w.relative p q)
    (hd : w.packageAt? place = some d) (hname : d.sourceName = .error f)
    (hload : w'.Loads last place) : ComesTo w' root place last room s before := by
  induction h with
  | here _ => exact .here hload
  | @sources _ here _ _ src _ hload' hd' hat hdir _ ih =>
    have hhere : here ≠ place := by
      rintro rfl
      rw [sourcesAt?_of_malformed hd hname] at hat
      cases hat
    have hsame := hagree.directories here .refl hhere
    obtain ⟨hload'', hd'', hat', hdir'⟩ :=
      hsame.clear.of_goes ((hsame.turn _).trans (turn_goes hload' hd' hat hdir))
    exact .sources hload'' hd'' hat' hdir' (ih (hagree.within (Stage.within_sources _ _ hat hdir)))
  | @listing k here _ es _ htell hfree _ ih =>
    have hhere : here ≠ place := by
      rintro rfl
      have hnone : w.descriptorData? here = none := by simpa using htell.descriptorData?
      simp [packageAt?, hnone] at hd
    have hsame := hagree.directories here .refl hhere
    obtain ⟨es', hfree', hout⟩ := hsame.outline hfree
    exact .listing (hsame.clear.of_lists ((hsame.turn (k + 2)).trans (turn_lists htell))) hfree'
      ((ih (hagree.within (Stage.within_listing _ htell hfree))).of_outline hout)
  | @file _ here _ n _ _ _ hfile _ ih =>
    have hfile' := hagree.files here n ((Stage.offers_cons_file hfile).2 (Or.inl ⟨rfl, rfl⟩))
    rw [← fileEvent_of_relative hrelative]
    exact .file hfile' (ih (hagree.within (Stage.within_cons_file hfile)))
  | enter _ ih => exact .enter (ih (hagree.within Stage.within_first))
  | past hbefore _ ih =>
    refine .past (hbefore.carry (P := (· = .ok ())) (Q := fun _ => True)
      (hagree.within Stage.within_first) (fun _ _ => trivial) hrelative rfl rfl ?_)
      (ih (hagree.within Stage.within_rest))
    rintro k package r found - rfl hwalked
    -- A walk does not end well where the descriptor is malformed.
    have hanswered := (hwalked.ok_iff.1 rfl).1 place .refl
    exact absurd hanswered
      (not_answered_of_sourcesAt? hd (sourcesAt?_of_malformed hd hname))

end Walk

end SourceDocs

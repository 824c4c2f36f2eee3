import SourceDocs.Proofs.Archive.Holding

/-!
# A destination outside of the sources

A run that archives below its destination still sees the same sources if the destination is outside
of them.  With links that is not a matter of names, so `Unseen` and `Outside` say it of all that the
archive can do; without links it is one (`Unseen.of_linkFree`, `Outside.of_linkFree`): neither the
destination nor the root of the sources is above the other.
-/

namespace SourceDocs

open Files Entry World

namespace Archive

variable {d root rest : List Text} {w v : World} {es : List (Text × Entry)}

/-- Whatever the archive puts at the destination, a walk from `root` looks at none of it. -/
def Unseen (destination : Path) (root : List Text) (w : World) : Prop :=
  ∀ v rest, Archived destination w v → (∀ n ∈ rest, isName n) →
    v.entry ⟨1, root ++ rest⟩ = w.entry ⟨1, root ++ rest⟩

/-- The destination is vacant and outside of what a walk from `root` looks at: the archive can put
there whatever it likes. -/
structure Outside (destination : Path) (root : List Text) (w : World) : Prop where
  vacant : ∀ v place, Archived destination w v → v.IsPlace destination place → Vacant w place
  same : Unseen destination root w

/-! ## Look-ups below a directory without links -/

/-- How far a look-up gets depends only on what is below the directory that it begins at. -/
theorem advance_congr {t t' : Entry} (followLast : Bool) {here : List Text}
    (h : ∀ more, t'.get? (here ++ more) = t.get? (here ++ more)) (hdots : Path.NoDots rest) :
    advance t' followLast here rest = advance t followLast here rest := by
  induction rest generalizing here with
  | nil =>
    have hhere := h []
    rw [List.append_nil] at hhere
    rw [advance, advance, hhere]
  | cons n more ih =>
    have hhere := h []
    rw [List.append_nil] at hhere
    have hchild : advance t' followLast (here ++ [n]) more =
        advance t followLast (here ++ [n]) more := by
      refine ih (fun rest => ?_) fun m hm => hdots m (List.mem_cons_of_mem _ hm)
      rw [List.append_assoc]
      exact h _
    have hn : n.isString ".." = false := hdots n List.mem_cons_self
    rw [advance.eq_def, advance.eq_def t]
    simp only [hhere, hn, hchild, Bool.false_eq_true, if_false]

/-- What is found below a directory without links depends only on what is there. -/
theorem entry_congr (h : w.LinkFreeAt root es)
    (hsame : v.tree.get? root = some (.directory es)) (hdots : Path.NoDots rest) :
    v.entry ⟨1, root ++ rest⟩ = w.entry ⟨1, root ++ rest⟩ := by
  cases hlook : checkLookup ⟨1, root ++ rest⟩ with
  | error f => simp only [World.entry, Files.entry, follow, hlook, bind, Except.bind]
  | ok u =>
    have hadvance : advance v.tree true [] (root ++ rest) =
        advance w.tree true [] (root ++ rest) := by
      rw [advance_append true [] h.isName_here hsame, advance_append true [] h.isName_here h.found]
      refine advance_congr true (fun more => ?_) hdots
      rw [List.nil_append, get?_append, get?_append, hsame, h.found]
    have hfollow : followNames v.tree true maxLinks [] (root ++ rest) =
        followNames w.tree true maxLinks [] (root ++ rest) := by
      have hstraight := advance_append true [] h.isName_here h.found rest
      rw [List.nil_append] at hstraight
      rw [followNames, followNames, hadvance, hstraight]
      rcases advance_linkFree true h.found h.named_here h.free hdots with
        ⟨e, -, -, hadv⟩ | ⟨-, hadv | ⟨f, -, hadv⟩⟩ <;> rw [hadv]
    rw [v.entry_absolute hlook, w.entry_absolute hlook, hfollow]

/-! ## Worlds without links -/

/-- What stays of a world without links while things are put below a destination outside of the
sources. -/
structure Untouched (w v : World) (root : List Text) : Prop where
  noLinks : NoLinks v.tree []
  sources : v.tree.get? root = w.tree.get? root

theorem Untouched.refl (h : w.tree.isLinkFree) : Untouched w w root :=
  ⟨noLinks_of_isLinkFree h [], rfl⟩

theorem Untouched.put {names : List Text} {e : Entry} (h : Untouched w v root)
    (hfits : Fits v.tree names e) (hapart : Apart names root) :
    Untouched w (v.put names e) root :=
  ⟨h.noLinks.set hfits, (get?_set_of_apart hapart e).trans h.sources⟩

theorem Untouched.straight {q : Path} {names : List Text} {found : Option Entry}
    (h : Untouched w v root) (hq : q.root = 1) (hdots : Path.NoDots q.names)
    (hleads : v.LeadsTo q (names, found)) : names = q.names := by
  have hstart : v.start q = [] := by
    rw [World.start, Path.isAbsolute, hq]
    rfl
  rw [World.LeadsTo, hstart] at hleads
  exact (hleads.straight h.noLinks hdots).trans (List.nil_append _)

/-- Names through the destination, or from above it, are apart from the sources if the names of the
sources are there and they are not. -/
theorem apart_of_way {names : List Text} (hapart : Apart d root)
    (hnames : names <+: d ++ rest) (habove : ¬ names <+: root) : Apart names root := by
  refine ⟨habove, fun hroot => ?_⟩
  rcases List.prefix_or_prefix_of_prefix (hroot.trans hnames) (List.prefix_append d rest) with h | h
  · exact hapart.2 h
  · exact hapart.1 h

theorem Untouched.places (hdots : Path.NoDots d) (hapart : Apart d root)
    (hsource : (w.tree.get? root).isSome) {v' : World} (h : Untouched w v root)
    (hstep : Places ⟨1, d⟩ v v') : Untouched w v' root := by
  cases hstep with
  | @directory q rest names hq hway hrest hleads =>
    have hqdots : Path.NoDots q.names := fun n hn =>
      (hdots.append (noDots_directoryName.append hrest)) n (hway.subset hn)
    obtain rfl := h.straight hq hqdots hleads
    refine h.put hleads.fits_empty (apart_of_way hapart hway fun habove => ?_)
    -- Everything above the sources is there already.
    obtain ⟨more, rfl⟩ := habove
    rw [← h.sources, get?_append, hleads.get?] at hsource
    cases hsource
  | @file rest names found data hrest hleads hfound =>
    have hdots' : Path.NoDots (d ++ directoryName :: rest) :=
      hdots.append (noDots_directoryName.append hrest)
    obtain rfl := h.straight rfl hdots' hleads
    refine h.put (hleads.fits_file (by simp) hfound data) ?_
    exact apart_of_way hapart (List.prefix_refl _) fun habove =>
      hapart.1 ((List.prefix_append _ _).trans habove)
  | other hsame =>
    exact ⟨hsame.tree ▸ h.noLinks, hsame.tree ▸ h.sources⟩

theorem Untouched.archived (hfree : w.tree.isLinkFree) (hdots : Path.NoDots d)
    (hapart : Apart d root) (hsource : (w.tree.get? root).isSome)
    (h : Archived ⟨1, d⟩ w v) : Untouched w v root := by
  induction h with
  | refl => exact .refl hfree
  | tail _ hstep ih => exact ih.places hdots hapart hsource hstep

/-- Without links, a destination is outside of a directory if neither is above the other. -/
theorem Unseen.of_linkFree (named : w.tree.isWellNamed) (free : w.tree.isLinkFree)
    (hsource : w.tree.get? root = some (.directory es)) (hdots : Path.NoDots d)
    (hapart : Apart d root) : Unseen ⟨1, d⟩ root w := by
  have hfree : w.LinkFreeAt root es := ⟨hsource, named, isLinkFree_get? free hsource⟩
  intro v rest h hrest
  have huntouched : Untouched w v root :=
    .archived free hdots hapart (by rw [hsource]; rfl) h
  refine entry_congr hfree (huntouched.sources.trans hsource) fun n hn => ?_
  exact not_dots_of_isName (hrest n hn)

/-- A vacant destination can be anything but above or below the sources. -/
theorem Outside.of_linkFree (named : w.tree.isWellNamed) (free : w.tree.isLinkFree)
    (hsource : w.tree.get? root = some (.directory es)) (hdots : Path.NoDots d)
    (hvacant : Vacant w d) (hapart : Apart d root) : Outside ⟨1, d⟩ root w := by
  refine ⟨?_, .of_linkFree named free hsource hdots hapart⟩
  rintro v place h ⟨ds, hplace⟩
  have huntouched : Untouched w v root :=
    .archived free hdots hapart (by rw [hsource]; rfl) h
  rwa [huntouched.straight rfl hdots hplace]

end Archive

end SourceDocs

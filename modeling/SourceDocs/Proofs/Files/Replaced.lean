import SourceDocs.Proofs.Files.Placing

/-!
# Replacing what is there

`Entry.set` can put something in place of an entry that exists, also of a directory with everything
in it.  Then the tree looks as before wherever nothing below that entry is asked about
(`kind?_set_old`, `data?_set_old`), and it stays well named and free of links if what is put there
is (`LinkFreeAt.put_old`).  Two worlds in which the names of a link-free path lead to entries of the
same kinds give the same answers about that path (`LinkFreeAt.holds_congr`).
-/

namespace SourceDocs

namespace Entry

variable {t c e : Entry} {names rest there : List Text} {n : Text} {es : List (Text × Entry)}

@[simp] theorem set_nil (t e : Entry) : t.set [] e = e := by
  cases t <;> rfl

theorem set_cons_old (h : es.lookup n = some c) (rest : List Text) (e : Entry) :
    (directory es).set (n :: rest) e = .directory (put n (c.set rest e) es) := by
  cases rest with
  | nil => rw [set_nil, set]
  | cons m more => exact set_cons h (List.cons_ne_nil m more) e

/-- Below an entry that exists, something is put into that entry. -/
theorem get?_set_append (h : t.get? names = some c) (rest : List Text) (e : Entry) :
    (t.set (names ++ rest) e).get? names = some (c.set rest e) := by
  induction names generalizing t with
  | nil =>
    obtain rfl := Option.some.inj ((get?_nil t).symm.trans h)
    rw [List.nil_append, get?_nil]
  | cons n more ih =>
    obtain ⟨es, d, rfl, hd, hmore⟩ := get?_cons_eq_some h
    rw [List.cons_append, set_cons_old hd, get?_put, if_pos rfl]
    exact ih hmore

theorem get?_set_old (h : t.get? names = some c) (e : Entry) :
    (t.set names e).get? names = some e := by
  simpa using get?_set_append h [] e

/-- Where nothing below the replaced entry is asked about, nothing else changes but for the entries
of directories. -/
theorem map_get?_set_old {β : Type} {g : Entry → β}
    (hg : ∀ es es', g (.directory es) = g (.directory es')) (hold : t.get? names = some c)
    (hthere : names <+: there → there = names ∧ g c = g e) :
    ((t.set names e).get? there).map g = (t.get? there).map g := by
  induction names generalizing t there with
  | nil =>
    obtain ⟨rfl, hsame⟩ := hthere List.nil_prefix
    rw [hold, set_nil, get?_nil]
    exact congrArg some hsame.symm
  | cons n rest ih =>
    obtain ⟨es, d, rfl, hd, hrest⟩ := get?_cons_eq_some hold
    rw [set_cons_old hd]
    cases there with
    | nil =>
      rw [get?_nil, get?_nil]
      exact congrArg some (hg _ _)
    | cons m more =>
      rw [get?_put]
      by_cases hm : m = n
      · subst hm
        rw [if_pos rfl, get?_cons, entries, hd, Option.bind_some]
        refine ih hrest fun hpre => ?_
        obtain ⟨heq, hsame⟩ := hthere (List.cons_prefix_cons.2 ⟨rfl, hpre⟩)
        exact ⟨(List.cons.inj heq).2, hsame⟩
      · rw [if_neg hm]

theorem kind?_set_old (hold : t.get? names = some c) (hkind : c.kind = e.kind)
    (hthere : names <+: there → there = names) :
    (t.set names e).kind? there = t.kind? there :=
  map_get?_set_old (fun _ _ => rfl) hold fun hpre => ⟨hthere hpre, hkind⟩

theorem data?_set_old (hold : t.get? names = some c)
    (hthere : names <+: there → there = names ∧ c.content? = e.content?) :
    (t.set names e).data? there = t.data? there := by
  have hjoin (x : Option Entry) : x.bind content? = (x.map content?).join := by cases x <;> rfl
  rw [data?, data?, hjoin, hjoin, map_get?_set_old (fun _ _ => rfl) hold hthere]

/-! ## Names and links -/

theorem map_fst_put (h : es.lookup n = some c) (e : Entry) :
    (put n e es).map Prod.fst = es.map Prod.fst := by
  induction es with
  | nil => cases h
  | cons x rest ih =>
    obtain ⟨m, d⟩ := x
    by_cases hm : m = n
    · rw [put, if_pos hm, List.map_cons, List.map_cons, hm]
    · rw [lookup_cons_of_ne (Ne.symm hm)] at h
      rw [put, if_neg hm, List.map_cons, List.map_cons, ih h]

theorem areWellNamed_put (h : areWellNamed es) (hn : Files.isName n) (he : e.isWellNamed) :
    areWellNamed (put n e es) := by
  induction es with
  | nil => simp [put, areWellNamed, hn, he]
  | cons x rest ih =>
    obtain ⟨m, d⟩ := x
    simp only [areWellNamed, Bool.and_eq_true] at h
    by_cases hm : m = n
    · rw [put, if_pos hm]
      simp only [areWellNamed, Bool.and_eq_true]
      exact ⟨⟨hn, he⟩, h.2⟩
    · rw [put, if_neg hm]
      simp only [areWellNamed, Bool.and_eq_true]
      exact ⟨h.1, ih h.2⟩

theorem areLinkFree_put (h : areLinkFree es) (he : e.isLinkFree) : areLinkFree (put n e es) := by
  induction es with
  | nil => simp [put, areLinkFree, he]
  | cons x rest ih =>
    obtain ⟨m, d⟩ := x
    simp only [areLinkFree, Bool.and_eq_true] at h
    by_cases hm : m = n
    · rw [put, if_pos hm]
      simp only [areLinkFree, Bool.and_eq_true]
      exact ⟨he, h.2⟩
    · rw [put, if_neg hm]
      simp only [areLinkFree, Bool.and_eq_true]
      exact ⟨h.1, ih h.2⟩

theorem isWellNamed_set_old (ht : t.isWellNamed) (hold : t.get? names = some c)
    (he : e.isWellNamed) : (t.set names e).isWellNamed := by
  induction names generalizing t with
  | nil => rwa [set_nil]
  | cons n rest ih =>
    obtain ⟨es, d, rfl, hd, hrest⟩ := get?_cons_eq_some hold
    rw [isWellNamed, Bool.and_eq_true] at ht
    obtain ⟨hn, hdn⟩ := mem_of_areWellNamed ht.2 (mem_of_lookup hd)
    rw [set_cons_old hd, isWellNamed, Bool.and_eq_true, map_fst_put hd]
    exact ⟨ht.1, areWellNamed_put ht.2 hn (ih hdn hrest)⟩

theorem isLinkFree_set_old (ht : t.isLinkFree) (hold : t.get? names = some c)
    (he : e.isLinkFree) : (t.set names e).isLinkFree := by
  induction names generalizing t with
  | nil => rwa [set_nil]
  | cons n rest ih =>
    obtain ⟨es, d, rfl, hd, hrest⟩ := get?_cons_eq_some hold
    rw [isLinkFree] at ht
    rw [set_cons_old hd, isLinkFree]
    exact areLinkFree_put ht (ih (mem_of_areLinkFree ht (mem_of_lookup hd)) hrest)

/-! ## Entries of the same kind -/

theorem isFile_congr {c e : Entry} (h : c.kind = e.kind) : c.isFile = e.isFile := by
  cases c <;> cases e <;> first | rfl | cases h

theorem isDirectory_congr {c e : Entry} (h : c.kind = e.kind) : c.isDirectory = e.isDirectory := by
  cases c <;> cases e <;> first | rfl | cases h

/-- An entry of a directory as far as its name and kind go. -/
def outline (x : Text × Entry) : Text × Kind := (x.1, x.2.kind)

/-- Directories with the same names and kinds of entries list them in the same order. -/
theorem map_outline_inOrder {es' : List (Text × Entry)} (hnodup : (es.map Prod.fst).Nodup)
    (hnodup' : (es'.map Prod.fst).Nodup)
    (h : ∀ n, (es'.lookup n).map kind = (es.lookup n).map kind) :
    (inOrder es').map outline = (inOrder es).map outline := by
  have hmem {fs : List (Text × Entry)} (hfs : (fs.map Prod.fst).Nodup) (x : Text × Kind) :
      x ∈ (inOrder fs).map outline ↔ (fs.lookup x.1).map kind = some x.2 := by
    constructor
    · intro hx
      obtain ⟨⟨n, d⟩, hd, rfl⟩ := List.mem_map.1 hx
      rw [outline, lookup_of_mem hfs (mem_inOrder.1 hd), Option.map_some]
    · intro hx
      obtain ⟨d, hd, hkind⟩ := Option.map_eq_some_iff.1 hx
      exact List.mem_map.2 ⟨(x.1, d), mem_inOrder.2 (mem_of_lookup hd), Prod.ext rfl hkind⟩
  have hsorted {fs : List (Text × Entry)} (hfs : (fs.map Prod.fst).Nodup) :
      ((inOrder fs).map outline).Pairwise fun x y => x.1 < y.1 :=
    List.pairwise_map.2 (pairwise_inOrder hfs)
  have hdistinct {fs : List (Text × Entry)} (hfs : (fs.map Prod.fst).Nodup) :
      ((inOrder fs).map outline).Nodup :=
    List.Pairwise.imp (fun hlt => ne_of_apply_ne Prod.fst (ne_of_lt hlt)) (hsorted hfs)
  refine List.Perm.eq_of_pairwise (fun x y _ _ hlt hlt' => absurd hlt (lt_asymm hlt'))
    (hsorted hnodup') (hsorted hnodup) ?_
  refine (List.perm_ext_iff_of_nodup (hdistinct hnodup') (hdistinct hnodup)).2 fun x => ?_
  rw [hmem hnodup', hmem hnodup, h]

end Entry

namespace Files

open Entry

variable {t t' : Entry} {here rest : List Text} {f : FileFault}

theorem get?_of_kind?_eq {names : List Text} {e : Entry} (h : t'.kind? names = t.kind? names)
    (he : t.get? names = some e) : ∃ e', t'.get? names = some e' ∧ e'.kind = e.kind := by
  rw [kind?, kind?, he] at h
  exact Option.map_eq_some_iff.1 h

theorem get?_eq_none_of_kind?_eq {names : List Text} (h : t'.kind? names = t.kind? names)
    (hnone : t.get? names = none) : t'.get? names = none :=
  kind?_eq_none.1 (h.trans (kind?_eq_none.2 hnone))

/-- Whether a look-up without double dots fails depends only on the kinds of what is on the way. -/
theorem advance_error_congr (hkinds : ∀ there, there <+: rest →
      t'.kind? (here ++ there) = t.kind? (here ++ there)) (hdots : Path.NoDots rest) :
    advance t' true here rest = .error f ↔ advance t true here rest = .error f := by
  have hhere := hkinds [] List.nil_prefix
  rw [List.append_nil] at hhere
  cases hget : t.get? here with
  | none =>
    have hget' := get?_eq_none_of_kind?_eq hhere hget
    cases rest <;> rw [advance, advance, hget, hget']
  | some e =>
    obtain ⟨e', hget', hkind⟩ := get?_of_kind?_eq hhere hget
    induction rest generalizing here e e' with
    | nil =>
      rw [advance, advance, hget, hget']
      exact iff_of_false (fun h => by cases h) fun h => by cases h
    | cons n more ih =>
      obtain ⟨hn, hmore⟩ := List.forall_mem_cons.1 hdots
      cases e with
      | file data =>
        cases e' with
        | file data' => rw [advance, advance, hget, hget']
        | _ => cases hkind
      | link target =>
        cases e' with
        | link target' => rw [advance, advance, hget, hget']
        | _ => cases hkind
      | directory es =>
        obtain ⟨es', rfl⟩ := kind_eq_directory hkind
        by_cases hlong : maxName < byteLength n
        · rw [advance, advance, hget, hget']
          simp only [hn, hlong, Bool.false_eq_true, if_false, if_true]
        · have hnext : ∀ there, there <+: more →
              t'.kind? (here ++ [n] ++ there) = t.kind? (here ++ [n] ++ there) := by
            intro there hthere
            rw [List.append_assoc]
            exact hkinds (n :: there) (List.cons_prefix_cons.2 ⟨rfl, hthere⟩)
          have hchild := hnext [] List.nil_prefix
          rw [List.append_nil] at hchild
          rw [advance_plain hget ⟨hn, hlong⟩, advance_plain hget' ⟨hn, hlong⟩]
          cases hc : t.get? (here ++ [n]) with
          | none => rw [get?_eq_none_of_kind?_eq hchild hc]
          | some d =>
            obtain ⟨d', hc', hkind'⟩ := get?_of_kind?_eq hchild hc
            have hgo := ih hnext hmore hchild d hc d' hc' hkind'
            rw [hc']
            cases d with
            | link target =>
              cases d' with
              | link target' => exact iff_of_false (fun h => by cases h) fun h => by cases h
              | _ => cases hkind'
            | _ =>
              cases d' with
              | link target' => cases hkind'
              | _ => exact hgo

end Files

namespace World

open Files Entry

variable {w w' : World} {here rest : List Text} {es es' : List (Text × Entry)} {c e : Entry}

/-- A link-free directory stays one when something well named and link free is put in place of
something of its kind. -/
theorem LinkFreeAt.put_old (h : w.LinkFreeAt here es) (hold : w.tree.get? (here ++ rest) = some c)
    (hkind : c.kind = e.kind) (hnamed : e.isWellNamed) (hfree : e.isLinkFree) :
    ∃ es', (w.put (here ++ rest) e).LinkFreeAt here es' := by
  have hrest : (Entry.directory es).get? rest = some c := by
    rwa [get?_append, h.found, Option.bind_some] at hold
  have hget : (w.put (here ++ rest) e).tree.get? here = some ((Entry.directory es).set rest e) :=
    get?_set_append h.found rest e
  have hdir : ((Entry.directory es).set rest e).kind = .directory := by
    have hsame : ((Entry.directory es).set rest e).kind? [] = (Entry.directory es).kind? [] :=
      kind?_set_old hrest hkind fun hpre => (List.prefix_nil.1 hpre).symm
    rw [kind?, kind?, get?_nil, get?_nil] at hsame
    exact Option.some.inj hsame
  obtain ⟨es', hes'⟩ := kind_eq_directory hdir
  rw [hes'] at hget
  exact ⟨es', hget, isWellNamed_set_old h.named hold hnamed,
    hes' ▸ isLinkFree_set_old h.free hrest hfree⟩

/-- Below a link-free directory, the system answers alike in worlds that look alike along a path. -/
theorem LinkFreeAt.holds_congr (h : w.LinkFreeAt here es) (h' : w'.LinkFreeAt here es')
    (hdots : Path.NoDots rest)
    (hkinds : ∀ there, there <+: rest →
      w'.tree.kind? (here ++ there) = w.tree.kind? (here ++ there))
    {test : Entry → Bool} (htest : ∀ e e', e.kind = e'.kind → test e = test e') :
    w'.holds test ⟨1, here ++ rest⟩ = w.holds test ⟨1, here ++ rest⟩ := by
  cases hlook : checkLookup ⟨1, here ++ rest⟩ with
  | error f =>
    simp only [World.holds, World.entry, Files.entry, follow, hlook, bind, Except.bind]
  | ok u =>
    have hstraight := advance_append true [] h.isName_here h.found rest
    have hstraight' := advance_append true [] h'.isName_here h'.found rest
    rw [List.nil_append] at hstraight hstraight'
    have herror (f : FileFault) := advance_error_congr (f := f) hkinds hdots
    have hrest := hkinds rest List.prefix_rfl
    rw [World.holds, World.holds, w.entry_absolute hlook, w'.entry_absolute hlook, followNames,
      followNames, hstraight, hstraight']
    rcases advance_linkFree true h.found h.named_here h.free hdots with
        ⟨e, he, -, hadv⟩ | ⟨hnone, hadv⟩ <;>
      rcases advance_linkFree true h'.found h'.named_here h'.free hdots with
        ⟨e', he', -, hadv'⟩ | ⟨hnone', hadv'⟩
    · rw [kind?, kind?, he, he'] at hrest
      rw [hadv, hadv']
      exact congrArg _ (htest e' e (Option.some.inj hrest))
    · rw [kind?, kind?, he, hnone'] at hrest
      cases hrest
    · rw [kind?, kind?, hnone, he'] at hrest
      cases hrest
    · rcases hadv with hadv | ⟨f, -, hadv⟩
      · rcases hadv' with hadv' | ⟨f, -, hadv'⟩
        · rw [hadv, hadv']
        · rw [(herror f).1 hadv'] at hadv
          cases hadv
      · rw [hadv, (herror f).2 hadv]

/-- A plain path below a link-free directory is its own real path, in every world in which the
directory is. -/
theorem LinkFreeAt.resolve_congr (h : w.LinkFreeAt here es) (h' : w'.LinkFreeAt here es')
    (hdots : Path.NoDots rest) : w'.resolve ⟨1, here ++ rest⟩ = w.resolve ⟨1, here ++ rest⟩ := by
  rw [h.resolve_straight hdots, h'.resolve_straight hdots]

end World

end SourceDocs

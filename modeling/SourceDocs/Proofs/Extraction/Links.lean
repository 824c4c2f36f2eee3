import SourceDocs.Proofs.Extraction.Longnames
import SourceDocs.Proofs.Record.Duplicates

/-!
# Links from records to their owners

Every record of a module but the first names its owner.  `records_linked` says that this is a link:
the owner is an earlier record, of the file or of a class, it stays when duplicates are dropped, and
the long name of the record is made from that of the owner.  The invariant down the tree is
`Scope.Grounded`: the class that a scope belongs to has been described already.
-/

namespace SourceDocs

/-- What stands between the long name of an owner and the name of what it owns. -/
def separator (file owner : Text) (static : Bool) : Text :=
  if owner = file then Text.ofString "~"
  else if static then Text.ofString "." else Text.ofString "#"

/-- A record names another one as its owner, and is called after it. -/
structure Draft.LinksTo (file : Text) (d e : Draft) : Prop where
  memberOf : d.memberOf? = some (.text e.longname)
  kind : e.kind = Text.ofString "file" ∨ e.kind = Text.ofString "class"
  longname : d.longname = e.longname ++ separator file e.longname d.static ++ d.name

theorem Draft.LinksTo.isMember_owner {file : Text} {d e : Draft} (h : d.LinksTo file e) :
    e.isMember = false := by
  rcases h.kind with hkind | hkind <;> rw [Draft.isMember, hkind] <;> decide +kernel

/-- Each record links to one before it, or to one of those given. -/
inductive Linked (file : Text) : List Draft → List Draft → Prop where
  | nil {earlier : List Draft} : Linked file earlier []
  | cons {earlier rest : List Draft} {d e : Draft} : e ∈ earlier → d.LinksTo file e →
      Linked file (earlier ++ [d]) rest → Linked file earlier (d :: rest)

namespace Linked

variable {file : Text} {earlier ds es : List Draft}

theorem mono (h : Linked file earlier ds) (hsub : earlier ⊆ es) : Linked file es ds := by
  induction h generalizing es with
  | nil => exact .nil
  | cons he hlink _ ih =>
    exact .cons (hsub he) hlink (ih (List.append_subset.2
      ⟨fun e he => List.mem_append_left _ (hsub he), List.subset_append_right _ _⟩))

theorem of_forall (h : ∀ d ∈ ds, ∃ e ∈ earlier, d.LinksTo file e) : Linked file earlier ds := by
  induction ds with
  | nil => exact .nil
  | cons d rest ih =>
    obtain ⟨e, he, hlink⟩ := h d List.mem_cons_self
    have hrest := ih fun d hd => h d (List.mem_cons_of_mem _ hd)
    exact .cons he hlink (hrest.mono (List.subset_append_left _ _))

theorem append (h : Linked file earlier ds) (hes : Linked file (earlier ++ ds) es) :
    Linked file earlier (ds ++ es) := by
  induction h with
  | nil => rwa [List.append_nil] at hes
  | cons he hlink _ ih =>
    refine .cons he hlink (ih ?_)
    rwa [List.append_assoc, List.singleton_append]

end Linked

namespace Extraction

variable {o : Origin} {s inner : Scope} {node : Value} {earlier ds : List Draft}

/-! ## Scopes whose classes are described -/

/-- What a scope belongs to has been described. -/
structure Scope.Grounded (file : Text) (earlier : List Draft) (s : Scope) : Prop where
  below : s.Below file
  file : s = .file → ∃ e ∈ earlier, e.kind = Text.ofString "file" ∧ e.longname = file
  owner : ∀ owner, s.owner? = some owner →
    ∃ e ∈ earlier, e.kind = Text.ofString "class" ∧ e.longname = owner

theorem Scope.Grounded.mono {file : Text} {es : List Draft} (h : s.Grounded file earlier)
    (hsub : earlier ⊆ es) : s.Grounded file es where
  below := h.below
  file hs := by
    obtain ⟨e, he, hfile⟩ := h.file hs
    exact ⟨e, hsub he, hfile⟩
  owner owner hs := by
    obtain ⟨e, he, hclass⟩ := h.owner owner hs
    exact ⟨e, hsub he, hclass⟩

/-- The records of a node link to what its scope belongs to. -/
theorem Scope.Grounded.links (h : s.Grounded o.relativePath earlier)
    (hnode : node.kind? ≠ some .moduleRoot) (hdrafts : s.drafts o node = .ok ds) {d : Draft}
    (hd : d ∈ ds) : ∃ e ∈ earlier, d.LinksTo o.relativePath e := by
  obtain ⟨hmodule, -⟩ | ⟨hs, hfile⟩ | ⟨owner, hs, hclass⟩ := Scope.drafts_cases hdrafts hd
  · exact absurd hmodule hnode
  · obtain ⟨e, he, hkind, hlongname⟩ := h.file hs
    refine ⟨e, he, hlongname ▸ hfile.memberOf, .inl hkind, ?_⟩
    rw [hlongname, separator, if_pos rfl]
    exact hfile.longname
  · obtain ⟨e, he, hkind, hlongname⟩ := h.owner owner hs
    refine ⟨e, he, hlongname ▸ hclass.memberOf, .inr hkind, ?_⟩
    have hne : owner ≠ o.relativePath := by
      intro heq
      have hlength := (h.below owner hs).length_le
      rw [heq, List.length_append, Text.ofChar, List.length_singleton] at hlength
      omega
    rw [hlongname, separator, if_neg hne]
    exact hclass.longname

/-- A class whose children are documented has a record. -/
theorem exists_classDraft {owner : Text} (hkind : node.kind? = some .classDef)
    (hdrafts : s.drafts o node = .ok ds)
    (hinner : s.inside o.relativePath node = .ok (.members owner)) :
    ∃ d ∈ ds, d.kind = Text.ofString "class" ∧ d.longname = owner := by
  rw [Scope.drafts_class hkind] at hdrafts
  unfold Scope.inside at hinner
  rw [hkind] at hinner
  cases s with
  | file | members outer =>
    obtain ⟨name, hname, hdrafts⟩ := exists_of_bind hdrafts
    obtain ⟨facts, -, hdrafts⟩ := exists_of_bind hdrafts
    cases hdrafts
    simp only [hname] at hinner
    cases hinner
    exact ⟨_, List.mem_singleton_self _, rfl, rfl⟩
  | _ => cases hinner

/-- Once a node is described, so is what the scope of its children belongs to. -/
theorem Scope.Grounded.inside (h : s.Grounded o.relativePath earlier)
    (hnode : node.kind? ≠ some .moduleRoot) (hdrafts : s.drafts o node = .ok ds)
    (hinner : s.inside o.relativePath node = .ok inner) :
    inner.Grounded o.relativePath (earlier ++ ds) := by
  refine ⟨h.below.inside hinner, fun hfile => ?_, fun owner howner => ?_⟩
  · obtain rfl | ⟨hmodule, -⟩ | ⟨-, name, -, ⟨-, rfl⟩ | ⟨outer, -, rfl⟩⟩ | ⟨outer, -, hmember⟩ :=
      Scope.inside_cases hinner
    · cases hfile
    · exact absurd hmodule hnode
    · cases hfile
    · cases hfile
    · rw [hfile] at hmember
      cases hmember
  · have hclass (hkind : node.kind? = some .classDef) (hmembers : inner = .members owner) :
        ∃ e ∈ earlier ++ ds, e.kind = Text.ofString "class" ∧ e.longname = owner := by
      obtain ⟨d, hd, hdraft⟩ := exists_classDraft hkind hdrafts (hmembers ▸ hinner)
      exact ⟨d, List.mem_append_right _ hd, hdraft⟩
    obtain rfl | ⟨hmodule, -⟩ | ⟨hkind, name, -, ⟨-, rfl⟩ | ⟨outer, -, rfl⟩⟩ |
      ⟨outer, hs, hmember⟩ := Scope.inside_cases hinner
    · cases howner
    · exact absurd hmodule hnode
    · cases howner
      exact hclass hkind rfl
    · cases howner
      exact hclass hkind rfl
    · rw [hmember] at howner
      cases howner
      obtain ⟨e, he, hdraft⟩ := h.owner _ hs
      exact ⟨e, List.mem_append_left _ he, hdraft⟩

/-! ## Records of a tree -/

theorem linked_flatten {xs : List Value} {dss : List (List Draft)}
    (h : ∀ x ∈ xs, ∀ earlier ds, inner.Grounded o.relativePath earlier →
      symbolsOf o inner x = .ok ds → Linked o.relativePath earlier ds)
    (hinner : inner.Grounded o.relativePath earlier)
    (hxs : xs.mapM (symbolsOf o inner) = .ok dss) :
    Linked o.relativePath earlier dss.flatten := by
  induction xs generalizing earlier dss with
  | nil =>
    cases hxs
    exact .nil
  | cons x rest ih =>
    rw [List.mapM_cons] at hxs
    obtain ⟨ds, hx, hxs⟩ := exists_of_bind hxs
    obtain ⟨more, hrest, hxs⟩ := exists_of_bind hxs
    cases hxs
    have hmore : inner.Grounded o.relativePath (earlier ++ ds) :=
      hinner.mono (List.subset_append_left _ _)
    exact (h x List.mem_cons_self _ _ hinner hx).append
      (ih (fun y hy => h y (List.mem_cons_of_mem _ hy)) hmore hrest)

/-- Without modules in it, the records of a node and of all below it link to earlier ones. -/
theorem linked_symbolsOf (v : Tree.Visit)
    (hplain : ∀ u ∈ Tree.preorder v, u.node.kind? ≠ some .moduleRoot)
    (h : s.Grounded o.relativePath earlier) (hsymbols : symbolsOf o s v.node = .ok ds) :
    Linked o.relativePath earlier ds := by
  induction v using Tree.preorder.induct generalizing s earlier ds with
  | case1 v ih =>
    rw [Tree.preorder_eq] at hplain
    have hnode := hplain v List.mem_cons_self
    rw [symbolsOf_eq] at hsymbols
    obtain ⟨own, hown, hsymbols⟩ := exists_of_bind hsymbols
    obtain ⟨inner, hinner, hsymbols⟩ := exists_of_bind hsymbols
    obtain ⟨below, hbelow, hsymbols⟩ := exists_of_bind hsymbols
    cases hsymbols
    refine (Linked.of_forall fun d hd => h.links hnode hown hd).append ?_
    refine linked_flatten (fun c hc earlier' ds' hs hds => ?_) (h.inside hnode hown hinner) hbelow
    have hchild : (⟨c, v.node :: v.ancestors⟩ : Tree.Visit) ∈ v.children :=
      List.mem_map.2 ⟨c, hc, rfl⟩
    refine ih ⟨_, hchild⟩ (fun u hu => hplain u ?_) hs hds
    exact List.mem_cons_of_mem _ (List.mem_flatMap.2 ⟨_, hchild, hu⟩)

/-- The records of a module are that of the file, and others that link to earlier ones. -/
theorem linked_module {tree : Value} (hmodule : tree.kind? = some .moduleRoot)
    (hplain : ∀ u ∈ (Tree.visits tree).tail, u.node.kind? ≠ some .moduleRoot)
    (hsymbols : symbolsOf o .hidden tree = .ok ds) :
    ∃ first rest, ds = first :: rest ∧ first.kind = Text.ofString "file" ∧
      first.longname = o.relativePath ∧ Linked o.relativePath [first] rest := by
  rw [Tree.visits, Tree.preorder_eq, List.tail_cons] at hplain
  rw [symbolsOf_eq] at hsymbols
  obtain ⟨own, hown, hsymbols⟩ := exists_of_bind hsymbols
  obtain ⟨inner, hinner, hsymbols⟩ := exists_of_bind hsymbols
  obtain ⟨below, hbelow, hsymbols⟩ := exists_of_bind hsymbols
  cases hsymbols
  rw [Scope.drafts, hmodule] at hown
  obtain ⟨first, hfirst, hown⟩ := exists_of_bind hown
  cases hown
  obtain ⟨_, -, hfirst⟩ := exists_of_bind hfirst
  cases hfirst
  rw [Scope.inside, hmodule] at hinner
  cases hinner
  refine ⟨_, below.flatten, rfl, rfl, rfl, ?_⟩
  refine linked_flatten (fun c hc earlier' ds' hs hds => ?_) ⟨?_, fun _ => ?_, ?_⟩ hbelow
  · have hchild : (⟨c, [tree]⟩ : Tree.Visit) ∈ (Tree.Visit.ofRoot tree).children :=
      List.mem_map.2 ⟨c, hc, rfl⟩
    exact linked_symbolsOf ⟨c, [tree]⟩ (fun u hu => hplain u (List.mem_flatMap.2 ⟨_, hchild, hu⟩))
      hs hds
  · exact fun owner howner => by cases howner
  · exact ⟨_, List.mem_singleton_self _, rfl, rfl⟩
  · exact fun owner howner => by cases howner

/-- Records in order that link to earlier ones, with their numbers. -/
theorem exists_link_numberDrafts {file : Text} {n : Int} {given : List DocRecord}
    (h : Linked file earlier ds)
    (hgiven : ∀ e ∈ earlier, ∃ r ∈ given, r.toDraft = e ∧ r.docId < n) {r : DocRecord}
    (hr : r ∈ numberDrafts n ds) :
    ∃ e ∈ given ++ numberDrafts n ds, e.docId < r.docId ∧ r.toDraft.LinksTo file e.toDraft := by
  induction h generalizing n given with
  | nil => exact absurd hr List.not_mem_nil
  | @cons earlier rest d e he hlink _ ih =>
    rw [numberDrafts_cons] at hr ⊢
    rcases List.mem_cons.1 hr with rfl | hr
    · obtain ⟨g, hg, rfl, hlt⟩ := hgiven e he
      exact ⟨g, List.mem_append_left _ hg, hlt, hlink⟩
    · have hgiven' : ∀ e ∈ earlier ++ [d],
          ∃ r ∈ given ++ [{ toDraft := d, docId := n }], r.toDraft = e ∧ r.docId < n + 1 := by
        intro e he
        rcases List.mem_append.1 he with he | he
        · obtain ⟨g, hg, hsame, hlt⟩ := hgiven e he
          exact ⟨g, List.mem_append_left _ hg, hsame, by omega⟩
        · obtain rfl := List.mem_singleton.1 he
          exact ⟨_, List.mem_append_right _ (List.mem_singleton_self _), rfl, Int.lt_succ n⟩
      obtain ⟨e, he, hlink⟩ := ih hgiven' hr
      rw [List.append_assoc, List.singleton_append] at he
      exact ⟨e, he, hlink⟩

/-- The first record of a module is that of the file.  All others link to earlier records, which
stay when duplicates are dropped from any list that holds the records. -/
theorem records_linked {tree : Value} {w w' : World} {records : List DocRecord}
    (hmodule : tree.kind? = some .moduleRoot)
    (hplain : ∀ u ∈ (Tree.visits tree).tail, u.node.kind? ≠ some .moduleRoot)
    (hrun : (recordsOf .symbols o tree).runIn w = (.ok records, w')) :
    ∃ first rest, records = first :: rest ∧ first.kind = Text.ofString "file" ∧
      first.longname = o.relativePath ∧
      ∀ r ∈ rest, ∃ e ∈ records, e.docId < r.docId ∧ r.toDraft.LinksTo o.relativePath e.toDraft ∧
        ∀ all, records ⊆ all → e ∈ resolveDuplicates all := by
  have hexact := runIn_recordsOf_symbols o tree w
  cases hsymbols : symbolsOf o .hidden tree with
  | error f =>
    rw [hsymbols] at hexact
    obtain ⟨g, v, hfails⟩ := hexact
    rw [hrun] at hfails
    cases hfails
  | ok ds =>
    rw [hsymbols] at hexact
    simp only [hrun] at hexact
    cases hexact
    obtain ⟨first, rest, rfl, hkind, hlongname, hlinked⟩ := linked_module hmodule hplain hsymbols
    rw [numberDrafts_cons]
    refine ⟨_, _, rfl, hkind, hlongname, fun r hr => ?_⟩
    have hfirst : ∀ e ∈ [first],
        ∃ r ∈ [({ toDraft := first, docId := w.nextId } : DocRecord)],
          r.toDraft = e ∧ r.docId < w.nextId + 1 := by
      intro e he
      obtain rfl := List.mem_singleton.1 he
      exact ⟨_, List.mem_singleton_self _, rfl, Int.lt_succ _⟩
    obtain ⟨e, he, hlt, hlink⟩ := exists_link_numberDrafts hlinked hfirst hr
    exact ⟨e, he, hlt, hlink, fun all hall =>
      mem_resolveDuplicates (hall he) hlink.isMember_owner⟩

/-- A class with a constructor that assigns an attribute. -/
theorem records_linked_class :
    ∃ records w', (recordsOf .symbols { path := ⟨1, ["a.py"]⟩, relativePath := "a.py" }
        assigningModule).runIn { tree := .directory [], current := [], home := ⟨1, []⟩ } =
        (.ok records, w') ∧ records.length = 4 ∧
      ∃ first rest, records = first :: rest ∧
        ∀ r ∈ rest, ∃ e ∈ resolveDuplicates records, e.docId < r.docId ∧
          r.toDraft.LinksTo "a.py" e.toDraft := by
  have hlength : (symbolsOf { path := ⟨1, ["a.py"]⟩, relativePath := "a.py" } .hidden
      assigningModule).map List.length = .ok 4 := by decide +kernel
  have hplain : ((Tree.visits assigningModule).tail.all
      fun u => decide (u.node.kind? ≠ some .moduleRoot)) = true := by decide +kernel
  have hexact := runIn_recordsOf_symbols { path := ⟨1, ["a.py"]⟩, relativePath := "a.py" }
    assigningModule { tree := .directory [], current := [], home := ⟨1, []⟩ }
  cases hsymbols : symbolsOf { path := ⟨1, ["a.py"]⟩, relativePath := "a.py" } .hidden
      assigningModule with
  | error f =>
    rw [hsymbols] at hlength
    cases hlength
  | ok ds =>
    rw [hsymbols] at hlength hexact
    obtain ⟨first, rest, hfirst, -, -, hlinks⟩ := records_linked rfl
      (fun u hu => of_decide_eq_true (List.all_eq_true.1 hplain u hu)) hexact
    refine ⟨_, _, hexact, ?_, first, rest, hfirst, fun r hr => ?_⟩
    · rw [numberDrafts, List.length_map, List.length_zipIdx]
      exact Except.ok.inj hlength
    · obtain ⟨e, -, hlt, hlink, hstays⟩ := hlinks r hr
      exact ⟨e, hstays _ (List.Subset.refl _), hlt, hlink⟩

end Extraction

end SourceDocs

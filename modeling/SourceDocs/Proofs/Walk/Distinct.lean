import SourceDocs.Proofs.Files.Placing
import SourceDocs.Proofs.Walk.Alongside
import SourceDocs.Proofs.Walk.Events

/-!
# No file is found twice

A walk of all files goes down name by name, also through links.  So the paths that it finds are all
different (`nodup_of_walk`), although the files behind them need not be.
-/

namespace SourceDocs

open World

/-- What only looks finds the same as long as the files are the same. -/
theorem Action.Reads.of_looks {α : Type} {w : World} {x : Action α} (hx : Action.Looks x) :
    Action.Reads w x (x.runIn w).1 := by
  intro v hv
  refine ⟨(x.runIn v).2, hv.trans (hx.within v).sameFiles, ?_⟩
  rw [← hx.result_eq hv]

namespace Walk

open SourceDocs.Action Acting

variable {w : World} {root : Path} {here names : List Text} {n : Text} {found more : List Event}

/-- All are below a directory, under these names in it, and no two have the same path. -/
structure Distinct (here names : List Text) (found : List Event) : Prop where
  below : ∀ e ∈ found, ∃ n ∈ names, ∃ rest, e.path = ⟨1, here ++ n :: rest⟩
  nodup : (found.map Event.path).Nodup

theorem Distinct.nil (here names : List Text) : Distinct here names [] :=
  ⟨fun _ he => absurd he List.not_mem_nil, List.nodup_nil⟩

/-- What is in a directory is below it. -/
theorem Distinct.up (h : Distinct (here ++ [n]) names found) : Distinct here [n] found := by
  refine ⟨fun e he => ?_, h.nodup⟩
  obtain ⟨m, -, rest, hpath⟩ := h.below e he
  exact ⟨n, List.mem_singleton_self n, m :: rest, by
    rw [hpath, List.append_assoc, List.singleton_append]⟩

theorem Distinct.mono {more : List Text} (h : Distinct here names found)
    (hsub : ∀ n ∈ names, n ∈ more) : Distinct here more found := by
  refine ⟨fun e he => ?_, h.nodup⟩
  obtain ⟨n, hn, hpath⟩ := h.below e he
  exact ⟨n, hsub n hn, hpath⟩

/-- What is found under one name and what is found under others is different. -/
theorem Distinct.append (h : Distinct here [n] found) (hmore : Distinct here names more)
    (hn : n ∉ names) : Distinct here (n :: names) (found ++ more) := by
  constructor
  · intro e he
    rcases List.mem_append.1 he with he | he
    · exact (h.mono fun m hm => List.mem_singleton.1 hm ▸ List.mem_cons_self).below e he
    · exact (hmore.mono fun m hm => List.mem_cons_of_mem n hm).below e he
  · rw [List.map_append, List.nodup_append]
    refine ⟨h.nodup, hmore.nodup, fun p hp q hq heq => ?_⟩
    obtain ⟨e, he, rfl⟩ := List.mem_map.1 hp
    obtain ⟨e', he', rfl⟩ := List.mem_map.1 hq
    obtain ⟨m, hm, rest, hpath⟩ := h.below e he
    obtain ⟨m', hm', rest', hpath'⟩ := hmore.below e' he'
    rw [hpath, hpath', Path.mk.injEq, List.append_cancel_left_eq] at heq
    obtain rfl := (List.cons.inj heq.2).1
    exact hn (List.mem_singleton.1 hm ▸ hm')

/-! ## Directories -/

theorem yields_visit (root : Path) {into : Path → ActionWith (List Event) Unit}
    (package : Option Descriptor) (e : Entry) (hinto : ∃ r found names,
      Yields w (into ⟨1, here ++ [n]⟩) r found ∧ Distinct (here ++ [n]) names found) :
    ∃ r found, Yields w (visit root collect into package ⟨1, here ++ [n]⟩ e) r found ∧
      Distinct here [n] found := by
  have hbehind := Reads.of_looks (w := w) (Looks.behind ⟨1, here ++ [n]⟩ e)
  rcases hresult : ((behind ⟨1, here ++ [n]⟩ e).runIn w).1 with f | _ | (data | es | target) <;>
    rw [hresult] at hbehind
  · exact ⟨_, _, (Yields.of_reads hbehind).bind_error, .nil _ _⟩
  · exact ⟨_, _, Yields.reads_bind hbehind (Yields.pure ()), .nil _ _⟩
  · refine ⟨.ok (), [.file ⟨1, here ++ [n]⟩ (w.relative ⟨1, here ++ [n]⟩ root).toText package],
      Yields.reads_bind hbehind fun v before hv => ⟨v, hv, ?_⟩, ?_, List.nodup_singleton _⟩
    · have hworld : (liftM Action.world : ActionWith (List Event) World).runWith v before =
          (.ok v, v, before) := by simp
      rw [ActionWith.runWith_bind_ok hworld, hv.relative_eq]
      rfl
    · intro e he
      rw [List.mem_singleton.1 he]
      exact ⟨n, List.mem_singleton_self n, [], rfl⟩
  · obtain ⟨r, found, names, hyields, hdistinct⟩ := hinto
    exact ⟨r, _, Yields.reads_bind hbehind hyields, hdistinct.up⟩
  · exact ⟨_, _, Yields.reads_bind hbehind (Yields.pure ()), .nil _ _⟩

theorem yields_visits (root : Path) (into : Path → ActionWith (List Event) Unit)
    (package : Option Descriptor)
    (hinto : ∀ n, ∃ r found names,
      Yields w (into ⟨1, here ++ [n]⟩) r found ∧ Distinct (here ++ [n]) names found)
    {entries : List (Text × Entry)} (hnodup : (entries.map Prod.fst).Nodup) :
    ∃ r found, Yields w (entries.forM fun (n, e) =>
        visit root collect into package ⟨1, here ++ [n]⟩ e) r found ∧
      Distinct here (entries.map Prod.fst) found := by
  induction entries with
  | nil => exact ⟨.ok (), [], Yields.pure (), .nil _ _⟩
  | cons entry rest ih =>
    obtain ⟨n, e⟩ := entry
    obtain ⟨hn, hrest⟩ := List.nodup_cons.1 hnodup
    obtain ⟨r, found, hyields, hdistinct⟩ := yields_visit root package e (hinto n)
    obtain ⟨r', more, hyields', hdistinct'⟩ := ih hrest
    rw [List.forM]
    cases r with
    | error f =>
      refine ⟨_, _, hyields.bind_error, hdistinct.mono fun m hm => ?_⟩
      exact List.mem_singleton.1 hm ▸ List.mem_cons_self
    | ok u => exact ⟨r', _, hyields.bind_ok hyields', hdistinct.append hdistinct' hn⟩

theorem yields_enter (root : Path) (named : w.tree.isWellNamed) (room : Nat) (here : List Text)
    (package : Option Descriptor) :
    ∃ r found names, Yields w (enter .source root collect room ⟨1, here⟩ package) r found ∧
      Distinct here names found := by
  induction room generalizing here with
  | zero => exact ⟨.error (.raised .tooDeep), [], [], fun v before hv => ⟨v, hv, by
      rw [enter, List.append_nil]; rfl⟩, .nil _ _⟩
  | succ room ih =>
    rw [enter_source, list]
    have hlist := Reads.of_looks (w := w) (Looks.entriesIn ⟨1, here⟩)
    rcases hentries : ((Files.entriesIn ⟨1, here⟩).runIn w).1 with f | entries <;>
      rw [hentries] at hlist
    · exact ⟨_, _, [], (Yields.of_reads hlist).bind_error, .nil _ _⟩
    · obtain ⟨es, hentry, rfl⟩ := entriesIn_eq_ok hentries
      obtain ⟨-, place, hleads⟩ := entry_eq_ok.1 hentry
      have hnamed := (Entry.isWellNamed_get? named (Files.Leads.get? hleads)).1
      rw [Entry.isWellNamed, Bool.and_eq_true] at hnamed
      have hnodup : ((Entry.inOrder es).map Prod.fst).Nodup :=
        ((Entry.inOrder_perm es).map Prod.fst).nodup_iff.2 (of_decide_eq_true hnamed.1)
      obtain ⟨r, found, hyields, hdistinct⟩ := yields_visits root
        (fun p => enter .source root collect room p package) package (fun n => ih (here ++ [n]))
        hnodup
      exact ⟨r, _, _, Yields.reads_bind hlist hyields, hdistinct⟩

/-- The paths that a walk of all files finds are all different. -/
theorem nodup_of_walk {start : Path} {v : World} {r : Except Failure Unit} {found : List Event}
    (named : w.tree.isWellNamed)
    (h : outcome (walk .source start collect) (w, []) = (r, v, found)) :
    (found.map Event.path).Nodup := by
  rw [outcome_walk] at h
  cases hresolve : w.resolve start with
  | error f =>
    rw [hresolve] at h
    cases h
    exact List.nodup_nil
  | ok root =>
    rw [hresolve] at h
    obtain ⟨hroot, -⟩ := resolve_shape hresolve
    obtain ⟨r', found', names, hyields, hdistinct⟩ :=
      yields_enter root named w.stack root.names none
    obtain ⟨v', -, hrun⟩ := hyields w [] (.refl w)
    have hpath : (⟨1, root.names⟩ : Path) = root := by rw [← hroot]
    rw [hpath, ← outcome_actionWith _ (w, [])] at hrun
    cases Eq.trans (Eq.symm h) hrun
    exact hdistinct.nodup

end Walk

end SourceDocs

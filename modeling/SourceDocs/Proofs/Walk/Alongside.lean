import SourceDocs.Proofs.Files.LinkFree
import SourceDocs.Proofs.Looking

/-!
# Two walks side by side

The callback of a walk acts on the files that the rest of the walk sees.  A walk does to the world
no more than its callback (`within_enter`).  `Sight` says of two walks in worlds related by `R` that
they see the same, wherever they look; then one walk follows the other if its callback does
(`follows_walk`).  `noting` is a callback that also keeps a list of the events and of the worlds in
which they were handed over.
-/

namespace SourceDocs.Walk

open World Acting SourceDocs.Action

variable {σ τ α β : Type} {mode : Mode} {root : Path}

/-! ## Steps of a walk -/

theorem entriesIn_eq_ok {p : Path} {w : World} {entries : List (Text × Entry)}
    (h : ((Files.entriesIn p).runIn w).1 = .ok entries) :
    ∃ es, w.entry p = .ok (.directory es) ∧ entries = Entry.inOrder es := by
  rw [runIn_entriesIn] at h
  rcases hentry : w.entry p with f | (data | es | target) <;> rw [hentry] at h <;> cases h
  exact ⟨es, rfl, rfl⟩

/-- A descriptor that is found in a directory is the file of that name there. -/
theorem path_of_descriptorIn {room : Nat} {p : Path} {w : World} {d : Descriptor}
    (h : ((descriptorIn room p).runIn w).1 = .ok (some (some d))) :
    d.path = p.child Descriptor.fileName := by
  rcases hrun : (descriptorIn room p).runIn w with ⟨r, w'⟩
  rw [hrun] at h
  subst h
  obtain ⟨found, w₁, -, hrun⟩ := exists_of_runIn_bind hrun
  cases found with
  | false => cases hrun
  | true =>
    obtain ⟨content, w₂, -, hrun⟩ := exists_of_runIn_bind hrun
    cases content <;> cases hrun
    rfl

/-- The walk of packages from a directory in which this descriptor was found. -/
def enterFound (root : Path) (emit : Event → ActionWith σ Unit) (room : Nat) (directory : Path)
    (package : Option Descriptor) : Option (Option Descriptor) → ActionWith σ Unit
  | some (some d) => do
    let src ← d.sourceDirectory
    emit (.package d)
    if ← hasSources src then enter .root root emit room src (some d)
  | some none => return
  | none => enterPlain root emit room directory package

theorem enter_root (emit : Event → ActionWith σ Unit) (room : Nat) (directory : Path)
    (package : Option Descriptor) :
    enter .root root emit (room + 1) directory package =
      liftM (descriptorIn room directory) >>= enterFound root emit room directory package := by
  rw [enter]
  refine bind_congr fun found => ?_
  rcases found with _ | _ | d <;> rfl

theorem enter_source (emit : Event → ActionWith σ Unit) (room : Nat) (directory : Path)
    (package : Option Descriptor) :
    enter .source root emit (room + 1) directory package =
      list root emit (fun p => enter .source root emit room p package) package directory := by
  rw [enter]

theorem outcome_world (f : World → ActionWith σ α) (s : World × σ) :
    outcome (liftM Action.world >>= f) s = outcome (f s.1) s := rfl

theorem outcome_walk (start : Path) (emit : Event → ActionWith σ Unit) (s : World × σ) :
    outcome (walk mode start emit) s =
      match s.1.resolve start with
      | .error f => (.error (.raised (.file f)), s)
      | .ok root => outcome (enter mode root emit s.1.stack root none) s := by
  have hresolve : outcome (liftM (Files.resolve start) : ActionWith σ Path) s =
      (ofLookup (s.1.resolve start), s) := by
    rw [outcome_actionWith, ActionWith.runWith_lift, Files.resolve, runIn_bind_ok (runIn_get _),
      runIn_ofFiles]
  rw [walk, outcome_bind, hresolve]
  cases s.1.resolve start with
  | error f => rfl
  | ok root => exact outcome_world _ s

/-! ## What a walk does to the world -/

section

variable {S : World × σ → World × σ → Prop} [IsPreorder _ S]
  (hlog : ∀ s es, S s (s.1.logged es, s.2))
include hlog

omit [IsPreorder _ S] in
theorem within_look {x : Action α} (hx : Looks x) : Within S (liftM x : ActionWith σ α) := by
  intro s
  obtain ⟨r, es, hrun, -⟩ := hx s.1 s.1 (.refl _)
  have hbehind := hlog s es
  rwa [outcome_actionWith, ActionWith.runWith_lift, hrun]

variable {emit : Event → ActionWith σ Unit} (hemit : ∀ e, Within S (emit e))
include hemit

theorem within_visit {into : Path → ActionWith σ Unit} (package : Option Descriptor) {p : Path}
    (e : Entry) (hinto : Within S (into p)) : Within S (visit root emit into package p e) := by
  refine (within_look hlog (Looks.behind p e)).bind fun found => ?_
  split
  · exact fun s => hemit _ s
  · exact hinto
  · exact Within.pure ()

theorem within_list {into : Path → ActionWith σ Unit} (package : Option Descriptor)
    (directory : Path) (hinto : ∀ p, Within S (into p)) :
    Within S (list root emit into package directory) := by
  refine (within_look hlog (Looks.entriesIn directory)).bind fun entries => Within.forM ?_
  exact fun (n, e) _ => within_visit hlog hemit package e (hinto _)

theorem within_enterFound {room : Nat}
    (ih : ∀ directory package, Within S (enter .root root emit room directory package))
    (hplain : ∀ directory package, Within S (enterPlain root emit room directory package))
    (directory : Path) (package : Option Descriptor) (found : Option (Option Descriptor)) :
    Within S (enterFound root emit room directory package found) := by
  rcases found with _ | _ | d
  · exact hplain directory package
  · exact Within.pure ()
  · refine (within_look hlog (Looks.sourceDirectory d)).bind fun src => (hemit _).bind fun _ => ?_
    refine (within_look hlog (Looks.hasSources src)).bind fun ready => ?_
    split
    · exact ih src _
    · exact Within.pure ()

/-- The two ways to walk a directory call each other, each with one call less. -/
theorem within_enter_enterPlain (room : Nat) :
    (∀ mode directory package, Within S (enter mode root emit room directory package)) ∧
      ∀ directory package, Within S (enterPlain root emit room directory package) := by
  induction room with
  | zero => exact ⟨fun _ _ _ => Within.throw _, fun _ _ => Within.throw _⟩
  | succ room ih =>
    obtain ⟨henter, hplain⟩ := ih
    refine ⟨fun mode directory package => ?_, fun directory package => ?_⟩
    · cases mode with
      | source =>
        rw [enter_source]
        exact within_list hlog hemit package directory fun p => henter .source p package
      | root =>
        rw [enter_root]
        exact (within_look hlog (Looks.descriptorIn room directory)).bind
          (within_enterFound hlog hemit (henter .root) hplain directory package)
    · rw [enterPlain]
      exact within_list hlog hemit package directory fun p => henter .root p package

/-- A walk does to the world no more than its callback, but for the log. -/
theorem within_enter (room : Nat) (directory : Path) (package : Option Descriptor) :
    Within S (enter mode root emit room directory package) :=
  (within_enter_enterPlain hlog hemit room).1 mode directory package

theorem within_enterPlain (room : Nat) (directory : Path) (package : Option Descriptor) :
    Within S (enterPlain root emit room directory package) :=
  (within_enter_enterPlain hlog hemit room).2 directory package

end

/-! ## What two walks see -/

variable {P : Path → Prop} {Q : Event → Prop} {G : σ → Prop}
  {R E : World × σ → World × τ → Prop}

/-- Two walks look at paths that satisfy `P` only, and see the same there in worlds related by
`R`; what they find satisfies `Q`. -/
structure Sight (mode : Mode) (root : Path) (P : Path → Prop) (Q : Event → Prop)
    (R : World × σ → World × τ → Prop) : Prop where
  current : ∀ {s t}, R s t → t.1.current = s.1.current
  entry : ∀ {s t p}, R s t → P p → t.1.entry p = s.1.entry p
  inside : ∀ {s t p es n e}, R s t → P p → s.1.entry p = .ok (.directory es) → (n, e) ∈ es →
    P ⟨p.root, p.names ++ [n]⟩
  logged : ∀ {s t} es, R s t → R (s.1.logged es, s.2) (t.1.logged es, t.2)
  /-- All files are without a package, unless packages are walked. -/
  file : ∀ {s t p n package}, R s t → P p → P ⟨p.root, p.names ++ [n]⟩ →
    (mode = .source → package = none) →
    Q (.file ⟨p.root, p.names ++ [n]⟩ (s.1.relative ⟨p.root, p.names ++ [n]⟩ root).toText package)
  /-- A walk of packages sees all files, and looks at packages and their source directories. -/
  packages : mode = .root →
    (∀ {s t}, R s t → s.1.SameFiles t.1) ∧
    (∀ {p d}, P p → d.path = p.child Descriptor.fileName → Q (.package d)) ∧
    ∀ {s t d src}, R s t → Q (.package d) → (d.sourceDirectory.runIn s.1).1 = .ok src → P src

/-- Walks see the same where all files are the same. -/
theorem Sight.of_sameFiles (mode : Mode) (root : Path)
    (hfiles : ∀ {s t}, R s t → s.1.SameFiles t.1)
    (hlog : ∀ {s t} es, R s t → R (s.1.logged es, s.2) (t.1.logged es, t.2)) :
    Sight mode root (fun _ => True) (fun _ => True) R where
  current h := (hfiles h).current
  entry h _ := (hfiles h).entry_eq _
  inside _ _ _ _ := trivial
  logged es h := hlog es h
  file _ _ _ _ := trivial
  packages _ := ⟨hfiles, fun _ _ => trivial, fun _ _ _ => trivial⟩

/-- A walk that keeps more of a state sees the same. -/
theorem Sight.forget {ρ : Type} (h : Sight mode root P Q R) :
    Sight mode root P Q fun (s : World × σ × ρ) t => R (s.1, s.2.1) t where
  current := h.current
  entry := h.entry
  inside := h.inside
  logged := h.logged
  file := h.file
  packages hmode := ⟨(h.packages hmode).1, (h.packages hmode).2.1, (h.packages hmode).2.2⟩

/-- What a walk keeps of a property of its own state. -/
abbrev Kept (G : σ → Prop) : World × σ → World × σ → Prop := Back fun s => G s.2

section

variable (sight : Sight mode root P Q R) (hE : ∀ s t, R s t → E s t)
include sight hE

/-- Both walks look at the same thing. -/
theorem follows_look {x : Action α} (hsame : ∀ s t, R s t → ∃ r es,
      x.runIn s.1 = (r, s.1.logged es) ∧ x.runIn t.1 = (r, t.1.logged es)) :
    Follows (fun s => G s.2) R E (liftM x : ActionWith σ α) (liftM x : ActionWith τ α) := by
  intro s t hR _
  obtain ⟨r, es, hs, ht⟩ := hsame s t hR
  rw [outcome_actionWith, outcome_actionWith, ActionWith.runWith_lift, ActionWith.runWith_lift, hs,
    ht]
  have hbehind := sight.logged es hR
  exact .of_result rfl hbehind (hE _ _ hbehind)

variable {emit : Event → ActionWith σ Unit} {emit' : Event → ActionWith τ Unit}
  (hback : ∀ e, Within (Kept G) (emit e))
  (hemit : ∀ e, Q e → Follows (fun s => G s.2) R E (emit e) (emit' e))
include hback hemit

theorem follows_visit {into : Path → ActionWith σ Unit} {into' : Path → ActionWith τ Unit}
    {package : Option Descriptor} {p : Path} (hp : P p)
    (hfile : ∀ s t, R s t → Q (.file p (s.1.relative p root).toText package)) (e : Entry)
    (hkept : Within (Kept G) (into p))
    (hinto : Follows (fun s => G s.2) R E (into p) (into' p)) :
    Follows (fun s => G s.2) R E (visit root emit into package p e)
      (visit root emit' into' package p e) := by
  have hlook : Follows (fun s => G s.2) R E (liftM (behind p e) : ActionWith σ (Option Entry))
      (liftM (behind p e) : ActionWith τ (Option Entry)) := by
    refine follows_look sight hE fun s t hR => ?_
    cases e with
    | link target =>
      refine ⟨_, [], runIn_entryAt? p s.1, ?_⟩
      rw [behind, runIn_entryAt?, sight.entry hR hp]
      rfl
    | file data => exact ⟨_, [], rfl, rfl⟩
    | directory es => exact ⟨_, [], rfl, rfl⟩
  refine hlook.bind (fun found => ?_) fun _ _ found _ _ => ?_
  · split
    · exact fun s => hback _ s
    · exact hkept
    · exact Within.pure ()
  · split
    · intro s t hR hG
      have hrelative : t.1.relative p root = s.1.relative p root := by
        simp only [World.relative, World.absolute, sight.current hR]
      rw [outcome_world] at hG ⊢
      rw [outcome_world, hrelative]
      exact hemit _ (hfile s t hR) s t hR hG
    · exact hinto
    · exact Follows.pure ()

theorem follows_package (hmode : mode = .root) {room : Nat}
    (ih : ∀ {directory package}, P directory → Follows (fun s => G s.2) R E
      (enter .root root emit room directory package)
      (enter .root root emit' room directory package))
    {directory : Path} (package : Option Descriptor) {d : Descriptor} (hd : Q (.package d)) :
    Follows (fun s => G s.2) R E (enterFound root emit room directory package (some (some d)))
      (enterFound root emit' room directory package (some (some d))) := by
  have hlook {β : Type} {x : Action β} (hx : Looks x) :
      Follows (fun s => G s.2) R E (liftM x : ActionWith σ β) (liftM x : ActionWith τ β) :=
    follows_look sight hE fun _ _ hR => hx _ _ ((sight.packages hmode).1 hR)
  have hkept (src : Path) (ready : Bool) : Within (Kept G)
      (if ready then enter .root root emit room src (some d) else pure ()) := by
    split
    · exact within_enter (fun _ _ h => h) hback room src _
    · exact Within.pure ()
  refine (hlook (Looks.sourceDirectory d)).bind (fun src => ?_) fun _ _ src hR hsrc => ?_
  · exact (hback _).bind fun _ => (within_look (fun _ _ h => h) (Looks.hasSources src)).bind
      fun ready => hkept src ready
  · refine (hemit _ hd).bind (fun _ => ?_) fun _ _ _ _ _ => ?_
    · exact (within_look (fun _ _ h => h) (Looks.hasSources src)).bind fun ready => hkept src ready
    · refine (hlook (Looks.hasSources src)).bind (hkept src) fun _ _ ready _ _ => ?_
      split
      · exact ih ((sight.packages hmode).2.2 hR hd hsrc)
      · exact Follows.pure ()

theorem follows_list {into : Path → ActionWith σ Unit} {into' : Path → ActionWith τ Unit}
    {directory : Path} (hp : P directory) {package : Option Descriptor}
    (hpackage : mode = .source → package = none) (hkept : ∀ p, Within (Kept G) (into p))
    (hinto : ∀ {p}, P p → Follows (fun s => G s.2) R E (into p) (into' p)) :
    Follows (fun s => G s.2) R E (list root emit into package directory)
      (list root emit' into' package directory) := by
  have hlook : Follows (fun s => G s.2) R E
      (liftM (Files.entriesIn directory) : ActionWith σ (List (Text × Entry)))
      (liftM (Files.entriesIn directory) : ActionWith τ (List (Text × Entry))) :=
    follows_look sight hE fun s t hR =>
      ⟨_, [], runIn_entriesIn directory s.1, by rw [runIn_entriesIn, sight.entry hR hp]; rfl⟩
  have hvisit (p : Path) (e : Entry) : Within (Kept G) (visit root emit into package p e) :=
    within_visit (fun _ _ h => h) hback package e (hkept p)
  refine hlook.bind (fun entries => Within.forM fun _ _ => hvisit _ _) ?_
  intro s t entries hR hlist
  refine Follows.forM (fun _ => hvisit _ _) fun (n, e) hmem => ?_
  obtain ⟨es, hentry, rfl⟩ := entriesIn_eq_ok hlist
  have hinside := sight.inside hR hp hentry (Entry.mem_inOrder.1 hmem)
  exact follows_visit sight hE hback hemit hinside
    (fun s t hR => sight.file hR hp hinside hpackage) e (hkept _) (hinto hinside)

theorem follows_enter_enterPlain (room : Nat) :
    (∀ {directory package}, P directory → (mode = .source → package = none) →
      Follows (fun s => G s.2) R E (enter mode root emit room directory package)
        (enter mode root emit' room directory package)) ∧
    (mode = .root → ∀ {directory package}, P directory →
      Follows (fun s => G s.2) R E (enterPlain root emit room directory package)
        (enterPlain root emit' room directory package)) := by
  induction room with
  | zero => exact ⟨fun _ _ => Follows.throw hE _, fun _ _ _ _ => Follows.throw hE _⟩
  | succ room ih =>
    obtain ⟨henter, hplain⟩ := ih
    have hkept (mode : Mode) (p : Path) (package : Option Descriptor) :
        Within (Kept G) (enter mode root emit room p package) :=
      within_enter (fun _ _ h => h) hback room p package
    refine ⟨fun {directory package} hp hpackage => ?_, fun hmode {directory package} hp => ?_⟩
    · cases hmode : mode with
      | source =>
        subst hmode
        rw [enter_source, enter_source]
        exact follows_list sight hE hback hemit hp hpackage (fun p => hkept _ p package)
          fun hp => henter hp hpackage
      | root =>
        subst hmode
        have hlook := follows_look (G := G) sight hE fun s t hR =>
          Looks.descriptorIn room directory _ _ ((sight.packages rfl).1 hR)
        have hfound (found : Option (Option Descriptor)) :
            Within (Kept G) (enterFound root emit room directory package found) :=
          within_enterFound (fun _ _ h => h) hback (hkept .root)
            (fun p d => within_enterPlain (fun _ _ h => h) hback room p d) directory package found
        rw [enter_root, enter_root]
        refine hlook.bind hfound fun _ _ found _ hdescriptor => ?_
        rcases found with _ | _ | d
        · exact hplain rfl hp
        · exact Follows.pure ()
        · have hd := (sight.packages rfl).2.1 hp (path_of_descriptorIn hdescriptor)
          exact follows_package sight hE hback hemit rfl (fun hp => henter hp nofun) package hd
    · subst hmode
      rw [enterPlain, enterPlain]
      exact follows_list sight hE hback hemit hp nofun (fun p => hkept .root p package)
        fun hp => henter hp nofun

/-- A walk from a directory follows another if its callback does. -/
theorem follows_enter (room : Nat) {directory : Path} (hp : P directory)
    {package : Option Descriptor} (hpackage : mode = .source → package = none) :
    Follows (fun s => G s.2) R E (enter mode root emit room directory package)
      (enter mode root emit' room directory package) :=
  (follows_enter_enterPlain sight hE hback hemit room).1 hp hpackage

end

/-- A walk follows another if its callback does, where both begin among the same files. -/
theorem follows_walk {emit : Event → ActionWith σ Unit} {emit' : Event → ActionWith τ Unit}
    {start : Path} {s : World × σ} {t : World × τ} (hE : ∀ s t, R s t → E s t)
    (hback : ∀ e, Within (Kept G) (emit e))
    (hemit : ∀ e, Q e → Follows (fun s => G s.2) R E (emit e) (emit' e)) (hR : R s t)
    (hsame : s.1.SameFiles t.1)
    (sight : ∀ root, s.1.resolve start = .ok root → Sight mode root P Q R ∧ P root)
    (hG : G (outcome (walk mode start emit) s).2.2) :
    Together R E (outcome (walk mode start emit) s) (outcome (walk mode start emit') t) := by
  rw [outcome_walk] at hG ⊢
  rw [outcome_walk, hsame.resolve_eq, hsame.stack]
  cases hres : s.1.resolve start with
  | error f => exact .error (hE s t hR)
  | ok root =>
    rw [hres] at hG
    obtain ⟨hsight, hroot⟩ := sight root hres
    exact follows_enter hsight hE hback hemit _ hroot (fun _ => rfl) s t hR hG

/-- A walk keeps what its callback keeps. -/
theorem keeps_walk {I F : World × σ → Prop} {emit : Event → ActionWith σ Unit}
    (hlog : ∀ s es, I s → I (s.1.logged es, s.2)) (hfail : ∀ s, I s → F s)
    (hemit : ∀ e, Keeps I F (emit e)) (start : Path) : Keeps I F (walk mode start emit) := by
  have sight (root : Path) :
      Sight mode root (fun _ => True) (fun _ => True) fun s t : World × σ => s = t ∧ I s :=
    .of_sameFiles mode root (fun h => h.1 ▸ .refl _) fun es h => ⟨by rw [h.1], hlog _ es h.2⟩
  refine keeps_iff_related.2 fun s t h _ => ?_
  exact follows_walk (G := fun _ => True) (fun _ _ h => ⟨h.1, hfail _ h.2⟩)
    (fun e => within_true _) (fun e _ => keeps_iff_related.1 (hemit e)) h (h.1 ▸ .refl _)
    (fun root _ => ⟨sight root, trivial⟩) trivial

/-- However a walk ends, it has kept what its callback keeps with what the walk can find. -/
theorem holds_walk {I : World × σ → Prop} {emit : Event → ActionWith σ Unit} {start : Path}
    {s : World × σ} (hemit : ∀ e, Q e → ∀ s, I s → I (outcome (emit e) s).2)
    (sight : ∀ root, s.1.resolve start = .ok root →
      Sight mode root P Q (fun s t : World × σ => s = t ∧ I s) ∧ P root) (hI : I s) :
    I (outcome (walk mode start emit) s).2 := by
  have hrelated (e : Event) (he : Q e) :
      Related (fun s t => s = t ∧ I s) (fun s t => s = t ∧ I s) (emit e) (emit e) :=
    keeps_iff_related.1 (keeps_iff_holds.2 (hemit e he))
  exact (follows_walk (G := fun _ => True) (fun _ _ h => h) (fun e => within_true _) hrelated
    ⟨rfl, hI⟩ (.refl _) sight trivial).related.2

/-! ## Keeping a list of events -/

/-- Hands events on, and keeps a list of them with the worlds that they are handed over in. -/
def noting (emit : Event → ActionWith σ Unit) (e : Event) :
    ActionWith (σ × List (Event × World)) Unit := do
  let w ← Action.world
  ActionWith.update fun s => (s.1, s.2 ++ [(e, w)])
  ActionWith.onPart Prod.fst (fun a s => (a, s.2)) (emit e)

theorem outcome_noting (emit : Event → ActionWith σ Unit) (e : Event)
    (s : World × σ × List (Event × World)) :
    outcome (noting emit e) s =
      ((outcome (emit e) (s.1, s.2.1)).1, (outcome (emit e) (s.1, s.2.1)).2.1,
        (outcome (emit e) (s.1, s.2.1)).2.2, s.2.2 ++ [(e, s.1)]) := rfl

/-! ## Walks that succeed -/

/-- Hands events on, and keeps whether that has succeeded so far. -/
def marking (emit : Event → ActionWith σ Unit) (e : Event) : ActionWith (σ × Bool) Unit := do
  match ← ActionWith.attempt (ActionWith.onPart Prod.fst (fun a s => (a, s.2)) (emit e)) with
  | .ok _ => return
  | .error f =>
    ActionWith.update fun s => (s.1, false)
    throw f

theorem outcome_marking (emit : Event → ActionWith σ Unit) (e : Event) (s : World × σ × Bool) :
    outcome (marking emit e) s =
      ((outcome (emit e) (s.1, s.2.1)).1, (outcome (emit e) (s.1, s.2.1)).2.1,
        (outcome (emit e) (s.1, s.2.1)).2.2,
        s.2.2 && (outcome (emit e) (s.1, s.2.1)).1.isOk) := by
  obtain ⟨w, a, mark⟩ := s
  rw [marking, outcome_bind]
  have hattempt : outcome (ActionWith.attempt
      (ActionWith.onPart Prod.fst (fun a s => (a, s.2)) (emit e))) (w, a, mark) =
      (.ok (outcome (emit e) (w, a)).1, (outcome (emit e) (w, a)).2.1,
        (outcome (emit e) (w, a)).2.2, mark) := by
    rw [outcome_actionWith, ActionWith.runWith_attempt, ActionWith.runWith_onPart]
    rfl
  rw [hattempt]
  rcases outcome (emit e) (w, a) with ⟨_ | _, w', a'⟩
  · simp only [Except.isOk, Except.toBool, Bool.and_false]
    rfl
  · simp only [Except.isOk, Except.toBool, Bool.and_true]
    rfl

section

variable (mode : Mode) (start : Path) (emit : Event → ActionWith σ Unit)

/-- The mark changes nothing else. -/
theorem related_marking (s : World × σ × Bool) :
    Together (fun s t => t = (s.1, s.2.1)) (fun s t => t = (s.1, s.2.1))
      (outcome (walk mode start (marking emit)) s)
      (outcome (walk mode start emit) (s.1, s.2.1)) := by
  have sight (root : Path) : Sight mode root (fun _ => True) (fun _ => True)
      fun (s : World × σ × Bool) t => t = (s.1, s.2.1) := by
    refine .of_sameFiles mode root ?_ ?_
    · rintro s _ rfl
      exact .refl _
    · rintro s _ es rfl
      rfl
  refine follows_walk (G := fun _ => True) (fun _ _ h => h) (fun _ => within_true _) ?_ rfl
    (.refl _) (fun root _ => ⟨sight root, trivial⟩) trivial
  rintro e - s _ rfl -
  rw [outcome_marking]
  exact .of_result rfl rfl rfl

theorem keeps_marking : Keeps (fun s => s.2.2 = true) (fun _ => True)
    (walk mode start (marking emit)) := by
  refine keeps_walk (fun _ _ h => h) (fun _ _ => trivial) (fun e s hmark => ?_) start
  rw [outcome_marking]
  rcases outcome (emit e) (s.1, s.2.1) with ⟨_ | _, w, a⟩
  · trivial
  · exact Bool.and_eq_true_iff.2 ⟨hmark, rfl⟩

end

/-- A walk that succeeds is followed by another one if what its callback does with success is
followed by the other callback. -/
theorem walk_of_ok {emit : Event → ActionWith σ Unit} {emit' : Event → ActionWith τ Unit}
    {start : Path} {s s' : World × σ} {t : World × τ}
    (hemit : ∀ e, Q e → ∀ s t s', R s t → outcome (emit e) s = (.ok (), s') →
      ∃ t', outcome (emit' e) t = (.ok (), t') ∧ R s' t')
    (hR : R s t) (hsame : s.1.SameFiles t.1)
    (sight : ∀ root, s.1.resolve start = .ok root → Sight mode root P Q R ∧ P root)
    (hrun : outcome (walk mode start emit) s = (.ok (), s')) :
    ∃ t', outcome (walk mode start emit') t = (.ok (), t') ∧ R s' t' := by
  -- As long as the mark stands, the marked callback has succeeded.
  have hplain := related_marking mode start emit (s.1, s.2, true)
  have hmark := keeps_marking mode start emit (s.1, s.2, true) rfl
  rw [hrun] at hplain
  rcases hmarked : outcome (walk mode start (marking emit)) (s.1, s.2, true) with ⟨r, w, a, mark⟩
  rw [hmarked] at hplain hmark
  cases hplain with
  | ok hbehind =>
    subst hbehind
    have hfollows : Together (fun s t => R (s.1, s.2.1) t) (fun _ _ => True)
        (outcome (walk mode start (marking emit)) (s.1, s.2, true))
        (outcome (walk mode start emit') t) := by
      refine follows_walk (P := P) (Q := Q) (G := fun a => a.2 = true) (fun _ _ _ => trivial)
        (fun e s h => ?_) (fun e hQ s t hR hG => ?_) hR hsame (fun root hres => ?_) ?_
      · rw [outcome_marking] at h
        exact (Bool.and_eq_true_iff.1 h).1
      · rw [outcome_marking] at hG ⊢
        rcases hstep : outcome (emit e) (s.1, s.2.1) with ⟨_ | _, w', a'⟩
        · rw [hstep] at hG
          simp [Except.isOk, Except.toBool] at hG
        · obtain ⟨t', hstep', hR'⟩ := hemit e hQ _ _ _ hR hstep
          rw [hstep']
          exact .ok hR'
      · obtain ⟨hsight, hroot⟩ := sight root hres
        exact ⟨hsight.forget, hroot⟩
      · rw [hmarked]
        exact hmark
    rw [hmarked] at hfollows
    rcases hrun' : outcome (walk mode start emit') t with ⟨_ | _, t'⟩ <;>
      rw [hrun'] at hfollows <;> cases hfollows
    exact ⟨t', rfl, ‹_›⟩

end SourceDocs.Walk

import SourceDocs.Proofs.Files.LinkFree

/-!
# Trees that grow

Nothing that a run does to a file tree removes anything: directories and files are put where nothing
was, and files are written anew.  `get?_set_of_apart` and `map_get?_set` say what `Entry.set` does
then.  `Entry.Grows` says of a tree that it has everything that another one has, and the rest of the
file is about look-ups: what they find in a tree they find in a tree that has grown from it
(`Leads.of_grows`), they go on from where a part of the way leads (`Leads.join`), and below a
directory without links they lead along the names (`Leads.straight`).
-/

namespace SourceDocs

namespace Entry

variable {t t' u e c : Entry} {here names : List Text} {n : Text} {es : List (Text × Entry)}

/-! ## Kinds of entries -/

/-- What a look-up needs to know of an entry. -/
inductive Kind where
  | file
  | directory
  | link (target : Text)
deriving DecidableEq

/-- The kind of an entry. -/
def kind : Entry → Kind
  | .file _ => .file
  | .directory _ => .directory
  | .link target => .link target

/-- The bytes of a file. -/
def content? : Entry → Option (List UInt8)
  | .file data => some data
  | _ => none

/-- The kind of the entry that names lead to. -/
def kind? (t : Entry) (names : List Text) : Option Kind := (t.get? names).map kind

/-- The bytes of the file that names lead to. -/
def data? (t : Entry) (names : List Text) : Option (List UInt8) := (t.get? names).bind content?

theorem kind_eq_directory (h : e.kind = .directory) : ∃ es, e = .directory es := by
  cases e <;> first | exact ⟨_, rfl⟩ | cases h

theorem kind?_eq_directory : t.kind? names = some .directory ↔
    ∃ es, t.get? names = some (.directory es) := by
  constructor
  · intro h
    obtain ⟨e, he, hkind⟩ := Option.map_eq_some_iff.1 h
    obtain ⟨es, rfl⟩ := kind_eq_directory hkind
    exact ⟨es, he⟩
  · rintro ⟨es, he⟩
    rw [kind?, he]
    rfl

theorem kind?_eq_none : t.kind? names = none ↔ t.get? names = none := Option.map_eq_none_iff

theorem kind?_of_data? {data : List UInt8} (h : t.data? names = some data) :
    t.kind? names = some .file := by
  obtain ⟨e, he, hdata⟩ := Option.bind_eq_some_iff.1 h
  rw [kind?, he]
  cases e with
  | file _ => rfl
  | _ => cases hdata

/-! ## Putting entries into trees -/

theorem lookup_cons_of_ne {m : Text} (h : m ≠ n) (c : Entry) (rest : List (Text × Entry)) :
    ((n, c) :: rest).lookup m = rest.lookup m := by
  rw [List.lookup_cons, beq_eq_false_iff_ne.2 h]

theorem lookup_cons_eq (n : Text) (c : Entry) (rest : List (Text × Entry)) :
    ((n, c) :: rest).lookup n = some c := by
  rw [List.lookup_cons, beq_self_eq_true]

theorem lookup_put (n : Text) (e : Entry) (es : List (Text × Entry)) (m : Text) :
    (put n e es).lookup m = if m = n then some e else es.lookup m := by
  induction es with
  | nil =>
    by_cases h : m = n
    · rw [put, if_pos h, h, lookup_cons_eq]
    · rw [put, if_neg h, lookup_cons_of_ne h]
  | cons x rest ih =>
    obtain ⟨k, c⟩ := x
    rw [put]
    by_cases hk : k = n
    · subst hk
      by_cases h : m = k
      · rw [if_pos rfl, if_pos h, h, lookup_cons_eq]
      · rw [if_pos rfl, if_neg h, lookup_cons_of_ne h, lookup_cons_of_ne h]
    · by_cases h : m = k
      · subst h
        rw [if_neg hk, if_neg hk, lookup_cons_eq, lookup_cons_eq]
      · rw [if_neg hk, lookup_cons_of_ne h, lookup_cons_of_ne h, ih]

theorem set_cons (h : es.lookup n = some c) (hnames : names ≠ []) (e : Entry) :
    (directory es).set (n :: names) e = .directory (put n (c.set names e) es) := by
  cases names with
  | nil => exact absurd rfl hnames
  | cons m rest =>
    rw [set]
    · rw [h]
    · intro hfalse
      cases hfalse

theorem get?_put (n : Text) (e : Entry) (es : List (Text × Entry)) (m : Text) (names : List Text) :
    (directory (put n e es)).get? (m :: names) =
      if m = n then e.get? names else (directory es).get? (m :: names) := by
  rw [get?_cons, get?_cons, entries, lookup_put]
  by_cases h : m = n
  · rw [if_pos h, if_pos h]
    rfl
  · rw [if_neg h, if_neg h]
    rfl

/-- Neither of two lists of names leads through the other. -/
def Apart (names there : List Text) : Prop := ¬ names <+: there ∧ ¬ there <+: names

/-- What is apart from the place where an entry is put stays. -/
theorem get?_set_of_apart {there : List Text} (h : Apart names there) (e : Entry) :
    (t.set names e).get? there = t.get? there := by
  obtain ⟨hnot, hnot'⟩ := h
  induction names generalizing t there with
  | nil => exact absurd List.nil_prefix hnot
  | cons n rest ih =>
    cases there with
    | nil => exact absurd List.nil_prefix hnot'
    | cons m more =>
      cases t with
      | file data => cases rest <;> rfl
      | link target => cases rest <;> rfl
      | directory es =>
        by_cases hm : m = n
        · subst hm
          rw [List.cons_prefix_cons] at hnot hnot'
          have hrest : rest ≠ [] := by
            rintro rfl
            exact hnot ⟨rfl, List.nil_prefix⟩
          cases hc : es.lookup m with
          | none =>
            obtain ⟨k, ks, rfl⟩ := List.exists_cons_of_ne_nil hrest
            rw [set, hc]
            intro hfalse
            cases hfalse
          | some c =>
            rw [set_cons hc hrest, get?_put, if_pos rfl, get?_cons, entries, hc, Option.bind_some]
            exact ih (fun h => hnot ⟨rfl, h⟩) fun h => hnot' ⟨rfl, h⟩
        · cases rest with
          | nil =>
            rw [set, get?_put, if_neg hm]
          | cons k ks =>
            cases hc : es.lookup n with
            | none =>
              rw [set, hc]
              intro hfalse
              cases hfalse
            | some c => rw [set_cons hc (List.cons_ne_nil k ks), get?_put, if_neg hm]

theorem get?_set_self (h : t.get? here = some (.directory es)) (n : Text) (e : Entry) :
    (t.set (here ++ [n]) e).get? (here ++ [n]) = some e := by
  induction here generalizing t with
  | nil =>
    obtain rfl := Option.some.inj ((get?_nil t).symm.trans h)
    rw [List.nil_append, set, get?_put, if_pos rfl, get?_nil]
  | cons m rest ih =>
    obtain ⟨ds, c, rfl, hc, hrest⟩ := get?_cons_eq_some h
    rw [List.cons_append, set_cons hc (by simp), get?_put, if_pos rfl]
    exact ih hrest

/-- Whether nothing is in an entry. -/
def holdsNothing (e : Entry) : Prop := e.entries = []

theorem holdsNothing.get?_cons (h : e.holdsNothing) (n : Text) (rest : List Text) :
    e.get? (n :: rest) = none := by
  rw [Entry.get?_cons, h]
  rfl

/-- Where an entry that holds nothing is put in place of another such entry or of none, nothing else
changes but for the entries of directories. -/
theorem map_get?_set {β : Type} {g : Entry → β}
    (hg : ∀ es es', g (.directory es) = g (.directory es'))
    (h : t.get? here = some (.directory es)) (he : e.holdsNothing)
    (hold : ∀ c, t.get? (here ++ [n]) = some c → c.holdsNothing) (there : List Text) :
    ((t.set (here ++ [n]) e).get? there).map g =
      if there = here ++ [n] then some (g e) else (t.get? there).map g := by
  induction here generalizing t there with
  | nil =>
    obtain rfl := Option.some.inj ((get?_nil t).symm.trans h)
    rw [List.nil_append, set]
    cases there with
    | nil =>
      rw [if_neg (by simp), get?_nil, get?_nil]
      exact congrArg some (hg _ _)
    | cons m more =>
      rw [get?_put]
      by_cases hm : m = n
      · subst hm
        rw [if_pos rfl]
        cases more with
        | nil => simp
        | cons k ks =>
          rw [he.get?_cons, if_neg (by simp)]
          rw [show m :: k :: ks = [m] ++ k :: ks from rfl, get?_append]
          cases hc : (directory es).get? [m] with
          | none => rfl
          | some c => rw [Option.bind_some, (hold c hc).get?_cons]
      · rw [if_neg hm, if_neg (by simp [hm])]
  | cons m rest ih =>
    obtain ⟨ds, c, rfl, hc, hrest⟩ := get?_cons_eq_some h
    rw [List.cons_append, set_cons hc (by simp)]
    cases there with
    | nil =>
      rw [if_neg (by simp), get?_nil, get?_nil]
      exact congrArg some (hg _ _)
    | cons k more =>
      rw [get?_put]
      by_cases hk : k = m
      · subst hk
        have hold' : ∀ d, c.get? (rest ++ [n]) = some d → d.holdsNothing := by
          intro d hd
          refine hold d ?_
          rw [List.cons_append, Entry.get?_cons, entries, hc, Option.bind_some, hd]
        rw [if_pos rfl, ih hrest hold', Entry.get?_cons, entries, hc, Option.bind_some]
        simp
      · rw [if_neg hk, if_neg (by simp [hk])]

/-! ## Growing -/

/-- A tree has everything that another one has; what is in files may differ. -/
def Grows (t t' : Entry) : Prop := ∀ names k, t.kind? names = some k → t'.kind? names = some k

/-- A name in a directory that is free, or that of a file. -/
structure Room (t : Entry) (names : List Text) : Prop where
  parent : ∃ here n es, names = here ++ [n] ∧ t.get? here = some (.directory es)
  old : ∀ c, t.get? names = some c → c.kind = .file

/-- What may be put into a room: anything that holds nothing if the room is free, and else a
file. -/
structure Fits (t : Entry) (names : List Text) (e : Entry) : Prop where
  room : Room t names
  holdsNothing : e.holdsNothing
  notLink : ∀ target, e ≠ .link target
  kind : ∀ c, t.get? names = some c → e.kind = .file

theorem holdsNothing_of_kind (h : e.kind = .file) : e.holdsNothing := by
  cases e with
  | file data => rfl
  | _ => cases h

theorem Fits.map_get? (h : Fits t names e) {β : Type} {g : Entry → β}
    (hg : ∀ es es', g (.directory es) = g (.directory es')) (there : List Text) :
    ((t.set names e).get? there).map g =
      if there = names then some (g e) else (t.get? there).map g := by
  obtain ⟨here, n, es, rfl, hparent⟩ := h.room.parent
  exact map_get?_set hg hparent h.holdsNothing
    (fun c hc => holdsNothing_of_kind (h.room.old c hc)) there

theorem Fits.kind?_set (h : Fits t names e) (there : List Text) :
    (t.set names e).kind? there = if there = names then some e.kind else t.kind? there :=
  h.map_get? (fun _ _ => rfl) there

theorem Fits.data?_set (h : Fits t names e) (there : List Text) :
    (t.set names e).data? there = if there = names then e.content? else t.data? there := by
  have hjoin (x : Option Entry) : x.bind content? = (x.map content?).join := by cases x <;> rfl
  rw [data?, data?, hjoin, hjoin, h.map_get? (fun _ _ => rfl) there]
  split <;> rfl

theorem Fits.get?_set (h : Fits t names e) : (t.set names e).get? names = some e := by
  obtain ⟨here, n, es, rfl, hparent⟩ := h.room.parent
  exact get?_set_self hparent n e

theorem Fits.grows (h : Fits t names e) : Grows t (t.set names e) := by
  intro there k hk
  rw [h.kind?_set]
  by_cases hthere : there = names
  · subst hthere
    obtain ⟨c, hc, rfl⟩ := Option.map_eq_some_iff.1 hk
    rw [if_pos rfl, h.kind c hc, h.room.old c hc]
  · rw [if_neg hthere, hk]

end Entry

namespace Files

open Entry

variable {t t' : Entry} {here there names rest : List Text} {n : Text} {e : Entry}

/-! ## Where look-ups lead -/

theorem lookup_kind {es : List (Text × Entry)} (h : t.get? here = some (.directory es))
    (n : Text) : t.kind? (here ++ [n]) = (es.lookup n).map kind := by
  rw [kind?, get?_child h]

/-- A name that leads down and is not too long. -/
def IsPlain (n : Text) : Prop := n.isString ".." = false ∧ ¬ maxName < byteLength n

/-- Names lead from a directory, over at most so many links, to other names and to what is there. -/
inductive Leads (t : Entry) : Nat → List Text → List Text → List Text × Option Entry → Prop where
  | here {k : Nat} {here : List Text} {e : Entry} :
      t.get? here = some e → Leads t k here [] (here, some e)
  | up {k : Nat} {here rest : List Text} {n : Text} {r : List Text × Option Entry} :
      t.kind? here = some .directory → n.isString ".." = true →
      Leads t k here.dropLast rest r → Leads t k here (n :: rest) r
  | free {k : Nat} {here : List Text} {n : Text} :
      t.kind? here = some .directory → IsPlain n → t.get? (here ++ [n]) = none →
      Leads t k here [n] (here ++ [n], none)
  | link {k : Nat} {here rest : List Text} {n target : Text} {r : List Text × Option Entry} :
      t.kind? here = some .directory → IsPlain n → t.kind? (here ++ [n]) = some (.link target) →
      Leads t k (if (targetNames target).1 then [] else here) ((targetNames target).2 ++ rest) r →
      Leads t (k + 1) here (n :: rest) r
  | into {k : Nat} {here rest : List Text} {n : Text} {kind : Kind}
      {r : List Text × Option Entry} :
      t.kind? here = some .directory → IsPlain n → t.kind? (here ++ [n]) = some kind →
      (∀ target, kind ≠ .link target) → Leads t k (here ++ [n]) rest r →
        Leads t k here (n :: rest) r

theorem advance_up (h : t.kind? here = some .directory) (hn : n.isString ".." = true)
    (rest : List Text) : advance t true here (n :: rest) = advance t true here.dropLast rest := by
  obtain ⟨es, hes⟩ := kind?_eq_directory.1 h
  rw [advance, hes]
  simp only [hn, if_true]

theorem advance_plain {es : List (Text × Entry)} (hes : t.get? here = some (.directory es))
    (hn : IsPlain n) (rest : List Text) :
    advance t true here (n :: rest) =
      match t.get? (here ++ [n]) with
      | none => if rest.isEmpty then .ok (.missing (here ++ [n])) else .error .notFound
      | some (.link target) => .ok (.link here target rest)
      | some _ => advance t true (here ++ [n]) rest := by
  rw [advance, hes]
  rcases hentry : t.get? (here ++ [n]) with _ | _ | _ | _ <;> rw [get?_child hes] at hentry <;>
    simp only [hentry, hn.1, hn.2, Bool.false_eq_true, if_false, Bool.not_true, Bool.and_false]

/-- What a walk along names comes to. -/
def comesTo (t : Entry) (k : Nat) (r : List Text × Option Entry) : Stop → Prop
  | .found names e => r = (names, some e)
  | .missing names => r = (names, none)
  | .link above target more => ∃ j, k = j + 1 ∧
      Leads t j (if (targetNames target).1 then [] else above) ((targetNames target).2 ++ more) r

theorem leads_of_advance {k : Nat} {r : List Text × Option Entry} {stop : Stop}
    (h : advance t true here rest = .ok stop) (hr : comesTo t k r stop) :
    Leads t k here rest r := by
  induction rest generalizing here with
  | nil =>
    rw [advance] at h
    cases he : t.get? here with
    | none =>
      rw [he] at h
      cases h
    | some e =>
      rw [he] at h
      cases h
      obtain rfl := hr
      exact .here he
  | cons n more ih =>
    cases hhere : t.get? here with
    | none =>
      rw [advance, hhere] at h
      cases h
    | some e =>
      cases e with
      | file data =>
        rw [advance, hhere] at h
        cases h
      | link target =>
        rw [advance, hhere] at h
        cases h
      | directory es =>
        have hdir : t.kind? here = some .directory := by rw [kind?, hhere, Option.map_some, kind]
        cases hdots : n.isString ".." with
        | true =>
          rw [advance_up hdir hdots] at h
          exact .up hdir hdots (ih h)
        | false =>
          by_cases hlong : maxName < byteLength n
          · rw [advance, hhere] at h
            simp only [hdots, Bool.false_eq_true, if_false, if_pos hlong] at h
            cases h
          · have hn : IsPlain n := ⟨hdots, hlong⟩
            rw [advance_plain hhere hn] at h
            cases hc : t.get? (here ++ [n]) with
            | none =>
              rw [hc] at h
              cases more with
              | nil =>
                cases h
                obtain rfl := hr
                exact .free hdir hn hc
              | cons m ms => cases h
            | some c =>
              have hkindc : t.kind? (here ++ [n]) = some c.kind := by
                rw [kind?, hc, Option.map_some]
              rw [hc] at h
              cases c with
              | link target =>
                cases h
                obtain ⟨j, rfl, hmore⟩ := hr
                exact .link hdir hn hkindc hmore
              | file data => exact .into hdir hn hkindc (fun _ hfalse => by cases hfalse) (ih h)
              | directory cs => exact .into hdir hn hkindc (fun _ hfalse => by cases hfalse) (ih h)

theorem followNames_congr {k : Nat} (h : advance t true here rest = advance t true there names) :
    followNames t true k here rest = followNames t true k there names := by
  rw [followNames, followNames, h]

theorem followNames_eq_ok {k : Nat} {r : List Text × Option Entry} :
    followNames t true k here rest = .ok r ↔ Leads t k here rest r := by
  constructor
  · intro h
    induction k generalizing here rest with
    | zero =>
      rw [followNames] at h
      cases hstop : advance t true here rest with
      | error f =>
        rw [hstop] at h
        cases h
      | ok stop =>
        rw [hstop] at h
        cases stop <;> cases h <;> exact leads_of_advance hstop rfl
    | succ k ih =>
      rw [followNames] at h
      cases hstop : advance t true here rest with
      | error f =>
        rw [hstop] at h
        cases h
      | ok stop =>
        rw [hstop] at h
        cases stop with
        | found names e =>
          cases h
          exact leads_of_advance hstop rfl
        | missing names =>
          cases h
          exact leads_of_advance hstop rfl
        | link above target more => exact leads_of_advance hstop ⟨k, rfl, ih h⟩
  · intro h
    induction h with
    | here he => rw [followNames, advance, he]
    | up hdir hn _ ih => rw [followNames_congr (advance_up hdir hn _), ih]
    | free hdir hn hc =>
      obtain ⟨es, hes⟩ := kind?_eq_directory.1 hdir
      rw [followNames, advance_plain hes hn, hc]
      rfl
    | link hdir hn hc _ ih =>
      obtain ⟨es, hes⟩ := kind?_eq_directory.1 hdir
      obtain ⟨c, hc, hkind⟩ := Option.map_eq_some_iff.1 hc
      cases c <;> cases hkind
      rw [followNames, advance_plain hes hn, hc]
      exact ih
    | into hdir hn hkind hnot _ ih =>
      obtain ⟨es, hes⟩ := kind?_eq_directory.1 hdir
      obtain ⟨c, hc, rfl⟩ := Option.map_eq_some_iff.1 hkind
      rw [← ih]
      refine followNames_congr ?_
      rw [advance_plain hes hn, hc]
      cases c with
      | link target => exact absurd rfl (hnot target)
      | _ => rfl

namespace Leads

variable {j k : Nat} {r r' : List Text × Option Entry} {found : Option Entry} {more : List Text}

theorem unique (h : Leads t k here rest r) (h' : Leads t k here rest r') : r = r' :=
  Except.ok.inj ((followNames_eq_ok.2 h).symm.trans (followNames_eq_ok.2 h'))

theorem get? (h : Leads t k here rest (names, found)) : t.get? names = found := by
  generalize hr : (names, found) = r at h
  induction h with
  | here he =>
    cases hr
    exact he
  | free _ _ hc =>
    cases hr
    exact hc
  | up _ _ _ ih | link _ _ _ _ ih | into _ _ _ _ _ ih => exact ih hr

theorem exists_parent (h : Leads t k here rest (names, none)) :
    ∃ above n es, names = above ++ [n] ∧ t.get? above = some (.directory es) := by
  generalize hr : (names, none) = r at h
  induction h with
  | here => cases hr
  | free hdir _ _ =>
    cases hr
    obtain ⟨es, hes⟩ := kind?_eq_directory.1 hdir
    exact ⟨_, _, es, rfl, hes⟩
  | up _ _ _ ih | link _ _ _ _ ih | into _ _ _ _ _ ih => exact ih hr

/-- What is found is found in a tree that has grown, at the same place. -/
theorem of_grows (h : Leads t k here rest (names, some e)) (hgrows : Grows t t') :
    ∃ e', Leads t' k here rest (names, some e') ∧ e'.kind = e.kind := by
  generalize hr : (names, some e) = r at h
  induction h with
  | here he =>
    cases hr
    obtain ⟨e', he', hkind⟩ := Option.map_eq_some_iff.1
      (hgrows _ e.kind (by rw [kind?, he, Option.map_some]))
    exact ⟨e', .here he', hkind⟩
  | free => cases hr
  | up hdir hn _ ih =>
    obtain ⟨e', hleads, hkind⟩ := ih hr
    exact ⟨e', .up (hgrows _ _ hdir) hn hleads, hkind⟩
  | link hdir hn hc _ ih =>
    obtain ⟨e', hleads, hkind⟩ := ih hr
    exact ⟨e', .link (hgrows _ _ hdir) hn (hgrows _ _ hc) hleads, hkind⟩
  | into hdir hn hc hnot _ ih =>
    obtain ⟨e', hleads, hkind⟩ := ih hr
    exact ⟨e', .into (hgrows _ _ hdir) hn (hgrows _ _ hc) hnot hleads, hkind⟩

theorem directory_of_grows (h : Leads t k here rest (names, found))
    (hdir : t.kind? names = some .directory) (hgrows : Grows t t') :
    Leads t' k here rest (names, t'.get? names) := by
  obtain ⟨es, hes⟩ := kind?_eq_directory.1 hdir
  obtain rfl := hes.symm.trans h.get?
  obtain ⟨e', hleads, -⟩ := h.of_grows hgrows
  exact hleads.get? ▸ hleads

/-- Where something is put, there the way to it leads. -/
theorem of_set (h : Leads t k here rest (names, found)) (hfits : Fits t names e) :
    Leads (t.set names e) k here rest (names, some e) := by
  have hgrows := hfits.grows
  generalize hr : (names, found) = r at h
  induction h with
  | here he =>
    cases hr
    exact .here hfits.get?_set
  | free hdir hn hc =>
    cases hr
    refine .into (hgrows _ _ hdir) hn (hfits.kind?_set _ ▸ if_pos rfl) ?_ (.here hfits.get?_set)
    intro target hkind
    cases e with
    | link other => exact hfits.notLink other rfl
    | _ => cases hkind
  | up hdir hn _ ih => exact .up (hgrows _ _ hdir) hn (ih hr)
  | link hdir hn hc _ ih => exact .link (hgrows _ _ hdir) hn (hgrows _ _ hc) (ih hr)
  | into hdir hn hc hnot _ ih => exact .into (hgrows _ _ hdir) hn (hgrows _ _ hc) hnot (ih hr)

/-- A way leads on from where a part of it leads, and that is a directory. -/
theorem split {first : List Text} (h : Leads t k here (first ++ rest) r) (hrest : rest ≠ []) :
    ∃ names j, t.kind? names = some .directory ∧
      Leads t k here first (names, t.get? names) ∧ Leads t j names rest r := by
  have hstart {k : Nat} {here : List Text} (hdir : t.kind? here = some .directory) :
      Leads t k here [] (here, t.get? here) := by
    obtain ⟨es, hes⟩ := kind?_eq_directory.1 hdir
    exact hes ▸ .here hes
  generalize hall : first ++ rest = all at h
  induction h generalizing first with
  | here => exact absurd (List.append_eq_nil_iff.1 hall).2 hrest
  | @up k here more n r hdir hn hmore ih =>
    cases first with
    | nil =>
      subst hall
      exact ⟨here, k, hdir, hstart hdir, .up hdir hn hmore⟩
    | cons m ms =>
      rw [List.cons_append, List.cons.injEq] at hall
      obtain ⟨rfl, hall⟩ := hall
      obtain ⟨names, j, hnames, hfirst, hleads⟩ := ih hall
      exact ⟨names, j, hnames, .up hdir hn hfirst, hleads⟩
  | @free k here n hdir hn hc =>
    cases first with
    | nil =>
      subst hall
      exact ⟨here, k, hdir, hstart hdir, .free hdir hn hc⟩
    | cons m ms =>
      rw [List.cons_append, List.cons.injEq] at hall
      obtain ⟨rfl, hall⟩ := hall
      exact absurd (List.append_eq_nil_iff.1 hall).2 hrest
  | @link k here more n target r hdir hn hc hmore ih =>
    cases first with
    | nil =>
      subst hall
      exact ⟨here, k + 1, hdir, hstart hdir, .link hdir hn hc hmore⟩
    | cons m ms =>
      rw [List.cons_append, List.cons.injEq] at hall
      obtain ⟨rfl, rfl⟩ := hall
      obtain ⟨names, j, hnames, hfirst, hleads⟩ := ih (List.append_assoc _ _ _)
      exact ⟨names, j, hnames, .link hdir hn hc hfirst, hleads⟩
  | @into k here more n kind r hdir hn hc hnot hmore ih =>
    cases first with
    | nil =>
      subst hall
      exact ⟨here, k, hdir, hstart hdir, .into hdir hn hc hnot hmore⟩
    | cons m ms =>
      rw [List.cons_append, List.cons.injEq] at hall
      obtain ⟨rfl, hall⟩ := hall
      obtain ⟨names, j, hnames, hfirst, hleads⟩ := ih hall
      exact ⟨names, j, hnames, .into hdir hn hc hnot hfirst, hleads⟩

/-- A way can be gone on. -/
theorem join {first : List Text} (h : Leads t k here first (names, found))
    (hdir : t.kind? names = some .directory) :
    ∃ j, ∀ rest r, Leads t j names rest r → Leads t k here (first ++ rest) r := by
  generalize hr : (names, found) = s at h
  induction h with
  | @here k here e he =>
    cases hr
    exact ⟨k, fun rest r hleads => hleads⟩
  | free _ _ hc =>
    cases hr
    rw [kind?, hc] at hdir
    cases hdir
  | up hhere hn _ ih =>
    obtain ⟨j, hj⟩ := ih hr
    exact ⟨j, fun rest r hleads => .up hhere hn (hj rest r hleads)⟩
  | link hhere hn hc _ ih =>
    obtain ⟨j, hj⟩ := ih hr
    refine ⟨j, fun rest r hleads => .link hhere hn hc ?_⟩
    exact List.append_assoc _ _ rest ▸ hj rest r hleads
  | into hhere hn hc hnot _ ih =>
    obtain ⟨j, hj⟩ := ih hr
    exact ⟨j, fun rest r hleads => .into hhere hn hc hnot (hj rest r hleads)⟩

end Leads

/-! ## Below directories without links -/

/-- No symbolic link is below a place. -/
def NoLinks (t : Entry) (names : List Text) : Prop :=
  ∀ rest target, t.kind? (names ++ rest) ≠ some (.link target)

theorem NoLinks.child (h : NoLinks t here) (n : Text) : NoLinks t (here ++ [n]) := by
  intro rest target
  rw [List.append_assoc]
  exact h _ target

theorem noLinks_of_isLinkFree (h : t.isLinkFree) (names : List Text) : NoLinks t names := by
  intro rest target hlink
  obtain ⟨e, he, hkind⟩ := Option.map_eq_some_iff.1 hlink
  have hfree := isLinkFree_get? h he
  cases e with
  | link => cases hfree
  | _ => cases hkind

/-- What is put into a tree where it fits is no link. -/
theorem NoLinks.set (h : NoLinks t there) (hfits : Fits t names e) :
    NoLinks (t.set names e) there := by
  intro rest target hlink
  rw [hfits.kind?_set] at hlink
  by_cases heq : there ++ rest = names
  · rw [if_pos heq] at hlink
    cases e with
    | link target => exact hfits.notLink target rfl
    | _ => cases hlink
  · rw [if_neg heq] at hlink
    exact h rest target hlink

/-- Below a directory without links, a way without double dots leads along its names. -/
theorem Leads.straight {k : Nat} {found : Option Entry} (h : Leads t k here rest (names, found))
    (hlinks : NoLinks t here) (hdots : Path.NoDots rest) : names = here ++ rest := by
  generalize hr : (names, found) = r at h
  induction h with
  | here =>
    cases hr
    exact (List.append_nil _).symm
  | free =>
    cases hr
    rfl
  | up _ hn _ _ =>
    rw [hdots _ List.mem_cons_self] at hn
    cases hn
  | @link k here rest n target r _ _ hc _ _ => exact absurd hc (hlinks [n] target)
  | @into k here rest n kind r _ _ _ _ _ ih =>
    rw [ih (hlinks.child n) (fun m hm => hdots m (List.mem_cons_of_mem _ hm)) hr,
      List.append_assoc, List.singleton_append]

/-- Below a directory without links, names lead to what is there. -/
theorem leads_of_get? {k : Nat} (h : t.get? (here ++ rest) = some e)
    (hlinks : NoLinks t here) (hplain : ∀ n ∈ rest, IsPlain n) :
    Leads t k here rest (here ++ rest, some e) := by
  induction rest generalizing here with
  | nil =>
    rw [List.append_nil] at h ⊢
    exact .here h
  | cons n more ih =>
    obtain ⟨es, c, hes, hc, -⟩ := get?_append_cons h
    have hnext : here ++ n :: more = here ++ [n] ++ more := by simp
    have hkind : t.kind? (here ++ [n]) = some c.kind := by rw [lookup_kind hes, hc, Option.map_some]
    rw [hnext] at h ⊢
    refine .into (kind?_eq_directory.2 ⟨es, hes⟩) (hplain n List.mem_cons_self) hkind ?_ ?_
    · intro target htarget
      exact hlinks [n] target (hkind.trans (congrArg some htarget))
    · exact ih h (hlinks.child n) fun m hm => hplain m (List.mem_cons_of_mem _ hm)

end Files

end SourceDocs

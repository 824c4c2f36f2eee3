import SourceDocs.Proofs.Files.LinkFree
import SourceDocs.Proofs.Looking
import SourceDocs.Proofs.Run.Sample
import SourceDocs.Settings.Reader

/-!
# Accepted settings

Data is turned into settings key by key, and the rules that every run depends on are checked at the
end.  `Settings.Accepted` says which data gets through, without a word about the order in which
things are checked.  If the paths in the data can be resolved, everything else is refused as a
configuration fault (`Settings.ofValue_exact`), and what gets through stays valid when defaults are
filled in.
-/

namespace SourceDocs

open SourceDocs.Action

variable {α β : Type} {P Q : Prop} {G : α → Prop} {H : β → Prop} {w : World}

/-! ## Checks -/

/-- The action succeeds, with a result of which `G` holds, if and only if `P` holds; otherwise it
fails with a configuration fault.  It changes nothing in either case. -/
structure Checks (P : Prop) (G : α → Prop) (w : World) (x : Action α) : Prop where
  passes : P → ∃ a, x.runIn w = (.ok a, w) ∧ G a
  refuses : ¬ P → ∃ f, x.runIn w = (.error (.config f), w)

namespace Checks

theorem of_ok {x : Action α} {a : α} (h : x.runIn w = (.ok a, w)) (hP : P) (hG : G a) :
    Checks P G w x :=
  ⟨fun _ => ⟨a, h, hG⟩, fun hnot => absurd hP hnot⟩

theorem pure (a : α) (hP : P) (hG : G a) : Checks P G w (pure a) := of_ok rfl hP hG

theorem throw (f : ConfigFault) (h : ¬ P) : Checks P G w (throw (.config f) : Action α) :=
  ⟨fun hP => absurd hP h, fun _ => ⟨f, rfl⟩⟩

theorem congr {x : Action α} (h : Checks P G w x) (hPQ : P ↔ Q) : Checks Q G w x :=
  ⟨fun hQ => h.passes (hPQ.2 hQ), fun hQ => h.refuses fun hP => hQ (hPQ.1 hP)⟩

theorem bind {x : Action α} {f : α → Action β} (hx : Checks P G w x)
    (hf : ∀ a, G a → Checks Q H w (f a)) : Checks (P ∧ Q) H w (x >>= f) where
  passes := fun ⟨hP, hQ⟩ => by
    obtain ⟨a, ha, hG⟩ := hx.passes hP
    rw [runIn_bind_ok ha]
    exact (hf a hG).passes hQ
  refuses := fun hPQ => by
    by_cases hP : P
    · obtain ⟨a, ha, hG⟩ := hx.passes hP
      rw [runIn_bind_ok ha]
      exact (hf a hG).refuses fun hQ => hPQ ⟨hP, hQ⟩
    · obtain ⟨f, hf⟩ := hx.refuses hP
      exact ⟨f, runIn_bind_error hf⟩

/-- A result shows that the check was passed. -/
theorem of_runIn {x : Action α} {a : α} (h : Checks P G w x) (hrun : (x.runIn w).1 = .ok a) :
    P ∧ G a := by
  by_cases hP : P
  · obtain ⟨b, hb, hG⟩ := h.passes hP
    rw [hb] at hrun
    cases hrun
    exact ⟨hP, hG⟩
  · obtain ⟨f, hf⟩ := h.refuses hP
    rw [hf] at hrun
    cases hrun

/-- What succeeds for certain is no check. -/
theorem after {x : Action α} {f : α → Action β} {a : α} (hx : x.runIn w = (.ok a, w))
    (hf : Checks Q H w (f a)) : Checks Q H w (x >>= f) := by
  refine ⟨fun hQ => ?_, fun hQ => ?_⟩ <;> rw [runIn_bind_ok hx]
  · exact hf.passes hQ
  · exact hf.refuses hQ

end Checks

/-! ## Data of settings -/

namespace Value

/-- The value is a text. -/
def IsText (v : Value) : Prop := ∃ t, v = .text t

/-- The value is this path, or the text of it. -/
inductive Names : Value → Path → Prop where
  | text (t : Text) : Names (.text t) (Path.ofText t)
  | path (p : Path) : Names (.path p) p

/-- The value is a sequence other than a text. -/
inductive IsSequence : Value → Prop where
  | list (items : List Value) : IsSequence (.list items)
  | tuple (items : List Value) : IsSequence (.tuple items)
  | bytes (data : List UInt8) (growable : Bool) : IsSequence (.bytes data growable)
  | other (type : String) (items : List Value) (hashable : Bool) :
    IsSequence (.sequence type items hashable)

/-- The value asks for a plugin: a name, or a mapping with a name and perhaps with options. -/
inductive AsksPlugin : Value → Prop where
  | name (t : Text) : AsksPlugin (.text t)
  | entries {entries : List (Value × Value)} {t : Text} :
    lookupText entries "name" = some (.text t) →
      (∀ v, lookupText entries "option" = some v → v.isTruthy → ∃ option, v = .mapping option) →
      AsksPlugin (.mapping entries)

/-- The items of a sequence of any values. -/
def members : Value → List Value
  | .list items | .tuple items | .sequence _ items _ => items
  | _ => []

/-- The items of a list, and any other value by itself. -/
def listed : Value → List Value
  | .list items | .tuple items => items
  | v => [v]

end Value

namespace Settings

open Value

/-- The value under a key, unless it is null. -/
def given (entries : List (Value × Value)) (key : String) : Option Value :=
  match lookupText entries key with
  | some .null => none
  | v => v

/-- The keys of paths. -/
def pathKeys : List String := ["destination", "root", "source", "package", "index"]

/-- The keys of patterns. -/
def patternKeys : List String := ["includes", "excludes"]

/-- What is given under a key is a path or a text. -/
def HasPath (entries : List (Value × Value)) (key : String) : Prop :=
  ∀ v, given entries key = some v → ∃ p, v.Names p

/-- What is given under a key is a text or another sequence. -/
def HasTexts (entries : List (Value × Value)) (key : String) : Prop :=
  ∀ v, given entries key = some v → v.IsText ∨ v.IsSequence

/-- A mapping that settings can be made from. -/
structure Accepted (entries : List (Value × Value)) : Prop where
  current : ∀ k ∈ retiredKeys, lookupText entries k.1 = none
  paths : ∀ key ∈ pathKeys, HasPath entries key
  patterns : ∀ key ∈ patternKeys, HasTexts entries key
  plugins : ∀ v, given entries "plugins" = some v → ∀ x ∈ v.listed, x.AsksPlugin
  /-- Exactly one kind of tree is given. -/
  input : (given entries "root").isSome = !(given entries "source").isSome
  package : (given entries "package").isSome → (given entries "source").isSome
  destination : (given entries "destination").isSome

/-- The file system resolves the base directory and the paths in the data. -/
structure Resolves (w : World) (base : Option Path) (here : Path) (entries : List (Value × Value)) :
    Prop where
  base : w.resolve (base.getD {}) = .ok here
  paths : ∀ key ∈ pathKeys, ∀ v p, lookupText entries key = some v → v.Names p →
    ∃ q r, (Files.expandHome p).runIn w = (.ok q, w) ∧ w.resolve (here.join q) = .ok r

/-- The integers among the patterns have no more digits than can be written. -/
def HasShortIntegers (entries : List (Value × Value)) : Prop :=
  ∀ key ∈ patternKeys, ∀ v, lookupText entries key = some v →
    ∀ n : Int, .int n ∈ v.members → (Text.ofNat n.natAbs).length ≤ Json.digitLimit

/-- All paths in settings are absolute. -/
structure AreAbsolute (s : Settings) : Prop where
  base : s.baseDirectory.isAbsolute
  paths : ∀ p, some p ∈ [s.destination, s.root, s.source, s.package, s.index] → p.isAbsolute

/-- Settings that differ from others only in what was left open there. -/
structure Completes (s d : Settings) : Prop where
  destination : d.destination = s.destination
  root : d.root = s.root
  source : d.source = s.source
  package : s.package.isSome ∨ s.source = none → d.package = s.package
  includes : s.includes.isSome → d.includes = s.includes
  excludes : s.excludes.isSome → d.excludes = s.excludes
  index : s.index.isSome → d.index = s.index
  plugins : d.plugins = s.plugins
  baseDirectory : d.baseDirectory = s.baseDirectory

theorem isAbsolute_of_resolve {p q : Path} (h : w.resolve p = .ok q) : q.isAbsolute := by
  rw [Path.isAbsolute, (World.resolve_shape h).1]
  rfl

variable {entries : List (Value × Value)} {key : String} {base : Option Path} {here : Path}

/-! ## The checks of single keys -/

theorem checks_settle (r : Except ConfigFault α) :
    Checks (∃ a, r = .ok a) (fun a => r = .ok a) w (settle r) := by
  cases r with
  | ok a => exact Checks.pure a ⟨a, rfl⟩ rfl
  | error f => exact Checks.throw f fun ⟨a, ha⟩ => by cases ha

theorem exists_checkRetired :
    (∃ u, checkRetired entries = .ok u) ↔ ∀ k ∈ retiredKeys, lookupText entries k.1 = none := by
  have hnil : retiredKeys.filter (fun k => (lookupText entries k.1).isSome) = [] ↔
      ∀ k ∈ retiredKeys, lookupText entries k.1 = none := by
    simp only [List.filter_eq_nil_iff, Option.not_isSome_iff_eq_none]
  rw [← hnil, checkRetired]
  split
  · rename_i h
    exact iff_of_true ⟨(), rfl⟩ h
  · rename_i h
    exact iff_of_false (fun ⟨u, hu⟩ => by cases hu) h

/-- A key is checked by what a reader does with its value. -/
theorem given_eq_some {v : Value} (h : lookupText entries key = some v) (hv : v ≠ .null) :
    given entries key = some v := by
  rw [given, h]
  cases v with
  | null => exact absurd rfl hv
  | _ => rfl

theorem given_eq_none (h : lookupText entries key = none ∨ lookupText entries key = some .null) :
    given entries key = none := by
  rcases h with h | h <;> rw [given, h]

/-- A value under a key is missing, or there is one. -/
theorem given_cases (entries : List (Value × Value)) (key : String) :
    (lookupText entries key = none ∨ lookupText entries key = some .null) ∨
      ∃ v, lookupText entries key = some v ∧ v ≠ .null := by
  cases h : lookupText entries key with
  | none => exact .inl (.inl rfl)
  | some v =>
    by_cases hnull : v = .null
    · exact .inl (.inr (by rw [hnull]))
    · exact .inr ⟨v, rfl, hnull⟩

theorem named?_eq_some {v : Value} {p : Path} : named? v = some p ↔ v.Names p := by
  constructor
  · intro h
    cases v with
    | text t =>
      obtain rfl := Option.some.inj h
      exact .text t
    | path q =>
      obtain rfl := Option.some.inj h
      exact .path q
    | _ => cases h
  · rintro (_ | _) <;> rfl

theorem pathOf_some {v : Value} (hnull : v ≠ .null) :
    pathOf here (some v) =
      match named? v with
      | some p => do return some (← Files.resolve (here.join (← Files.expandHome p)))
      | none => throw (.config (.notPath v.typeName)) := by
  cases v with
  | null => exact absurd rfl hnull
  | _ => rfl

/-- A path is read from what is missing, from a text or from a path. -/
theorem checks_pathOf (h : Resolves w base here entries) (hkey : key ∈ pathKeys) :
    Checks (HasPath entries key)
      (fun p => p.isSome = (given entries key).isSome ∧ ∀ q, p = some q → q.isAbsolute) w
      (pathOf here (lookupText entries key)) := by
  rcases given_cases entries key with hmissing | ⟨v, hv, hnull⟩
  · have hnone := given_eq_none hmissing
    refine Checks.of_ok (a := none) ?_ (by simp [HasPath, hnone]) (by simp [hnone])
    rcases hmissing with h | h <;> rw [h] <;> rfl
  · have hgiven := given_eq_some hv hnull
    rw [hv, pathOf_some hnull]
    cases hp : named? v with
    | none =>
      refine Checks.throw _ fun hall => ?_
      obtain ⟨p, hnames⟩ := hall v hgiven
      rw [named?_eq_some.2 hnames] at hp
      cases hp
    | some p =>
      have hnames := named?_eq_some.1 hp
      obtain ⟨q, r, hq, hr⟩ := h.paths key hkey v p hv hnames
      refine Checks.of_ok (a := some r) ?_ ?_ (by simp [hgiven, isAbsolute_of_resolve hr])
      · simp only
        rw [runIn_bind_ok hq, runIn_bind, runIn_resolve, hr]
        rfl
      · rw [HasPath, hgiven]
        exact fun v' hv' => Option.some.inj hv' ▸ ⟨p, hnames⟩

theorem exists_patternOf {v : Value} {r : Except MisuseFault Text} (h : patternOf v = some r)
    (hshort : ∀ n, v = .int n → (Text.ofNat n.natAbs).length ≤ Json.digitLimit) :
    ∃ t, r = .ok t := by
  cases v with
  | int n =>
    rw [patternOf, if_neg (Nat.not_lt.2 (hshort n rfl))] at h
    exact ⟨_, (Option.some.inj h).symm⟩
  | text t => exact ⟨_, (Option.some.inj h).symm⟩
  | bool b => exact ⟨_, (Option.some.inj h).symm⟩
  | float x => exact ⟨_, (Option.some.inj h).symm⟩
  | _ => cases h

theorem exists_patternsOf {items : List Value}
    (hshort : ∀ n : Int, .int n ∈ items → (Text.ofNat n.natAbs).length ≤ Json.digitLimit) :
    ∃ ts, patternsOf items = .ok ts := by
  induction items with
  | nil => exact ⟨[], rfl⟩
  | cons v rest ih =>
    obtain ⟨ts, hts⟩ := ih fun n hn => hshort n (.tail v hn)
    cases hv : patternOf v with
    | none => exact ⟨ts, by rw [patternsOf, List.filterMap_cons_none hv]; exact hts⟩
    | some r =>
      obtain ⟨t, rfl⟩ := exists_patternOf hv fun n hn => hshort n (hn ▸ .head rest)
      rw [patternsOf] at hts
      exact ⟨t :: ts, by simp [patternsOf, hv, hts]; rfl⟩

theorem textsOf_other {v : Value} (hnull : v ≠ .null) (htext : ¬ v.IsText)
    (hsequence : ¬ v.IsSequence) : textsOf (some v) = .error (.config (.notTexts v.typeName)) := by
  cases v with
  | null => exact absurd rfl hnull
  | text t => exact absurd ⟨t, rfl⟩ htext
  | list items => exact absurd (.list items) hsequence
  | tuple items => exact absurd (.tuple items) hsequence
  | bytes data growable => exact absurd (.bytes data growable) hsequence
  | sequence type items hashable => exact absurd (.other type items hashable) hsequence
  | _ => rfl

theorem exists_textsOf {v : Value} (hsequence : v.IsSequence)
    (hshort : ∀ n : Int, .int n ∈ v.members → (Text.ofNat n.natAbs).length ≤ Json.digitLimit) :
    ∃ ts, textsOf (some v) = .ok ts := by
  cases hsequence with
  | list items | tuple items | other type items hashable =>
    obtain ⟨ts, hts⟩ : ∃ ts, patternsOf items = .ok ts := exists_patternsOf hshort
    exact ⟨some ts, by rw [textsOf, hts]; rfl⟩
  | bytes data growable => exact ⟨_, rfl⟩

/-- Patterns are read from what is missing, a text or a sequence. -/
theorem checks_textsOf (h : HasShortIntegers entries) (hkey : key ∈ patternKeys) :
    Checks (HasTexts entries key) (fun _ => True) w
      (liftM (textsOf (lookupText entries key)) : Action (Option (List Text))) := by
  rcases given_cases entries key with hmissing | ⟨v, hv, hnull⟩
  · refine Checks.of_ok (a := none) ?_ (by simp [HasTexts, given_eq_none hmissing]) trivial
    rcases hmissing with h | h <;> rw [h] <;> rfl
  · have hgiven := given_eq_some hv hnull
    rw [hv]
    by_cases htext : v.IsText
    · obtain ⟨t, rfl⟩ := htext
      exact Checks.of_ok (a := some [t]) rfl (by simp [HasTexts, hgiven, IsText]) trivial
    by_cases hsequence : v.IsSequence
    · obtain ⟨ts, hts⟩ := exists_textsOf hsequence (h key hkey v hv)
      refine Checks.of_ok (a := ts) (by rw [runIn_lift, hts]) ?_ trivial
      rw [HasTexts, hgiven]
      exact fun v' hv' => .inr (Option.some.inj hv' ▸ hsequence)
    · rw [textsOf_other hnull htext hsequence]
      exact Checks.throw _ fun hall => (hall v hgiven).elim htext hsequence

theorem exists_specOf {v : Value} : (∃ spec, specOf v = .ok spec) ↔ v.AsksPlugin := by
  constructor
  · rintro ⟨spec, h⟩
    cases v with
    | text t => exact .name t
    | mapping entries =>
      rw [specOf] at h
      split at h
      · rename_i name hname
        refine .entries hname fun v hv htruthy => ?_
        rw [hv] at h
        cases v with
        | mapping option => exact ⟨option, rfl⟩
        | _ => simp [htruthy] at h
      · cases h
    | _ => cases h
  · rintro (⟨t⟩ | ⟨hname, hoption⟩)
    · exact ⟨_, rfl⟩
    · rw [specOf, hname]
      simp only
      split
      · exact ⟨_, rfl⟩
      · exact ⟨_, rfl⟩
      · rename_i v hne hv
        split_ifs with htruthy
        · obtain ⟨option, rfl⟩ := hoption v hv htruthy
          exact absurd rfl (hne option)
        · exact ⟨_, rfl⟩

theorem exists_mapM_specOf {items : List Value} :
    (∃ specs, items.mapM specOf = .ok specs) ↔ ∀ x ∈ items, x.AsksPlugin := by
  induction items with
  | nil => exact iff_of_true ⟨[], rfl⟩ nofun
  | cons v rest ih =>
    rw [List.forall_mem_cons, ← exists_specOf, ← ih, List.mapM_cons]
    constructor
    · rintro ⟨specs, h⟩
      cases hv : specOf v with
      | error f =>
        rw [hv] at h
        cases h
      | ok spec =>
        cases hrest : rest.mapM specOf with
        | error f =>
          rw [hv, hrest] at h
          cases h
        | ok specs => exact ⟨⟨spec, rfl⟩, ⟨specs, rfl⟩⟩
    · rintro ⟨⟨spec, hv⟩, ⟨specs, hrest⟩⟩
      exact ⟨spec :: specs, by rw [hv, hrest]; rfl⟩

theorem specsOf_listed {v : Value} (h : v ≠ .null) :
    specsOf (some v) = v.listed.mapM specOf := by
  cases v with
  | null => exact absurd rfl h
  | _ => rfl

theorem exists_specsOf :
    (∃ specs, specsOf (lookupText entries "plugins") = .ok specs) ↔
      ∀ v, given entries "plugins" = some v → ∀ x ∈ v.listed, x.AsksPlugin := by
  by_cases hmissing :
      lookupText entries "plugins" = none ∨ lookupText entries "plugins" = some .null
  · refine iff_of_true ⟨[], ?_⟩ (by simp [given_eq_none hmissing])
    rcases hmissing with h | h <;> rw [h] <;> rfl
  · rw [not_or] at hmissing
    obtain ⟨v, hv⟩ := Option.ne_none_iff_exists'.1 hmissing.1
    have hnull : v ≠ .null := fun h => hmissing.2 (by rw [hv, h])
    rw [hv, specsOf_listed hnull, exists_mapM_specOf, given_eq_some hv hnull]
    exact ⟨fun h v' hv' => Option.some.inj hv' ▸ h, fun h => h v rfl⟩

/-! ## The rules that every run depends on -/

theorem fault?_eq_none {s : Settings} :
    s.fault? = none ↔ (s.root.isSome = !s.source.isSome) ∧
      (s.package.isSome → s.source.isSome) ∧ s.destination.isSome := by
  rw [fault?]
  cases s.root <;> cases s.source <;> cases s.package <;> cases s.destination <;> simp

theorem validate_eq_ok {s : Settings} : s.validate = .ok () ↔ s.fault? = none := by
  rw [validate]
  cases s.fault? <;> simp

theorem checks_validate (s : Settings) :
    Checks (s.validate = .ok ()) (fun _ => s.validate = .ok ()) w
      (liftM s.validate : Action Unit) := by
  cases h : s.fault? with
  | none =>
    have hok := validate_eq_ok.2 h
    exact Checks.of_ok (by rw [runIn_lift, hok]) hok hok
  | some f =>
    have herror : s.validate = .error (.config f) := by rw [validate, h]
    rw [herror]
    exact Checks.throw f nofun

/-! ## Data as a whole -/

/-- What is demanded of the data, in the order in which it is checked. -/
theorem accepted_iff : Accepted entries ↔
    (∃ u, checkRetired entries = .ok u) ∧ HasPath entries "destination" ∧ HasPath entries "root" ∧
      HasPath entries "source" ∧ HasPath entries "package" ∧ HasTexts entries "includes" ∧
      HasTexts entries "excludes" ∧ HasPath entries "index" ∧
      (∃ specs, specsOf (lookupText entries "plugins") = .ok specs) ∧
      ((given entries "root").isSome = !(given entries "source").isSome) ∧
      ((given entries "package").isSome → (given entries "source").isSome) ∧
      (given entries "destination").isSome := by
  rw [exists_checkRetired, exists_specsOf]
  constructor
  · rintro ⟨hcurrent, hpaths, hpatterns, hplugins, hinput, hpackage, hdestination⟩
    simp only [pathKeys, patternKeys, List.forall_mem_cons] at hpaths hpatterns
    exact ⟨hcurrent, hpaths.1, hpaths.2.1, hpaths.2.2.1, hpaths.2.2.2.1, hpatterns.1,
      hpatterns.2.1, hpaths.2.2.2.2.1, hplugins, hinput, hpackage, hdestination⟩
  · rintro ⟨hcurrent, hd, hr, hs, hp, hi, he, hx, hplugins, hinput, hpackage, hdestination⟩
    refine ⟨hcurrent, ?_, ?_, hplugins, hinput, hpackage, hdestination⟩
    · simp [pathKeys, hd, hr, hs, hp, hx]
    · simp [patternKeys, hi, he]

/-- Data that settings are made from is accepted, and all other data refused. -/
theorem checks_ofValue (h : Resolves w base here entries) (hshort : HasShortIntegers entries) :
    Checks (Accepted entries) (fun s => s.validate = .ok () ∧ s.AreAbsolute) w
      (ofValue (.mapping entries) base) := by
  have hhere := isAbsolute_of_resolve h.base
  have hbase : (Files.resolve (base.getD {})).runIn w = (.ok here, w) := by
    rw [runIn_resolve, h.base]
    rfl
  rw [ofValue]
  refine Checks.congr ?_ accepted_iff.symm
  refine (checks_settle _).bind fun _ _ => Checks.after hbase ?_
  refine (checks_pathOf h (by simp [pathKeys])).bind fun destination hdestination => ?_
  refine (checks_pathOf h (by simp [pathKeys])).bind fun root hroot => ?_
  refine (checks_pathOf h (by simp [pathKeys])).bind fun source hsource => ?_
  refine (checks_pathOf h (by simp [pathKeys])).bind fun package hpackage => ?_
  refine (checks_textsOf hshort (by simp [patternKeys])).bind fun includes _ => ?_
  refine (checks_textsOf hshort (by simp [patternKeys])).bind fun excludes _ => ?_
  refine (checks_pathOf h (by simp [pathKeys])).bind fun index hindex => ?_
  refine (checks_settle _).bind fun plugins _ => ?_
  rw [← hdestination.1, ← hroot.1, ← hsource.1, ← hpackage.1]
  refine Checks.congr ((checks_validate _).bind fun _ hvalid =>
    Checks.pure _ trivial ⟨hvalid, hhere, ?_⟩) ?_
  · intro p hp
    simp only [List.mem_cons, List.not_mem_nil, or_false] at hp
    rcases hp with hp | hp | hp | hp | hp
    · exact hdestination.2 p hp.symm
    · exact hroot.2 p hp.symm
    · exact hsource.2 p hp.symm
    · exact hpackage.2 p hp.symm
    · exact hindex.2 p hp.symm
  · rw [and_true, validate_eq_ok, fault?_eq_none]

/-! ## Defaults -/

/-- Nothing that has a default is left open. -/
structure IsComplete (s : Settings) : Prop where
  package : s.source.isSome → s.package.isSome
  includes : s.includes.isSome
  excludes : s.excludes.isSome
  index : s.index.isSome

/-- A path that is given stays, and another one is found in the base directory. -/
theorem exists_orBeside (s : Settings) (p : Option Path) {name : String}
    (h : ∃ q, w.resolve (s.baseDirectory.child (Text.ofString name)) = .ok q) :
    ∃ q, (s.orBeside p name).runIn w = (.ok q, w) ∧ (p.isSome → p = some q) := by
  cases p with
  | some p => exact ⟨p, rfl, fun _ => rfl⟩
  | none =>
    obtain ⟨q, hq⟩ := h
    refine ⟨q, ?_, nofun⟩
    rw [orBeside, runIn_resolve, hq]
    rfl

/-- Settings with an index, a package and patterns where there were none. -/
def filledWith (s : Settings) (index : Path) (package : Option Path) : Settings :=
  { s with
    includes := some (s.includes.getD defaultIncludes)
    excludes := some (s.excludes.getD defaultExcludes)
    index := some index
    package := package }

theorem completes_filledWith {s : Settings} {index : Path} {package : Option Path}
    (hindex : s.index.isSome → s.index = some index)
    (hpackage : s.package.isSome ∨ s.source = none → package = s.package) :
    Completes s (s.filledWith index package) where
  destination := rfl
  root := rfl
  source := rfl
  package := hpackage
  includes := fun h => by
    obtain ⟨ts, hts⟩ := Option.isSome_iff_exists.1 h
    rw [filledWith, hts]
    rfl
  excludes := fun h => by
    obtain ⟨ts, hts⟩ := Option.isSome_iff_exists.1 h
    rw [filledWith, hts]
    rfl
  index := fun h => (hindex h).symm
  plugins := rfl
  baseDirectory := rfl

theorem withDefaults_of_isComplete {s : Settings} (h : s.IsComplete) (w : World) :
    s.withDefaults.runIn w = (.ok s, w) := by
  obtain ⟨destination, root, source, package, includes, excludes, index, plugins, here⟩ := s
  obtain ⟨hpackage, hincludes, hexcludes, hindex⟩ := h
  obtain ⟨includes, rfl⟩ := Option.isSome_iff_exists.1 hincludes
  obtain ⟨excludes, rfl⟩ := Option.isSome_iff_exists.1 hexcludes
  obtain ⟨index, rfl⟩ := Option.isSome_iff_exists.1 hindex
  cases source with
  | none => rfl
  | some source =>
    obtain ⟨package, rfl⟩ := Option.isSome_iff_exists.1 (hpackage rfl)
    rfl

/-- If the default files can be resolved, nothing is changed but what was left open, and nothing is
left open any more. -/
theorem exists_withDefaults {s : Settings}
    (h : ∀ name ∈ ["README.md", "package.json"],
      ∃ q, w.resolve (s.baseDirectory.child (Text.ofString name)) = .ok q) :
    ∃ d, s.withDefaults.runIn w = (.ok d, w) ∧ Completes s d ∧ d.IsComplete := by
  obtain ⟨index, hindex, hkept⟩ := s.exists_orBeside s.index (h "README.md" (by simp))
  cases hsource : s.source with
  | none =>
    refine ⟨s.filledWith index s.package, ?_, completes_filledWith hkept fun _ => rfl,
      ⟨fun h => ?_, rfl, rfl, rfl⟩⟩
    · rw [withDefaults, runIn_bind_ok hindex, filledWith, hsource]
      rfl
    · have hnone : (s.filledWith index s.package).source = none := hsource
      rw [hnone] at h
      cases h
  | some source =>
    obtain ⟨package, hpackage, hkept'⟩ :=
      s.exists_orBeside s.package (h "package.json" (by simp))
    refine ⟨s.filledWith index (some package), ?_, completes_filledWith hkept ?_,
      ⟨fun _ => rfl, rfl, rfl, rfl⟩⟩
    · rw [withDefaults, runIn_bind_ok hindex, filledWith, hsource]
      simp only
      rw [runIn_bind_ok hpackage]
      rfl
    · rintro (hgiven | hnone)
      · exact (hkept' hgiven).symm
      · rw [hsource] at hnone
        cases hnone

/-- Filling in defaults breaks no rule. -/
theorem validate_of_completes {s d : Settings} (h : Completes s d) (hs : s.validate = .ok ()) :
    d.validate = .ok () := by
  rw [validate_eq_ok, fault?_eq_none] at hs ⊢
  rw [h.root, h.source, h.destination]
  refine ⟨hs.1, fun hpackage => ?_, hs.2.2⟩
  by_cases hkept : s.package.isSome ∨ s.source = none
  · exact hs.2.1 (h.package hkept ▸ hpackage)
  · rw [not_or] at hkept
    exact Option.ne_none_iff_isSome.1 hkept.2

/-! ## The whole statement -/

/-- Data gives settings if and only if it is an accepted mapping, and is refused as a configuration
fault otherwise, as long as its paths can be resolved.  The settings are valid and have only
absolute paths; filling in defaults keeps them valid, changes nothing but what was left open, and
does nothing when it is done again. -/
theorem ofValue_exact (data : Value) (base : Option Path) (w : World) (here : Path)
    (h : ∀ entries, data = .mapping entries →
      Resolves w base here entries ∧ HasShortIntegers entries) :
    ((∃ s, (ofValue data base).runIn w = (.ok s, w)) ↔
      ∃ entries, data = .mapping entries ∧ Accepted entries) ∧
    ((¬ ∃ entries, data = .mapping entries ∧ Accepted entries) →
      ∃ f, (ofValue data base).runIn w = (.error (.config f), w)) ∧
    ∀ s, ((ofValue data base).runIn w).1 = .ok s →
      s.validate = .ok () ∧ s.AreAbsolute ∧
      ∀ v : World, (∀ name ∈ ["README.md", "package.json"],
          ∃ q, v.resolve (s.baseDirectory.child (Text.ofString name)) = .ok q) →
        ∃ d, s.withDefaults.runIn v = (.ok d, v) ∧ d.validate = .ok () ∧ Completes s d ∧
          ∀ u, d.withDefaults.runIn u = (.ok d, u) := by
  have hchecks : Checks (∃ entries, data = .mapping entries ∧ Accepted entries)
      (fun s => s.validate = .ok () ∧ s.AreAbsolute) w (ofValue data base) := by
    cases data with
    | mapping entries =>
      obtain ⟨hresolves, hshort⟩ := h entries rfl
      refine (checks_ofValue hresolves hshort).congr
        ⟨fun h => ⟨entries, rfl, h⟩, fun ⟨_, heq, h⟩ => ?_⟩
      cases heq
      exact h
    | _ => exact Checks.throw _ fun ⟨_, heq, _⟩ => by cases heq
  refine ⟨⟨fun ⟨s, hs⟩ => ?_, fun hP => ?_⟩, hchecks.refuses, fun s hs => ?_⟩
  · exact (hchecks.of_runIn (by rw [hs])).1
  · obtain ⟨s, hs, -⟩ := hchecks.passes hP
    exact ⟨s, hs⟩
  · obtain ⟨-, hvalid, habsolute⟩ := hchecks.of_runIn hs
    refine ⟨hvalid, habsolute, fun v hv => ?_⟩
    obtain ⟨d, hd, hcompletes, hcomplete⟩ := exists_withDefaults hv
    exact ⟨d, hd, validate_of_completes hcompletes hvalid, hcompletes,
      withDefaults_of_isComplete hcomplete⟩

/-- Data with a source tree, a destination that is a path, a number among the patterns and a
plugin. -/
def sampleData : List (Value × Value) :=
  [(.ofString "destination", .path ⟨0, ["out"]⟩), (.ofString "source", .ofString "r/p"),
   (.ofString "includes", .list [.int 7, .null]), (.ofString "plugins", .ofString "m")]

/-- The settings in it. -/
def sampleSettings : Settings where
  destination := some ⟨1, ["out"]⟩
  source := some ⟨1, ["r", "p"]⟩
  includes := some ["7"]
  plugins := [{ name := "m" }]
  baseDirectory := ⟨1, []⟩

theorem resolves_sampleData :
    Resolves Run.Sample.world none ⟨1, []⟩ sampleData ∧ HasShortIntegers sampleData := by
  refine ⟨⟨by rfl, fun key hkey v p hv hnames => ?_⟩, fun key hkey v hv n hn => ?_⟩
  · simp only [pathKeys, List.mem_cons, List.not_mem_nil, or_false] at hkey
    rcases hkey with rfl | rfl | rfl | rfl | rfl <;> cases hv <;> cases hnames
    · exact ⟨⟨0, ["out"]⟩, ⟨1, ["out"]⟩, by rfl, by rfl⟩
    · exact ⟨⟨0, ["r", "p"]⟩, ⟨1, ["r", "p"]⟩, by rfl, by rfl⟩
  · simp only [patternKeys, List.mem_cons, List.not_mem_nil, or_false] at hkey
    rcases hkey with rfl | rfl <;> cases hv
    simp only [members, List.mem_cons, List.not_mem_nil, or_false, reduceCtorEq, Value.int.injEq]
      at hn
    subst hn
    decide +kernel

/-- The data is accepted, its settings are valid with and without defaults, and what is no mapping
is refused. -/
theorem ofValue_exact_sample :
    Accepted sampleData ∧ sampleSettings.validate = .ok () ∧ sampleSettings.AreAbsolute ∧
    (∃ d, sampleSettings.withDefaults.runIn Run.Sample.world = (.ok d, Run.Sample.world) ∧
      d.validate = .ok () ∧ Completes sampleSettings d) ∧
    ∃ f, (ofValue .null none).runIn Run.Sample.world = (.error (.config f), Run.Sample.world) := by
  have hrun : (ofValue (.mapping sampleData) none).runIn Run.Sample.world =
      (.ok sampleSettings, Run.Sample.world) := by rfl
  obtain ⟨hiff, -, hreturned⟩ :=
    ofValue_exact (.mapping sampleData) none Run.Sample.world ⟨1, []⟩ fun entries heq => by
      cases heq
      exact resolves_sampleData
  obtain ⟨-, hrefused, -⟩ := ofValue_exact .null none Run.Sample.world ⟨1, []⟩ nofun
  obtain ⟨entries, heq, haccepted⟩ := hiff.1 ⟨_, hrun⟩
  cases heq
  obtain ⟨hvalid, habsolute, hdefaults⟩ := hreturned _ (by rw [hrun])
  have hfiles : ∀ name ∈ ["README.md", "package.json"], ∃ q,
      Run.Sample.world.resolve (sampleSettings.baseDirectory.child (Text.ofString name)) =
        .ok q := by
    rw [List.forall_mem_cons, List.forall_mem_singleton]
    exact ⟨⟨⟨1, ["README.md"]⟩, by rfl⟩, ⟨⟨1, ["package.json"]⟩, by rfl⟩⟩
  obtain ⟨d, hd, hdvalid, hcompletes, -⟩ := hdefaults Run.Sample.world hfiles
  exact ⟨haccepted, hvalid, habsolute, ⟨d, hd, hdvalid, hcompletes⟩,
    hrefused fun ⟨_, heq, _⟩ => by cases heq⟩

/-- Data whose paths are no texts. -/
def pathData : List (Value × Value) :=
  [(.ofString "destination", .path ⟨0, ["out"]⟩), (.ofString "root", .path ⟨0, ["r"]⟩)]

/-- The settings in it. -/
def pathSettings : Settings where
  destination := some ⟨1, ["out"]⟩
  root := some ⟨1, ["r"]⟩
  baseDirectory := ⟨1, []⟩

/-- A tree in which the index document is a link to itself. -/
def entangled : World where
  tree := .directory [("README.md", .link "README.md")]
  current := []
  home := ⟨1, []⟩

/-- A path need not be a text, and settings need not have defaults. -/
theorem ofValue_pathData :
    (∀ key ∈ ["destination", "root"], ∃ v, given pathData key = some v ∧ ¬ v.IsText) ∧
    (ofValue (.mapping pathData) none).runIn entangled = (.ok pathSettings, entangled) ∧
    pathSettings.withDefaults.runIn entangled =
      (.error (.raised (.file .unresolvable)), entangled) := by
  refine ⟨?_, by rfl, by rfl⟩
  rw [List.forall_mem_cons, List.forall_mem_singleton]
  exact ⟨⟨.path ⟨0, ["out"]⟩, by rfl, by rintro ⟨t, heq⟩; cases heq⟩,
    ⟨.path ⟨0, ["r"]⟩, by rfl, by rintro ⟨t, heq⟩; cases heq⟩⟩

end Settings

end SourceDocs

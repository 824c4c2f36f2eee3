import Mathlib.Data.List.Forall2
import SourceDocs.Proofs.Extraction.Scope

/-!
# What records are made of

A record is made of a kind, a name, a long name and what else is known about a node.  For each of
these there is a relation here that says by rules what it has to be: who may use a name
(`IsAccess`), the kind of a method (`IsMethodKind`), the names of decorators and parameters
(`IsDecorators`, `IsParameters`), what is told about classes, functions and assignments
(`ClassTells`, `FunctionTells`, `AssignmentTells`), and the targets that are unpacked from tuples,
lists and stars (`unpacked`).  The theorems say that the extraction computes exactly that.
-/

namespace SourceDocs

theorem Text.contains_iff {t part : Text} : contains t part = true ↔ part <:+: t := by
  induction t with
  | nil =>
    rw [contains, List.infix_nil]
    simp
  | cons c rest ih =>
    rw [contains, Bool.or_eq_true, List.isPrefixOf_iff_prefix, ih, List.infix_cons_iff]

namespace Extraction

open Source SourceDocs.Tree

/-! ## Results one after another -/

theorem mapM_eq_ok {α β : Type} {f : α → Except Fault β} {xs : List α} {ys : List β} :
    xs.mapM f = .ok ys ↔ List.Forall₂ (fun x y => f x = .ok y) xs ys := by
  induction xs generalizing ys with
  | nil =>
    rw [List.mapM_nil, List.forall₂_nil_left_iff]
    exact ⟨fun h => (Except.ok.inj h).symm, fun h => h ▸ rfl⟩
  | cons x rest ih =>
    rw [List.mapM_cons, bind_eq_ok, List.forall₂_cons_left_iff]
    constructor
    · rintro ⟨y, hy, h⟩
      obtain ⟨ys', hys, h⟩ := bind_eq_ok.1 h
      exact ⟨y, ys', hy, ih.1 hys, (Except.ok.inj h).symm⟩
    · rintro ⟨y, ys', hy, hys, rfl⟩
      exact ⟨y, hy, bind_eq_ok.2 ⟨ys', ih.2 hys, rfl⟩⟩

/-! ## Records -/

/-- Who may use a name, by the underscores around it. -/
inductive IsAccess (name : Text) : Text → Prop where
  | special : Text.ofString "__" <+: name → Text.ofString "__" <:+ name →
      IsAccess name (Text.ofString "public")
  | hidden : Text.ofString "__" <+: name → ¬Text.ofString "__" <:+ name →
      IsAccess name (Text.ofString "private")
  | internal : Text.ofString "_" <+: name → ¬Text.ofString "__" <+: name →
      IsAccess name (Text.ofString "protected")
  | plain : ¬Text.ofString "_" <+: name → IsAccess name (Text.ofString "public")

theorem isAccess_iff {name t : Text} : IsAccess name t ↔ accessOf name = t := by
  have hmark : Text.ofChar '_' = Text.ofString "_" := by simp [Text.ofChar, Text.ofString]
  have hone : Text.ofString "_" <+: Text.ofString "__" :=
    ⟨Text.ofString "_", by simp [Text.ofString]⟩
  constructor
  · intro h
    unfold accessOf
    cases h with
    | special hbegins hends => simp [hbegins, hends]
    | hidden hbegins hends => simp [hbegins, hends]
    | internal hbegins hother => simp [hbegins, hother, hmark]
    | plain hplain =>
      have htwo : ¬Text.ofString "__" <+: name := fun h => hplain (hone.trans h)
      simp [htwo, hplain, hmark]
  · rintro rfl
    unfold accessOf
    by_cases htwo : Text.ofString "__" <+: name
    · by_cases hends : Text.ofString "__" <:+ name
      · simpa [htwo, hends] using IsAccess.special htwo hends
      · simpa [htwo, hends] using IsAccess.hidden htwo hends
    · by_cases hbegins : Text.ofString "_" <+: name
      · simpa [htwo, hbegins, hmark] using IsAccess.internal hbegins htwo
      · simpa [htwo, hbegins, hmark] using IsAccess.plain hbegins

/-- A record has this kind, name and long name, and tells this. -/
structure IsRecord (d : Draft) (kind : String) (name longname : Text) (static : Bool)
    (told : List (String × Value)) : Prop where
  kind : d.kind = Text.ofString kind
  name : d.name = name
  longname : d.longname = longname
  static : d.static = static
  access : IsAccess d.name d.access
  payload : d.payload = told.map fun e => (Text.ofString e.1, e.2)

theorem isRecord_iff {d : Draft} {kind : String} {name longname : Text} {static : Bool}
    {told : List (String × Value)} :
    IsRecord d kind name longname static told ↔ draft kind name longname static told = d := by
  constructor
  · rintro ⟨hkind, hname, hlongname, hstatic, haccess, hpayload⟩
    obtain ⟨_, _, _, _, _, _⟩ := d
    rw [draft, ← hname, isAccess_iff.1 haccess, ← hkind, ← hlongname, ← hstatic, ← hpayload]
  · rintro rfl
    exact ⟨rfl, rfl, rfl, rfl, isAccess_iff.2 rfl, rfl⟩

/-- Under what name the symbols of a file are imported: that of its package alone if the file is the
main one of the package. -/
inductive IsImportPath (o : Origin) : Text → Prop where
  | alone : o.packageName.getD [] = [] → IsImportPath o o.relativePath
  | main {package : Text} : o.packageName = some package → package ≠ [] →
      o.mainPath = some o.path → IsImportPath o package
  | inside {package : Text} : o.packageName = some package → package ≠ [] →
      o.mainPath ≠ some o.path →
      IsImportPath o (package ++ Text.ofString "/" ++ o.relativePath)

theorem isImportPath_iff {o : Origin} {t : Text} : IsImportPath o t ↔ importPath o = t := by
  have hslash : Text.ofChar '/' = Text.ofString "/" := by simp [Text.ofChar, Text.ofString]
  rw [importPath, hslash]
  constructor
  · intro h
    cases h with
    | alone hnone =>
      cases hpackage : o.packageName with
      | none => rfl
      | some package =>
        obtain rfl : package = [] := by simpa [hpackage] using hnone
        rfl
    | main hpackage hne hmain => simp [hpackage, hne, hmain]
    | inside hpackage hne hmain => simp [hpackage, hne, hmain]
  · rintro rfl
    cases hpackage : o.packageName with
    | none => exact .alone (by rw [hpackage]; rfl)
    | some package =>
      by_cases hempty : package = []
      · subst hempty
        exact .alone (by rw [hpackage]; rfl)
      · by_cases hmain : o.mainPath = some o.path
        · simpa [hempty, hmain] using IsImportPath.main hpackage hempty hmain
        · simpa [hempty, hmain] using IsImportPath.inside hpackage hempty hmain

/-! ## Kinds of methods -/

/-- A decorator makes a method the setter of an attribute. -/
def IsSetter (decorator : Text) : Prop := Text.ofString ".setter" <:+ decorator

/-- A decorator makes a method an attribute that can be read. -/
def IsGetter (decorator : Text) : Prop :=
  decorator = Text.ofString "property" ∨ decorator = Text.ofString "cached_property" ∨
    decorator = Text.ofString "functools.cached_property" ∨
    decorator = Text.ofString "abc.abstractproperty" ∨
    decorator = Text.ofString "abstractproperty"

/-- The kind of a method, by the first rule that applies. -/
inductive IsMethodKind (name : Text) (decorators : List Text) : String → Prop where
  | setter : (∃ d ∈ decorators, IsSetter d) → IsMethodKind name decorators "setter"
  | getter : (¬∃ d ∈ decorators, IsSetter d) → (∃ d ∈ decorators, IsGetter d) →
      IsMethodKind name decorators "getter"
  | constructor : (¬∃ d ∈ decorators, IsSetter d) → (¬∃ d ∈ decorators, IsGetter d) →
      name = Text.ofString "__init__" → IsMethodKind name decorators "constructor"
  | method : (¬∃ d ∈ decorators, IsSetter d) → (¬∃ d ∈ decorators, IsGetter d) →
      name ≠ Text.ofString "__init__" → IsMethodKind name decorators "method"

theorem any_isSetter {decorators : List Text} :
    (decorators.any fun d => (Text.ofString ".setter").isSuffixOf d) = true ↔
      ∃ d ∈ decorators, IsSetter d := by
  simp [IsSetter]

theorem any_isGetter {decorators : List Text} :
    (decorators.any fun d => getterDecorators.any d.isString) = true ↔
      ∃ d ∈ decorators, IsGetter d := by
  simp [IsGetter, getterDecorators, Text.isString]

theorem isMethodKind_iff {name : Text} {decorators : List Text} {kind : String} :
    IsMethodKind name decorators kind ↔ methodKind name decorators = kind := by
  have hinit : name.isString "__init__" = true ↔ name = Text.ofString "__init__" := by
    simp [Text.isString]
  rw [methodKind]
  constructor
  · intro h
    cases h with
    | setter hset => rw [if_pos (any_isSetter.2 hset)]
    | getter hset hget => rw [if_neg (mt any_isSetter.1 hset), if_pos (any_isGetter.2 hget)]
    | constructor hset hget hname =>
      rw [if_neg (mt any_isSetter.1 hset), if_neg (mt any_isGetter.1 hget), if_pos (hinit.2 hname)]
    | method hset hget hname =>
      rw [if_neg (mt any_isSetter.1 hset), if_neg (mt any_isGetter.1 hget),
        if_neg (mt hinit.1 hname)]
  · rintro rfl
    split_ifs with hset hget hname
    · exact .setter (any_isSetter.1 hset)
    · exact .getter (mt any_isSetter.2 hset) (any_isGetter.1 hget)
    · exact .constructor (mt any_isSetter.2 hset) (mt any_isGetter.2 hget) (hinit.1 hname)
    · exact .method (mt any_isSetter.2 hset) (mt any_isGetter.2 hget) (mt hinit.2 hname)

/-! ## Targets -/

/-- What a target is unpacked into at once: the elements of a tuple or a list, and what is
starred. -/
def parts : Value → List Value
  | .list items => items
  | .node .tuple fields _ => (fields.lookup "elts").toList
  | .node .list fields _ => (fields.lookup "elts").toList
  | .node .starred fields _ => (fields.lookup "value").toList
  | _ => []

theorem sizeFields_lookup {fields : List (String × Value)} {name : String} {v : Value}
    (h : v ∈ (fields.lookup name).toList) : size v ≤ sizeFields fields := by
  induction fields with
  | nil => simp at h
  | cons f rest ih =>
    rw [List.lookup_cons] at h
    rw [sizeFields]
    split at h
    · obtain rfl : v = f.2 := by simpa using h
      omega
    · have hrest := ih h
      omega

theorem size_lt_of_mem_parts {v c : Value} (h : c ∈ parts v) : size c < size v := by
  unfold parts at h
  split at h
  case h_1 items =>
    have hle := List.single_le_sum (fun x _ => Nat.zero_le x) (size c)
      (List.mem_map_of_mem (f := size) h)
    have hsum : (items.map size).sum = sizeItems items := by
      clear h hle
      induction items with
      | nil => rfl
      | cons v rest ih => rw [List.map_cons, List.sum_cons, sizeItems, ih]
    rw [size]
    omega
  case h_5 => exact absurd h List.not_mem_nil
  all_goals
    have hle := sizeFields_lookup h
    rw [size]
    omega

/-- A target and all that it is unpacked into, from left to right. -/
def unpacked (v : Value) : List Value := v :: (parts v).attach.flatMap fun c => unpacked c.1
termination_by size v
decreasing_by exact size_lt_of_mem_parts c.2

theorem unpacked_eq (v : Value) : unpacked v = v :: (parts v).flatMap unpacked := by
  rw [unpacked]
  simp [List.flatMap_subtype]

/-- Whether a target is there only to be unpacked. -/
def isPacked (v : Value) : Bool :=
  match v with
  | .list _ => true
  | v => v.isKind .tuple || v.isKind .list || v.isKind .starred

theorem flattenItems_eq (vs : List Value) : flattenItems vs = vs.flatMap flatten := by
  induction vs with
  | nil => rw [flattenItems, List.flatMap_nil]
  | cons v rest ih => rw [flattenItems, ih, List.flatMap_cons]

theorem flattenField_eq (name : String) (fields : List (String × Value)) :
    flattenField name fields = (fields.lookup name).toList.flatMap flatten := by
  induction fields with
  | nil => rw [flattenField]; rfl
  | cons f rest ih =>
    obtain ⟨field, v⟩ := f
    rw [flattenField, List.lookup_cons]
    by_cases h : field = name
    · simp [h]
    · have hne : (name == field) = false := by simpa using Ne.symm h
      rw [if_neg h, hne, ih]

/-- What is packed is opened, and what is not stays. -/
theorem flatten_eq (v : Value) :
    flatten v = if isPacked v then (parts v).flatMap flatten else [v] := by
  cases v with
  | list items => rw [flatten, flattenItems_eq]; rfl
  | node kind fields attributes =>
    by_cases htuple : kind = .tuple
    · rw [htuple, flatten, flattenField_eq]
      rfl
    by_cases hlist : kind = .list
    · rw [hlist, flatten, flattenField_eq]
      rfl
    by_cases hstarred : kind = .starred
    · rw [hstarred, flatten, flattenField_eq]
      rfl
    have hnot : isPacked (.node kind fields attributes) = false := by
      simp [isPacked, Value.isKind, Value.kind?, htuple, hlist, hstarred]
    rw [flatten, hnot]
    · rfl
    · exact htuple
    · exact hlist
    · exact hstarred
  | _ =>
    rw [flatten]
    · rfl
    all_goals simp

theorem parts_eq_nil {v : Value} (h : isPacked v = false) : parts v = [] := by
  unfold parts
  split
  all_goals first | rfl | cases h

/-- The single targets are those that are not there to be unpacked. -/
theorem flatten_eq_filter (v : Value) : flatten v = (unpacked v).filter fun u => !isPacked u := by
  induction v using unpacked.induct with
  | case1 v ih =>
    rw [flatten_eq, unpacked_eq]
    by_cases h : isPacked v
    · rw [if_pos h, List.filter_cons_of_neg (by simp [h]), List.filter_flatMap]
      exact List.flatMap_congr fun c hc => ih ⟨c, hc⟩
    · have hnot : isPacked v = false := by simpa using h
      rw [if_neg h, List.filter_cons_of_pos (by simp [hnot]), parts_eq_nil hnot]
      rfl

theorem flattenItems_filter {p : Value → Bool} (hp : ∀ v, p v = true → isPacked v = false)
    (targets : List Value) :
    (flattenItems targets).filter p = (targets.flatMap unpacked).filter p := by
  rw [flattenItems_eq, List.filter_flatMap, List.filter_flatMap]
  refine List.flatMap_congr fun v _ => ?_
  rw [flatten_eq_filter, List.filter_filter]
  refine List.filter_congr fun u _ => ?_
  cases hu : p u with
  | false => rfl
  | true => simp [hp u hu]

/-- The names that targets bind: those of the name expressions among what they are unpacked into. -/
def IsTargetNames (targets : List Value) (names : List Text) : Prop :=
  List.Forall₂ (fun v name => textOf v "id" = .ok name)
    ((targets.flatMap unpacked).filter fun v => v.isKind .nameRef) names

theorem isTargetNames_iff {targets : List Value} {names : List Text} :
    IsTargetNames targets names ↔ targetNames targets = .ok names := by
  have hname : ∀ v : Value, v.isKind .nameRef = true → isPacked v = false := by
    intro v h
    cases v with
    | node kind fields attributes =>
      obtain rfl : kind = .nameRef := by simpa [Value.isKind, Value.kind?] using h
      rfl
    | _ => cases h
  rw [targetNames, mapM_eq_ok, flattenItems_filter hname]
  rfl

/-- Whether a target is an attribute of what has this name. -/
def isAttributeOf (receiver : Text) (v : Value) : Bool :=
  v.isKind .attributeRef && (v.field? "value").any fun base =>
    base.isKind .nameRef && (base.field? "id").any fun
      | .text t => t = receiver
      | _ => false

/-- The attributes that targets bind on a receiver. -/
def IsReceiverAttributes (receiver : Text) (targets : List Value) (names : List Text) : Prop :=
  List.Forall₂ (fun v name => textOf v "attr" = .ok name)
    ((targets.flatMap unpacked).filter (isAttributeOf receiver)) names

theorem isReceiverAttributes_iff {receiver : Text} {targets : List Value} {names : List Text} :
    IsReceiverAttributes receiver targets names ↔
      receiverAttributes receiver targets = .ok names := by
  have hattribute : ∀ v, isAttributeOf receiver v = true → isPacked v = false := by
    intro v h
    cases v with
    | node kind fields attributes =>
      have hkind := (Bool.and_eq_true_iff.1 h).1
      obtain rfl : kind = .attributeRef := by simpa [Value.isKind, Value.kind?] using hkind
      rfl
    | _ => cases h
  have hcode : receiverAttributes receiver targets =
      ((flattenItems targets).filter (isAttributeOf receiver)).mapM fun v => textOf v "attr" := by
    refine congrArg (List.mapM fun v => textOf v "attr") (List.filter_congr fun v _ => ?_)
    rw [isAttributeOf, fieldOf]
    congr 1
    rcases v.field? "value" with _ | base
    · rfl
    · rw [Option.any_some, Option.getD_some]
      dsimp only
      congr 1
      rcases base.field? "id" with _ | name
      · rfl
      · cases name <;> rfl
  rw [hcode, mapM_eq_ok, flattenItems_filter hattribute]
  rfl

/-! ## Decorators and parameters -/

/-- The name of a decorator; of a call, that of what is called. -/
inductive IsDecorator (d : Value) (name : Text) : Prop where
  | plain : d.kind? ≠ some .call → sourceOf d = .ok name → IsDecorator d name
  | call : d.kind? = some .call → sourceOf (fieldOf d "func") = .ok name → IsDecorator d name

/-- The names of the decorators of a node. -/
def IsDecorators (node : Value) (names : List Text) : Prop :=
  ∃ decorators, demandItems node "decorator_list" = .ok decorators ∧
    List.Forall₂ IsDecorator decorators names

theorem isDecorators_iff {node : Value} {names : List Text} :
    IsDecorators node names ↔ decoratorNames node = .ok names := by
  have hone : (fun d name => sourceOf (if d.isKind .call then fieldOf d "func" else d) = .ok name) =
      IsDecorator := by
    funext d name
    refine propext ⟨fun h => ?_, fun h => ?_⟩
    · split_ifs at h with hcall
      · exact .call (by simpa [Value.isKind] using hcall) h
      · exact .plain (by simpa [Value.isKind] using hcall) h
    · cases h with
      | plain hplain h => simpa [Value.isKind, hplain] using h
      | call hcall h => simpa [Value.isKind, hcall] using h
  rw [decoratorNames, bind_eq_ok, IsDecorators, ← hone]
  simp only [mapM_eq_ok]

/-- The name of a parameter that collects what is left over, if there is one. -/
inductive IsCollecting (stars : String) (parameter : Value) : List Text → Prop where
  | none : parameter.isTruthy = false → IsCollecting stars parameter []
  | one {name : Text} : parameter.isTruthy = true → textOf parameter "arg" = .ok name →
      IsCollecting stars parameter [Text.ofString stars ++ name]

/-- The names of parameters: those given by position, what collects more of them, those given by
name, and what collects more of these. -/
inductive IsParameters (args : Value) : List Text → Prop where
  | intro {positionalOnly regular namedOnly : List Value}
      {positional collecting named collectingNamed : List Text} :
      demandItems args "posonlyargs" = .ok positionalOnly →
      demandItems args "args" = .ok regular →
      demandItems args "kwonlyargs" = .ok namedOnly →
      List.Forall₂ (fun p name => textOf p "arg" = .ok name) (positionalOnly ++ regular)
        positional →
      IsCollecting "*" (fieldOf args "vararg") collecting →
      List.Forall₂ (fun p name => textOf p "arg" = .ok name) namedOnly named →
      IsCollecting "**" (fieldOf args "kwarg") collectingNamed →
      IsParameters args (positional ++ collecting ++ named ++ collectingNamed)

theorem isParameters_iff {args : Value} {names : List Text} :
    IsParameters args names ↔ parameterNames args = .ok names := by
  have hcollecting (stars : String) (p : Value) (names : List Text) :
      IsCollecting stars p names ↔ (if p.isTruthy then do
        return [Text.ofString stars ++ (← parameterName p)] else pure [] :
          Except Fault (List Text)) = .ok names := by
    constructor
    · intro h
      cases h with
      | none hnone => rw [hnone]; rfl
      | one hsome hname => rw [hsome, parameterName, hname]; rfl
    · intro h
      split_ifs at h with hsome
      · obtain ⟨name, hname, h⟩ := exists_of_bind h
        cases h
        exact .one hsome hname
      · cases h
        exact .none (by simpa using hsome)
  rw [parameterNames]
  constructor
  · rintro ⟨honly, hregular, hnamedOnly, hpositional, hcollects, hnamed, hcollectsNamed⟩
    refine bind_eq_ok.2 ⟨_, bind_eq_ok.2 ⟨_, honly, bind_eq_ok.2 ⟨_, hregular, rfl⟩⟩, ?_⟩
    refine bind_eq_ok.2 ⟨_, mapM_eq_ok.2 hpositional, ?_⟩
    refine bind_eq_ok.2 ⟨_, (hcollecting _ _ _).1 hcollects, ?_⟩
    refine bind_eq_ok.2 ⟨_, hnamedOnly, bind_eq_ok.2 ⟨_, mapM_eq_ok.2 hnamed, ?_⟩⟩
    exact bind_eq_ok.2 ⟨_, (hcollecting _ _ _).1 hcollectsNamed, rfl⟩
  · intro h
    obtain ⟨_, hall, h⟩ := exists_of_bind h
    obtain ⟨_, honly, hall⟩ := exists_of_bind hall
    obtain ⟨_, hregular, hall⟩ := exists_of_bind hall
    cases hall
    obtain ⟨_, hpositional, h⟩ := exists_of_bind h
    obtain ⟨_, hcollects, h⟩ := exists_of_bind h
    obtain ⟨_, hnamedOnly, h⟩ := exists_of_bind h
    obtain ⟨_, hnamed, h⟩ := exists_of_bind h
    obtain ⟨_, hcollectsNamed, h⟩ := exists_of_bind h
    cases h
    exact .intro honly hregular hnamedOnly (mapM_eq_ok.1 hpositional)
      ((hcollecting _ _ _).2 hcollects) (mapM_eq_ok.1 hnamed) ((hcollecting _ _ _).2 hcollectsNamed)

/-- The first parameter of a function that can be given by position, if there is one. -/
inductive IsReceiver (func : Value) : Option Text → Prop where
  | none : demandItems (fieldOf func "args") "posonlyargs" = .ok [] →
      demandItems (fieldOf func "args") "args" = .ok [] → IsReceiver func none
  | some {positionalOnly regular rest : List Value} {p : Value} {name : Text} :
      demandItems (fieldOf func "args") "posonlyargs" = .ok positionalOnly →
      demandItems (fieldOf func "args") "args" = .ok regular →
      positionalOnly ++ regular = p :: rest → textOf p "arg" = .ok name →
      IsReceiver func (some name)

theorem isReceiver_iff {func : Value} {receiver : Option Text} :
    IsReceiver func receiver ↔ receiverName func = .ok receiver := by
  rw [receiverName]
  constructor
  · intro h
    cases h with
    | none honly hregular =>
      exact bind_eq_ok.2 ⟨[], bind_eq_ok.2 ⟨_, honly, bind_eq_ok.2 ⟨_, hregular, rfl⟩⟩, rfl⟩
    | some honly hregular hfirst hname =>
      refine bind_eq_ok.2 ⟨_, bind_eq_ok.2 ⟨_, honly, bind_eq_ok.2 ⟨_, hregular, rfl⟩⟩, ?_⟩
      rw [hfirst]
      exact bind_eq_ok.2 ⟨_, hname, rfl⟩
  · intro h
    obtain ⟨all, hall, h⟩ := exists_of_bind h
    obtain ⟨_, honly, hall⟩ := exists_of_bind hall
    obtain ⟨_, hregular, hall⟩ := exists_of_bind hall
    cases hall
    split at h
    next hempty =>
      cases h
      obtain ⟨rfl, rfl⟩ := List.append_eq_nil_iff.1 hempty
      exact .none honly hregular
    next hfirst =>
      obtain ⟨_, hname, h⟩ := exists_of_bind h
      cases h
      exact .some honly hregular hfirst hname

/-! ## What is told -/

/-- What is told about a class by itself. -/
inductive ClassTells (node : Value) : List (String × Value) → Prop where
  | intro {description line : Value} {bases : List Value} {extended decorators : List Text} :
      descriptionOf node = .ok description → demand node "lineno" = .ok line →
      demandItems node "bases" = .ok bases →
      List.Forall₂ (fun b t => sourceOf b = .ok t) bases extended →
      IsDecorators node decorators →
      ClassTells node [("description", description), ("lineNumber", line),
        ("extends", .list (extended.map .text)), ("decorators", .list (decorators.map .text))]

theorem classTells_iff {node : Value} {told : List (String × Value)} :
    ClassTells node told ↔ classFacts node = .ok told := by
  rw [classFacts]
  constructor
  · rintro ⟨hdescription, hline, hbases, hextended, hdecorators⟩
    refine bind_eq_ok.2 ⟨_, hdescription, bind_eq_ok.2 ⟨_, hline, bind_eq_ok.2 ⟨_, hbases, ?_⟩⟩⟩
    refine bind_eq_ok.2 ⟨_, mapM_eq_ok.2 hextended, ?_⟩
    exact bind_eq_ok.2 ⟨_, isDecorators_iff.1 hdecorators, rfl⟩
  · intro h
    obtain ⟨_, hdescription, h⟩ := exists_of_bind h
    obtain ⟨_, hline, h⟩ := exists_of_bind h
    obtain ⟨_, hbases, h⟩ := exists_of_bind h
    obtain ⟨_, hextended, h⟩ := exists_of_bind h
    obtain ⟨_, hdecorators, h⟩ := exists_of_bind h
    cases h
    exact .intro hdescription hline hbases (mapM_eq_ok.1 hextended) (isDecorators_iff.2 hdecorators)

/-- What is told about the result of a function: the annotation, if there is one. -/
inductive ResultTells (node : Value) : List (String × Value) → Prop where
  | none : fieldOf node "returns" = .null → ResultTells node []
  | some {type : Text} : fieldOf node "returns" ≠ .null →
      sourceOf (fieldOf node "returns") = .ok type →
      ResultTells node [("return", .text type)]

/-- The decorators of a function, and what is told about it by itself. -/
inductive FunctionTells (node : Value) : List Text → List (String × Value) → Prop where
  | intro {description line args : Value} {decorators parameters : List Text}
      {result : List (String × Value)} :
      IsDecorators node decorators → descriptionOf node = .ok description →
      demand node "lineno" = .ok line → demand node "args" = .ok args →
      IsParameters args parameters → ResultTells node result →
      FunctionTells node decorators ([("description", description), ("lineNumber", line),
        ("params", .list (parameters.map .text)),
        ("async", .bool (decide (node.kind? = some .asyncFunctionDef))),
        ("decorators", .list (decorators.map .text))] ++ result)

theorem functionTells_iff {node : Value} {decorators : List Text} {told : List (String × Value)} :
    FunctionTells node decorators told ↔ functionFacts node = .ok (decorators, told) := by
  rw [functionFacts]
  constructor
  · rintro ⟨hdecorators, hdescription, hline, hargs, hparameters, hresult⟩
    refine bind_eq_ok.2 ⟨_, isDecorators_iff.1 hdecorators, bind_eq_ok.2 ⟨_, hdescription, ?_⟩⟩
    refine bind_eq_ok.2 ⟨_, hline, bind_eq_ok.2 ⟨_, hargs, ?_⟩⟩
    refine bind_eq_ok.2 ⟨_, isParameters_iff.1 hparameters, ?_⟩
    cases hresult with
    | none hnone =>
      rw [hnone]
      rfl
    | some hsome hsource =>
      split
      next hnull => exact absurd hnull hsome
      next => exact bind_eq_ok.2 ⟨_, hsource, rfl⟩
  · intro h
    obtain ⟨_, hdecorators, h⟩ := exists_of_bind h
    obtain ⟨_, hdescription, h⟩ := exists_of_bind h
    obtain ⟨_, hline, h⟩ := exists_of_bind h
    obtain ⟨_, hargs, h⟩ := exists_of_bind h
    obtain ⟨_, hparameters, h⟩ := exists_of_bind h
    have htells {result : List (String × Value)} (hresult : ResultTells node result) :=
      FunctionTells.intro (isDecorators_iff.2 hdecorators) hdescription hline hargs
        (isParameters_iff.2 hparameters) hresult
    split at h
    next hnull =>
      cases h
      exact htells (.none hnull)
    next hsome =>
      obtain ⟨_, hsource, h⟩ := exists_of_bind h
      cases h
      exact htells (.some hsome hsource)

/-- The targets of an assignment, and what is told about it by itself. -/
inductive AssignmentTells (node : Value) : List Value → List (String × Value) → Prop where
  | plain {targets line : Value} : node.kind? = some .assign →
      demand node "targets" = .ok targets → demand node "lineno" = .ok line →
      AssignmentTells node (items targets) [("lineNumber", line)]
  | annotated {target line expression : Value} {type : Text} : node.kind? = some .annAssign →
      demand node "target" = .ok target → demand node "lineno" = .ok line →
      demand node "annotation" = .ok expression → sourceOf expression = .ok type →
      AssignmentTells node [target] [("lineNumber", line), ("type", .text type)]

theorem assignmentTells_iff {node : Value}
    (h : node.kind? = some .assign ∨ node.kind? = some .annAssign) {targets : List Value}
    {told : List (String × Value)} :
    AssignmentTells node targets told ↔ assignmentFacts node = .ok (targets, told) := by
  rw [assignmentFacts]
  rcases h with hkind | hkind
  · have hannotated : node.isKind .annAssign = false := by simp [Value.isKind, hkind]
    have hplain : node.isKind .assign = true := by simp [Value.isKind, hkind]
    simp only [hannotated, hplain, if_true, Bool.false_eq_true, if_false]
    constructor
    · intro h
      cases h with
      | plain _ htargets hline =>
        exact bind_eq_ok.2 ⟨_, htargets, bind_eq_ok.2 ⟨_, rfl, bind_eq_ok.2 ⟨_, hline, rfl⟩⟩⟩
      | annotated hother => simp [hkind] at hother
    · intro h
      obtain ⟨_, htargets, h⟩ := exists_of_bind h
      obtain ⟨_, hitems, h⟩ := exists_of_bind h
      obtain ⟨_, hline, h⟩ := exists_of_bind h
      cases hitems
      cases h
      exact .plain hkind htargets hline
  · have hannotated : node.isKind .annAssign = true := by simp [Value.isKind, hkind]
    have hplain : node.isKind .assign = false := by simp [Value.isKind, hkind]
    simp only [hannotated, hplain, if_true, Bool.false_eq_true, if_false]
    constructor
    · intro h
      cases h with
      | plain hother => simp [hkind] at hother
      | annotated _ htarget hline hannotation hsource =>
        refine bind_eq_ok.2 ⟨_, htarget, bind_eq_ok.2 ⟨_, rfl, bind_eq_ok.2 ⟨_, hline, ?_⟩⟩⟩
        exact bind_eq_ok.2 ⟨_, hannotation, bind_eq_ok.2 ⟨_, hsource, rfl⟩⟩
    · intro h
      obtain ⟨_, htarget, h⟩ := exists_of_bind h
      obtain ⟨_, htargets, h⟩ := exists_of_bind h
      obtain ⟨_, hline, h⟩ := exists_of_bind h
      obtain ⟨_, hannotation, h⟩ := exists_of_bind h
      obtain ⟨_, hsource, h⟩ := exists_of_bind h
      cases htargets
      cases h
      exact .annotated hkind htarget hline hannotation hsource

/-- Whether an assignment only declares an attribute of instances: it has no value, and an
annotation that does not mention class variables. -/
inductive IsDeclaration (node : Value) : Bool → Prop where
  | bare {type : Text} : node.kind? = some .annAssign → fieldOf node "value" = .null →
      sourceOf (fieldOf node "annotation") = .ok type →
      ¬Text.ofString "ClassVar" <:+: type → IsDeclaration node true
  | ofClass {type : Text} : node.kind? = some .annAssign → fieldOf node "value" = .null →
      sourceOf (fieldOf node "annotation") = .ok type →
      Text.ofString "ClassVar" <:+: type → IsDeclaration node false
  | valued : node.kind? = some .annAssign → fieldOf node "value" ≠ .null →
      IsDeclaration node false
  | plain : node.kind? ≠ some .annAssign → IsDeclaration node false

theorem isDeclaration_iff {node : Value} {declared : Bool} :
    IsDeclaration node declared ↔ declaresInstanceAttribute node = .ok declared := by
  rw [declaresInstanceAttribute]
  constructor
  · intro h
    cases h with
    | bare hkind hnull hsource hmention =>
      have hcontains : Text.contains _ "ClassVar" = false :=
        Bool.eq_false_iff.2 (mt Text.contains_iff.1 hmention)
      simp only [Value.isKind, hkind, hnull, hsource, decide_true, if_true]
      exact congrArg (fun b => Except.ok !b) hcontains
    | ofClass hkind hnull hsource hmention =>
      simp only [Value.isKind, hkind, hnull, hsource, decide_true, if_true]
      exact congrArg (fun b => Except.ok !b) (Text.contains_iff.2 hmention)
    | valued hkind hvalue =>
      simp only [Value.isKind, hkind, decide_true, if_true]
    | plain hkind => simp [Value.isKind, hkind]
  · intro h
    by_cases hkind : node.kind? = some .annAssign
    · simp only [Value.isKind, hkind, decide_true, if_true] at h
      split at h
      next hnull =>
        obtain ⟨type, hsource, h⟩ := exists_of_bind h
        cases h
        cases hmention : Text.contains type "ClassVar" with
        | false =>
          exact .bare hkind hnull hsource fun hpart => by
            rw [Text.contains_iff.2 hpart] at hmention
            cases hmention
        | true => exact .ofClass hkind hnull hsource (Text.contains_iff.1 hmention)
      next hvalue =>
        cases h
        exact .valued hkind hvalue
    · simp only [Value.isKind, hkind, decide_false, Bool.false_eq_true, if_false] at h
      cases h
      exact .plain hkind

end Extraction

end SourceDocs

import SourceDocs.Proofs.Extraction.Longnames
import SourceDocs.Source.Grammar

/-!
# Attributes of receivers

An assignment in the body of a function has records only if the function is a method of a documented
class: one for each attribute of the method's first parameter that it binds.  `receivers_exact` says
which methods these are.
-/

namespace SourceDocs.Extraction

open Source

variable {o : Origin} {v : Tree.Visit} {func : Value} {outer : List Value} {d : Draft}
  {owner attr : Text}

/-- Whether a node assigns, with an annotation or without one. -/
def isAssignment (node : Value) : Bool := node.isKind .assign || node.isKind .annAssign

/-- A function has a decorator of this name. -/
def Decorated (func : Value) (name : String) : Prop :=
  ∃ names, decoratorNames func = .ok names ∧ Text.ofString name ∈ names

/-- What stands around a function begins with a class of this long name. -/
def InClass (file : Text) (outer : List Value) (owner : Text) : Prop :=
  ∃ cls rest, outer = cls :: rest ∧ cls.isKind .classDef = true ∧
    classLongname file cls rest = .ok (some owner)

/-- An assignment binds this attribute of the first parameter of a function. -/
def BindsReceiver (func node : Value) (attr : Text) : Prop :=
  ∃ targets facts receiver attrs, assignmentFacts node = .ok (targets, facts) ∧
    receiverName func = .ok (some receiver) ∧
    receiverAttributes receiver targets = .ok attrs ∧ attr ∈ attrs

/-- A visited node is an assignment, and a function is the nearest scope around it. -/
structure InBody (v : Tree.Visit) (func : Value) (outer : List Value) : Prop where
  assigns : isAssignment v.node = true
  enclosing : enclosingFunction v.ancestors = some (func, outer)

/-- A record is one of an assignment in the body of a function. -/
structure StemsFrom (o : Origin) (v : Tree.Visit) (func : Value) (outer : List Value)
    (d : Draft) : Prop extends InBody v func outer where
  described : ∃ own, describe o v = .ok own ∧ d ∈ own

/-- An assignment in the body of a method of a documented class binds an attribute of the method's
first parameter. -/
structure AssignsReceiver (o : Origin) (v : Tree.Visit) (func : Value) (outer : List Value)
    (owner attr : Text) : Prop extends InBody v func outer where
  inClass : InClass o.relativePath outer owner
  binds : BindsReceiver func v.node attr

/-! ## One assignment -/

theorem not_scope_of_enclosingFunction {p : Value} {rest : List Value} {r : Value × List Value}
    (h : enclosingFunction (p :: rest) = some r) :
    p.isKind .moduleRoot = false ∧ p.isKind .classDef = false := by
  rw [enclosingFunction] at h
  split_ifs at h with hfunction hscope
  · rcases kind_of_isFunction hfunction with hkind | hkind <;> simp [Value.isKind, hkind]
  · simp only [Bool.or_eq_true, not_or, Bool.not_eq_true] at hscope
    exact ⟨hscope.1.2, hscope.1.1⟩

theorem describe_of_isAssignment (h : isAssignment v.node = true) :
    describe o v = describeAssignment o v := by
  have hkind : v.node.kind? = some .assign ∨ v.node.kind? = some .annAssign := by
    simpa [isAssignment, Value.isKind] using h
  rcases hkind with hkind | hkind <;> rw [describe, hkind]

/-- The records of an assignment in the body of a function, as far as they depend on its method. -/
def receiverDrafts (targets : List Value) (facts : List (String × Value)) :
    Option (Value × Text) → Except Fault (List Draft)
  | none => return []
  | some (func, owner) => do
    match ← receiverName func with
    | none => return []
    | some receiver =>
      return (← receiverAttributes receiver targets).map fun name =>
        draft "member" name (owner ++ Text.ofString "#" ++ name) false
          (facts ++ [("memberof", .text owner)])

theorem InBody.describe_eq (h : InBody v func outer) : describe o v = (do
    let (targets, facts) ← assignmentFacts v.node
    receiverDrafts targets facts (← enclosingMethod o.relativePath v.ancestors)) := by
  obtain ⟨node, ancestors⟩ := v
  obtain ⟨hassigns, henclosing⟩ := h
  rw [describe_of_isAssignment hassigns, describeAssignment]
  cases ancestors with
  | nil => cases henclosing
  | cons p rest =>
    obtain ⟨hmodule, hclass⟩ := not_scope_of_enclosingFunction henclosing
    cases assignmentFacts node with
    | error f => rfl
    | ok r =>
      simp only [bind, Except.bind, hmodule, hclass, Bool.false_eq_true, if_false]
      cases enclosingMethod o.relativePath (p :: rest) with
      | error f => rfl
      | ok method =>
        cases method with
        | none => rfl
        | some method =>
          rcases hreceiver : receiverName method.1 with f | (_ | receiver) <;>
            simp only [receiverDrafts, bind, Except.bind, hreceiver]

theorem any_isString_iff {names : List Text} {name : String} :
    (names.any fun n => n.isString name) = true ↔ Text.ofString name ∈ names := by
  simp [Text.isString]

theorem decorated_iff {names : List Text} (h : decoratorNames func = .ok names) (name : String) :
    Decorated func name ↔ Text.ofString name ∈ names := by
  constructor
  · rintro ⟨names', hnames', hmem⟩
    obtain rfl := Except.ok.inj (h.symm.trans hnames')
    exact hmem
  · exact fun hmem => ⟨names, h, hmem⟩

theorem inClass_cons_iff {file : Text} {cls : Value} {rest : List Value}
    (hclass : cls.isKind .classDef = true) :
    InClass file (cls :: rest) owner ↔ classLongname file cls rest = .ok (some owner) := by
  constructor
  · rintro ⟨cls', rest', houter, -, hname⟩
    obtain ⟨rfl, rfl⟩ := List.cons.inj houter
    exact hname
  · exact fun hname => ⟨cls, rest, rfl, hclass, hname⟩

theorem InClass.unique {file other : Text} (h : InClass file outer owner)
    (hother : InClass file outer other) : owner = other := by
  obtain ⟨cls, rest, rfl, hclass, hname⟩ := h
  rw [inClass_cons_iff hclass, hname] at hother
  exact Option.some.inj (Except.ok.inj hother)

/-- Climbing from an assignment in the body of a function finds the function if it is a method of a
documented class and not static, and nothing else. -/
theorem InBody.enclosingMethod_cases (h : InBody v func outer) {method : Option (Value × Text)}
    (hmethod : enclosingMethod o.relativePath v.ancestors = .ok method) :
    (∃ owner, method = some (func, owner) ∧ InClass o.relativePath outer owner ∧
      ¬Decorated func "staticmethod") ∨
    method = none ∧
      ∀ owner, InClass o.relativePath outer owner → Decorated func "staticmethod" := by
  rw [enclosingMethod, h.enclosing] at hmethod
  cases outer with
  | nil =>
    cases hmethod
    refine .inr ⟨rfl, ?_⟩
    rintro owner ⟨_, _, houter, _⟩
    cases houter
  | cons cls rest =>
    by_cases hclass : cls.isKind .classDef = true
    · simp only [hclass, if_true] at hmethod
      obtain ⟨names, hnames, hmethod⟩ := exists_of_bind hmethod
      split_ifs at hmethod with hstatic
      · cases hmethod
        exact .inr ⟨rfl, fun owner _ => (decorated_iff hnames _).2 (any_isString_iff.1 hstatic)⟩
      · obtain ⟨owner?, howner, hmethod⟩ := exists_of_bind hmethod
        cases hmethod
        cases owner? with
        | none =>
          refine .inr ⟨rfl, fun owner hin => ?_⟩
          rw [inClass_cons_iff hclass, howner] at hin
          cases hin
        | some owner =>
          refine .inl ⟨owner, rfl, (inClass_cons_iff hclass).2 howner, fun hdecorated => ?_⟩
          exact hstatic (any_isString_iff.2 ((decorated_iff hnames _).1 hdecorated))
    · simp only [hclass] at hmethod
      cases hmethod
      refine .inr ⟨rfl, ?_⟩
      rintro owner ⟨_, _, houter, hkind, _⟩
      obtain ⟨rfl, rfl⟩ := List.cons.inj houter
      exact absurd hkind hclass

/-- A record of an attribute of the instances of a class. -/
structure OfInstance (owner : Text) (d : Draft) : Prop where
  member : d.isMember = true
  instanceOnly : d.static = false
  longname : d.longname = owner ++ Text.ofString "#" ++ d.name

/-- A method has records for the attributes of its first parameter. -/
theorem receiverDrafts_spec {targets : List Value} {facts : List (String × Value)}
    {own : List Draft} (h : receiverDrafts targets facts (some (func, owner)) = .ok own) :
    (∀ d ∈ own, OfInstance owner d) ∧
    ∀ name, (∃ d ∈ own, d.name = name) ↔ ∃ receiver attrs, receiverName func = .ok (some receiver) ∧
      receiverAttributes receiver targets = .ok attrs ∧ name ∈ attrs := by
  obtain ⟨receiver?, hreceiver, h⟩ := exists_of_bind h
  cases receiver? with
  | none =>
    cases h
    refine ⟨List.forall_mem_nil _, fun name => ⟨?_, ?_⟩⟩
    · rintro ⟨d, hd, -⟩
      exact absurd hd List.not_mem_nil
    · rintro ⟨receiver, attrs, hreceiver', -⟩
      rw [hreceiver] at hreceiver'
      cases hreceiver'
  | some receiver =>
    obtain ⟨attrs, hattrs, h⟩ := exists_of_bind h
    cases h
    refine ⟨?_, fun name => ⟨?_, ?_⟩⟩
    · intro d hd
      obtain ⟨name, -, rfl⟩ := List.mem_map.1 hd
      exact ⟨by simp [Draft.isMember, draft, Text.isString], rfl, rfl⟩
    · rintro ⟨d, hd, rfl⟩
      obtain ⟨name, hname, rfl⟩ := List.mem_map.1 hd
      exact ⟨receiver, attrs, hreceiver, hattrs, hname⟩
    · rintro ⟨receiver', attrs', hreceiver', hattrs', hname⟩
      obtain rfl := Option.some.inj (Except.ok.inj (hreceiver.symm.trans hreceiver'))
      obtain rfl := Except.ok.inj (hattrs.symm.trans hattrs')
      exact ⟨_, List.mem_map_of_mem hname, rfl⟩

/-- A record of an assignment in the body of a function is that of an attribute of the receiver of a
method, and the method is not static. -/
theorem StemsFrom.assignsReceiver (h : StemsFrom o v func outer d) :
    ¬Decorated func "staticmethod" ∧
      ∃ owner, AssignsReceiver o v func outer owner d.name ∧ OfInstance owner d := by
  obtain ⟨own, hown, hd⟩ := h.described
  rw [h.toInBody.describe_eq] at hown
  obtain ⟨⟨targets, facts⟩, hfacts, hown⟩ := exists_of_bind hown
  obtain ⟨method, hmethod, hown⟩ := exists_of_bind hown
  obtain ⟨owner, rfl, hin, hstatic⟩ | ⟨rfl, -⟩ := h.toInBody.enclosingMethod_cases hmethod
  · obtain ⟨hinstance, hnames⟩ := receiverDrafts_spec hown
    obtain ⟨receiver, attrs, hreceiver, hattrs, hname⟩ := (hnames d.name).1 ⟨d, hd, rfl⟩
    exact ⟨hstatic, owner, ⟨h.toInBody, hin, targets, facts, receiver, attrs, hfacts, hreceiver,
      hattrs, hname⟩, hinstance d hd⟩
  · cases hown
    exact absurd hd List.not_mem_nil

/-- An attribute of the receiver of a method that is not static has a record. -/
theorem AssignsReceiver.exists_stemsFrom (h : AssignsReceiver o v func outer owner attr)
    (hstatic : ¬Decorated func "staticmethod") {own : List Draft} (hown : describe o v = .ok own) :
    ∃ d ∈ own, StemsFrom o v func outer d ∧ OfInstance owner d ∧ d.name = attr := by
  obtain ⟨targets, facts, receiver, attrs, hfacts, hreceiver, hattrs, hname⟩ := h.binds
  have hall := hown
  rw [h.toInBody.describe_eq] at hown
  obtain ⟨⟨targets', facts'⟩, hfacts', hown⟩ := exists_of_bind hown
  obtain ⟨rfl, rfl⟩ := Prod.mk.inj (Except.ok.inj (hfacts.symm.trans hfacts'))
  obtain ⟨method, hmethod, hown⟩ := exists_of_bind hown
  obtain ⟨owner', rfl, hin, -⟩ | ⟨-, hnever⟩ := h.toInBody.enclosingMethod_cases hmethod
  · obtain rfl := h.inClass.unique hin
    obtain ⟨hinstance, hnames⟩ := receiverDrafts_spec hown
    obtain ⟨d, hd, hdname⟩ := (hnames attr).2 ⟨receiver, attrs, hreceiver, hattrs, hname⟩
    exact ⟨d, hd, ⟨h.toInBody, own, hall, hd⟩, hinstance d hd, hdname⟩
  · exact absurd (hnever owner h.inClass) hstatic

/-! ## A whole tree -/

theorem mem_describeAll_iff {ε : Type} {describe : Tree.Visit → Except ε (List Draft)}
    {vs : List Tree.Visit} {ds : List Draft} (h : describeAll describe vs = .ok ds) :
    (∀ v ∈ vs, ∃ own, describe v = .ok own) ∧
      ∀ d, d ∈ ds ↔ ∃ v ∈ vs, ∃ own, describe v = .ok own ∧ d ∈ own := by
  induction vs generalizing ds with
  | nil =>
    obtain rfl := Except.ok.inj h
    simp
  | cons v rest ih =>
    cases hv : describe v with
    | error f =>
      rw [describeAll_cons_error hv] at h
      cases h
    | ok own =>
      rw [describeAll_cons_ok hv] at h
      cases hrest : describeAll describe rest with
      | error f =>
        rw [hrest] at h
        cases h
      | ok more =>
        rw [hrest] at h
        cases h
        obtain ⟨hall, hmem⟩ := ih hrest
        refine ⟨List.forall_mem_cons.2 ⟨⟨own, hv⟩, hall⟩, fun d => ?_⟩
        simp [hmem, hv]

/-- The records of assignments in the bodies of functions are those of the attributes that methods
of documented classes bind on their receivers, static methods apart.  None of them stems from a
method for the class exactly if no such method binds an attribute of its receiver, unless it is also
static. -/
theorem receivers_exact {tree : Value} {drafts : List Draft}
    (h : describeTree o tree = .ok drafts) :
    (∀ v ∈ Tree.visits tree, ∀ func outer d, StemsFrom o v func outer d →
      d ∈ drafts ∧ ¬Decorated func "staticmethod" ∧
        ∃ owner, AssignsReceiver o v func outer owner d.name ∧ OfInstance owner d) ∧
    (∀ v ∈ Tree.visits tree, ∀ func outer owner attr,
      AssignsReceiver o v func outer owner attr → ¬Decorated func "staticmethod" →
        ∃ d ∈ drafts, StemsFrom o v func outer d ∧ OfInstance owner d ∧ d.name = attr) ∧
    ((∀ v ∈ Tree.visits tree, ∀ func outer d, StemsFrom o v func outer d →
        ¬Decorated func "staticmethod" ∧ ¬Decorated func "classmethod") ↔
      ∀ v ∈ Tree.visits tree, ∀ func outer owner attr,
        AssignsReceiver o v func outer owner attr → Decorated func "classmethod" →
          Decorated func "staticmethod") := by
  rw [describeTree_eq] at h
  obtain ⟨hall, hmem⟩ := mem_describeAll_iff h
  refine ⟨fun v hv func outer d hstems => ?_, fun v hv func outer owner attr hassigns hstatic => ?_,
    fun honly v hv func outer owner attr hassigns hclass => ?_,
    fun hnone v hv func outer d hstems => ?_⟩
  · obtain ⟨own, hown, hd⟩ := hstems.described
    exact ⟨(hmem d).2 ⟨v, hv, own, hown, hd⟩, hstems.assignsReceiver⟩
  · obtain ⟨own, hown⟩ := hall v hv
    obtain ⟨d, hd, hstems, hinstance, hname⟩ := hassigns.exists_stemsFrom hstatic hown
    exact ⟨d, (hmem d).2 ⟨v, hv, own, hown, hd⟩, hstems, hinstance, hname⟩
  · by_contra hstatic
    obtain ⟨own, hown⟩ := hall v hv
    obtain ⟨d, -, hstems, -, -⟩ := hassigns.exists_stemsFrom hstatic hown
    exact (honly v hv func outer d hstems).2 hclass
  · obtain ⟨hstatic, owner, hassigns, -⟩ := hstems.assignsReceiver
    exact ⟨hstatic, fun hclass => hstatic (hnone v hv func outer owner d.name hassigns hclass)⟩

/-! ## A method for the class -/

/-- A module with a method for the class that binds an attribute of its receiver. -/
def classReceiverSource : List UInt8 :=
  "class C:\n @classmethod\n def m(cls):\n  cls.x = 1\n".toList.map fun c => UInt8.ofNat c.toNat

/-- The origin of the module. -/
def sampleOrigin : Origin := { path := ⟨1, ["a.py"]⟩, relativePath := "a.py" }

/-- Whether an assignment in a method for the class has a record. -/
def isMistaken (o : Origin) (v : Tree.Visit) : Bool :=
  isAssignment v.node &&
    match enclosingFunction v.ancestors, describe o v with
    | some (func, _), .ok (_ :: _) =>
      match decoratorNames func with
      | .ok names => names.contains (Text.ofString "classmethod")
      | .error _ => false
    | _, _ => false

theorem exists_stemsFrom_of_isMistaken (h : isMistaken o v = true) :
    ∃ func outer d, StemsFrom o v func outer d ∧ Decorated func "classmethod" := by
  unfold isMistaken at h
  rw [Bool.and_eq_true] at h
  obtain ⟨hassigns, h⟩ := h
  split at h
  case h_1 func outer d rest henclosing hdescribe =>
    split at h
    case h_1 names hnames =>
      exact ⟨func, outer, d, ⟨⟨hassigns, henclosing⟩, _, hdescribe, List.mem_cons_self⟩, names,
        hnames, by simpa using h⟩
    case h_2 => cases h
  case h_2 => cases h

/-- Whether some assignment in a method for the class has a record, in what is extracted from a
module. -/
def hasMistaken (o : Origin) (bytes : List UInt8) : Bool :=
  match parseModule bytes with
  | .ok tree =>
    match describeTree o tree with
    | .ok _ => (Tree.visits tree).any (isMistaken o)
    | .error _ => false
  | .error _ => false

theorem exists_of_hasMistaken {bytes : List UInt8} (h : hasMistaken o bytes = true) :
    ∃ tree drafts, parseModule bytes = .ok tree ∧ describeTree o tree = .ok drafts ∧
      ∃ v ∈ Tree.visits tree, isMistaken o v = true := by
  unfold hasMistaken at h
  split at h
  case h_1 tree hparsed =>
    split at h
    case h_1 drafts hdrafts =>
      exact ⟨tree, drafts, hparsed, hdrafts, List.any_eq_true.1 h⟩
    case h_2 => cases h
  case h_2 => cases h

theorem hasMistaken_classReceiver : hasMistaken sampleOrigin classReceiverSource = true := by
  decide +kernel

/-- In this module a record stems from the assignment, and it is that of an attribute that the
method binds on its receiver. -/
theorem receivers_exact_class : ∃ tree drafts, parseModule classReceiverSource = .ok tree ∧
    describeTree sampleOrigin tree = .ok drafts ∧
    ∃ v ∈ Tree.visits tree, ∃ func outer owner d,
      StemsFrom sampleOrigin v func outer d ∧ d ∈ drafts ∧ ¬Decorated func "staticmethod" ∧
      AssignsReceiver sampleOrigin v func outer owner d.name ∧ OfInstance owner d := by
  obtain ⟨tree, drafts, hparsed, hdrafts, v, hv, hmistaken⟩ :=
    exists_of_hasMistaken hasMistaken_classReceiver
  obtain ⟨func, outer, d, hstems, -⟩ := exists_stemsFrom_of_isMistaken hmistaken
  obtain ⟨hspec, -, -⟩ := receivers_exact hdrafts
  obtain ⟨hd, hstatic, owner, hassigns, hinstance⟩ := hspec v hv func outer d hstems
  exact ⟨tree, drafts, hparsed, hdrafts, v, hv, func, outer, owner, d, hstems, hd, hstatic,
    hassigns, hinstance⟩

/-- Not every record of an instance that stems from the body of a function stems from one that is
neither static nor a method for the class. -/
theorem class_receiver_documented : ¬ ∀ (bytes : List UInt8) (tree : Value) (drafts : List Draft),
    parseModule bytes = .ok tree → describeTree sampleOrigin tree = .ok drafts →
    ∀ v ∈ Tree.visits tree, ∀ func outer d, StemsFrom sampleOrigin v func outer d →
      d.isMember = true → d.static = false →
      ¬Decorated func "staticmethod" ∧ ¬Decorated func "classmethod" := by
  intro hall
  obtain ⟨tree, drafts, hparsed, hdrafts, v, hv, hmistaken⟩ :=
    exists_of_hasMistaken hasMistaken_classReceiver
  obtain ⟨func, outer, d, hstems, hclass⟩ := exists_stemsFrom_of_isMistaken hmistaken
  obtain ⟨-, owner, -, hinstance⟩ := hstems.assignsReceiver
  exact (hall _ tree drafts hparsed hdrafts v hv func outer d hstems hinstance.member
    hinstance.instanceOnly).2 hclass

end SourceDocs.Extraction

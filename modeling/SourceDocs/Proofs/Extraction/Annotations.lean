import Mathlib.Data.List.DropRight
import SourceDocs.Proofs.Extraction.Parts
import SourceDocs.Proofs.Extraction.Receivers
import SourceDocs.Proofs.Record.Survivors

/-!
# Annotated names of classes

A name that a class annotates and gives no value is an attribute of the instances, unless its
annotation mentions `ClassVar`.  `declared_members` says what mentioning is: the word may be a part
of a longer one (`Text.IsToken`).
-/

namespace SourceDocs

namespace Text

/-! ## Words of a text -/

/-- Whether a code point may stand in an identifier.  Of ASCII these are the letters, the digits and
the underscore. -/
def isWordCharacter (c : CodePoint) : Bool :=
  Source.isWordPart c && (decide (c.val < 0x80) || Identifier.isContinue c)

/-- A word of a text: a run of characters of identifiers with no such character before or behind
it. -/
structure IsToken (t w : Text) : Prop where
  nonempty : w ≠ []
  continues : ∀ c ∈ w, isWordCharacter c = true
  maximal : ∃ before behind, t = before ++ w ++ behind ∧
    (∀ c ∈ before.getLast?, isWordCharacter c = false) ∧
    ∀ c ∈ behind.head?, isWordCharacter c = false

/-- Characters of identifiers that occur in a text are a part of one of its words. -/
theorem infix_iff_exists_isToken {t w : Text} (hne : w ≠ [])
    (hw : ∀ c ∈ w, isWordCharacter c = true) :
    w <:+: t ↔ ∃ token, IsToken t token ∧ w <:+: token := by
  constructor
  · rintro ⟨before, behind, rfl⟩
    -- The word goes on from there to both sides as far as it can.
    refine ⟨before.rtakeWhile isWordCharacter ++ w ++ behind.takeWhile isWordCharacter,
      ⟨?_, ?_, before.rdropWhile isWordCharacter, behind.dropWhile isWordCharacter, ?_, ?_, ?_⟩,
      ⟨_, _, rfl⟩⟩
    · simp [hne]
    · intro c hc
      rcases List.mem_append.1 hc with hc | hc
      · rcases List.mem_append.1 hc with hc | hc
        · exact List.mem_rtakeWhile_imp hc
        · exact hw c hc
      · exact List.mem_takeWhile_imp hc
    · conv_lhs => rw [← List.rdropWhile_append_rtakeWhile (p := isWordCharacter) (l := before),
        ← List.takeWhile_append_dropWhile (p := isWordCharacter) (l := behind)]
      simp only [List.append_assoc]
    · intro c hc
      obtain ⟨hne, rfl⟩ := List.mem_getLast?_eq_getLast hc
      simpa using List.rdropWhile_last_not isWordCharacter before hne
    · intro c hc
      have hnot := List.head?_dropWhile_not isWordCharacter behind
      rw [hc] at hnot
      simpa using hnot
  · rintro ⟨token, ⟨-, -, before, behind, rfl, -, -⟩, hinfix⟩
    exact hinfix.trans ⟨before, behind, rfl⟩

/-- A text of characters of identifiers is its only word. -/
theorem IsToken.eq {t w : Text} (h : IsToken t w)
    (ht : ∀ c ∈ t, isWordCharacter c = true) : w = t := by
  obtain ⟨-, -, before, behind, rfl, hbefore, hbehind⟩ := h
  have hnil : before = [] := by
    rcases List.eq_nil_or_concat before with rfl | ⟨rest, c, rfl⟩
    · rfl
    · have hc := hbefore c (by simp)
      rw [ht c (by simp)] at hc
      cases hc
  have hnil' : behind = [] := by
    cases behind with
    | nil => rfl
    | cons c rest =>
      have hc := hbehind c (by simp)
      rw [ht c (by simp)] at hc
      cases hc
  rw [hnil, hnil']
  simp

end Text

namespace Extraction

open Source

variable {o : Origin} {v : Tree.Visit} {owner name annotation : Text}

/-- A class with this long name annotates a name in its body and gives it no value. -/
structure DeclaresName (o : Origin) (v : Tree.Visit) (owner name annotation : Text) : Prop where
  annotates : v.node.isKind .annAssign = true
  noValue : fieldOf v.node "value" = .null
  target : ∃ target, demand v.node "target" = .ok target ∧ target.isKind .nameRef = true ∧
    textOf target "id" = .ok name
  line : ∃ line, demand v.node "lineno" = .ok line
  annotated : ∃ expression, v.node.field? "annotation" = some expression ∧
    sourceOf expression = .ok annotation
  inClass : InClass o.relativePath v.ancestors owner

/-- A declaration has one record, and the annotation decides whose attribute it is. -/
theorem DeclaresName.describe_eq (h : DeclaresName o v owner name annotation) :
    ∃ d, describe o v = .ok [d] ∧ d.isMember = true ∧ d.name = name ∧
      d.static = Text.contains annotation "ClassVar" ∧
      d.longname =
        owner ++ (if d.static then Text.ofString "." else Text.ofString "#") ++ name := by
  obtain ⟨target, htarget, hkind, hname⟩ := h.target
  obtain ⟨line, hline⟩ := h.line
  obtain ⟨expression, hexpression, hannotation⟩ := h.annotated
  obtain ⟨cls, rest, hancestors, hclass, howner⟩ := h.inClass
  have hassign : v.node.isKind .assign = false := by
    have hkind := of_decide_eq_true h.annotates
    simp [Value.isKind, hkind]
  have hassigns : isAssignment v.node = true := by rw [isAssignment, h.annotates, Bool.or_true]
  have hdemand : demand v.node "annotation" = .ok expression := by
    rw [demand, hexpression]
    rfl
  have hfacts : assignmentFacts v.node =
      .ok ([target], [("lineNumber", line), ("type", .text annotation)]) := by
    simp [assignmentFacts, hassign, h.annotates, htarget, hline, hdemand, hannotation, bind,
      Except.bind, pure, Except.pure]
  have hdeclares : declaresInstanceAttribute v.node =
      .ok (!Text.contains annotation "ClassVar") := by
    have hfield : fieldOf v.node "annotation" = expression := by rw [fieldOf, hexpression]; rfl
    simp [declaresInstanceAttribute, h.annotates, h.noValue, hfield, hannotation, bind,
      Except.bind, pure, Except.pure]
  have hnames : targetNames [target] = .ok [name] := by
    have hflatten : flattenItems [target] = [target] := by
      cases target with
      | node kind fields attributes =>
        obtain rfl : kind = .nameRef := Option.some.inj (of_decide_eq_true hkind)
        simp [flattenItems, flatten]
      | _ => cases hkind
    simp [targetNames, hflatten, hkind, hname, bind, Except.bind, pure, Except.pure]
  have hmodule : cls.isKind .moduleRoot = false := by
    have hkind := of_decide_eq_true hclass
    simp [Value.isKind, hkind]
  rw [describe_of_isAssignment hassigns, describeAssignment, hfacts, hancestors]
  simp only [bind, Except.bind, hmodule, hclass, howner, hdeclares, hnames]
  refine ⟨_, rfl, by simp [Draft.isMember, draft, Text.isString], rfl, Bool.not_not _, ?_⟩
  cases Text.contains annotation "ClassVar" <;> rfl

/-! ## Collapsing -/

/-- Of two different members of one long name at most one is left. -/
theorem not_both_left {records : List DocRecord} {r s : DocRecord} (hr : r.isMember = true)
    (hs : s.isMember = true) (hname : r.longname = s.longname) (hne : r ≠ s) :
    ¬(r ∈ resolveDuplicates records ∧ s ∈ resolveDuplicates records) := by
  rintro ⟨hrleft, hsleft⟩
  have : Std.Symm fun a b : DocRecord =>
      a.isMember = true → b.isMember = true → a.longname ≠ b.longname :=
    ⟨fun a b h hb ha hab => h ha hb hab.symm⟩
  exact (pairwise_members records).forall hrleft hsleft hne hr hs hname

theorem classVar_ne_nil : Text.ofString "ClassVar" ≠ [] := by decide +kernel

theorem all_isWordCharacter_classVar :
    (Text.ofString "ClassVar").all Text.isWordCharacter = true := by
  decide +kernel

theorem contains_classVar_iff : Text.contains annotation "ClassVar" = true ↔
    ∃ word, Text.IsToken annotation word ∧ Text.ofString "ClassVar" <:+: word :=
  Text.contains_iff.trans (Text.infix_iff_exists_isToken classVar_ne_nil
    (List.all_eq_true.1 all_isWordCharacter_classVar))

/-- A name that a class annotates and gives no value has one record, that of a member of the class
if `ClassVar` occurs in a word of the annotation, and of an instance otherwise.  In the second case
a method that binds the attribute has a record of the same long name, and only one of the two
remains. -/
theorem declared_members (h : DeclaresName o v owner name annotation) :
    ∃ d, describe o v = .ok [d] ∧ d.isMember = true ∧ d.name = name ∧
      d.longname = owner ++ (if d.static then Text.ofString "." else Text.ofString "#") ++ name ∧
      (d.static = true ↔
        ∃ word, Text.IsToken annotation word ∧ Text.ofString "ClassVar" <:+: word) ∧
      (d.static = false → ∀ u func outer own, AssignsReceiver o u func outer owner name →
        ¬Decorated func "staticmethod" → describe o u = .ok own →
        ∃ e ∈ own, e.isMember = true ∧ e.static = false ∧ e.longname = d.longname ∧
          ∀ records : List DocRecord, ∀ r ∈ records, ∀ s ∈ records, r.toDraft = d →
            s.toDraft = e → r ≠ s →
            ¬(r ∈ resolveDuplicates records ∧ s ∈ resolveDuplicates records) ∧
            ∃ kept ∈ resolveDuplicates records, kept.longname = d.longname) := by
  obtain ⟨d, hdescribe, hmember, hname, hstatic, hlongname⟩ := h.describe_eq
  refine ⟨d, hdescribe, hmember, hname, hlongname, ?_, ?_⟩
  · rw [hstatic]
    exact contains_classVar_iff
  · intro hinstance u func outer own hassigns hnotStatic hown
    obtain ⟨e, he, -, hofInstance, hattr⟩ := hassigns.exists_stemsFrom hnotStatic hown
    have hsame : e.longname = d.longname := by
      rw [hofInstance.longname, hlongname, hinstance, hattr]
      rfl
    refine ⟨e, he, hofInstance.member, hofInstance.instanceOnly, hsame, ?_⟩
    rintro records r hr s hs rfl rfl hne
    exact ⟨not_both_left hmember hofInstance.member hsame.symm hne, exists_longname_eq hr⟩

/-! ## A longer word -/

/-- A name of a type. -/
def typeName (s : String) : Value := .node .nameRef [("id", .ofString s)] []

/-- A declaration of `x` with this type. -/
def declaring (type : String) : Value :=
  .node .annAssign [("target", typeName "x"), ("annotation", typeName type), ("value", .null)]
    [("lineno", .int 2)]

/-- A class with this declaration and with a constructor that assigns to `self.x`. -/
def declaringClass (type : String) : Value :=
  .node .classDef [("name", .ofString "C"), ("bases", .list []),
    ("body", .list [declaring type, assigningMethod]), ("decorator_list", .list [])]
    [("lineno", .int 1)]

/-- A module with this class. -/
def declaringModule (type : String) : Value :=
  .node .moduleRoot [("body", .list [declaringClass type])] []

/-- The visit of the declaration. -/
def declaringVisit (type : String) : Tree.Visit :=
  ⟨declaring type, [declaringClass type, declaringModule type]⟩

theorem declaresName_declaring (type : String) (text : Text)
    (h : sourceOf (typeName type) = .ok text) :
    DeclaresName sampleOrigin (declaringVisit type) "a.py~C" "x" text where
  annotates := rfl
  noValue := rfl
  target := ⟨typeName "x", rfl, rfl, rfl⟩
  line := ⟨.int 2, rfl⟩
  annotated := ⟨typeName type, rfl, h⟩
  inClass := ⟨declaringClass type, [declaringModule type], rfl, rfl, rfl⟩

/-- The visit of the assignment in the constructor. -/
def constructorVisit (type : String) : Tree.Visit :=
  ⟨.node .assign [("targets", .list [.node .attributeRef
      [("value", .node .nameRef [("id", .ofString "self")] []), ("attr", .ofString "x")] []])]
      [("lineno", .int 3)],
    [assigningMethod, declaringClass type, declaringModule type]⟩

theorem assignsReceiver_constructor (type : String) : AssignsReceiver sampleOrigin
    (constructorVisit type) assigningMethod [declaringClass type, declaringModule type] "a.py~C"
      "x" where
  assigns := rfl
  enclosing := rfl
  inClass := ⟨declaringClass type, [declaringModule type], rfl, rfl, rfl⟩
  binds := ⟨_, _, "self", ["x"], rfl, rfl, rfl, List.mem_singleton_self _⟩

/-- With the type `int`, the record of the declaration and that of the assignment are of one
attribute of the instances, and not both of them are left. -/
theorem declared_members_int : ∃ d e,
    DeclaresName sampleOrigin (declaringVisit "int") "a.py~C" "x" "int" ∧
    describe sampleOrigin (declaringVisit "int") = .ok [d] ∧ d.static = false ∧
    d.longname = Text.ofString "a.py~C#x" ∧ e.longname = Text.ofString "a.py~C#x" ∧
    ¬(DocRecord.mk d 1 ∈ resolveDuplicates [⟨d, 1⟩, ⟨e, 2⟩] ∧
      DocRecord.mk e 2 ∈ resolveDuplicates [⟨d, 1⟩, ⟨e, 2⟩]) := by
  have hdeclares : DeclaresName sampleOrigin (declaringVisit "int") "a.py~C" "x" "int" :=
    declaresName_declaring "int" "int" (by rfl)
  obtain ⟨d, hdescribe, -, -, hlongname, hstatic, hcollapse⟩ := declared_members hdeclares
  have hinstance : d.static = false := by
    rw [Bool.eq_false_iff, ne_eq, hstatic]
    rintro ⟨word, hword, hinfix⟩
    have hall : (Text.ofString "int").all Text.isWordCharacter = true := by decide +kernel
    obtain rfl := hword.eq (List.all_eq_true.1 hall)
    exact absurd hinfix.length_le (by decide +kernel)
  obtain ⟨own, hown⟩ : ∃ own, describe sampleOrigin (constructorVisit "int") = .ok own := ⟨_, rfl⟩
  have hnotStatic : ¬Decorated assigningMethod "staticmethod" := by
    rw [decorated_iff rfl]
    exact List.not_mem_nil
  obtain ⟨e, -, -, -, hsame, hleft⟩ := hcollapse hinstance _ _ _ own
    (assignsReceiver_constructor "int") hnotStatic hown
  have hname : d.longname = Text.ofString "a.py~C#x" := by
    rw [hlongname, hinstance]
    rfl
  refine ⟨d, e, hdeclares, hdescribe, hinstance, hname, hsame.trans hname, ?_⟩
  have hne : DocRecord.mk d 1 ≠ DocRecord.mk e 2 := fun heq =>
    absurd (congrArg DocRecord.docId heq) (show (1 : Int) ≠ 2 by decide)
  exact (hleft [⟨d, 1⟩, ⟨e, 2⟩] ⟨d, 1⟩ (by simp) ⟨e, 2⟩ (by simp) rfl rfl hne).1

/-- `MyClassVar` is another word than `ClassVar`, but declares a member of the class. -/
theorem longer_word_static : ∃ d,
    DeclaresName sampleOrigin (declaringVisit "MyClassVar") "a.py~C" "x" "MyClassVar" ∧
    ¬Text.IsToken "MyClassVar" "ClassVar" ∧
    describe sampleOrigin (declaringVisit "MyClassVar") = .ok [d] ∧ d.static = true ∧
    d.longname = Text.ofString "a.py~C.x" := by
  have hdeclares :
      DeclaresName sampleOrigin (declaringVisit "MyClassVar") "a.py~C" "x" "MyClassVar" :=
    declaresName_declaring "MyClassVar" "MyClassVar" (by rfl)
  have hword : ¬Text.IsToken "MyClassVar" "ClassVar" := by
    intro hword
    have hall : (Text.ofString "MyClassVar").all Text.isWordCharacter = true := by decide +kernel
    have heq := congrArg List.length (hword.eq (List.all_eq_true.1 hall))
    revert heq
    decide +kernel
  obtain ⟨d, hdescribe, -, -, hstatic, hlongname⟩ := hdeclares.describe_eq
  have hmentions : d.static = true := by
    rw [hstatic]
    decide +kernel
  refine ⟨d, hdeclares, hword, hdescribe, hmentions, ?_⟩
  rw [hlongname, hmentions]
  rfl

end Extraction

end SourceDocs

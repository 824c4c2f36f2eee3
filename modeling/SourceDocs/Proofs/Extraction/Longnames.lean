import SourceDocs.Proofs.Extraction.Scope

/-!
# Long names by scope

Seven places put a long name together.  `Scope.drafts_cases` says what all of them come to: a record
is that of the file, or it names its owner and its long name is that of the owner, a separator and
its own name.  The owner is known from the scope, and the scope of a member is never that of the
file (`Scope.Below`), so no long name of one file is that of another (`symbolsOf_within`).
-/

namespace SourceDocs

/-- The long name of the owner that a record names. -/
def Draft.memberOf? (d : Draft) : Option Value := d.payload.lookup (Text.ofString "memberof")

/-- Whether a draft describes a member. -/
def Draft.isMember (d : Draft) : Bool := d.kind.isString "member"

/-- The long name of a record is that of its file, unless it is a member, or begins with that and a
tilde. -/
def Draft.Within (file : Text) (d : Draft) : Prop :=
  d.longname = file ∧ d.isMember = false ∨ file ++ Text.ofChar '~' <+: d.longname

namespace Extraction

variable {o : Origin} {s : Scope} {node : Value} {ds : List Draft} {d : Draft} {owner : Text}

/-! ## Owners -/

/-- Nothing among facts has the name of the owner. -/
def NoOwner (facts : List (String × Value)) : Prop :=
  ∀ e ∈ facts, Text.ofString e.1 ≠ Text.ofString "memberof"

theorem memberOf?_draft {facts : List (String × Value)} (h : NoOwner facts) (kind : String)
    (name longname : Text) (static : Bool) (more : List (String × Value)) :
    (draft kind name longname static (facts ++ ("memberof", .text owner) :: more)).memberOf? =
      some (.text owner) := by
  rw [Draft.memberOf?, draft]
  induction facts with
  | nil => simp
  | cons e rest ih =>
    have he : Text.ofString "memberof" ≠ Text.ofString e.1 := (h e List.mem_cons_self).symm
    rw [List.cons_append, List.map_cons, List.lookup_cons, beq_eq_false_iff_ne.2 he]
    exact ih fun e' he' => h e' (List.mem_cons_of_mem _ he')

theorem noOwner_classFacts {facts : List (String × Value)} (h : classFacts node = .ok facts) :
    NoOwner facts := by
  rw [classFacts] at h
  obtain ⟨_, -, h⟩ := exists_of_bind h
  obtain ⟨_, -, h⟩ := exists_of_bind h
  obtain ⟨_, -, h⟩ := exists_of_bind h
  obtain ⟨_, -, h⟩ := exists_of_bind h
  obtain ⟨_, -, h⟩ := exists_of_bind h
  cases h
  simp only [NoOwner, List.forall_mem_cons]
  decide +kernel

theorem noOwner_functionFacts {decorators : List Text} {facts : List (String × Value)}
    (h : functionFacts node = .ok (decorators, facts)) : NoOwner facts := by
  rw [functionFacts] at h
  obtain ⟨_, -, h⟩ := exists_of_bind h
  obtain ⟨_, -, h⟩ := exists_of_bind h
  obtain ⟨_, -, h⟩ := exists_of_bind h
  obtain ⟨_, -, h⟩ := exists_of_bind h
  obtain ⟨_, -, h⟩ := exists_of_bind h
  have hown (line description params : Value) (isAsync : Bool) (decorators : List Text) :
      NoOwner [("description", description), ("lineNumber", line), ("params", params),
        ("async", .bool isAsync), ("decorators", textList decorators)] := by
    simp only [NoOwner, List.forall_mem_cons]
    decide +kernel
  split at h
  · cases h
    rw [List.append_nil]
    exact hown _ _ _ _ _
  · obtain ⟨_, -, h⟩ := exists_of_bind h
    cases h
    refine List.forall_mem_append.2 ⟨hown _ _ _ _ _, ?_⟩
    simp only [List.forall_mem_cons]
    decide +kernel

theorem noOwner_assignmentFacts {targets : List Value} {facts : List (String × Value)}
    (h : assignmentFacts node = .ok (targets, facts)) : NoOwner facts := by
  rw [assignmentFacts] at h
  have hline (line : Value) : NoOwner [("lineNumber", line)] := by
    simp only [NoOwner, List.forall_mem_cons]
    decide +kernel
  have hlineType (line annotation : Value) :
      NoOwner [("lineNumber", line), ("type", annotation)] := by
    simp only [NoOwner, List.forall_mem_cons]
    decide +kernel
  have hrest {targets' : List Value} {line : Value} (h : (do
      let annotation ← if node.isKind .annAssign then do
          pure [("type", Value.text (← sourceOf (← demand node "annotation")))]
        else pure []
      return (targets', ("lineNumber", line) :: annotation) : Except Fault _) =
        .ok (targets, facts)) : NoOwner facts := by
    split_ifs at h
    · obtain ⟨_, -, h⟩ := exists_of_bind h
      obtain ⟨_, -, h⟩ := exists_of_bind h
      cases h
      exact hlineType _ _
    · cases h
      exact hline _
  split at h
  all_goals
    obtain ⟨_, -, h⟩ := exists_of_bind h
    obtain ⟨_, -, h⟩ := exists_of_bind h
    obtain ⟨_, -, h⟩ := exists_of_bind h
    exact hrest h

/-! ## Records of a scope -/

theorem isMember_draft_of_ne {kind : String} {name longname : Text} {static : Bool}
    {payload : List (String × Value)} (h : (Text.ofString kind).isString "member" = false) :
    (draft kind name longname static payload).isMember = false := h

/-- The class that a scope belongs to. -/
def Scope.owner? : Scope → Option Text
  | .members owner | .method owner _ => some owner
  | .file | .hidden => none

/-- A record of a child of the file. -/
structure OfFile (file : Text) (d : Draft) : Prop where
  memberOf : d.memberOf? = some (.text file)
  longname : d.longname = file ++ Text.ofChar '~' ++ d.name
  notMember : d.isMember = false

/-- A record of something in a class. -/
structure OfClass (owner : Text) (d : Draft) : Prop where
  memberOf : d.memberOf? = some (.text owner)
  longname : d.longname = owner ++ (if d.static then Text.ofString "." else Text.ofString "#") ++
    d.name

theorem classDrafts_cases (h : s.classDrafts o node = .ok ds) (hd : d ∈ ds) :
    ∃ name, textOf node "name" = .ok name ∧ d.name = name ∧ d.kind = Text.ofString "class" ∧
      (s = .file ∧ OfFile o.relativePath d ∧
          d.longname = o.relativePath ++ Text.ofChar '~' ++ name ∨
        ∃ owner, s = .members owner ∧ OfClass owner d ∧
          d.longname = owner ++ Text.ofChar '.' ++ name) := by
  cases s with
  | file =>
    obtain ⟨name, hname, h⟩ := exists_of_bind h
    obtain ⟨facts, hfacts, h⟩ := exists_of_bind h
    cases h
    obtain rfl := List.mem_singleton.1 hd
    refine ⟨name, hname, rfl, rfl, .inl ⟨rfl, ⟨?_, rfl, isMember_draft_of_ne rfl⟩, rfl⟩⟩
    exact memberOf?_draft (noOwner_classFacts hfacts) _ _ _ _ _
  | members owner =>
    obtain ⟨name, hname, h⟩ := exists_of_bind h
    obtain ⟨facts, hfacts, h⟩ := exists_of_bind h
    cases h
    obtain rfl := List.mem_singleton.1 hd
    refine ⟨name, hname, rfl, rfl, .inr ⟨owner, rfl, ⟨?_, rfl⟩, rfl⟩⟩
    exact memberOf?_draft (noOwner_classFacts hfacts) _ _ _ _ _
  | _ =>
    cases h
    exact absurd hd List.not_mem_nil

theorem functionDrafts_cases (h : s.functionDrafts o node = .ok ds) (hd : d ∈ ds) :
    s = .file ∧ OfFile o.relativePath d ∨ ∃ owner, s.owner? = some owner ∧ OfClass owner d := by
  obtain ⟨⟨decorators, facts⟩, hfacts, h⟩ := exists_of_bind h
  have hnone := noOwner_functionFacts hfacts
  cases s with
  | file =>
    obtain ⟨name, hname, h⟩ := exists_of_bind h
    cases h
    obtain rfl := List.mem_singleton.1 hd
    refine .inl ⟨rfl, ?_, rfl, isMember_draft_of_ne rfl⟩
    have himport : Text.ofString "importPath" ≠ Text.ofString "memberof" := by decide +kernel
    have hpath : NoOwner (facts ++ [("importPath", .text (importPath o))]) := by
      intro e he
      rcases List.mem_append.1 he with he | he
      · exact hnone e he
      · obtain rfl := List.mem_singleton.1 he
        exact himport
    have hmember : _ = some (Value.text o.relativePath) := memberOf?_draft hpath "function" name
      (o.relativePath ++ Text.ofChar '~' ++ name) true []
    have hassoc : facts ++ [("importPath", Value.text (importPath o))] ++
        [("memberof", Value.text o.relativePath)] = facts ++ [("importPath", .text (importPath o)),
          ("memberof", .text o.relativePath)] := List.append_assoc _ _ _
    rwa [hassoc] at hmember
  | members owner =>
    simp only at h
    split at h
    · cases h
      exact absurd hd List.not_mem_nil
    · obtain ⟨name, hname, h⟩ := exists_of_bind h
      cases h
      obtain rfl := List.mem_singleton.1 hd
      exact .inr ⟨owner, rfl, memberOf?_draft hnone _ _ _ _ _, rfl⟩
  | _ =>
    cases h
    exact absurd hd List.not_mem_nil

theorem assignmentDrafts_cases (h : s.assignmentDrafts o node = .ok ds) (hd : d ∈ ds) :
    s = .file ∧ OfFile o.relativePath d ∨ ∃ owner, s.owner? = some owner ∧ OfClass owner d := by
  obtain ⟨⟨targets, facts⟩, hfacts, h⟩ := exists_of_bind h
  have hnone := noOwner_assignmentFacts hfacts
  cases s with
  | file =>
    obtain ⟨names, -, h⟩ := exists_of_bind h
    cases h
    obtain ⟨name, -, rfl⟩ := List.mem_map.1 hd
    exact .inl ⟨rfl, memberOf?_draft hnone _ _ _ _ _, rfl, isMember_draft_of_ne rfl⟩
  | members owner =>
    obtain ⟨declared, -, h⟩ := exists_of_bind h
    obtain ⟨names, -, h⟩ := exists_of_bind h
    cases h
    obtain ⟨name, -, rfl⟩ := List.mem_map.1 hd
    refine .inr ⟨owner, rfl, memberOf?_draft hnone _ _ _ _ _, ?_⟩
    cases declared <;> simp [draft]
  | method owner func =>
    obtain ⟨receiver?, -, h⟩ := exists_of_bind h
    cases receiver? with
    | none =>
      cases h
      exact absurd hd List.not_mem_nil
    | some receiver =>
      obtain ⟨names, -, h⟩ := exists_of_bind h
      cases h
      obtain ⟨name, -, rfl⟩ := List.mem_map.1 hd
      exact .inr ⟨owner, rfl, memberOf?_draft hnone _ _ _ _ _, rfl⟩
  | hidden =>
    cases h
    exact absurd hd List.not_mem_nil

/-- All that a record can be. -/
theorem Scope.drafts_cases (h : s.drafts o node = .ok ds) (hd : d ∈ ds) :
    node.kind? = some .moduleRoot ∧ ds = [d] ∧ d.kind = Text.ofString "file" ∧
        d.longname = o.relativePath ∨
      s = .file ∧ OfFile o.relativePath d ∨
      ∃ owner, s.owner? = some owner ∧ OfClass owner d := by
  rw [Scope.drafts] at h
  split at h
  case h_1 hkind =>
    obtain ⟨d', hmodule, h⟩ := exists_of_bind h
    obtain ⟨_, -, hmodule⟩ := exists_of_bind hmodule
    cases hmodule
    cases h
    obtain rfl := List.mem_singleton.1 hd
    exact .inl ⟨hkind, rfl, rfl, rfl⟩
  case h_2 =>
    obtain ⟨name, -, -, -, ⟨rfl, hfile, -⟩ | ⟨owner, rfl, hclass, -⟩⟩ := classDrafts_cases h hd
    · exact .inr (.inl ⟨rfl, hfile⟩)
    · exact .inr (.inr ⟨owner, rfl, hclass⟩)
  case h_3 => exact .inr (functionDrafts_cases h hd)
  case h_4 => exact .inr (functionDrafts_cases h hd)
  case h_5 => exact .inr (assignmentDrafts_cases h hd)
  case h_6 => exact .inr (assignmentDrafts_cases h hd)
  case h_7 =>
    cases h
    exact absurd hd List.not_mem_nil

/-! ## Scopes of children -/

/-- All that the scope of a child can be. -/
theorem Scope.inside_cases {file : Text} {inner : Scope} (h : s.inside file node = .ok inner) :
    inner = .hidden ∨ node.kind? = some .moduleRoot ∧ inner = .file ∨
      (node.kind? = some .classDef ∧ ∃ name, textOf node "name" = .ok name ∧
        (s = .file ∧ inner = .members (file ++ Text.ofChar '~' ++ name) ∨
          ∃ owner, s = .members owner ∧ inner = .members (owner ++ Text.ofChar '.' ++ name))) ∨
      ∃ owner, s.owner? = some owner ∧ inner.owner? = some owner := by
  unfold Scope.inside at h
  split at h
  case h_1 hkind =>
    cases h
    exact .inr (.inl ⟨hkind, rfl⟩)
  case h_2 hkind =>
    split at h
    · obtain ⟨name, hname, h⟩ := exists_of_bind h
      cases h
      exact .inr (.inr (.inl ⟨hkind, name, hname, .inl ⟨rfl, rfl⟩⟩))
    · obtain ⟨name, hname, h⟩ := exists_of_bind h
      cases h
      exact .inr (.inr (.inl ⟨hkind, name, hname, .inr ⟨_, rfl, rfl⟩⟩))
    · cases h
      exact .inl rfl
    · cases h
      exact .inl rfl
  case h_3 | h_4 =>
    split at h
    · obtain ⟨_, -, h⟩ := exists_of_bind h
      split_ifs at h
      · cases h
        exact .inl rfl
      · cases h
        exact .inr (.inr (.inr ⟨_, rfl, rfl⟩))
    all_goals
      cases h
      exact .inl rfl
  case h_5 =>
    cases h
    exact .inl rfl
  case h_6 =>
    split at h
    · cases h
      exact .inr (.inr (.inr ⟨_, rfl, rfl⟩))
    all_goals
      cases h
      exact .inl rfl

/-! ## All records of a file -/

/-- The long name of what a scope belongs to is longer than that of the file. -/
def Scope.Below (file : Text) (s : Scope) : Prop :=
  ∀ owner, s.owner? = some owner → file ++ Text.ofChar '~' <+: owner

theorem OfFile.begins {file : Text} (h : OfFile file d) :
    file ++ Text.ofChar '~' <+: d.longname :=
  ⟨d.name, h.longname.symm⟩

theorem OfClass.begins {file : Text} (h : OfClass owner d)
    (howner : file ++ Text.ofChar '~' <+: owner) : file ++ Text.ofChar '~' <+: d.longname := by
  rw [h.longname, List.append_assoc]
  exact howner.trans (List.prefix_append _ _)

theorem Scope.Below.inside {inner : Scope} {file : Text} (h : s.Below file)
    (hinner : s.inside file node = .ok inner) : inner.Below file := by
  intro owner howner
  obtain rfl | ⟨-, rfl⟩ | ⟨-, name, -, ⟨-, rfl⟩ | ⟨outer, rfl, rfl⟩⟩ | ⟨outer, hs, hinner⟩ :=
    Scope.inside_cases hinner
  · cases howner
  · cases howner
  · cases howner
    exact List.prefix_append _ _
  · cases howner
    rw [List.append_assoc]
    exact (h outer rfl).trans (List.prefix_append _ _)
  · rw [hinner] at howner
    cases howner
    exact h _ hs

theorem Scope.Below.within (h : s.Below o.relativePath) (hdrafts : s.drafts o node = .ok ds)
    (hd : d ∈ ds) : d.Within o.relativePath := by
  obtain ⟨-, -, hkind, hlongname⟩ | ⟨-, hfile⟩ | ⟨owner, howner, hclass⟩ :=
    Scope.drafts_cases hdrafts hd
  · refine .inl ⟨hlongname, ?_⟩
    rw [Draft.isMember, hkind]
    decide +kernel
  · exact .inr hfile.begins
  · exact .inr (hclass.begins (h owner howner))

theorem mem_of_mapM_flatten {α β ε : Type} {f : α → Except ε (List β)} {xs : List α}
    {yss : List (List β)} {y : β} (h : xs.mapM f = .ok yss) (hy : y ∈ yss.flatten) :
    ∃ x ∈ xs, ∃ ys, f x = .ok ys ∧ y ∈ ys := by
  induction xs generalizing yss with
  | nil =>
    cases h
    exact absurd hy List.not_mem_nil
  | cons x rest ih =>
    rw [List.mapM_cons] at h
    cases hx : f x with
    | error e =>
      rw [hx] at h
      cases h
    | ok ys =>
      cases hrest : rest.mapM f with
      | error e =>
        rw [hx, hrest] at h
        cases h
      | ok more =>
        rw [hx, hrest] at h
        cases h
        rcases List.mem_append.1 hy with hy | hy
        · exact ⟨x, List.mem_cons_self, ys, hx, hy⟩
        · obtain ⟨x', hx', hys⟩ := ih hrest hy
          exact ⟨x', List.mem_cons_of_mem x hx', hys⟩

/-- All records of a tree have long names of its file. -/
theorem symbolsOf_within (h : s.Below o.relativePath) (hsymbols : symbolsOf o s node = .ok ds)
    (hd : d ∈ ds) : d.Within o.relativePath := by
  induction s, node using symbolsOf.induct generalizing ds with
  | case1 s node ih =>
    rw [symbolsOf_eq] at hsymbols
    obtain ⟨own, hown, hsymbols⟩ := exists_of_bind hsymbols
    obtain ⟨inner, hinner, hsymbols⟩ := exists_of_bind hsymbols
    obtain ⟨below, hbelow, hsymbols⟩ := exists_of_bind hsymbols
    cases hsymbols
    rcases List.mem_append.1 hd with hd | hd
    · exact h.within hown hd
    · obtain ⟨c, hc, more, hmore, hd⟩ := mem_of_mapM_flatten hbelow hd
      exact ih inner ⟨c, hc⟩ (h.inside hinner) hmore hd

end Extraction

end SourceDocs

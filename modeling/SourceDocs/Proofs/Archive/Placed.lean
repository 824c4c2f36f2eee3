import SourceDocs.Proofs.Files.Tidy

/-!
# What the archive puts where

A job of the archive creates directories on the way to its file and writes the file.  `Places` has
one constructor for each of these steps, and `carryOut_archived` says that a job does nothing else,
however it ends.  `carryOut_ok` says what a job that succeeds has written where.
-/

namespace SourceDocs

open Files Entry World

namespace Archive

variable {destination : Path} {w w' : World} {j : Job} {names : List Text}

/-- The name of the directory of the archive. -/
def directoryName : Text := "ast"

/-- The file of a job has these names below the archive, none of which leads up. -/
structure Job.Inside (j : Job) (names : List Text) : Prop where
  path : Path.ofText (j.relativePath ++ Text.ofString ".json") = ⟨0, names⟩
  nonempty : names ≠ []
  noDots : Path.NoDots names

/-- One step of what is put below a destination: a directory on the way to a file of the archive
where nothing is, a file of the archive in place of nothing or of a file, or nothing at all. -/
inductive Places (destination : Path) : World → World → Prop where
  | directory {w : World} {q : Path} {rest names : List Text} : q.root = destination.root →
      q.names <+: destination.names ++ directoryName :: rest → Path.NoDots rest →
      w.LeadsTo q (names, none) → Places destination w (w.put names Entry.empty)
  | file {w : World} {rest names : List Text} {found : Option Entry} (data : List UInt8) :
      Path.NoDots rest →
      w.LeadsTo ⟨destination.root, destination.names ++ directoryName :: rest⟩ (names, found) →
      (∀ es, found ≠ some (.directory es)) → Places destination w (w.put names (.file data))
  | other {w v : World} : w.SameFiles v → Places destination w v

/-- What becomes of a world by what is put below a destination. -/
abbrev Archived (destination : Path) : World → World → Prop :=
  Relation.ReflTransGen (Places destination)

theorem noDots_directoryName : Path.NoDots [directoryName] := by
  intro n hn
  rw [List.mem_singleton.1 hn]
  decide +kernel

theorem child_directoryName (p : Path) :
    p.child directoryName = ⟨p.root, p.names ++ [directoryName]⟩ := by
  have hname : Path.ofText directoryName = ⟨0, [directoryName]⟩ := by decide +kernel
  rw [Path.child, hname]
  rfl

theorem Job.Inside.target_eq (h : j.Inside names) (destination : Path) :
    target (below destination).root j =
      ⟨destination.root, destination.names ++ directoryName :: names⟩ := by
  have hroot : (below destination).root = destination.child directoryName := rfl
  rw [target, hroot, child_directoryName, Path.child, h.path, Path.join]
  simp [Path.isAbsolute]

/-! ## Names of trees -/

/-- The names of the file for the tree of a source, by the names of the source. -/
def treeNames (rest : List Text) : List Text :=
  Text.ofString "source" :: (rest.dropLast ++ [rest.getLastD [] ++ Text.ofString ".json"])

theorem treeNames_concat (above : List Text) (n : Text) :
    treeNames (above ++ [n]) =
      Text.ofString "source" :: (above ++ [n ++ Text.ofString ".json"]) := by
  simp [treeNames]

/-- Different sources have different files for their trees. -/
theorem treeNames_inj {rest rest' : List Text} (hrest : rest ≠ []) (hrest' : rest' ≠ [])
    (h : treeNames rest = treeNames rest') : rest = rest' := by
  obtain ⟨above, n, rfl⟩ := (List.eq_nil_or_concat rest).resolve_left hrest
  obtain ⟨above', n', rfl⟩ := (List.eq_nil_or_concat rest').resolve_left hrest'
  simp only [List.concat_eq_append, treeNames_concat, List.cons.injEq, true_and] at h ⊢
  obtain ⟨habove, hlast⟩ := List.append_inj' h rfl
  rw [habove, List.append_cancel_right (List.singleton_inj.1 hlast)]

theorem isPart_json {n : Text} (h : Path.IsPart n) : Path.IsPart (n ++ Text.ofString ".json") := by
  have hlength : (Text.ofString ".json").length = 5 := by decide +kernel
  refine ⟨?_, fun hslash => ?_⟩
  · have hdot : ¬ n ++ Text.ofString ".json" = Text.ofString "." := by
      intro heq
      have := congrArg List.length heq
      rw [List.length_append, hlength] at this
      have hone : (Text.ofString ".").length = 1 := by decide +kernel
      omega
    rw [Path.vanishes, Bool.or_eq_false_iff]
    refine ⟨?_, decide_eq_false hdot⟩
    rw [List.isEmpty_eq_false_iff_exists_mem]
    exact ⟨CodePoint.ofChar '.', List.mem_append_right _ (by decide +kernel)⟩
  · rcases List.mem_append.1 hslash with hn | hjson
    · exact h.2 hn
    · revert hjson
      decide +kernel

theorem not_dots_json (n : Text) : (n ++ Text.ofString ".json").isString ".." = false := by
  refine decide_eq_false fun heq => ?_
  have := congrArg List.length heq
  have hlength : (Text.ofString ".json").length = 5 := by decide +kernel
  have htwo : (Text.ofString "..").length = 2 := by decide +kernel
  rw [List.length_append, hlength] at this
  omega

/-- The file for the tree of a source is inside of the archive. -/
theorem inside_of_areLabels {rest : List Text} (h : Path.AreLabels rest) (hne : rest ≠ [])
    (tree : Value) :
    Job.Inside ⟨Text.ofString "source/" ++ Text.join "/" rest, tree⟩ (treeNames rest) := by
  obtain ⟨above, n, rfl⟩ := (List.eq_nil_or_concat rest).resolve_left hne
  rw [List.concat_eq_append] at h hne ⊢
  have hsource : Path.IsPart "source" := by
    constructor
    · decide +kernel
    · decide +kernel
  have hjoin : Text.ofString "source/" ++ Text.join "/" (above ++ [n]) ++ Text.ofString ".json" =
      Text.join "/" (treeNames (above ++ [n])) := by
    rw [treeNames_concat, Text.join_cons _ _ (by simp)]
    have hslash : Text.ofString "source/" = Text.ofString "source" ++ Text.ofString "/" := by
      decide +kernel
    rw [hslash, List.append_assoc]
    congr 1
    by_cases hnil : above = []
    · subst hnil
      rfl
    · rw [Text.join_concat _ hnil, Text.join_concat _ hnil, List.append_assoc]
  constructor
  · rw [hjoin]
    refine Path.ofText_join ?_ (by simp [treeNames])
    rw [treeNames_concat]
    intro m hm
    rcases List.mem_cons.1 hm with rfl | hm
    · exact hsource
    · rcases List.mem_append.1 hm with hm | hm
      · exact h.1 m (List.mem_append_left _ hm)
      · rw [List.mem_singleton.1 hm]
        exact isPart_json (h.1 n (List.mem_append_right _ List.mem_cons_self))
  · simp [treeNames]
  · rw [treeNames_concat]
    intro m hm
    rcases List.mem_cons.1 hm with rfl | hm
    · decide +kernel
    · rcases List.mem_append.1 hm with hm | hm
      · exact h.2 m (List.mem_append_left _ hm)
      · rw [List.mem_singleton.1 hm]
        exact not_dots_json n

theorem inside_of_isName {rest : List Text} (h : ∀ n ∈ rest, isName n) (hne : rest ≠ [])
    (tree : Value) :
    Job.Inside ⟨Text.ofString "source/" ++ Text.join "/" rest, tree⟩ (treeNames rest) :=
  inside_of_areLabels (Path.areLabels_of_isName h) hne tree

/-! ## Text in pieces -/

theorem encode?_append (s t : Text) : Utf8.encode? (s ++ t) =
    (Utf8.encode? s).bind fun data => (Utf8.encode? t).map fun more => data ++ more := by
  unfold Utf8.encode? Text.isWellFormed
  rw [List.all_append, List.flatMap_append]
  cases s.all fun c => !c.isSurrogate <;> cases t.all fun c => !c.isSurrogate <;> rfl

/-- Pieces that can all be encoded have the bytes of their text. -/
theorem encode?_flatten {pieces : List Text} (h : (encodePieces pieces).2 = true) :
    Utf8.encode? pieces.flatten = some (encodePieces pieces).1 := by
  induction pieces with
  | nil => rfl
  | cons t rest ih =>
    rw [encodePieces] at h ⊢
    rw [List.flatten_cons, encode?_append]
    cases hdata : Utf8.encode? t with
    | none =>
      rw [hdata] at h
      cases h
    | some data =>
      rw [hdata] at h
      rw [ih h]
      rfl

/-! ## Jobs -/

/-- The text of a tree in UTF-8. -/
def treeData (tree : Value) : Option (List UInt8) :=
  match Json.treeText tree with
  | .ok t => Utf8.encode? t
  | .error _ => none

/-- What the writing of a tree can do: to fail on the way to its file, or to write to it. -/
theorem writeTree_cases (p : Path) (tree : Value) (w : World)
    {r : Except Failure Unit} {w' : World} (h : (writeTree p tree).runIn w = (r, w')) :
    ∃ w₁, Relation.ReflTransGen (Action.Makes p.parent) w w₁ ∧
      ((∃ f, r = .error f) ∧ w' = w₁ ∨
      ∃ names found data, w₁.LeadsTo p (names, found) ∧ (∀ es, found ≠ some (.directory es)) ∧
        w' = (w₁.put names (.file [])).put names (.file data) ∧
        (r = .ok () → treeData tree = some data)) := by
  rw [writeTree, Action.runIn_bind] at h
  rcases hmake : (makeDirectories p.parent).runIn w with ⟨f | _, w₁⟩ <;> rw [hmake] at h <;>
    obtain ⟨hmakes, -⟩ := Action.makeDirectories_cases _ _ hmake
  · cases h
    exact ⟨_, hmakes, .inl ⟨⟨f, rfl⟩, rfl⟩⟩
  · refine ⟨w₁, hmakes, ?_⟩
    simp only at h
    rw [Action.runIn_bind] at h
    rcases Action.openForWriting_cases p w₁ with ⟨f, hopen⟩ | ⟨names, found, hleads, hfound, hopen⟩
    · rw [hopen] at h
      cases h
      exact .inl ⟨⟨f, rfl⟩, rfl⟩
    · rw [hopen] at h
      refine .inr ⟨names, found, ?_⟩
      simp only at h
      rw [Action.runIn_bind] at h
      rcases Action.fill_cases names (encodePieces (Json.treeChunks tree).1).1
          (w₁.put names (.file [])) with hfill | ⟨taken, -, hfill⟩ <;> rw [hfill] at h
      · refine ⟨(encodePieces (Json.treeChunks tree).1).1, hleads, hfound, ?_⟩
        simp only at h
        split_ifs at h with hcomplete
        · cases h
          exact ⟨rfl, fun hfalse => by cases hfalse⟩
        · rw [Bool.not_eq_true', Bool.not_eq_false] at hcomplete
          split at h
          · cases h
            exact ⟨rfl, fun hfalse => by cases hfalse⟩
          · rename_i hfault
            cases h
            refine ⟨rfl, fun _ => ?_⟩
            have hchunks : Json.treeChunks tree = ((Json.treeChunks tree).1, none) :=
              Prod.ext rfl hfault
            rw [treeData, Json.treeText, hchunks]
            exact encode?_flatten hcomplete
      · cases h
        exact ⟨(encodePieces (Json.treeChunks tree).1).1.take taken, hleads, hfound, rfl,
          fun hfalse => by cases hfalse⟩

theorem carryOut_cases (root : Path) (j : Job) (w : World) {r : Except Failure Path} {w' : World}
    (h : (carryOut root j).runIn w = (r, w')) :
    ∃ r' v, (writeTree (target root j) j.tree).runIn w = (r', v) ∧ v.SameFiles w' ∧
      (∀ p, r = .ok p → r' = .ok ()) := by
  rw [carryOut, Action.runIn_attempt_bind] at h
  rcases hwrite : (writeTree (target root j) j.tree).runIn w with ⟨f | _, v⟩ <;>
    rw [hwrite] at h <;> cases h
  · exact ⟨_, _, rfl, .refl _, fun p hfalse => by cases hfalse⟩
  · exact ⟨_, _, rfl, ⟨rfl, rfl, rfl, rfl⟩, fun _ _ => rfl⟩

/-- Directories on the way to something in the archive are put below the destination. -/
theorem archived_of_makes {destination p : Path} {rest : List Text}
    (hroot : p.root = destination.root)
    (hway : p.names <+: destination.names ++ directoryName :: rest) (hdots : Path.NoDots rest)
    (h : Relation.ReflTransGen (Action.Makes p) w w') : Archived destination w w' := by
  refine Relation.ReflTransGen.mono (fun v v' hmake => ?_) _ _ h
  obtain ⟨hq, hqway, hleads⟩ := hmake
  exact .directory (hq.trans hroot) (hqway.trans hway) hdots hleads

theorem Job.Inside.parent_eq (hj : j.Inside names) (destination : Path) :
    (target (below destination).root j).parent.root = destination.root ∧
      (target (below destination).root j).parent.names <+:
        destination.names ++ directoryName :: names := by
  rw [Path.parent, hj.target_eq]
  exact ⟨rfl, List.dropLast_prefix _⟩

/-- However a job ends, all that it has done is to put things below the destination. -/
theorem carryOut_archived (hj : j.Inside names) (destination : Path) (w : World) :
    Archived destination w ((carryOut (below destination).root j).runIn w).2 := by
  obtain ⟨r, v, hwrite, hsame, -⟩ := carryOut_cases (below destination).root j w rfl
  obtain ⟨w₁, hmakes, hrest⟩ := writeTree_cases _ _ w hwrite
  refine Relation.ReflTransGen.tail ?_ (.other hsame)
  obtain ⟨hroot, hway⟩ := hj.parent_eq destination
  refine (archived_of_makes hroot hway hj.noDots hmakes).trans ?_
  rcases hrest with ⟨-, rfl⟩ | ⟨place, found, data, hleads, hfound, rfl, -⟩
  · exact .refl
  · have hne : (target (below destination).root j).names ≠ [] := by simp [hj.target_eq]
    have hagain := hleads.put (hleads.fits_file hne hfound [])
    rw [hj.target_eq] at hleads hagain
    exact (Relation.ReflTransGen.single (.file [] hj.noDots hleads hfound)).tail
      (.file data hj.noDots hagain fun es hfalse => by cases hfalse)

/-- A job that succeeds has made the directories on the way to its file, and has written all of its
tree there. -/
theorem carryOut_ok (hj : j.Inside names) {destination path : Path} {w w' : World}
    (h : (carryOut (below destination).root j).runIn w = (.ok path, w')) :
    ∃ w₁ place found data, treeData j.tree = some data ∧
      Relation.ReflTransGen (Action.Makes (target (below destination).root j).parent) w w₁ ∧
      w₁.LeadsTo ⟨destination.root, destination.names ++ directoryName :: names⟩ (place, found) ∧
      (∀ es, found ≠ some (.directory es)) ∧
      ((w₁.put place (.file [])).put place (.file data)).SameFiles w' := by
  obtain ⟨r, v, hwrite, hsame, hok⟩ := carryOut_cases _ j w h
  obtain ⟨w₁, hmakes, hrest⟩ := writeTree_cases _ _ w hwrite
  rcases hrest with ⟨⟨f, hf⟩, -⟩ | ⟨place, found, data, hleads, hfound, rfl, hdata⟩
  · rw [hok path rfl] at hf
    cases hf
  · rw [hj.target_eq] at hleads
    exact ⟨w₁, place, found, data, hdata (hok path rfl), hmakes, hleads, hfound, hsame⟩

end Archive

end SourceDocs

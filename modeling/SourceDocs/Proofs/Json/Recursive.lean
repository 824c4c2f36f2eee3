import Mathlib
import SourceDocs.Json.Chunks
import SourceDocs.Proofs.Action

/-!
# Recursive and iterative JSON text

`dumps` writes a value by recursion on it, which is how JSON text is usually defined.  The loop that
the pieces come from keeps a stack instead; `Emits` says what that loop comes to, with no bound on
its steps.  The loop ends for every value, and the text of its pieces is that of `dumps`.  Recursion
that is given only so many nested calls (`dumpsWithin`) fails for deeper values (`levels`), which is
what the loop is there for; `treeText_eq_dumps` is the whole statement.

Both take the same steps down a value, and every step lowers `cost`.  A value that is replaced costs
one more than its replacement at least, also if it is of the same size.
-/

namespace SourceDocs.Json

open Value

/-! ## Weights -/

theorem weightAll_eq (items : List Value) :
    weightAll items = (items.map fun v => weight v + 2).sum := by
  induction items with
  | nil => rfl
  | cons v rest ih => rw [weightAll, ih, List.map_cons, List.sum_cons]

theorem weightEntries_eq (entries : List (Value × Value)) :
    weightEntries entries = (entries.map fun e => weight e.2 + 2).sum := by
  induction entries with
  | nil => rfl
  | cons e rest ih => rw [weightEntries, ih, List.map_cons, List.sum_cons]

theorem weightFields_eq (fields : List (String × Value)) :
    weightFields fields = (fields.map fun f => weight f.2 + 2).sum := by
  induction fields with
  | nil => rfl
  | cons f rest ih => rw [weightFields, ih, List.map_cons, List.sum_cons]

theorem four_le_weight (v : Value) : 4 ≤ weight v := by
  cases v <;> simp only [weight] <;> omega

theorem weightAll_sortedByWritten (items : List Value) :
    weightAll (sortedByWritten items) = weightAll items := by
  have hperm : (sortedByWritten items).Perm items := by
    have hsorted := (List.mergeSort_perm (items.map fun v => (written v, v))
      fun a b => textLe a.1 b.1).map Prod.snd
    have hitems : (items.map fun v => (written v, v)).map Prod.snd = items := by
      rw [List.map_map]
      exact List.map_id items
    rwa [hitems] at hsorted
  rw [weightAll_eq, weightAll_eq]
  exact (hperm.map _).sum_eq

/-- All keys are texts, and no two of them the same. -/
structure TextKeys (entries : List (Value × Value)) : Prop where
  text : ∀ e ∈ entries, ∃ t, e.1 = .text t
  nodup : (entries.map Prod.fst).Nodup

theorem keyEq_text {v : Value} (h : ∃ s, v = .text s) (t : Text) :
    keyEq v (.text t) = true ↔ v = .text t := by
  obtain ⟨s, rfl⟩ := h
  rw [show keyEq (.text s) (.text t) = (s == t) from rfl, beq_iff_eq, Value.text.injEq]

theorem TextKeys.tail {e : Value × Value} {rest : List (Value × Value)}
    (h : TextKeys (e :: rest)) : TextKeys rest :=
  ⟨fun e' he' => h.text e' (List.mem_cons_of_mem _ he'), (List.nodup_cons.1 h.nodup).2⟩

/-- The entries with a value put under a key that is among them. -/
theorem map_replace_keys (entries : List (Value × Value)) (key value : Value) :
    (entries.map fun e => if keyEq e.1 key then (e.1, value) else e).map Prod.fst =
      entries.map Prod.fst := by
  rw [List.map_map]
  refine List.map_congr_left fun e _ => ?_
  by_cases h : keyEq e.1 key <;> simp [h]

theorem TextKeys.insert {entries : List (Value × Value)} (h : TextKeys entries) (t : Text)
    (v : Value) : TextKeys (Value.insert entries (.text t) v) := by
  rw [Value.insert]
  split_ifs with hany
  · refine ⟨fun e he => ?_, by rw [map_replace_keys]; exact h.nodup⟩
    obtain ⟨e', he', rfl⟩ := List.mem_map.1 he
    have htext := h.text e' he'
    split_ifs
    · exact htext
    · exact htext
  · refine ⟨fun e he => ?_, ?_⟩
    · rcases List.mem_append.1 he with he | he
      · exact h.text e he
      · exact ⟨t, by rw [List.mem_singleton.1 he]⟩
    · rw [List.map_append]
      refine List.nodup_append.2 ⟨h.nodup, List.nodup_singleton _, fun k hk k' hk' heq => hany ?_⟩
      obtain ⟨e, he, rfl⟩ := List.mem_map.1 hk
      rw [List.mem_singleton.1 hk'] at heq
      exact List.any_eq_true.2 ⟨e, he, (keyEq_text (h.text e he) t).2 heq⟩

/-- At most one value is replaced. -/
theorem weightEntries_replace_le {entries : List (Value × Value)} (h : TextKeys entries) (t : Text)
    (v : Value) :
    weightEntries (entries.map fun e => if keyEq e.1 (.text t) then (e.1, v) else e) ≤
      weightEntries entries + (weight v + 2) := by
  induction entries with
  | nil => simp [weightEntries]
  | cons e rest ih =>
    obtain ⟨k, u⟩ := e
    rw [List.map_cons]
    by_cases hk : keyEq k (.text t) = true
    · have hnot : ∀ e ∈ rest, ¬ keyEq e.1 (.text t) = true := by
        intro e he heq
        have hkey := (keyEq_text (h.text _ List.mem_cons_self) t).1 hk
        have hkey' := (keyEq_text (h.text e (List.mem_cons_of_mem _ he)) t).1 heq
        refine (List.nodup_cons.1 h.nodup).1 (List.mem_map.2 ⟨e, he, ?_⟩)
        rw [hkey', hkey]
      have hsame : (rest.map fun e => if keyEq e.1 (.text t) then (e.1, v) else e) = rest := by
        refine (List.map_congr_left fun e he => if_neg (hnot e he)).trans (List.map_id' rest)
      rw [hsame, if_pos hk, weightEntries, weightEntries]
      omega
    · rw [if_neg hk, weightEntries, weightEntries]
      have := ih h.tail
      omega

theorem weightEntries_insert_le {entries : List (Value × Value)} (h : TextKeys entries) (t : Text)
    (v : Value) :
    weightEntries (Value.insert entries (.text t) v) ≤ weightEntries entries + (weight v + 2) := by
  rw [Value.insert]
  split_ifs
  · exact weightEntries_replace_le h t v
  · rw [weightEntries_eq, weightEntries_eq, List.map_append, List.sum_append]
    simp

/-- What is put under texts weighs no more than what it is put together from. -/
theorem weightEntries_ofEntries_le {entries : List (Value × Value)}
    (h : ∀ e ∈ entries, ∃ t, e.1 = .text t) :
    weightEntries (ofEntries entries) ≤ weightEntries entries := by
  suffices hfold : ∀ acc, TextKeys acc →
      weightEntries (entries.foldl (fun acc e => Value.insert acc e.1 e.2) acc) ≤
        weightEntries acc + weightEntries entries by
    have hempty := hfold [] ⟨fun e he => absurd he List.not_mem_nil, List.nodup_nil⟩
    rwa [weightEntries, Nat.zero_add] at hempty
  induction entries with
  | nil => exact fun acc _ => Nat.le_refl _
  | cons e rest ih =>
    intro acc hacc
    obtain ⟨k, v⟩ := e
    obtain ⟨t, rfl⟩ := h _ List.mem_cons_self
    have hrest := ih (fun e he => h e (List.mem_cons_of_mem _ he)) _ (hacc.insert t v)
    have hone := weightEntries_insert_le hacc t v
    rw [List.foldl_cons, weightEntries]
    dsimp only
    omega

theorem weightEntries_nodeEntries_le (kind : NodeKind) (fields attributes : List (String × Value)) :
    weightEntries (nodeEntries kind fields attributes) ≤
      6 + weightFields fields + weightFields attributes := by
  refine (weightEntries_ofEntries_le fun e he => ?_).trans ?_
  · rcases List.mem_cons.1 he with rfl | he
    · exact ⟨_, rfl⟩
    · obtain ⟨f, -, rfl⟩ := List.mem_map.1 he
      exact ⟨_, rfl⟩
  · rw [weightEntries, weightEntries_eq, weightFields_eq, weightFields_eq, Value.ofString, weight]
    · simp only [List.map_append, List.map_map, List.sum_append, Function.comp_def]
      omega
    all_goals simp

/-! ## Costs -/

/-- A bound for the steps that it takes to write a value. -/
def cost (v : Value) : Nat := if isKnown v then weight v - 1 else weight v

theorem cost_le (v : Value) : cost v ≤ weight v := by
  rw [cost]
  split_ifs <;> omega

/-- JSON knows what a value is replaced by. -/
theorem isKnown_of_expand {v r : Value} (h : expand v = .ok r) : isKnown r = true := by
  cases v <;> cases h <;> rfl

theorem cost_expand_lt {v r : Value} (h : expand v = .ok r) : cost r < cost v := by
  cases v with
  | node kind fields attributes =>
    cases h
    have := weightEntries_nodeEntries_le kind fields attributes
    simp only [cost, isKnown, weight, if_true, Bool.false_eq_true, if_false]
    omega
  | set items frozen =>
    cases h
    simp only [cost, isKnown, weight, weightAll_sortedByWritten, if_true, Bool.false_eq_true,
      if_false]
    omega
  | bytes | complex | ellipsis =>
    cases h
    simp only [cost, isKnown, weight, if_true, Bool.false_eq_true, if_false]
    omega
  | _ => cases h

/-! ## By recursion -/

mutual

/-- The JSON text of a value, in which what JSON does not know is replaced. -/
def dumps : Value → Except EncodeFault Text
  | .list items => do return bracketed "[" "]" (← dumpsAll items)
  | .tuple items => do return bracketed "[" "]" (← dumpsAll items)
  | .mapping entries => do return bracketed "\x7b" "\x7d" (← dumpsEntries entries)
  | v =>
    match scalar? v with
    | some t => t
    | none =>
      match _h : expand v with
      | .ok r => dumps r
      | .error f => .error f
termination_by v => cost v
decreasing_by
  all_goals try simp only [cost, isKnown, weight, if_true]
  all_goals first | omega | exact cost_expand_lt _h

/-- The JSON texts of several values. -/
def dumpsAll : List Value → Except EncodeFault (List Text)
  | [] => .ok []
  | v :: rest => do
    let t ← dumps v
    return t :: (← dumpsAll rest)
termination_by items => weightAll items + 1
decreasing_by
  all_goals have := cost_le v
  all_goals simp only [weightAll]
  all_goals omega

/-- The JSON texts of the entries of a mapping. -/
def dumpsEntries : List (Value × Value) → Except EncodeFault (List Text)
  | [] => .ok []
  | (key, v) :: rest => do
    let name ← keyText key
    let t ← dumps v
    return (quote name ++ Text.ofString ": " ++ t) :: (← dumpsEntries rest)
termination_by entries => weightEntries entries + 1
decreasing_by
  all_goals have := cost_le v
  all_goals simp only [weightEntries]
  all_goals omega

end

theorem dumps_other {v : Value} (hlist : ∀ items, v ≠ .list items)
    (htuple : ∀ items, v ≠ .tuple items) (hmapping : ∀ entries, v ≠ .mapping entries) :
    dumps v = match scalar? v with
      | some t => t
      | none =>
        match expand v with
        | .ok r => dumps r
        | .error f => .error f := by
  rw [dumps]
  · cases scalar? v with
    | some t => rfl
    | none =>
      dsimp only
      split <;> rename_i heq <;> rw [heq]
  · exact hlist
  · exact htuple
  · exact hmapping

/-! ## By a loop -/

/-- The loop over a stack gives these pieces until the stack is empty or a value cannot be
written. -/
inductive Emits (fallback : Fallback) : List Frame → List Text → Option EncodeFault → Prop where
  | done : Emits fallback [] [] none
  | piece {t : Text} {rest : List Frame} {ts : List Text} {f : Option EncodeFault} :
      Emits fallback rest ts f → Emits fallback (.piece t :: rest) (t :: ts) f
  | value {v : Value} {frames rest : List Frame} {ts : List Text} {f : Option EncodeFault} :
      expandFrame fallback v = .ok frames → Emits fallback (frames ++ rest) ts f →
      Emits fallback (.value v :: rest) ts f
  | fault {v : Value} {rest : List Frame} {f : EncodeFault} :
      expandFrame fallback v = .error f → Emits fallback (.value v :: rest) [] (some f)

/-- A bound for the steps that it takes to work off a frame. -/
def Frame.cost : Frame → Nat
  | .piece _ => 1
  | .value v => Json.cost v

/-- A bound for the steps that it takes to work off a stack. -/
def stackCost (frames : List Frame) : Nat := (frames.map Frame.cost).sum

theorem stackCost_cons (frame : Frame) (rest : List Frame) :
    stackCost (frame :: rest) = frame.cost + stackCost rest := by
  rw [stackCost, List.map_cons, List.sum_cons, stackCost]

theorem stackCost_append (frames rest : List Frame) :
    stackCost (frames ++ rest) = stackCost frames + stackCost rest := by
  rw [stackCost, List.map_append, List.sum_append, stackCost, stackCost]

theorem stackCost_itemFrames_le (items : List Value) :
    stackCost (itemFrames items) ≤ 1 + weightAll items := by
  induction items with
  | nil => exact Nat.le_refl 1
  | cons v rest ih =>
    have := cost_le v
    rw [itemFrames, stackCost_cons, stackCost_cons, weightAll, Frame.cost, Frame.cost]
    omega

theorem stackCost_listFrames_le (items : List Value) :
    stackCost (listFrames items) ≤ 2 + weightAll items := by
  cases items with
  | nil => exact Nat.le_refl 2
  | cons v rest =>
    have := cost_le v
    have := stackCost_itemFrames_le rest
    rw [listFrames, stackCost_cons, stackCost_cons, weightAll, Frame.cost, Frame.cost]
    omega

theorem exists_of_entryFrames_cons {separator : Text} {key v : Value}
    {rest : List (Value × Value)} {frames : List Frame}
    (h : entryFrames separator ((key, v) :: rest) = .ok frames) :
    ∃ name more, keyText key = .ok name ∧ entryFrames (Text.ofString ", ") rest = .ok more ∧
      frames = .piece (separator ++ quote name ++ Text.ofString ": ") :: .value v :: more := by
  rw [entryFrames] at h
  obtain ⟨name, hname, h⟩ := exists_of_bind h
  obtain ⟨more, hmore, h⟩ := exists_of_bind h
  cases h
  exact ⟨name, more, hname, hmore, rfl⟩

/-- The frames that a value comes to. -/
inductive Unfolds : Value → List Frame → Prop where
  | mapping {entries : List (Value × Value)} {frames : List Frame} :
      entryFrames [] entries = .ok frames →
      Unfolds (.mapping entries) (.piece (Text.ofString "\x7b") :: frames)
  | list (items : List Value) : Unfolds (.list items) (listFrames items)
  | tuple (items : List Value) : Unfolds (.tuple items) (listFrames items)
  | scalar {v : Value} {t : Text} : (∀ entries, v ≠ .mapping entries) → (∀ items, v ≠ .list items) →
      (∀ items, v ≠ .tuple items) → scalar? v = some (.ok t) → Unfolds v [.piece t]
  | replaced {v r : Value} : (∀ entries, v ≠ .mapping entries) → (∀ items, v ≠ .list items) →
      (∀ items, v ≠ .tuple items) → scalar? v = none → expand v = .ok r → Unfolds v [.value r]

theorem unfolds_of_expandFrame {v : Value} {frames : List Frame}
    (h : expandFrame expand v = .ok frames) : Unfolds v frames := by
  unfold expandFrame at h
  split at h
  case h_1 entries =>
    obtain ⟨more, hentries, h⟩ := exists_of_bind h
    cases h
    exact .mapping hentries
  case h_2 items =>
    cases h
    exact .list items
  case h_3 items =>
    cases h
    exact .tuple items
  case h_4 hmapping hlist htuple =>
    rcases hscalar : scalar? v with _ | f | t <;> rw [hscalar] at h
    case some.error => cases h
    case some.ok =>
      cases h
      exact .scalar hmapping hlist htuple hscalar
    case none =>
      obtain ⟨r, hr, h⟩ := exists_of_bind h
      rw [if_pos (isKnown_of_expand hr)] at h
      cases h
      exact .replaced hmapping hlist htuple hscalar hr

theorem stackCost_entryFrames_le {separator : Text} {entries : List (Value × Value)}
    {frames : List Frame} (h : entryFrames separator entries = .ok frames) :
    stackCost frames ≤ 1 + weightEntries entries := by
  induction entries generalizing separator frames with
  | nil =>
    cases h
    exact Nat.le_refl 1
  | cons e rest ih =>
    obtain ⟨key, v⟩ := e
    obtain ⟨name, more, -, hrest, rfl⟩ := exists_of_entryFrames_cons h
    have := cost_le v
    have := ih hrest
    rw [stackCost_cons, stackCost_cons, weightEntries, Frame.cost, Frame.cost]
    omega

theorem stackCost_expandFrame_lt {v : Value} {frames : List Frame}
    (h : expandFrame expand v = .ok frames) : stackCost frames < cost v := by
  cases unfolds_of_expandFrame h with
  | mapping hentries =>
    have := stackCost_entryFrames_le hentries
    simp only [stackCost_cons, Frame.cost, cost, isKnown, weight, if_true]
    omega
  | list items | tuple items =>
    have := stackCost_listFrames_le items
    simp only [cost, isKnown, weight, if_true]
    omega
  | scalar =>
    have := four_le_weight v
    have hcost : 2 < cost v := by
      rw [cost]
      split_ifs <;> omega
    exact Nat.lt_of_lt_of_le (by decide : 1 < 2) (Nat.le_of_lt hcost)
  | replaced _ _ _ _ hr => exact cost_expand_lt hr

/-- With enough steps, the loop comes to its end. -/
theorem exists_emits {fuel : Nat} {frames : List Frame} (h : stackCost frames ≤ fuel)
    (done : List Text) : ∃ ts f, Emits expand frames ts f ∧
      work expand fuel frames done = (ts.reverse ++ done, f) := by
  induction fuel generalizing frames done with
  | zero =>
    cases frames with
    | nil => exact ⟨[], none, .done, rfl⟩
    | cons frame rest =>
      have hpos : 0 < frame.cost := by
        cases frame with
        | piece t => exact Nat.one_pos
        | value v =>
          have := four_le_weight v
          rw [Frame.cost, cost]
          split_ifs <;> omega
      rw [stackCost_cons] at h
      omega
  | succ fuel ih =>
    cases frames with
    | nil => exact ⟨[], none, .done, rfl⟩
    | cons frame rest =>
      rw [stackCost_cons] at h
      cases frame with
      | piece t =>
        rw [Frame.cost] at h
        have hrest : stackCost rest ≤ fuel := by omega
        obtain ⟨ts, f, hemits, hwork⟩ := ih hrest (t :: done)
        exact ⟨t :: ts, f, .piece hemits, by rw [work, hwork]; simp⟩
      | value v =>
        rw [Frame.cost] at h
        cases hexpand : expandFrame expand v with
        | error f => exact ⟨[], some f, .fault hexpand, by rw [work, hexpand]; rfl⟩
        | ok frames =>
          have hlt := stackCost_expandFrame_lt hexpand
          have hnext : stackCost (frames ++ rest) ≤ fuel := by
            rw [stackCost_append]
            omega
          obtain ⟨ts, f, hemits, hwork⟩ := ih hnext done
          exact ⟨ts, f, .value hexpand hemits, by rw [work, hexpand]; exact hwork⟩

/-! ## The same text -/

/-- The text of a stack, by recursion. -/
def dumpsFrames : List Frame → Except EncodeFault Text
  | [] => .ok []
  | .piece t :: rest => (dumpsFrames rest).map (t ++ ·)
  | .value v :: rest => (dumps v).bind fun t => (dumpsFrames rest).map (t ++ ·)

theorem dumpsFrames_append (frames rest : List Frame) :
    dumpsFrames (frames ++ rest) =
      (dumpsFrames frames).bind fun t => (dumpsFrames rest).map (t ++ ·) := by
  induction frames with
  | nil =>
    rw [List.nil_append, dumpsFrames]
    cases dumpsFrames rest <;> rfl
  | cons frame more ih =>
    cases frame with
    | piece t =>
      rw [List.cons_append, dumpsFrames, dumpsFrames, ih]
      cases dumpsFrames more <;> cases dumpsFrames rest <;> simp [Except.map, Except.bind]
    | value v =>
      rw [List.cons_append, dumpsFrames, dumpsFrames, ih]
      cases dumps v <;> cases dumpsFrames more <;> cases dumpsFrames rest <;>
        simp [Except.map, Except.bind]

theorem dumpsFrames_value (v : Value) : dumpsFrames [.value v] = dumps v := by
  rw [dumpsFrames, dumpsFrames]
  cases dumps v <;> simp [Except.map, Except.bind]

/-- Texts with something before the first one and a comma before each other one. -/
def joined (first : Text) : List Text → Text
  | [] => []
  | t :: rest => first ++ t ++ joined (Text.ofString ", ") rest

theorem joined_nil (ts : List Text) : joined [] ts = Text.join (Text.ofString ", ") ts := by
  induction ts with
  | nil => rfl
  | cons t rest ih =>
    cases rest with
    | nil => simp [joined, Text.join]
    | cons s more =>
      rw [Text.join, ← ih, joined, joined, joined]
      · simp
      · simp

theorem dumpsFrames_itemFrames (items : List Value) :
    dumpsFrames (itemFrames items) =
      (dumpsAll items).map fun ts => joined (Text.ofString ", ") ts ++ Text.ofString "]" := by
  induction items with
  | nil =>
    rw [dumpsAll]
    rfl
  | cons v rest ih =>
    rw [itemFrames, dumpsFrames, dumpsFrames, ih, dumpsAll]
    cases dumps v <;> cases dumpsAll rest <;>
      simp [Except.map, Except.bind, bind, pure, Except.pure, joined]

theorem dumpsFrames_listFrames (items : List Value) :
    dumpsFrames (listFrames items) = (dumpsAll items).map (bracketed "[" "]") := by
  cases items with
  | nil =>
    rw [dumpsAll]
    rfl
  | cons v rest =>
    rw [listFrames, dumpsFrames, dumpsFrames, dumpsFrames_itemFrames, dumpsAll]
    cases dumps v <;> cases dumpsAll rest <;>
      simp [Except.map, Except.bind, bind, pure, Except.pure, bracketed, ← joined_nil, joined]

theorem dumpsFrames_entryFrames {separator : Text} {entries : List (Value × Value)}
    {frames : List Frame} (h : entryFrames separator entries = .ok frames) :
    dumpsFrames frames =
      (dumpsEntries entries).map fun ts => joined separator ts ++ Text.ofString "\x7d" := by
  induction entries generalizing separator frames with
  | nil =>
    cases h
    rw [dumpsEntries]
    rfl
  | cons e rest ih =>
    obtain ⟨key, v⟩ := e
    obtain ⟨name, more, hname, hrest, rfl⟩ := exists_of_entryFrames_cons h
    rw [dumpsEntries, hname, dumpsFrames, dumpsFrames, ih hrest]
    cases dumps v <;> cases dumpsEntries rest <;>
      simp [Except.map, Except.bind, bind, pure, Except.pure, joined]

/-- A key that is refused ends the recursion, too. -/
theorem exists_error_dumpsEntries {separator : Text} {entries : List (Value × Value)}
    {f : EncodeFault} (h : entryFrames separator entries = .error f) :
    ∃ g, dumpsEntries entries = .error g := by
  induction entries generalizing separator f with
  | nil => cases h
  | cons e rest ih =>
    obtain ⟨key, v⟩ := e
    rw [entryFrames] at h
    rw [dumpsEntries]
    cases hname : keyText key with
    | error g => exact ⟨g, rfl⟩
    | ok name =>
      cases hrest : entryFrames (Text.ofString ", ") rest with
      | ok more =>
        rw [hname, hrest] at h
        cases h
      | error g =>
        obtain ⟨g', hg'⟩ := ih hrest
        rw [hg']
        cases dumps v with
        | error f' => exact ⟨f', rfl⟩
        | ok t => exact ⟨g', rfl⟩

/-- A value is written by its frames. -/
theorem dumpsFrames_of_expandFrame {v : Value} {frames : List Frame}
    (h : expandFrame expand v = .ok frames) : dumpsFrames frames = dumps v := by
  cases unfolds_of_expandFrame h with
  | @mapping entries more hentries =>
    rw [dumpsFrames, dumpsFrames_entryFrames hentries, dumps]
    cases dumpsEntries entries <;>
      simp [Except.map, bind, Except.bind, pure, Except.pure, bracketed, joined_nil]
  | list items | tuple items =>
    rw [dumpsFrames_listFrames, dumps]
    cases dumpsAll items <;> rfl
  | scalar hmapping hlist htuple hscalar =>
    rw [dumps_other hlist htuple hmapping, hscalar]
    simp [dumpsFrames, Except.map]
  | @replaced _ r hmapping hlist htuple hscalar hr =>
    rw [dumps_other hlist htuple hmapping, hscalar, hr]
    exact dumpsFrames_value r

theorem exists_error_of_expandFrame {v : Value} {f : EncodeFault}
    (h : expandFrame expand v = .error f) : ∃ g, dumps v = .error g := by
  unfold expandFrame at h
  split at h
  case h_1 entries =>
    cases hentries : entryFrames [] entries with
    | error f =>
      obtain ⟨g, hg⟩ := exists_error_dumpsEntries hentries
      exact ⟨g, by rw [dumps, hg]; rfl⟩
    | ok more =>
      rw [hentries] at h
      cases h
  case h_2 => cases h
  case h_3 => cases h
  case h_4 hmapping hlist htuple =>
    rw [dumps_other hlist htuple hmapping]
    rcases hscalar : scalar? v with _ | g | _ <;> rw [hscalar] at h
    case some.error => exact ⟨g, rfl⟩
    case some.ok => cases h
    case none =>
      cases hr : expand v with
      | error g => exact ⟨g, rfl⟩
      | ok r =>
        rw [hr] at h
        change (if isKnown r = true then _ else _) = _ at h
        rw [if_pos (isKnown_of_expand hr)] at h
        cases h

/-- How recursion ends, by how a loop has ended. -/
def Matches (r : Except EncodeFault Text) (ts : List Text) : Option EncodeFault → Prop
  | none => r = .ok ts.flatten
  | some _ => ∃ g, r = .error g

/-- What a loop gives is the text of its stack, unless it ends with a failure. -/
theorem Emits.dumpsFrames_matches {frames : List Frame} {ts : List Text} {f : Option EncodeFault}
    (h : Emits expand frames ts f) : Matches (dumpsFrames frames) ts f := by
  induction h with
  | done => rfl
  | @piece t rest ts f _ ih =>
    cases f with
    | none =>
      rw [dumpsFrames, ih]
      rfl
    | some f =>
      obtain ⟨g, hg⟩ := ih
      exact ⟨g, by rw [dumpsFrames, hg]; rfl⟩
  | @value v frames rest ts f hexpand _ ih =>
    rwa [dumpsFrames_append, dumpsFrames_of_expandFrame hexpand, ← dumpsFrames] at ih
  | @fault v rest f hexpand =>
    obtain ⟨g, hg⟩ := exists_error_of_expandFrame hexpand
    exact ⟨g, by rw [dumpsFrames, hg]; rfl⟩

/-- The loop ends for every value. -/
theorem emits_treeChunks (v : Value) :
    Emits expand [.value v] (treeChunks v).1 (treeChunks v).2 := by
  have hcost : stackCost [.value v] ≤ weight v := by
    rw [stackCost_cons]
    exact cost_le v
  obtain ⟨ts, f, hemits, hwork⟩ := exists_emits hcost []
  have hchunks : treeChunks v = (ts, f) := by
    rw [treeChunks, chunks, hwork]
    simp
  rw [hchunks]
  exact hemits

theorem treeText_ok_iff (v : Value) (t : Text) : treeText v = .ok t ↔ dumps v = .ok t := by
  have hmatches := (emits_treeChunks v).dumpsFrames_matches
  rw [dumpsFrames_value] at hmatches
  rw [treeText]
  revert hmatches
  rcases treeChunks v with ⟨ts, - | f⟩
  · intro hflat
    rw [hflat]
  · rintro ⟨g, hg⟩
    rw [hg]
    exact iff_of_false nofun nofun

/-! ## By recursion with a limit -/

/-- Why recursion with a limit fails. -/
inductive DumpFault where
  | value (f : EncodeFault)
  | tooDeep

/-- The text of an entry of a mapping, whose value is written like this. -/
def entryText (write : Value → Except DumpFault Text) (e : Value × Value) :
    Except DumpFault Text := do
  let name ← (keyText e.1).mapError .value
  let t ← write e.2
  return quote name ++ Text.ofString ": " ++ t

/-- The JSON text of a value, where so many calls may nest.  Each list, tuple and mapping takes one,
and so does the replacement of what JSON does not know. -/
def dumpsWithin (room : Nat) (v : Value) : Except DumpFault Text :=
  match v with
  | .list items | .tuple items =>
    match room with
    | 0 => .error .tooDeep
    | room + 1 => do return bracketed "[" "]" (← items.mapM (dumpsWithin room))
  | .mapping entries =>
    match room with
    | 0 => .error .tooDeep
    | room + 1 => do
      return bracketed "\x7b" "\x7d" (← entries.mapM (entryText (dumpsWithin room)))
  | v =>
    match scalar? v with
    | some t => t.mapError .value
    | none =>
      match expand v with
      | .error f => .error (.value f)
      | .ok r =>
        match room with
        | 0 => .error .tooDeep
        | room + 1 => dumpsWithin room r

mutual

/-- How many calls nest while a value is written by recursion. -/
def levels : Value → Nat
  | .list items => levelsAll items + 1
  | .tuple items => levelsAll items + 1
  | .mapping entries => levelsEntries entries + 1
  | v =>
    match scalar? v with
    | some _ => 0
    | none =>
      match _h : expand v with
      | .ok r => levels r + 1
      | .error _ => 0
termination_by v => cost v
decreasing_by
  all_goals try simp only [cost, isKnown, weight, if_true]
  all_goals first | omega | exact cost_expand_lt _h

def levelsAll : List Value → Nat
  | [] => 0
  | v :: rest => max (levels v) (levelsAll rest)
termination_by items => weightAll items + 1
decreasing_by
  all_goals have := cost_le v
  all_goals simp only [weightAll]
  all_goals omega

def levelsEntries : List (Value × Value) → Nat
  | [] => 0
  | (_, v) :: rest => max (levels v) (levelsEntries rest)
termination_by entries => weightEntries entries + 1
decreasing_by
  all_goals have := cost_le v
  all_goals simp only [weightEntries]
  all_goals omega

end

theorem levels_other {v : Value} (hlist : ∀ items, v ≠ .list items)
    (htuple : ∀ items, v ≠ .tuple items) (hmapping : ∀ entries, v ≠ .mapping entries) :
    levels v = match scalar? v with
      | some _ => 0
      | none =>
        match expand v with
        | .ok r => levels r + 1
        | .error _ => 0 := by
  rw [levels]
  · cases scalar? v with
    | some t => rfl
    | none =>
      dsimp only
      split <;> rename_i heq <;> rw [heq]
  · exact hlist
  · exact htuple
  · exact hmapping

section Limit

variable {room : Nat} {v : Value} {t : Text} {items : List Value} {entries : List (Value × Value)}
  {ts : List Text}

theorem mapError_eq_ok {ε ε' α : Type} {x : Except ε α} {f : ε → ε'} {a : α} :
    x.mapError f = .ok a ↔ x = .ok a := by
  cases x with
  | error e => exact iff_of_false nofun nofun
  | ok b => exact ⟨fun h => by cases h; rfl, fun h => by cases h; rfl⟩

/-- So many calls take away only the texts of values that are deeper. -/
def Limited (room : Nat) : Prop :=
  ∀ v t, dumpsWithin room v = .ok t ↔ dumps v = .ok t ∧ levels v ≤ room

theorem Limited.mapM_eq_ok (h : Limited room) :
    items.mapM (dumpsWithin room) = .ok ts ↔ dumpsAll items = .ok ts ∧ levelsAll items ≤ room := by
  induction items generalizing ts with
  | nil => simp [dumpsAll, levelsAll, pure, Except.pure]
  | cons v rest ih =>
    rw [List.mapM_cons, dumpsAll, levelsAll, Nat.max_le]
    simp only [bind_eq_ok, h v, ih]
    constructor
    · rintro ⟨t, ⟨ht, hroom⟩, more, ⟨hmore, hroom'⟩, ⟨⟩⟩
      exact ⟨⟨t, ht, more, hmore, rfl⟩, hroom, hroom'⟩
    · rintro ⟨⟨t, ht, more, hmore, ⟨⟩⟩, hroom, hroom'⟩
      exact ⟨t, ⟨ht, hroom⟩, more, ⟨hmore, hroom'⟩, rfl⟩

theorem Limited.mapM_entryText_eq_ok (h : Limited room) :
    entries.mapM (entryText (dumpsWithin room)) = .ok ts ↔
      dumpsEntries entries = .ok ts ∧ levelsEntries entries ≤ room := by
  induction entries generalizing ts with
  | nil => simp [dumpsEntries, levelsEntries, pure, Except.pure]
  | cons e rest ih =>
    obtain ⟨key, v⟩ := e
    rw [List.mapM_cons, dumpsEntries, levelsEntries, Nat.max_le, entryText]
    simp only [bind_eq_ok, mapError_eq_ok, h v, ih]
    constructor
    · rintro ⟨_, ⟨name, hname, t, ⟨ht, hroom⟩, ⟨⟩⟩, more, ⟨hmore, hroom'⟩, ⟨⟩⟩
      exact ⟨⟨name, hname, t, ht, more, hmore, rfl⟩, hroom, hroom'⟩
    · rintro ⟨⟨name, hname, t, ht, more, hmore, ⟨⟩⟩, hroom, hroom'⟩
      exact ⟨_, ⟨name, hname, t, ⟨ht, hroom⟩, rfl⟩, more, ⟨hmore, hroom'⟩, rfl⟩

theorem dumpsWithin_other (room : Nat) (hlist : ∀ items, v ≠ .list items)
    (htuple : ∀ items, v ≠ .tuple items) (hmapping : ∀ entries, v ≠ .mapping entries) :
    dumpsWithin room v = match scalar? v with
      | some t => t.mapError .value
      | none =>
        match expand v with
        | .error f => .error (.value f)
        | .ok r =>
          match room with
          | 0 => .error .tooDeep
          | room + 1 => dumpsWithin room r := by
  rw [dumpsWithin.eq_def]
  split
  · exact absurd rfl (hlist _)
  · exact absurd rfl (htuple _)
  · exact absurd rfl (hmapping _)
  · rfl

/-- One more call is enough for one more level. -/
theorem limited_step (hless : ∀ k, room = k + 1 → Limited k) : Limited room := by
  have hother {v : Value} {t : Text} (hlist : ∀ items, v ≠ .list items)
      (htuple : ∀ items, v ≠ .tuple items) (hmapping : ∀ entries, v ≠ .mapping entries) :
      dumpsWithin room v = .ok t ↔ dumps v = .ok t ∧ levels v ≤ room := by
    rw [dumpsWithin_other room hlist htuple hmapping, dumps_other hlist htuple hmapping,
      levels_other hlist htuple hmapping]
    cases scalar? v with
    | some r => simp only [mapError_eq_ok, Nat.zero_le, and_true]
    | none =>
      cases expand v with
      | error f => exact iff_of_false nofun nofun
      | ok r =>
        cases room with
        | zero => exact iff_of_false nofun fun h => Nat.not_succ_le_zero _ h.2
        | succ room => simp only [hless room rfl r t, Nat.add_le_add_iff_right]
  intro v t
  cases v with
  | list items | tuple items =>
    rw [dumpsWithin.eq_def, dumps, levels]
    cases room with
    | zero => exact iff_of_false nofun fun h => Nat.not_succ_le_zero _ h.2
    | succ room =>
      simp only [bind_eq_ok, (hless room rfl).mapM_eq_ok, Nat.add_le_add_iff_right]
      constructor
      · rintro ⟨ts, ⟨hts, hroom⟩, ⟨⟩⟩
        exact ⟨⟨ts, hts, rfl⟩, hroom⟩
      · rintro ⟨⟨ts, hts, ⟨⟩⟩, hroom⟩
        exact ⟨ts, ⟨hts, hroom⟩, rfl⟩
  | mapping entries =>
    rw [dumpsWithin.eq_def, dumps, levels]
    cases room with
    | zero => exact iff_of_false nofun fun h => Nat.not_succ_le_zero _ h.2
    | succ room =>
      simp only [bind_eq_ok, (hless room rfl).mapM_entryText_eq_ok, Nat.add_le_add_iff_right]
      constructor
      · rintro ⟨ts, ⟨hts, hroom⟩, ⟨⟩⟩
        exact ⟨⟨ts, hts, rfl⟩, hroom⟩
      · rintro ⟨⟨ts, hts, ⟨⟩⟩, hroom⟩
        exact ⟨ts, ⟨hts, hroom⟩, rfl⟩
  | _ => exact hother nofun nofun nofun

/-- Recursion with a limit gives the same texts, of the values that are not too deep. -/
theorem limited (room : Nat) : Limited room := by
  induction room with
  | zero => exact limited_step nofun
  | succ room ih => exact limited_step fun k hk => Nat.succ.inj hk ▸ ih

end Limit

/-- The loop ends for every value.  It gives the text that recursion gives, and fails if and only if
recursion does; but with a limit, recursion succeeds only for values that are not too deep. -/
theorem treeText_eq_dumps (v : Value) :
    Emits expand [.value v] (treeChunks v).1 (treeChunks v).2 ∧
      (∀ t, treeText v = .ok t ↔ dumps v = .ok t) ∧
      ∀ room t, dumpsWithin room v = .ok t ↔ treeText v = .ok t ∧ levels v ≤ room := by
  refine ⟨emits_treeChunks v, treeText_ok_iff v, fun room t => ?_⟩
  rw [treeText_ok_iff]
  exact limited room v t

/-- A number in so many lists. -/
def nested : Nat → Value
  | 0 => .int 1
  | n + 1 => .list [nested n]

theorem levels_nested (n : Nat) : levels (nested n) = n := by
  induction n with
  | zero => rw [nested, levels_other (v := .int 1) nofun nofun nofun]; rfl
  | succ n ih => rw [nested, levels, levelsAll, levelsAll, ih, Nat.max_zero]

theorem exists_dumps_nested (n : Nat) : ∃ t, dumps (nested n) = .ok t := by
  induction n with
  | zero => exact ⟨Text.ofString "1", by
    rw [nested, dumps_other (v := .int 1) nofun nofun nofun]
    rfl⟩
  | succ n ih =>
    obtain ⟨t, ht⟩ := ih
    exact ⟨bracketed "[" "]" [t], by rw [nested, dumps, dumpsAll, dumpsAll, ht]; rfl⟩

/-- Of two thousand lists, each in the next one, the loop gives the text, and recursion with a
thousand calls does not. -/
theorem treeText_nested : ∃ t, treeText (nested 2000) = .ok t ∧
    ∀ t', dumpsWithin 1000 (nested 2000) ≠ .ok t' := by
  obtain ⟨t, ht⟩ := exists_dumps_nested 2000
  refine ⟨t, (treeText_ok_iff _ t).2 ht, fun t' ht' => ?_⟩
  have hlevels := ((limited 1000 _ t').1 ht').2
  rw [levels_nested] at hlevels
  omega

end SourceDocs.Json

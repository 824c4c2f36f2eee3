import SourceDocs.Proofs.Json.Reading

/-!
# How deep the reader goes

`overflows room s` says that the reader of `s` comes to lists and objects that nest deeper than
`room`.  If it does not, it reads what `read?` reads, which has room for everything.
-/

namespace SourceDocs.Json

/-! ## Readings that agree -/

section

variable {α β : Type}

/-- Two readings agree, unless the first one goes too deep. -/
def Agree (r r' : Except ReadFault α) : Prop := r = .error .tooDeep ∨ r = r'

theorem Agree.rfl {r : Except ReadFault α} : Agree r r := .inr (Eq.refl r)

theorem Agree.bind {r r' : Except ReadFault α} {f f' : α → Except ReadFault β} (h : Agree r r')
    (hf : ∀ a, Agree (f a) (f' a)) : Agree (r >>= f) (r' >>= f') := by
  rcases h with rfl | rfl
  · exact .inl (Eq.refl _)
  · cases r with
    | error e => exact .rfl
    | ok a => exact hf a

theorem bind_ne_tooDeep {r : Except ReadFault α} {f : α → Except ReadFault β}
    (h : r ≠ .error .tooDeep) (hf : ∀ a, f a ≠ .error .tooDeep) : r >>= f ≠ .error .tooDeep := by
  cases r with
  | error e => exact fun he => h (congrArg Except.error (Except.error.inj he))
  | ok a => exact hf a

theorem orMalformed_ne_tooDeep (o : Option α) : orMalformed o ≠ .error .tooDeep := by
  cases o <;> exact nofun

end

/-! ## More room -/

/-- With so many steps, a reader with more room agrees with one that has less. -/
structure AgreesAt (fuel : Nat) : Prop where
  value : ∀ room more cs, room ≤ more → Agree (readValue fuel room cs) (readValue fuel more cs)
  items : ∀ room more done cs, room ≤ more →
    Agree (readItems fuel room done cs) (readItems fuel more done cs)
  members : ∀ room more done cs, room ≤ more →
    Agree (readMembers fuel room done cs) (readMembers fuel more done cs)

section

variable {fuel room more : Nat}

theorem AgreesAt.readValue (hless : AgreesAt fuel) (h : room ≤ more) (cs : List Char) :
    Agree (readValue (fuel + 1) room cs) (readValue (fuel + 1) more cs) := by
  rw [readValue.eq_def (fuel + 1) room, readValue.eq_def (fuel + 1) more]
  dsimp only
  split
  · exact .rfl
  · cases room with
    | zero => exact .inl rfl
    | succ room =>
      obtain ⟨more, rfl⟩ : ∃ k, more = k + 1 := ⟨more - 1, by omega⟩
      dsimp only
      split
      · exact .rfl
      · exact hless.members room more _ _ (by omega)
  · cases room with
    | zero => exact .inl rfl
    | succ room =>
      obtain ⟨more, rfl⟩ : ∃ k, more = k + 1 := ⟨more - 1, by omega⟩
      dsimp only
      split
      · exact .rfl
      · exact hless.items room more _ _ (by omega)
  · exact .rfl

theorem AgreesAt.readItems (hless : AgreesAt fuel) (h : room ≤ more) (done : List Value)
    (cs : List Char) :
    Agree (readItems (fuel + 1) room done cs) (readItems (fuel + 1) more done cs) := by
  rw [Json.readItems, Json.readItems]
  refine (hless.value room more cs h).bind fun read => ?_
  obtain ⟨v, rest⟩ := read
  dsimp only
  split
  · exact hless.items room more _ _ h
  · exact .rfl
  · exact .rfl

theorem AgreesAt.readMembers (hless : AgreesAt fuel) (h : room ≤ more)
    (done : List (Value × Value)) (cs : List Char) :
    Agree (readMembers (fuel + 1) room done cs) (readMembers (fuel + 1) more done cs) := by
  rw [readMembers.eq_def (fuel + 1) room, readMembers.eq_def (fuel + 1) more]
  dsimp only
  split
  · refine Agree.rfl.bind fun read => ?_
    obtain ⟨key, rest⟩ := read
    dsimp only
    split
    · refine (hless.value room more _ h).bind fun read => ?_
      obtain ⟨v, rest⟩ := read
      dsimp only
      split
      · exact hless.members room more _ _ h
      · exact .rfl
      · exact .rfl
    · exact .rfl
  · exact .rfl

end

theorem agreesAt (fuel : Nat) : AgreesAt fuel := by
  induction fuel with
  | zero => exact ⟨fun _ _ _ _ => .rfl, fun _ _ _ _ _ => .rfl, fun _ _ _ _ _ => .rfl⟩
  | succ fuel ih =>
    exact ⟨fun _ _ cs h => ih.readValue h cs, fun _ _ done cs h => ih.readItems h done cs,
      fun _ _ done cs h => ih.readMembers h done cs⟩

/-! ## Enough room -/

/-- Every list and every object that is opened takes a step. -/
theorem read_ne_tooDeep (fuel : Nat) :
    (∀ room cs, fuel ≤ room → readValue fuel room cs ≠ .error .tooDeep) ∧
    (∀ room done cs, fuel ≤ room → readItems fuel room done cs ≠ .error .tooDeep) ∧
    ∀ room done cs, fuel ≤ room → readMembers fuel room done cs ≠ .error .tooDeep := by
  induction fuel with
  | zero =>
    refine ⟨fun room cs _ => ?_, fun room done cs _ => ?_, fun room done cs _ => ?_⟩ <;>
      exact fun heq => by cases heq
  | succ fuel ih =>
    obtain ⟨hvalue, hitems, hmembers⟩ := ih
    refine ⟨fun room cs h => ?_, fun room done cs h => ?_, fun room done cs h => ?_⟩
    · obtain ⟨room, rfl⟩ : ∃ k, room = k + 1 := ⟨room - 1, by omega⟩
      rw [readValue.eq_def]
      dsimp only
      split
      · exact orMalformed_ne_tooDeep _
      · split
        · exact fun heq => by cases heq
        · exact hmembers room _ _ (by omega)
      · split
        · exact fun heq => by cases heq
        · exact hitems room _ _ (by omega)
      · exact orMalformed_ne_tooDeep _
    · rw [readItems]
      refine bind_ne_tooDeep (hvalue room cs (by omega)) fun read => ?_
      obtain ⟨v, rest⟩ := read
      dsimp only
      split
      · exact hitems room _ _ (by omega)
      · exact fun heq => by cases heq
      · exact fun heq => by cases heq
    · rw [readMembers.eq_def]
      dsimp only
      split
      · refine bind_ne_tooDeep (orMalformed_ne_tooDeep _) fun read => ?_
        obtain ⟨key, rest⟩ := read
        dsimp only
        split
        · refine bind_ne_tooDeep (hvalue room _ (by omega)) fun read => ?_
          obtain ⟨v, rest⟩ := read
          dsimp only
          split
          · exact hmembers room _ _ (by omega)
          · exact fun heq => by cases heq
          · exact fun heq => by cases heq
        · exact fun heq => by cases heq
      · exact fun heq => by cases heq

/-! ## Whole texts -/

/-- Whether the reader comes to lists and objects that nest deeper than this. -/
def overflows (room : Nat) (s : List Char) : Bool :=
  match Json.read room s with
  | .error .tooDeep => true
  | _ => false

theorem overflows_iff {room : Nat} {s : List Char} :
    overflows room s ↔ Json.read room s = .error .tooDeep := by
  unfold overflows
  split
  · rename_i heq
    exact iff_of_true rfl heq
  · rename_i hne
    exact iff_of_false Bool.false_ne_true hne

theorem agree_read_more {room more : Nat} (h : room ≤ more) (s : List Char) :
    Agree (Json.read room s) (Json.read more s) :=
  ((agreesAt (fuelFor s)).value room more (skipBlank s) h).bind fun _ => .rfl

/-- What needs more room than there is needs more than less. -/
theorem overflows_of_le {room more : Nat} {s : List Char} (h : overflows more s)
    (hroom : room ≤ more) : overflows room s := by
  rw [overflows_iff] at h ⊢
  rcases agree_read_more hroom s with hdeep | heq
  · exact hdeep
  · exact heq.trans h

/-- No text needs more room than it has steps. -/
theorem overflows_eq_false {room : Nat} {s : List Char} (h : fuelFor s ≤ room) :
    overflows room s = false := by
  rw [← Bool.not_eq_true, overflows_iff]
  exact bind_ne_tooDeep ((read_ne_tooDeep (fuelFor s)).1 room (skipBlank s) h) fun (v, rest) => by
    dsimp only
    split <;> exact nofun

/-- With room for everything, nothing but the form of a text is at fault. -/
theorem read_fuelFor (s : List Char) : Json.read (fuelFor s) s = orMalformed (read? s) := by
  have hfits := overflows_eq_false (Nat.le_refl (fuelFor s))
  rw [read?]
  unfold overflows at hfits
  split at hfits
  · cases hfits
  · rename_i hne
    cases hread : Json.read (fuelFor s) s with
    | ok v => rfl
    | error e =>
      cases e with
      | malformed => rfl
      | tooDeep => exact absurd hread hne

/-- A text that does not go too deep is read as it is without a limit. -/
theorem read_of_fits {room : Nat} {s : List Char} (h : overflows room s = false) :
    Json.read room s = orMalformed (read? s) := by
  rw [← Bool.not_eq_true, overflows_iff] at h
  rw [← read_fuelFor]
  rcases Nat.le_total room (fuelFor s) with hle | hle
  · exact (agree_read_more hle s).resolve_left h
  · refine ((agree_read_more hle s).resolve_left fun hdeep => ?_).symm
    have hfits := overflows_eq_false (Nat.le_refl (fuelFor s))
    rw [overflows_iff.2 hdeep] at hfits
    cases hfits

/-! ## Brackets that nest -/

theorem readItems_error {fuel room : Nat} {cs : List Char} {e : ReadFault}
    (h : readValue fuel room cs = .error e) (done : List Value) :
    readItems (fuel + 1) room done cs = .error e := by
  rw [readItems, h]
  rfl

theorem readValue_bracket (n fuel room : Nat) (cs : List Char) :
    readValue (fuel + 1) (room + 1) (List.replicate (n + 2) '[' ++ cs) =
      readItems fuel room [] (List.replicate (n + 1) '[' ++ cs) :=
  readValue_list (skipBlank_of_ne rfl _) (by decide)

theorem readValue_brackets (fuel : Nat) {n room : Nat} (hroom : room < n) (hfuel : 2 * room < fuel)
    (cs : List Char) : readValue fuel room (List.replicate n '[' ++ cs) = .error .tooDeep := by
  induction room generalizing n fuel with
  | zero =>
    obtain ⟨n, rfl⟩ : ∃ k, n = k + 1 := ⟨n - 1, by omega⟩
    obtain ⟨fuel, rfl⟩ : ∃ k, fuel = k + 1 := ⟨fuel - 1, by omega⟩
    rfl
  | succ room ih =>
    obtain ⟨n, rfl⟩ : ∃ k, n = k + 2 := ⟨n - 2, by omega⟩
    obtain ⟨fuel, rfl⟩ : ∃ k, fuel = k + 2 := ⟨fuel - 2, by omega⟩
    rw [readValue_bracket]
    exact readItems_error (ih _ (by omega) (by omega)) []

theorem skipBlank_brackets (n : Nat) : skipBlank (List.replicate n '[') = List.replicate n '[' := by
  cases n with
  | zero => rfl
  | succ n => exact skipBlank_of_ne rfl _

/-- More opening brackets than there is room for go too deep. -/
theorem overflows_brackets {n room : Nat} (h : room < n) :
    overflows room (List.replicate n '[') := by
  have hread := readValue_brackets (fuelFor (List.replicate n '[')) h
    (by rw [fuelFor, List.length_replicate]; omega) []
  rw [List.append_nil] at hread
  rw [overflows_iff, Json.read, skipBlank_brackets, hread]
  rfl

theorem readValue_unclosed (n fuel room : Nat) :
    ∃ e, readValue fuel room (List.replicate n '[') = .error e := by
  induction n generalizing fuel room with
  | zero => cases fuel <;> exact ⟨_, rfl⟩
  | succ n ih =>
    rcases fuel with _ | _ | fuel <;> rcases room with _ | room
    · exact ⟨_, rfl⟩
    · exact ⟨_, rfl⟩
    · exact ⟨_, rfl⟩
    · cases n <;> exact ⟨_, rfl⟩
    · exact ⟨_, rfl⟩
    · obtain ⟨e, he⟩ := ih fuel room
      refine ⟨e, ?_⟩
      cases n with
      | zero => exact readItems_error he []
      | succ n =>
        have hopen := readValue_bracket n (fuel + 1) room []
        rw [List.append_nil, List.append_nil] at hopen
        exact hopen.trans (readItems_error he [])

/-- Brackets that nothing closes are no JSON. -/
theorem read?_unclosed (n : Nat) : read? (List.replicate n '[') = none := by
  obtain ⟨e, he⟩ := readValue_unclosed n (fuelFor (List.replicate n '['))
    (fuelFor (List.replicate n '['))
  rw [read?, Json.read, skipBlank_brackets, he]
  rfl

end SourceDocs.Json

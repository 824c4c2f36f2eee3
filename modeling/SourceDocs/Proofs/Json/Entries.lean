import SourceDocs.Proofs.Json.Recursive

/-!
# Entries under texts

Entries whose keys are different texts (`TextKeys`) stay as they are when they are put into a
mapping one after the other, and each of them is found under its key.
-/

namespace SourceDocs.Json

open Value

theorem insert_new {entries : List (Value × Value)} {key : Text} (v : Value)
    (h : TextKeys (entries ++ [(.text key, v)])) :
    Value.insert entries (.text key) v = entries ++ [(.text key, v)] := by
  rw [Value.insert, if_neg]
  rintro hany
  obtain ⟨e, he, heq⟩ := List.any_eq_true.1 hany
  have hkey := (keyEq_text (h.text e (List.mem_append_left _ he)) key).1 heq
  have hnodup := h.nodup
  rw [List.map_append, List.nodup_append] at hnodup
  exact hnodup.2.2 e.1 (List.mem_map_of_mem he) (.text key) (by simp) hkey

theorem TextKeys.init {entries rest : List (Value × Value)} (h : TextKeys (entries ++ rest)) :
    TextKeys entries := by
  refine ⟨fun e he => h.text e (List.mem_append_left _ he), ?_⟩
  have hnodup := h.nodup
  rw [List.map_append] at hnodup
  exact hnodup.of_append_left

/-- Entries under different texts are put one behind the other. -/
theorem foldl_insert_eq {acc entries : List (Value × Value)} (h : TextKeys (acc ++ entries)) :
    entries.foldl (fun acc e => Value.insert acc e.1 e.2) acc = acc ++ entries := by
  induction entries generalizing acc with
  | nil => rw [List.foldl_nil, List.append_nil]
  | cons e rest ih =>
    obtain ⟨key, v⟩ := e
    obtain ⟨t, rfl⟩ : ∃ t, key = .text t := h.text (key, v) (by simp)
    rw [List.append_cons] at h ⊢
    rw [List.foldl_cons, insert_new v h.init, ih h]

theorem ofEntries_eq {entries : List (Value × Value)} (h : TextKeys entries) :
    ofEntries entries = entries := foldl_insert_eq h

/-- What stands under a text is replaced by what comes next under it. -/
theorem ofEntries_replace (key : Text) (u v : Value) (rest : List (Value × Value)) :
    ofEntries ((.text key, u) :: (.text key, v) :: rest) = ofEntries ((.text key, v) :: rest) := by
  have hsame : keyEq (.text key) (.text key) = true := (keyEq_text ⟨key, rfl⟩ key).2 rfl
  simp [ofEntries, Value.insert, hsame]

theorem textKeys_foldl {acc entries : List (Value × Value)} (hacc : TextKeys acc)
    (h : ∀ e ∈ entries, ∃ t, e.1 = .text t) :
    TextKeys (entries.foldl (fun acc e => Value.insert acc e.1 e.2) acc) := by
  induction entries generalizing acc with
  | nil => exact hacc
  | cons e rest ih =>
    obtain ⟨key, v⟩ := e
    obtain ⟨t, rfl⟩ : ∃ t, key = .text t := h (key, v) List.mem_cons_self
    exact ih (hacc.insert t v) fun e he => h e (List.mem_cons_of_mem _ he)

theorem ofString_injective : Function.Injective Value.ofString := by
  intro s t h
  have hchars : s.toList.map CodePoint.ofChar = t.toList.map CodePoint.ofChar :=
    Value.text.inj h
  have hinj : Function.Injective CodePoint.ofChar := fun c d hcd => by
    have hnat : (CodePoint.ofChar c).val = (CodePoint.ofChar d).val := by rw [hcd]
    exact Char.toNat_inj.1 hnat
  exact String.toList_injective (List.map_injective_iff.2 hinj hchars)

theorem lookupText_map (entries : List (Value × Value)) (f : Value → Value) (name : String) :
    Value.lookupText (entries.map fun e => (e.1, f e.2)) name =
      (Value.lookupText entries name).map f := by
  rw [Value.lookupText, Value.lookupText, Value.lookup, Value.lookup, List.find?_map,
    Option.map_map, Option.map_map]
  rfl

/-- What stands under a text is found there. -/
theorem TextKeys.lookupText_eq {entries : List (Value × Value)} (h : TextKeys entries)
    {name : String} {v : Value} (hmem : (Value.ofString name, v) ∈ entries) :
    Value.lookupText entries name = some v := by
  induction entries with
  | nil => cases hmem
  | cons e rest ih =>
    have hkey := keyEq_text (h.text e List.mem_cons_self) (Text.ofString name)
    rw [Value.lookupText, Value.lookup, Value.ofString]
    rcases List.mem_cons.1 hmem with rfl | hmem
    · rw [List.find?_cons, hkey.2 rfl]
      rfl
    · have hne : e.1 ≠ Value.ofString name := fun heq =>
        (List.nodup_cons.1 h.nodup).1 (heq ▸ List.mem_map_of_mem hmem)
      rw [List.find?_cons, Bool.eq_false_iff.2 fun heq => hne (hkey.1 heq)]
      exact ih h.tail hmem

end SourceDocs.Json

import SourceDocs.Plugin.Loading
import SourceDocs.Proofs.Action
import SourceDocs.Proofs.Run.Sample

/-!
# Failures of loading

Whatever keeps a plugin from being loaded should be a plugin fault.  What an entry point does is
covered by that, and so are modules that cannot be imported, missing attributes and things without
hooks (`Plugin.Refuses`).  A degenerate module name, a module that crashes, a type or a factory that
fails, and a look-up or a listing that fails for another reason are not (`Plugin.Escapes`): their
failures reach the caller as they are.
`Plugin.load_outcome` says that there are no others.
-/

namespace SourceDocs

open SourceDocs.Action

namespace PluginSource

variable {s : PluginSource} {name moduleName wanted : Text}

/-- The first entry point with a name comes to this when it is loaded. -/
def Offers (s : PluginSource) (name : Text) (r : Except Cause PluginTarget) : Prop :=
  ∃ entries, s.entryPoints = .ok entries ∧ entries.lookup name = some r

/-- No entry point says what a name means, so it names a module, and what stands behind the first
colon an attribute of it. -/
structure Imports (s : PluginSource) (name moduleName wanted : Text) : Prop where
  entryPoint : ∃ entries, s.entryPoints = .ok entries ∧
    ∀ r, entries.lookup name = some r → r = .ok .nothing
  cut : cutAtColon name = (moduleName, wanted)

/-- Names that can be those of modules: they are not empty and do not begin with a dot. -/
def IsModuleName (moduleName : Text) : Prop :=
  moduleName ≠ [] ∧ moduleName.head? ≠ some (CodePoint.ofChar '.')

/-- What the name of a plugin leads to. -/
inductive Finds (s : PluginSource) (name : Text) : PluginTarget → Prop where
  | entryPoint {t : PluginTarget} :
    s.Offers name (.ok t) → t ≠ .nothing → Finds s name t
  | ofModule {moduleName : Text} {m : PluginModule} :
    s.Imports name moduleName [] → IsModuleName moduleName → s.importModule moduleName = .ok m →
      Finds s name (.ofModule m.plugin)
  | ofAttribute {moduleName wanted : Text} {m : PluginModule} {t : PluginTarget} :
    s.Imports name moduleName wanted → IsModuleName moduleName →
      s.importModule moduleName = .ok m → wanted ≠ [] → m.lookUp wanted = .ok t → Finds s name t

theorem mapError_entryPoints {entries : List (Text × Except Cause PluginTarget)}
    (h : s.entryPoints = .ok entries) : s.entryPoints.mapError Failure.raised = .ok entries := by
  rw [h]
  rfl

/-- What loading the first entry point with a name comes to. -/
theorem loadEntryPoint_of_offers {r : Except Cause PluginTarget} (h : s.Offers name r) :
    s.loadEntryPoint name = r.mapError fun c => .plugin (.entryPoint name c) := by
  obtain ⟨entries, hentries, hr⟩ := h
  rw [loadEntryPoint, mapError_entryPoints hentries]
  simp only [bind, Except.bind, hr]
  cases r <;> rfl

theorem loadEntryPoint_of_imports (h : s.Imports name moduleName wanted) :
    s.loadEntryPoint name = .ok .nothing := by
  obtain ⟨entries, hentries, hnothing⟩ := h.entryPoint
  cases hr : entries.lookup name with
  | none =>
    rw [loadEntryPoint, mapError_entryPoints hentries]
    simp only [bind, Except.bind, hr]
    rfl
  | some r =>
    rw [loadEntryPoint_of_offers ⟨entries, hentries, hr⟩, hnothing r hr]
    rfl

theorem find_of_imports (h : s.Imports name moduleName wanted) :
    s.find name = s.importTarget name := by
  rw [find, loadEntryPoint_of_imports h]
  rfl

/-- A name that is no entry point leads where its module does. -/
theorem importTarget_of_imports (h : s.Imports name moduleName wanted) :
    s.importTarget name = (s.importNamed name moduleName).bind fun m =>
      if wanted.isEmpty then .ok (.ofModule m.plugin)
      else match m.lookUp wanted with
        | .ok t => .ok t
        | .error (.misuse .missingAttribute) => .error (.plugin (.noAttribute name wanted))
        | .error c => .error (.raised c) := by
  rw [importTarget, h.cut]
  rfl

theorem importNamed_of_isModuleName (h : IsModuleName moduleName) :
    s.importNamed name moduleName =
      match s.importModule moduleName with
      | .ok m => .ok m
      | .error (.load f) => .error (.plugin (.notImportable name (.load f)))
      | .error c => .error (.raised c) := by
  have hne : ¬ moduleName.isEmpty = true := by simpa using h.1
  exact (if_neg hne).trans (if_neg h.2)

theorem Finds.find {t : PluginTarget} (h : s.Finds name t) : s.find name = .ok t := by
  cases h with
  | entryPoint hoffers hne =>
    rw [PluginSource.find, loadEntryPoint_of_offers hoffers]
    cases t with
    | nothing => exact absurd rfl hne
    | _ => rfl
  | ofModule himports hname hm =>
    rw [find_of_imports himports, importTarget_of_imports himports,
      importNamed_of_isModuleName hname, hm]
    rfl
  | ofAttribute himports hname hm hwanted ht =>
    rw [find_of_imports himports, importTarget_of_imports himports,
      importNamed_of_isModuleName hname, hm]
    simp [Except.bind, hwanted, ht]

end PluginSource

/-- What a target calls with the options to get a plugin. -/
inductive PluginTarget.Calls : PluginTarget → PluginMaker → Prop where
  | ofType {make : PluginMaker} : Calls (.ofType make) make
  | thing {p : Plugin} {make : PluginMaker} :
    p.hasHooks = .ok false → Calls (.thing p (some make)) make

namespace Plugin

open PluginSource

/-- Why a plugin is not loaded, told as a plugin fault. -/
inductive Refuses (s : PluginSource) (spec : PluginSpec) (w : World) : PluginFault → Prop where
  | entryPoint {c : Cause} :
    s.Offers spec.name (.error c) → Refuses s spec w (.entryPoint spec.name c)
  | notImportable {moduleName wanted : Text} {f : ImportFault} :
    s.Imports spec.name moduleName wanted → IsModuleName moduleName →
      s.importModule moduleName = .error (.load f) →
      Refuses s spec w (.notImportable spec.name (.load f))
  | noAttribute {moduleName wanted : Text} {m : PluginModule} :
    s.Imports spec.name moduleName wanted → IsModuleName moduleName →
      s.importModule moduleName = .ok m → wanted ≠ [] →
      m.lookUp wanted = .error (.misuse .missingAttribute) →
      Refuses s spec w (.noAttribute spec.name wanted)
  | nothing : s.Finds spec.name .nothing → Refuses s spec w (.noHook spec.name)
  | noMaker {p : Plugin} :
    s.Finds spec.name (.thing p none) → p.hasHooks = .ok false →
      Refuses s spec w (.noHook spec.name)
  | useless {p made : Plugin} {make : PluginMaker} {w' : World} :
    s.Finds spec.name (.thing p (some make)) → p.hasHooks = .ok false →
      (make spec.option).runIn w = (.ok made, w') → made.hasHooks = .ok false →
      Refuses s spec w (.noHook spec.name)

/-- Why a plugin is not loaded, where the failure is passed on as it is. -/
inductive Escapes (s : PluginSource) (spec : PluginSpec) (w : World) : Failure → Prop where
  | unlisted {c : Cause} : s.entryPoints = .error c → Escapes s spec w (.raised c)
  | nameless {wanted : Text} :
    s.Imports spec.name [] wanted → Escapes s spec w (.raised (.misuse .badValue))
  | relative {rest wanted : Text} :
    s.Imports spec.name (CodePoint.ofChar '.' :: rest) wanted →
      Escapes s spec w (.raised (.misuse .wrongType))
  | crash {moduleName wanted : Text} {c : Cause} :
    s.Imports spec.name moduleName wanted → IsModuleName moduleName →
      s.importModule moduleName = .error c → (∀ f, c ≠ .load f) → Escapes s spec w (.raised c)
  | lookUp {moduleName wanted : Text} {m : PluginModule} {c : Cause} :
    s.Imports spec.name moduleName wanted → IsModuleName moduleName →
      s.importModule moduleName = .ok m → wanted ≠ [] → m.lookUp wanted = .error c →
      c ≠ .misuse .missingAttribute → Escapes s spec w (.raised c)
  | hooks {p : Plugin} {make : Option PluginMaker} {f : Failure} :
    s.Finds spec.name (.thing p make) → p.hasHooks = .error f → Escapes s spec w f
  | making {t : PluginTarget} {make : PluginMaker} {f : Failure} {w' : World} :
    s.Finds spec.name t → t.Calls make → (make spec.option).runIn w = (.error f, w') →
      Escapes s spec w f
  | madeHooks {p made : Plugin} {make : PluginMaker} {f : Failure} {w' : World} :
    s.Finds spec.name (.thing p (some make)) → p.hasHooks = .ok false →
      (make spec.option).runIn w = (.ok made, w') → made.hasHooks = .error f → Escapes s spec w f

variable {s : PluginSource} {spec : PluginSpec} {w : World} {t : PluginTarget} {f : Failure}

theorem load_of_finds (h : s.Finds spec.name t) : load s spec = ofTarget spec t := by
  rw [load, h.find]
  rfl

theorem load_of_imports {moduleName wanted : Text} (h : s.Imports spec.name moduleName wanted)
    (hf : s.importTarget spec.name = .error f) : (load s spec).runIn w = (.error f, w) := by
  rw [load, find_of_imports h, hf]
  rfl

/-- A thing is looked at first, whether or not it can be called. -/
theorem runIn_ofTarget_hooks {p : Plugin} {f : Failure} (hp : p.hasHooks = .error f)
    (make : Option PluginMaker) (w : World) :
    (ofTarget spec (.thing p make)).runIn w = (.error f, w) := by
  cases make <;> rw [ofTarget, hp] <;> rfl

theorem runIn_ofTarget_plugin {p : Plugin} (hp : p.hasHooks = .ok true)
    (make : Option PluginMaker) (w : World) :
    (ofTarget spec (.thing p make)).runIn w = (.ok p, w) := by
  cases make <;> rw [ofTarget, hp] <;> rfl

/-- A thing without hooks is called with the options, if it can be. -/
theorem ofTarget_thing {p : Plugin} (hp : p.hasHooks = .ok false) (make : PluginMaker) :
    ofTarget spec (.thing p (some make)) = (do
      let made ← make spec.option
      if ← made.hasHooks then return made else throw (.plugin (.noHook spec.name))) := by
  rw [ofTarget, hp]
  rfl

/-- A thing that is called gives a plugin if what it makes has hooks. -/
theorem runIn_ofTarget_made {p made : Plugin} {make : PluginMaker} {w' : World}
    (hp : p.hasHooks = .ok false) (hmake : (make spec.option).runIn w = (.ok made, w')) :
    (ofTarget spec (.thing p (some make))).runIn w =
      (made.hasHooks.bind fun b => if b then .ok made else .error (.plugin (.noHook spec.name)),
        w') := by
  rw [ofTarget_thing hp, runIn_bind_ok hmake]
  rcases made.hasHooks with f | _ | _ <;> rfl

theorem load_of_refuses {g : PluginFault} (h : Refuses s spec w g) :
    ((load s spec).runIn w).1 = .error (.plugin g) := by
  cases h with
  | entryPoint hoffers =>
    rw [load, PluginSource.find, loadEntryPoint_of_offers hoffers]
    rfl
  | notImportable himports hname hm =>
    rw [load_of_imports himports]
    rw [importTarget_of_imports himports, importNamed_of_isModuleName hname, hm]
    rfl
  | noAttribute himports hname hm hwanted hnone =>
    rw [load_of_imports himports]
    rw [importTarget_of_imports himports, importNamed_of_isModuleName hname, hm]
    simp [Except.bind, hwanted, hnone]
  | nothing hfinds =>
    rw [load_of_finds hfinds]
    rfl
  | noMaker hfinds hp =>
    rw [load_of_finds hfinds, ofTarget, hp]
    rfl
  | useless hfinds hp hmake hmade =>
    rw [load_of_finds hfinds, runIn_ofTarget_made hp hmake, hmade]
    rfl

theorem load_of_escapes (h : Escapes s spec w f) : ((load s spec).runIn w).1 = .error f := by
  cases h with
  | unlisted hentries =>
    rw [load, PluginSource.find, loadEntryPoint, hentries]
    rfl
  | nameless himports =>
    rw [load_of_imports himports]
    rw [importTarget_of_imports himports]
    rfl
  | relative himports =>
    rw [load_of_imports himports]
    rw [importTarget_of_imports himports]
    rfl
  | @crash moduleName wanted c himports hname hm hne =>
    rw [load_of_imports himports]
    rw [importTarget_of_imports himports, importNamed_of_isModuleName hname, hm]
    cases c with
    | load f => exact absurd rfl (hne f)
    | _ => rfl
  | @lookUp moduleName wanted m c himports hname hm hwanted hc hne =>
    have htarget : s.importTarget spec.name = .error (.raised c) := by
      rw [importTarget_of_imports himports, importNamed_of_isModuleName hname, hm]
      simp only [Except.bind, List.isEmpty_iff, hwanted, if_false, hc]
    rw [load_of_imports himports htarget]
  | hooks hfinds hp =>
    rw [load_of_finds hfinds, runIn_ofTarget_hooks hp]
  | making hfinds hcalls hmake =>
    rw [load_of_finds hfinds]
    cases hcalls with
    | ofType => rw [ofTarget, hmake]
    | thing hp => rw [ofTarget_thing hp, runIn_bind_error hmake]
  | madeHooks hfinds hp hmake hmade =>
    rw [load_of_finds hfinds, runIn_ofTarget_made hp hmake, hmade]
    rfl

/-- What is found is a plugin or makes one, or else the failure is among those listed. -/
theorem load_cases_of_finds (h : s.Finds spec.name t) (w : World) :
    (∃ p w', (load s spec).runIn w = (.ok p, w')) ∨ (∃ g, Refuses s spec w g) ∨
      ∃ f, Escapes s spec w f := by
  rw [load_of_finds h]
  cases t with
  | nothing => exact .inr (.inl ⟨_, .nothing h⟩)
  | ofModule p => exact .inl ⟨p, w, rfl⟩
  | ofType make =>
    rcases hmake : (make spec.option).runIn w with ⟨f | p, w'⟩
    · exact .inr (.inr ⟨f, .making h .ofType hmake⟩)
    · exact .inl ⟨p, w', hmake⟩
  | thing p make =>
    rcases hp : p.hasHooks with f | _ | _
    · exact .inr (.inr ⟨f, .hooks h hp⟩)
    · cases make with
      | none => exact .inr (.inl ⟨_, .noMaker h hp⟩)
      | some make =>
        rcases hmake : (make spec.option).runIn w with ⟨f | made, w'⟩
        · exact .inr (.inr ⟨f, .making h (.thing hp) hmake⟩)
        · rcases hmade : made.hasHooks with f | _ | _
          · exact .inr (.inr ⟨f, .madeHooks h hp hmake hmade⟩)
          · exact .inr (.inl ⟨_, .useless h hp hmake hmade⟩)
          · exact .inl ⟨made, w', by rw [runIn_ofTarget_made hp hmake, hmade]; rfl⟩
    · exact .inl ⟨p, w, runIn_ofTarget_plugin hp make w⟩

theorem load_cases_of_imports {moduleName wanted : Text}
    (h : s.Imports spec.name moduleName wanted) (w : World) :
    (∃ p w', (load s spec).runIn w = (.ok p, w')) ∨ (∃ g, Refuses s spec w g) ∨
      ∃ f, Escapes s spec w f := by
  by_cases hname : IsModuleName moduleName
  · cases hm : s.importModule moduleName with
    | error c =>
      by_cases hload : ∃ f, c = .load f
      · obtain ⟨f, rfl⟩ := hload
        exact .inr (.inl ⟨_, .notImportable h hname hm⟩)
      · exact .inr (.inr ⟨_, .crash h hname hm fun f hf => hload ⟨f, hf⟩⟩)
    | ok m =>
      by_cases hwanted : wanted = []
      · subst hwanted
        exact load_cases_of_finds (.ofModule h hname hm) w
      · cases ht : m.lookUp wanted with
        | ok t => exact load_cases_of_finds (.ofAttribute h hname hm hwanted ht) w
        | error c =>
          by_cases hc : c = .misuse .missingAttribute
          · subst hc
            exact .inr (.inl ⟨_, .noAttribute h hname hm hwanted ht⟩)
          · exact .inr (.inr ⟨_, .lookUp h hname hm hwanted ht hc⟩)
  · -- A name that cannot be that of a module is empty or begins with a dot.
    cases moduleName with
    | nil => exact .inr (.inr ⟨_, .nameless h⟩)
    | cons c rest =>
      by_cases hc : c = CodePoint.ofChar '.'
      · subst hc
        exact .inr (.inr ⟨_, .relative h⟩)
      · exact absurd ⟨List.cons_ne_nil c rest, fun heq => hc (Option.some.inj heq)⟩ hname

theorem load_cases (s : PluginSource) (spec : PluginSpec) (w : World) :
    (∃ p w', (load s spec).runIn w = (.ok p, w')) ∨ (∃ g, Refuses s spec w g) ∨
      ∃ f, Escapes s spec w f := by
  rcases hentries : s.entryPoints with c | entries
  · exact .inr (.inr ⟨_, .unlisted hentries⟩)
  have himports (h : ∀ r, entries.lookup spec.name = some r → r = .ok .nothing) :=
    load_cases_of_imports (⟨⟨entries, hentries, h⟩, rfl⟩ : s.Imports spec.name _ _) w
  cases hr : entries.lookup spec.name with
  | none => exact himports fun r hr' => by rw [hr] at hr'; cases hr'
  | some r =>
    have hoffers : s.Offers spec.name r := ⟨entries, hentries, hr⟩
    cases r with
    | error c => exact .inr (.inl ⟨_, .entryPoint hoffers⟩)
    | ok t =>
      by_cases ht : t = .nothing
      · subst ht
        exact himports fun r hr' => by rw [hr] at hr'; exact (Option.some.inj hr').symm
      · exact load_cases_of_finds (.entryPoint hoffers ht) w

/-- Loading a plugin fails with the plugin faults that are listed and with the failures that escape,
and with nothing else; if none of the latter occurs, it gives a plugin or fails with a plugin
fault. -/
theorem load_outcome (s : PluginSource) (spec : PluginSpec) (w : World) :
    (∀ f, ((load s spec).runIn w).1 = .error f ↔
      (∃ g, f = .plugin g ∧ Refuses s spec w g) ∨ Escapes s spec w f) ∧
    ((∀ f, ¬ Escapes s spec w f) →
      (∃ p, ((load s spec).runIn w).1 = .ok p) ∨
        ∃ g, ((load s spec).runIn w).1 = .error (.plugin g)) := by
  refine ⟨fun f => ⟨fun hf => ?_, ?_⟩, fun hnone => ?_⟩
  · rcases load_cases s spec w with ⟨p, w', h⟩ | ⟨g, h⟩ | ⟨g, h⟩
    · rw [h] at hf
      cases hf
    · rw [load_of_refuses h] at hf
      exact .inl ⟨g, (Except.error.inj hf).symm, h⟩
    · rw [load_of_escapes h] at hf
      obtain rfl := Except.error.inj hf
      exact .inr h
  · rintro (⟨g, rfl, h⟩ | h)
    · exact load_of_refuses h
    · exact load_of_escapes h
  · rcases load_cases s spec w with ⟨p, w', h⟩ | ⟨g, h⟩ | ⟨g, h⟩
    · exact .inl ⟨p, by rw [h]⟩
    · exact .inr ⟨g, load_of_refuses h⟩
    · exact absurd h (hnone g)

/-- A source of two modules without hooks: `m` can be imported, and `crash` fails with a failure of
its own. -/
def sampleSource : PluginSource where
  importModule := fun t =>
    if t.isString "m" then .ok { plugin := {} }
    else if t.isString "crash" then .error (.own "ValueError" "crash")
    else .error (.load .noSuchModule)

/-- A module that can be imported is loaded, and one that does not exist is a plugin fault. -/
theorem load_outcome_sample :
    (∃ p, ((load sampleSource { name := "m" }).runIn Run.Sample.world).1 = .ok p) ∧
    ∃ g, ((load sampleSource { name := "none" }).runIn Run.Sample.world).1 =
      .error (.plugin g) := by
  obtain ⟨hfails, hends⟩ := load_outcome sampleSource { name := "m" } Run.Sample.world
  obtain ⟨hfails', hends'⟩ := load_outcome sampleSource { name := "none" } Run.Sample.world
  refine ⟨(hends fun f h => ?_).resolve_right ?_, (hends' fun f h => ?_).resolve_left ?_⟩
  · cases (hfails f).2 (.inr h)
  · rintro ⟨g, hg⟩
    cases hg
  · -- The failure is a plugin fault, so it would be that of a maker; but nothing is found.
    cases (hfails' f).2 (.inr h)
    cases h with
    | making hfinds => cases hfinds.find
    | hooks hfinds => cases hfinds.find
    | madeHooks hfinds => cases hfinds.find
  · rintro ⟨p, hp⟩
    cases hp

/-- A module that crashes when it is imported gives neither a plugin nor a plugin fault. -/
theorem load_not_plugin :
    ¬ ∀ (s : PluginSource) (spec : PluginSpec) (w : World),
      (∃ p, ((load s spec).runIn w).1 = .ok p) ∨
        ∃ g, ((load s spec).runIn w).1 = .error (.plugin g) := by
  intro hends
  have hcrash : ((load sampleSource { name := "crash" }).runIn Run.Sample.world).1 =
      .error (.raised (.own "ValueError" "crash")) := rfl
  rcases hends sampleSource { name := "crash" } Run.Sample.world with ⟨p, hp⟩ | ⟨g, hg⟩
  · rw [hcrash] at hp
    cases hp
  · rw [hcrash] at hg
    cases hg

end Plugin

end SourceDocs

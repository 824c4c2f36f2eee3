import SourceDocs.Archive
import SourceDocs.Extraction.File
import SourceDocs.Matcher
import SourceDocs.Output
import SourceDocs.Plugin.Loading
import SourceDocs.Plugin.Publishing
import SourceDocs.Record.Duplicates
import SourceDocs.Record.Synthetic

/-!
# Runs

`generate` carries out a whole run: it loads the plugins, collects the records and trees of all
chosen files, adds the records of packages and of the index document, drops duplicates, writes the
index and lets the plugins publish.
-/

namespace SourceDocs

/-- What a run counts. -/
structure Stats where
  filesSeen : Nat := 0
  filesMatched : Nat := 0
  filesParsed : Nat := 0
  filesSkipped : Nat := 0
  packagesFound : Nat := 0
  treesWritten : Nat := 0
deriving DecidableEq, Inhabited

/-- Who a run works with. -/
structure Collaborators where
  pluginSource : PluginSource := {}
  plugins : List Plugin := []
  extractor : Extraction.Extractor := .symbols

/-- The result of a run. -/
structure Outcome where
  outputPath : Path
  records : List DocRecord
  stats : Stats

namespace Run

/-- What a run has collected so far. -/
structure Collected where
  archive : Archive
  records : List DocRecord := []
  stats : Stats := {}

/-- The package that files without a descriptor of their own belong to. -/
structure Package where
  name : Option Text := none
  mainPath : Option Path := none

/-- The real path of a package's main file. -/
def mainFile (directory : Path) (main : Option Text) : Action (Option Path) :=
  match main with
  | none => return none
  | some t => if t.isEmpty then return none else do
    return some (← Files.resolve (directory.child t))

/-- The package that a descriptor file describes; one that cannot be read describes none. -/
def packageAt (p : Option Path) : Action Package := do
  match p with
  | none => return {}
  | some p =>
    match ← Descriptor.readContent (← get).stack p with
    | none => return {}
    | some content =>
      let main ← mainFile p.parent (Descriptor.textUnder content "main")
      return { name := Descriptor.textUnder content "name", mainPath := main }

/-- The package of a file. -/
def packageOf (fallback : Package) (d : Option Descriptor) : Action Package := do
  match d with
  | none => return fallback
  | some d => return { name := d.name?, mainPath := ← mainFile d.directory d.main? }

/-- What stays the same from when files are collected to the end of a run. -/
structure Context where
  settings : Settings
  matcher : Matcher
  extractor : Extraction.Extractor
  package : Package
  /-- The real path of the directory that relative paths start from. -/
  sourceRoot : Path

/-- Where a run puts its results. -/
def Context.destination (x : Context) : Path := x.settings.destination.getD {}

/-- Changes what a run counts. -/
def count (f : Stats → Stats) : ActionWith Collected Unit :=
  ActionWith.update fun c => { c with stats := f c.stats }

/-- Adds records to those collected. -/
def add (records : List DocRecord) : ActionWith Collected Unit :=
  ActionWith.update fun c => { c with records := c.records ++ records }

/-- Acts on the archive. -/
def inArchive (x : ActionWith Archive Unit) : ActionWith Collected Unit :=
  ActionWith.onPart Collected.archive (fun a c => { c with archive := a }) x

/-- Submits a tree to the archive. -/
def archive (j : Archive.Job) : ActionWith Collected Unit :=
  inArchive do let _ ← Archive.submit j

/-- Collects the records and the tree of a file, if it is chosen and can be read. -/
def handleFile (x : Context) (path : Path) (relativePath : Text) (d : Option Descriptor) :
    ActionWith Collected Unit := do
  count fun s => { s with filesSeen := s.filesSeen + 1 }
  if !(← x.matcher.accepts relativePath) then Action.report (.skipping relativePath)
  else
    count fun s => { s with filesMatched := s.filesMatched + 1 }
    let package ← packageOf x.package d
    let origin : Extraction.Origin :=
      { path := path, relativePath := relativePath, packageName := package.name,
        mainPath := package.mainPath }
    match ← Extraction.extract x.extractor origin with
    | none => count fun s => { s with filesSkipped := s.filesSkipped + 1 }
    | some (records, tree) =>
      count fun s => { s with filesParsed := s.filesParsed + 1 }
      add records
      archive { relativePath := Text.ofString "source/" ++ relativePath, tree := tree }

/-- Handles what a walk finds. -/
def handle (x : Context) : Walk.Event → ActionWith Collected Unit
  | .package d => do
    count fun s => { s with packagesFound := s.packagesFound + 1 }
    add [← Synthetic.packageRecord d]
  | .file path relativePath d => handleFile x path relativePath d

/-- Walks the tree that settings ask for. -/
def walk {σ : Type} (s : Settings) (emit : Walk.Event → ActionWith σ Unit) : ActionWith σ Unit :=
  match s.root, s.source with
  | some root, _ => Walk.walk .root root emit
  | none, some source => Walk.walk .source source emit
  | none, none => throw (.config .noInput)

/-- What is found in the tree that settings ask for, if nothing changes it. -/
def events (s : Settings) : Action (List Walk.Event) := do
  let (ending, found) ← ActionWith.keeping [] (walk s fun e => ActionWith.update (· ++ [e]))
  match ending with
  | .ok _ => return found
  | .error f => throw f

/-- Collects everything in the tree, with the archive closed behind it. -/
def collect (x : Context) (start : Collected) : Action Collected := do
  let (ending, c) ←
    ActionWith.keeping start (Archive.during inArchive (walk x.settings (handle x)))
  match ending with
  | .ok _ => return { c with stats := { c.stats with treesWritten := c.archive.written } }
  | .error f => throw f

/-- The record of the index document, if there is one. -/
def indexRecords (s : Settings) : Action (List DocRecord) :=
  match s.index with
  | none => return []
  | some p => do
    let w ← Action.world
    let shown := (w.relative p s.baseDirectory).toText
    return (← Synthetic.indexRecord p (some shown)).toList

/-- The record of the package descriptor of a single tree, if there is one. -/
def packageRecords (s : Settings) : Action (List DocRecord) :=
  match s.source, s.package with
  | some _, some p => do return [← Synthetic.singlePackageRecord p]
  | _, _ => return []

/-- The records that describe no symbols of the tree. -/
def syntheticRecords (s : Settings) : Action (List DocRecord) := do
  return (← indexRecords s) ++ (← packageRecords s)

/-- Reports what a run has counted. -/
def reportStats (s : Stats) : Action Unit :=
  Action.report (.summary s.filesSeen s.filesMatched s.filesParsed s.filesSkipped s.packagesFound
    s.treesWritten)

/-- The settings of a run after its plugins have seen them. -/
def prepare (ps : Plugins) (s : Settings) : Action Settings := do
  ps.start
  let s ← s.withDefaults
  let s ← (← ps.handleConfig s).demand
  s.validate
  return s

/-- What a run needs to collect files. -/
def contextOf (c : Collaborators) (s : Settings) : Action Context := do
  let matcher ← Matcher.ofTexts (s.includes.getD []) (s.excludes.getD [])
  let package ← packageAt s.package
  return { settings := s, matcher := matcher, extractor := c.extractor, package := package,
           sourceRoot := ← s.sourceRoot }

/-- All that a run does before it collects files. -/
def setUp (c : Collaborators) (s : Settings) : Action (Plugins × Context) := do
  s.validate
  let ps ← Plugins.load c.pluginSource s.plugins c.plugins
  return (ps, ← contextOf c (← prepare ps s))

/-- Collects all records of a run, numbered from one on. -/
def gather (x : Context) : Action Collected := do
  Action.change fun w => { w with nextId := 1 }
  Action.report (.collecting x.sourceRoot)
  let c ← collect x { archive := .below x.destination }
  Action.report .finished
  return { c with records := c.records ++ (← syntheticRecords x.settings) }

/-- Writes the index of the records that the plugins have handed on, and lets these publish. -/
def conclude (ps : Plugins) (x : Context) (stats : Stats) (handed : List (Handed DocRecord)) :
    Action Outcome := do
  let (records, outputPath) ← Output.writeHanded handed x.destination
  publish ps x.destination
  ps.complete
  reportStats stats
  return { outputPath := outputPath, records := records, stats := stats }

/-- Carries out a run. -/
def generate (c : Collaborators) (s : Settings) : Action Outcome := do
  let (ps, x) ← setUp c s
  let collected ← gather x
  let handed ← ps.handleDocs (resolveDuplicates collected.records)
  conclude ps x collected.stats handed

end Run

end SourceDocs
